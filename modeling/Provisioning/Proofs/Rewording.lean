import Provisioning.Proofs.Bodies
import Provisioning.Proofs.Overt

/-!
What is shown with debugging on and with debugging off. The reports on steps that failed are worded
in two ways, and nothing else that is overt is. Whether an event belongs to such a report is told by
its first line; only the name of a tool can be mistaken for it.
-/
namespace Provisioning

namespace Event

def OpensReport (e : Event) : Prop := ∃ text, e = .out ("STEP FAILED: " ++ text)

def TellsOfTool (e : Event) : Prop :=
  ∃ tool target,
    e = .outLine (tool ++ " already present in " ++ target ++ "; re-running installer to update")

theorem opensReport_outLine {text : String} :
    OpensReport (outLine text) ↔ "STEP FAILED: ".toList <+: (text ++ "\n").toList := by
  constructor
  · rintro ⟨rest, h⟩
    rw [Event.out.inj h]
    simp
  · rintro ⟨rest, h⟩
    refine ⟨String.ofList rest, congrArg Event.out (String.toList_inj.1 ?_)⟩
    simp [← h]

end Event

def Unreported (trace : List Event) : Prop := ∀ e ∈ trace, ¬ e.OpensReport

namespace Unreported

variable {a b : List Event}

theorem nil : Unreported [] := fun _ h => nomatch h

theorem append (ha : Unreported a) (hb : Unreported b) : Unreported (a ++ b) := by
  intro e he
  rcases List.mem_append.1 he with he | he
  · exact ha e he
  · exact hb e he

theorem map {α : Type} (xs : List α) {f : α → Event} (h : ∀ x, ¬ (f x).OpensReport) :
    Unreported (xs.map f) := by
  intro e he
  obtain ⟨x, -, rfl⟩ := List.mem_map.1 he
  exact h x

theorem exchanged (es : List Exchange) : Unreported (es.map Event.exchanged) :=
  .map es fun _ ⟨_, h⟩ => nomatch h

theorem noted (es : List Exchange) {e : Event} (h : ∀ text, e ≠ .out text) :
    Unreported (es.map Event.exchanged ++ [e]) := by
  refine (Unreported.exchanged es).append fun e' he' => ?_
  rw [List.mem_singleton.1 he']
  rintro ⟨text, he⟩
  exact h _ he

end Unreported

section Texts

open Event (outLine opensReport_outLine)

theorem Console.unreported_runStarted (target pipeline : String) (steps : Int) :
    Unreported (runStarted target pipeline steps) := by
  simp [Unreported, runStarted, opensReport_outLine]

theorem Console.unreported_header (title : String) : Unreported (header title) := by
  have hunderline (n : Nat) :
      ¬ (outLine (String.ofList (List.replicate n '-'))).OpensReport := by
    cases n <;> simp [opensReport_outLine, List.replicate]
  simp [Unreported, header, opensReport_outLine, hunderline]

theorem Console.unreported_stepHeader (name privilege : String) :
    Unreported (stepHeader name privilege) := by
  simp [Unreported, stepHeader, opensReport_outLine]

theorem Console.unreported_substep (name command : String) :
    Unreported (substep name command) := by
  simp [Unreported, substep, opensReport_outLine]

theorem Console.unreported_success : Unreported success := by
  simp [Unreported, success, opensReport_outLine]

theorem Console.unreported_results (o : Pipeline.Outcome) : Unreported (results o) := by
  have hrule : ¬ (outLine rule).OpensReport := by
    rw [opensReport_outLine]
    decide
  refine Unreported.append (.append ?_ (.map _ fun name => ?_)) ?_
  · simp [Unreported, opensReport_outLine, hrule]
  · simp [resultLine, opensReport_outLine]
  · cases o.ok <;> simp [Unreported, opensReport_outLine]

theorem CommandLine.unreported_planLines (steps : List Step) : Unreported (planLines steps) := by
  intro e he
  obtain ⟨line, hline, he⟩ := List.mem_flatten.1 he
  obtain ⟨⟨s, i⟩, -, rfl⟩ := List.mem_map.1 hline
  obtain rfl := List.mem_singleton.1 he
  simp [opensReport_outLine]

end Texts

/-- A part of what is shown: an event by itself, or the report on a step that failed. -/
inductive Passage
  | event (e : Event)
  | failure (step : String) (f : Fault)

namespace Passage

def shown (debug : Bool) : Passage → List Event
  | .event e => [e]
  | .failure step f =>
    [.outLine ("STEP FAILED: " ++ step)] ++
      (f.status?.map fun status => Event.outLine ("Exit code: " ++ toString status)).toList ++
      [.outLine (if debug then "Error details: " ++ f.message
        else "Error: " ++ Text.firstLine f.message)]

theorem shown_failure (c : Console) (step : String) {f : Fault} (speaks : f.message ≠ "") :
    (failure step f).shown c.debug = c.failure step f.message f.status? none := by
  simp only [shown, Console.failure, Console.reasonLine, if_neg speaks]
  cases f.status? <;> rfl

@[simp] theorem overt_shown_failure (debug : Bool) (step : String) (f : Fault) :
    overt ((failure step f).shown debug) = (failure step f).shown debug := by
  simp only [shown]
  cases f.status? <;> rfl

@[simp] theorem exchanges_shown_failure (debug : Bool) (step : String) (f : Fault) :
    exchanges ((failure step f).shown debug) = [] := by
  simp only [shown]
  cases f.status? <;> rfl

def Proper : Passage → Prop
  | .event e => e.OpensReport → e.TellsOfTool
  | .failure _ f => f.isProvisioning = true ∧ f.message ≠ ""

end Passage

/-- The two traces are the same on the first output stream and in what happens meanwhile, but for
the wording of the reports on failed steps. -/
def Reworded (debug debug' : Bool) (trace trace' : List Event) : Prop :=
  ∃ passages : List Passage, (∀ p ∈ passages, p.Proper) ∧
    overt trace = passages.flatMap (Passage.shown debug) ∧
    overt trace' = passages.flatMap (Passage.shown debug')

namespace Reworded

variable {debug debug' : Bool} {a a' b b' : List Event}

theorem append (ha : Reworded debug debug' a a') (hb : Reworded debug debug' b b') :
    Reworded debug debug' (a ++ b) (a' ++ b') := by
  obtain ⟨ps, proper, ha, ha'⟩ := ha
  obtain ⟨qs, proper', hb, hb'⟩ := hb
  refine ⟨ps ++ qs, fun p hp => ?_, by simp [ha, hb], by simp [ha', hb']⟩
  rcases List.mem_append.1 hp with hp | hp
  · exact proper p hp
  · exact proper' p hp

theorem same (h : ∀ e ∈ a, e.OpensReport → e.TellsOfTool) : Reworded debug debug' a a := by
  have hshown (d : Bool) : overt a = ((overt a).map Passage.event).flatMap (Passage.shown d) := by
    rw [List.flatMap_map]
    exact (List.flatMap_singleton' _).symm
  refine ⟨(overt a).map .event, fun p hp => ?_, hshown debug, hshown debug'⟩
  obtain ⟨e, he, rfl⟩ := List.mem_map.1 hp
  exact h e (List.mem_of_mem_filter he)

theorem of_unreported (h : Unreported a) : Reworded debug debug' a a :=
  same fun e he opens => absurd opens (h e he)

theorem of_overt (ha : overt a = []) (ha' : overt a' = []) : Reworded debug debug' a a' :=
  ⟨[], by simp, ha, ha'⟩

theorem announce {σ : Type} (t : Target σ) (i : ScriptInstaller) :
    Reworded debug debug' (i.announce t) (i.announce t) := by
  refine same fun e he _ => ?_
  obtain rfl := List.mem_singleton.1 he
  exact ⟨_, _, rfl⟩

theorem failure (c c' : Console) (step : String) {f : Fault} (h : f.isProvisioning = true)
    (speaks : f.Speaks) :
    Reworded c.debug c'.debug (c.failure step f.message f.status? none)
      (c'.failure step f.message f.status? none) := by
  rw [← Passage.shown_failure c step (speaks h), ← Passage.shown_failure c' step (speaks h)]
  refine ⟨[.failure step f], fun p hp => ?_, by simp, by simp⟩
  obtain rfl := List.mem_singleton.1 hp
  exact ⟨h, speaks h⟩

theorem exchanges_eq (h : Reworded debug debug' a a') : exchanges a = exchanges a' := by
  obtain ⟨ps, -, ha, ha'⟩ := h
  have hshown (p : Passage) : exchanges (p.shown debug) = exchanges (p.shown debug') := by
    cases p with
    | event e => rfl
    | failure step f => simp
  rw [← exchanges_overt, ← exchanges_overt a', ha, ha']
  simp only [exchanges, List.filterMap_flatMap] at hshown ⊢
  simp only [hshown]

end Reworded
end Provisioning
