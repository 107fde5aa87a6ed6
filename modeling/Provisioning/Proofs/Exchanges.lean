import Provisioning.Proofs.Reporting

/-!
The child processes that a trace tells of, in order, and the events that are nothing but text. All
that is printed about a run is text, and text tells of no child process and hands over no line.
-/
namespace Provisioning

def Event.exchange? : Event → Option Exchange
  | .exchanged e => some e
  | _ => none

def exchanges (trace : List Event) : List Exchange := trace.filterMap Event.exchange?

@[simp] theorem exchanges_nil : exchanges [] = [] := rfl

@[simp] theorem exchanges_append (a b : List Event) :
    exchanges (a ++ b) = exchanges a ++ exchanges b :=
  List.filterMap_append

@[simp] theorem exchanges_asked (answer : Except Fault Bool) : exchanges [.asked answer] = [] := rfl

@[simp] theorem exchanges_ran (line : String) (answer : Except Fault Int) :
    exchanges [.ran line answer] = [] := rfl

@[simp] theorem exchanges_exchanged (es : List Exchange) :
    exchanges (es.map Event.exchanged) = es := by
  simp [exchanges, List.filterMap_map, Function.comp_def, Event.exchange?]

def Event.isText : Event → Bool
  | .out _ | .err _ | .traceback _ => true
  | _ => false

def Written (trace : List Event) : Prop := ∀ e ∈ trace, e.isText = true

namespace Written

variable {a b : List Event}

theorem nil : Written [] := fun _ h => nomatch h

theorem append (ha : Written a) (hb : Written b) : Written (a ++ b) := by
  intro e he
  rcases List.mem_append.1 he with he | he
  · exact ha e he
  · exact hb e he

theorem map {α : Type} (xs : List α) {f : α → Event} (h : ∀ x, (f x).isText = true) :
    Written (xs.map f) := by
  intro e he
  obtain ⟨x, -, rfl⟩ := List.mem_map.1 he
  exact h x

theorem exchanges_eq (h : Written a) : exchanges a = [] := by
  refine List.filterMap_eq_nil_iff.2 fun e he => ?_
  have htext := h e he
  cases e with
  | out | err | traceback | asked | ran => rfl
  | exchanged => cases htext

theorem lines_eq (h : Written a) : lines a = [] := by
  refine List.filterMap_eq_nil_iff.2 fun e he => ?_
  have htext := h e he
  cases e with
  | out | err | traceback | asked | exchanged => rfl
  | ran => cases htext

end Written

namespace Console

theorem written_stepHeader (name privilege : String) : Written (stepHeader name privilege) := by
  simp [Written, stepHeader, Event.outLine, Event.isText]

theorem written_substep (name command : String) : Written (substep name command) := by
  simp [Written, substep, Event.outLine, Event.isText]

theorem written_success : Written success := by
  simp [Written, success, Event.outLine, Event.isText]

theorem written_info (message : String) : Written (info message) := by
  simp [Written, info, Event.outLine, Event.isText]

variable (c : Console)

theorem written_debugLine (message : String) : Written (c.debugLine message) := by
  unfold debugLine
  split <;> simp [Written, Event.errLine, Event.isText]

theorem written_failure (name reason : String) (status : Option Int) (hint : Option String) :
    Written (c.failure name reason status hint) := by
  unfold failure
  split <;> split <;> simp [Written, Event.outLine, Event.isText]

theorem written_fault (handled : Option Fault) (f : Fault) : Written (c.fault handled f) := by
  unfold fault
  split <;> simp [Written, Event.errLine, Event.isText]

theorem written_error (title message : String) (details : List String)
    (suggestion : Option String) : Written (error title message details suggestion) := by
  refine ((?_ : Written _).append (Written.map details fun _ => rfl)).append ?_
  · simp [Written, Event.errLine, Event.isText]
  · split <;> simp [Written, Event.errLine, Event.isText]

theorem written_results (o : Pipeline.Outcome) : Written (results o) := by
  refine ((?_ : Written _).append (Written.map o.executed fun _ => rfl)).append ?_
  · simp [Written, Event.outLine, Event.isText]
  · split <;> simp [Written, Event.outLine, Event.isText]

end Console

theorem Visit.written_closing {σ : Type} (c : Console) (v : Visit σ) : Written (v.closing c) := by
  unfold closing
  split
  · exact Console.written_success
  · split
    · exact c.written_failure _ _ _ _
    · exact .nil

namespace CommandLine

theorem written_planLines (steps : List Step) : Written (planLines steps) := by
  intro e he
  obtain ⟨line, hline, he⟩ := List.mem_flatten.1 he
  obtain ⟨numbered, -, rfl⟩ := List.mem_map.1 hline
  obtain rfl := List.mem_singleton.1 he
  rfl

theorem written_announcement {σ : Type} (t : Target σ) (p : Pipeline) (name : String)
    (printPlan : Bool) : Written (announcement t p name printPlan) := by
  refine Written.append ?_ ?_
  · simp [Written, Console.runStarted, Event.outLine, Event.isText]
  · split
    · exact written_planLines p.steps
    · exact .nil

theorem written_terminalReport (ended : Except Fault Pipeline.Outcome) :
    Written (terminalReport ended) := by
  cases ended with
  | ok o => exact Console.written_results o
  | error f => exact .nil

end CommandLine
end Provisioning
