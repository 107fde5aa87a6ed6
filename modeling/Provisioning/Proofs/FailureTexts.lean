import Provisioning.Proofs.FailFast
import Provisioning.Proofs.Verdict

/-!
How the text of a failed run begins: with the kind of its cause and the place where the run failed.
An empty name reads as no step, so that a run whose failed step has the empty name says that it
failed before the first step.
-/
namespace Provisioning

namespace Fault

def HeadedBy (f : Fault) (head : String) : Prop := head.toList <+: f.message.toList

/-- How a text begins that tells of a failure before the first step. -/
def unplacedHead (cause : Fault) : String := cause.label ++ " at before first step: "

def placedHead (cause : Fault) (name : String) : String :=
  cause.label ++ " at step '" ++ name ++ "': "

section HeadedBy

variable {f : Fault} {a b : String}

theorem HeadedBy.of_append (h : f.HeadedBy (a ++ b)) : f.HeadedBy a := by
  rw [HeadedBy, String.toList_append] at h
  exact (List.prefix_append _ _).trans h

theorem HeadedBy.unique (ha : f.HeadedBy a) (hb : f.HeadedBy b)
    (length : a.toList.length = b.toList.length) : a = b := by
  have hbegins := List.prefix_of_prefix_length_le ha hb (Nat.le_of_eq length)
  exact String.toList_injective (hbegins.eq_of_length length)

end HeadedBy

theorem headedBy_place (step : Option String) (cause : Fault) (details : List (String × Value)) :
    (pipelineFailed step cause details).HeadedBy (cause.label ++ " at " ++ place step ++ ": ") := by
  apply HeadedBy.of_append (b := cause.message)
  generalize hfirst : cause.label ++ " at " ++ place step ++ ": " ++ cause.message = first
  have hmessage : (pipelineFailed step cause details).message = String.intercalate "\n"
      (first :: details.map fun d => d.1 ++ "=" ++ d.2.display) := by
    rw [← hfirst]
    rfl
  rw [HeadedBy, hmessage, String.toList_intercalate, List.map_cons]
  cases details with
  | nil => simp
  | cons d rest =>
    rw [List.map_cons, List.map_cons, List.intercalate_cons_cons, List.append_assoc]
    exact List.prefix_append _ _

theorem HeadedBy.not_placedHead {f cause : Fault} (h : f.HeadedBy cause.unplacedHead)
    (name : String) : ¬ f.HeadedBy (cause.placedHead name) := by
  intro h'
  have hunplaced : cause.unplacedHead = cause.label ++ " at b" ++ "efore first step: " := by
    rw [String.append_assoc]
    rfl
  have hplaced : cause.placedHead name =
      cause.label ++ " at s" ++ ("tep '" ++ (name ++ "': ")) := by
    have hliteral : " at step '" = " at s" ++ "tep '" := rfl
    simp only [placedHead, hliteral, String.append_assoc]
  rw [hunplaced] at h
  rw [hplaced] at h'
  have heq := h.of_append.unique h'.of_append (by simp)
  have hletters : (" at b" : String) ≠ " at s" := by decide
  exact hletters (String.append_right_inj _ |>.1 heq)

section Place

variable {cause : Fault} {details : List (String × Value)} {step : Option String} {name : String}

theorem headedBy_unplacedHead (unplaced : step = none ∨ step = some "") :
    (pipelineFailed step cause details).HeadedBy cause.unplacedHead := by
  have h := headedBy_place step cause details
  have hplace : place step = "before first step" := by
    rcases unplaced with rfl | rfl <;> rfl
  have hhead : cause.label ++ " at " ++ "before first step" ++ ": " = cause.unplacedHead := by
    simp only [String.append_assoc]
    rfl
  rwa [hplace, hhead] at h

theorem headedBy_placedHead (named : name ≠ "") :
    (pipelineFailed (some name) cause details).HeadedBy (cause.placedHead name) := by
  have h := headedBy_place (some name) cause details
  have hplace : place (some name) = "step '" ++ name ++ "'" := by
    unfold place
    split
    · rename_i hnone
      cases hnone
    · rename_i hempty
      exact absurd (Option.some.inj hempty) named
    · rename_i hname
      rw [Option.some.inj hname]
  have hliteral (rest : String) : " at " ++ ("step '" ++ rest) = " at step '" ++ rest := by
    rw [← String.append_assoc]
    rfl
  have hhead : cause.label ++ " at " ++ ("step '" ++ name ++ "'") ++ ": " =
      cause.placedHead name := by
    simp only [placedHead, String.append_assoc, hliteral]
    rfl
  rwa [hplace, hhead] at h

theorem headedBy_unplacedHead_iff :
    (pipelineFailed (some name) cause details).HeadedBy cause.unplacedHead ↔ name = "" := by
  constructor
  · intro h
    by_contra named
    exact h.not_placedHead name (headedBy_placedHead named)
  · rintro rfl
    exact headedBy_unplacedHead (.inr rfl)

theorem headedBy_placedHead_iff :
    (pipelineFailed (some name) cause details).HeadedBy (cause.placedHead name) ↔ name ≠ "" := by
  constructor
  · rintro h rfl
    exact (headedBy_unplacedHead (.inr rfl)).not_placedHead "" h
  · exact headedBy_placedHead

end Place

end Fault

namespace Pipeline

variable {σ : Type} {settings : Settings} {c : Console} {t : Target σ} {p q : Pipeline} {w : σ}
  {o : Outcome}

/-- The text of a failed run names its cause and then the step that failed, unless no step was
visited or the failed one has the empty name; then it says that none was. -/
theorem failure_text_of_execute (settings : Settings) (c : Console) (t : Target σ) (w : σ)
    (ended : (p.execute settings c t w).answer = .ok (q, .ok o)) (failed : o.state = .failed) :
    ∃ step cause details,
      let text := Fault.pipelineFailed step cause details
      o.error = some text ∧
      (o.failedIndex = none → visited settings c t p.steps w = [] ∧
        text.HeadedBy cause.unplacedHead) ∧
      (∀ n, o.failedIndex = some n → ∃ (i : Nat) (s : Step), n = i ∧ p.steps[i]? = some s ∧
        FailsAt settings c t p.steps w i cause ∧
        (text.HeadedBy (cause.placedHead s.name) ↔ s.name ≠ "") ∧
        (text.HeadedBy cause.unplacedHead ↔ s.name = "")) := by
  cases cameTo_of_execute ended with
  | @unavailable cause unvisited =>
    refine ⟨none, cause, [], rfl, ?_, nofun⟩
    intro _
    exact ⟨unvisited, Fault.headedBy_unplacedHead (.inl rfl)⟩
  | succeeded => cases failed
  | @failed done v cause split located _ _ answer =>
    refine ⟨some v.step.name, cause, _, rfl, nofun, ?_⟩
    intro n hn
    have fails : FailsAt settings c t p.steps w done.length cause :=
      ⟨v, by rw [split, List.getElem?_concat_length], answer⟩
    exact ⟨done.length, v.step, (Option.some.inj hn).symm, located, fails,
      Fault.headedBy_placedHead_iff, Fault.headedBy_unplacedHead_iff⟩

theorem failure_text_failedFetch :
    ∃ q o, failedFetch.answer = .ok (q, .ok o) ∧ o.state = .failed ∧ o.failedIndex = some 1 ∧
      ∃ step cause details, o.error = some (.pipelineFailed step cause details) ∧
        (Fault.pipelineFailed step cause details).HeadedBy (cause.placedHead "rust") := by
  obtain ⟨step, cause, details, error, -, placed⟩ := failure_text_of_execute (.ofEnviron []) {}
    fetchingHost [.exited 0 "", .exited 1 "", .exited 22 ""] (p := { steps := fetchingSteps }) rfl
    rfl
  obtain ⟨i, s, hi, hs, -, named, -⟩ := placed 1 rfl
  obtain rfl : i = 1 := by omega
  obtain rfl := Option.some.inj hs
  exact ⟨_, _, rfl, rfl, rfl, step, cause, details, error, named.2 (by decide)⟩

def namelessSteps : List Step := [⟨"", [.text "false"], .unprivileged, none, "sh", []⟩]

def namelessRun : Report Event (List Reply) (Pipeline × Except Fault Outcome) :=
  { steps := namelessSteps : Pipeline }.execute (.ofEnviron []) {} fetchingHost [.exited 1 ""]

/-- A list is accepted whose only step has the empty name, and when that step fails the text says
that the run failed before the first step. -/
theorem namelessRun_unplaced :
    make (namelessSteps.map .step) = .ok { steps := namelessSteps } ∧
    ∃ q o, namelessRun.answer = .ok (q, .ok o) ∧ o.state = .failed ∧ o.failedIndex = some 0 ∧
      ∃ step cause details, o.error = some (.pipelineFailed step cause details) ∧
        (Fault.pipelineFailed step cause details).HeadedBy cause.unplacedHead ∧
        ¬ (Fault.pipelineFailed step cause details).HeadedBy (cause.placedHead "") := by
  refine ⟨rfl, _, _, rfl, rfl, rfl, _, _, _, rfl, Fault.headedBy_unplacedHead (.inr rfl), ?_⟩
  rw [Fault.headedBy_placedHead_iff]
  exact fun named => named rfl

end Pipeline
end Provisioning
