import Provisioning.Proofs.Loading
import Provisioning.Proofs.WordEndings

/-!
When a failing call is taken for a collision of names. A fault that a function ends with is replaced
if its text speaks of positional arguments, and kept otherwise, whether the call itself is refused
or the body raises it.
-/
namespace Provisioning

/-- Calling a function without parameters with `n` arguments. -/
def Fault.surplusArguments (n : Nat) : Fault :=
  .raised .type (PipelineFile.functionName ++ "() takes 0 positional arguments but " ++
    toString n ++ (if n = 1 then " was given" else " were given"))

def Fault.SpeaksOfPositional (f : Fault) : Prop :=
  f.kind? = some .type ∧ "positional argument".toList <:+: f.message.toList

/-- A function without parameters whose body ends with the fault. -/
inductive Definition.BodyRaises : Definition → Fault → Prop
  | making (f : Fault) : BodyRaises (.returning (.error f)) f
  | raising (f : Fault) : BodyRaises (.raising f) f

namespace PipelineFile

open Text

theorem looksLikeCollision_iff {f : Fault} :
    looksLikeCollision f = true ↔ f.SpeaksOfPositional := by
  simp [looksLikeCollision, Fault.SpeaksOfPositional, occursIn_eq_true_iff]

theorem speaks_of_around {f : Fault} (kind : f.kind? = some .type) (before after : String)
    (message : f.message = before ++ "positional argument" ++ after) : f.SpeaksOfPositional := by
  refine ⟨kind, before.toList, after.toList, ?_⟩
  rw [message, String.toList_append, String.toList_append]

theorem speaks_missing (names : List String) :
    (Fault.refused (.missingArguments functionName true names)).SpeaksOfPositional := by
  have hnoun : ∃ noun, (if names.length = 1 then " argument: " else " arguments: ") =
      " argument" ++ noun := by
    split
    · exact ⟨": ", rfl⟩
    · exact ⟨"s: ", rfl⟩
  obtain ⟨noun, hnoun⟩ := hnoun
  have joined (rest : String) : "positional" ++ (" argument" ++ rest) =
      "positional argument" ++ rest := (String.append_assoc ..).symm
  apply speaks_of_around rfl
    (functionName ++ "() missing " ++ toString names.length ++ " required ")
    (noun ++ Refusal.spokenList names)
  change functionName ++ "() missing " ++ toString names.length ++ " required " ++ "positional" ++
    (if names.length = 1 then " argument: " else " arguments: ") ++ Refusal.spokenList names = _
  rw [hnoun]
  simp only [String.append_assoc, joined]

theorem speaks_surplus (n : Nat) : (Fault.surplusArguments n).SpeaksOfPositional := by
  have joined (rest : String) : "() takes 0 positional arguments but " ++ rest =
      "() takes 0 " ++ ("positional argument" ++ ("s but " ++ rest)) := by
    simp only [← String.append_assoc]
    rfl
  apply speaks_of_around rfl (functionName ++ "() takes 0 ")
    ("s but " ++ toString n ++ (if n = 1 then " was given" else " were given"))
  change functionName ++ "() takes 0 positional arguments but " ++ toString n ++ _ = _
  simp only [String.append_assoc, joined]

theorem message_nameCollision : ∃ front back, Refusal.nameCollision.message =
    front ++ "called with arguments (name collision with the helper)" ++ back := by
  have joined (rest : String) :
      "Your pipeline() is being called with arguments (name collision with the helper). " ++ rest =
        "Your pipeline() is being " ++ "called with arguments (name collision with the helper)" ++
          (". " ++ rest) := by
    rw [← String.append_assoc]
    rfl
  exact ⟨_, _, (String.append_assoc ..).trans (joined _)⟩

theorem not_speaks_missing {names : List String} (h : ∀ name ∈ names, ' ' ∉ name.toList) :
    ¬ (Fault.refused (.missingArguments functionName false names)).SpeaksOfPositional := by
  rintro ⟨-, hmessage⟩
  have hword : ['l', ' '] <:+: "positional argument".toList :=
    ⟨"positiona".toList, "argument".toList, rfl⟩
  exact (Refusal.noWordEndsIn_message (by decide) h).1 (hword.trans hmessage)

section Call

variable {file : PipelineFile} {g : Globals} {d : Definition} {f : Fault}

theorem load_of_called (ran : file.run = .ok g) (defined : g.pipeline = some d)
    (called : call d = some (.error f)) :
    file.load = .error (if looksLikeCollision f then .refused .nameCollision else f) := by
  have hsupplied : supplied g =
      .error (if looksLikeCollision f then .refused .nameCollision else f) := by
    simp only [supplied, defined, Option.bind_some, called]
    split <;> rfl
  simp only [load, ran, bind, Except.bind, hsupplied]

theorem load_of_speaks (ran : file.run = .ok g) (defined : g.pipeline = some d)
    (called : call d = some (.error f)) (speaks : f.SpeaksOfPositional) :
    file.load = .error (.refused .nameCollision) := by
  rw [load_of_called ran defined called, if_pos (looksLikeCollision_iff.2 speaks)]

theorem load_of_not_speaks (ran : file.run = .ok g) (defined : g.pipeline = some d)
    (called : call d = some (.error f)) (silent : ¬ f.SpeaksOfPositional) :
    file.load = .error f := by
  rw [load_of_called ran defined called, if_neg (silent ∘ looksLikeCollision_iff.1)]

theorem call_of_positional {positional : List String} (nonempty : positional ≠ [])
    (keywordOnly : List String) : call (.requiring positional keywordOnly) =
      some (.error (.refused (.missingArguments functionName true positional))) := by
  cases positional with
  | nil => exact absurd rfl nonempty
  | cons name names => rw [call.eq_def]

theorem call_of_keywords {keywordOnly : List String} (nonempty : keywordOnly ≠ []) :
    call (.requiring [] keywordOnly) =
      some (.error (.refused (.missingArguments functionName false keywordOnly))) := by
  cases keywordOnly with
  | nil => exact absurd rfl nonempty
  | cons name names => rw [call.eq_def]

theorem call_of_bodyRaises (raises : d.BodyRaises f) : call d = some (.error f) := by
  cases raises <;> rfl

theorem load_ne_collision_of_returns {v : Supply} (ran : file.run = .ok g)
    (defined : g.pipeline = some d) (returns : d.Returns v) :
    file.load ≠ .error (.refused .nameCollision) := by
  have gives : supplied g = .ok (some v) := supplied_eq_ok_iff.2 (.called defined returns)
  rw [CommandLine.load_of_gives ⟨g, ran, gives⟩]
  cases hsteps : stepsOf (some v) with
  | ok steps => exact nofun
  | error cause =>
    rw [notStepList_of_stepsOf hsteps]
    intro h
    cases h

end Call

def calling (d : Definition) : PipelineFile where
  pipeline := some d

def selfCall : Definition := .raising (.surplusArguments 2)

open CommandLine (lone lonePath contentAt_lone)

end PipelineFile
end Provisioning
