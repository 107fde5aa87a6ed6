import Provisioning.Pipeline
import Provisioning.Proofs.Refusable

/-!
What a list of entries that is accepted as a pipeline holds: at least one, and only steps, which
are the steps of the pipeline. The pipeline has not started. A list that is refused is so for the
type or the value of an entry.
-/
namespace Provisioning.Pipeline

open Refusable

theorem entries_of_validateFrom {seen : List String} {entries : List Entry} {steps : List Step}
    (h : validateFrom seen entries = .ok steps) : entries = steps.map .step := by
  induction entries generalizing seen steps with
  | nil =>
    obtain rfl := Except.ok.inj h
    rfl
  | cons e rest ih =>
    cases e with
    | other v => cases h
    | step s =>
      obtain ⟨_, _, h⟩ := bind_eq_ok.1 h
      obtain ⟨tail, htail, h⟩ := bind_eq_ok.1 h
      obtain rfl := Except.ok.inj h
      rw [List.map_cons, ← ih htail]

section Make

variable {entries : List Entry} {p : Pipeline}

theorem eq_of_make (made : make entries = .ok p) : p = { steps := p.steps } := by
  obtain ⟨steps, _, h⟩ := bind_eq_ok.1 made
  obtain rfl := Except.ok.inj h
  rfl

theorem fresh_of_make (made : make entries = .ok p) : p.state = .notStarted := by
  rw [eq_of_make made]

theorem entries_of_make (made : make entries = .ok p) :
    entries = p.steps.map .step ∧ p.steps ≠ [] := by
  obtain ⟨steps, hs, h⟩ := bind_eq_ok.1 made
  obtain rfl := Except.ok.inj h
  cases entries with
  | nil => cases hs
  | cons e rest =>
    have he : e :: rest = steps.map .step := entries_of_validateFrom hs
    refine ⟨he, ?_⟩
    intro (hempty : steps = [])
    rw [hempty] at he
    cases he

theorem steps_of_make {steps : List Step} (made : make (steps.map .step) = .ok p) :
    p.steps = steps := by
  have hinjective : Function.Injective Entry.step := fun _ _ h => Entry.step.inj h
  exact (List.map_injective_iff.2 hinjective (entries_of_make made).1).symm

end Make

theorem kind_of_checkStep {seen : List String} {s : Step} {cause : Refusal}
    (h : checkStep seen s = .error cause) : cause.kind = .value := by
  unfold checkStep at h
  split at h
  · obtain rfl := Except.error.inj h
    rfl
  · split at h
    · obtain rfl := Except.error.inj h
      rfl
    · split at h
      · obtain rfl := Except.error.inj h
        rfl
      · cases h
    · cases h

theorem kind_of_validateFrom {seen : List String} {entries : List Entry} {cause : Refusal}
    (h : validateFrom seen entries = .error cause) : cause.kind = .type ∨ cause.kind = .value := by
  induction entries generalizing seen with
  | nil => cases h
  | cons e rest ih =>
    cases e with
    | other v =>
      obtain rfl := Except.error.inj h
      exact .inl rfl
    | step s =>
      rcases bind_eq_error.1 h with hcheck | ⟨_, -, h⟩
      · exact .inr (kind_of_checkStep hcheck)
      · rcases bind_eq_error.1 h with hrest | ⟨_, -, h⟩
        · exact ih hrest
        · cases h

theorem kind_of_make {entries : List Entry} {cause : Refusal}
    (h : make entries = .error cause) : cause.kind = .type ∨ cause.kind = .value := by
  rcases bind_eq_error.1 h with hvalidate | ⟨_, -, h⟩
  · unfold validate at hvalidate
    split at hvalidate
    · obtain rfl := Except.error.inj hvalidate
      exact .inr rfl
    · exact kind_of_validateFrom hvalidate
  · cases h

theorem checkStep_of_new {seen : List String} {s : Step} (new : s.name ∉ seen) :
    checkStep seen s = checkStep [] s := by
  simp [checkStep, new]

theorem new_of_checkStep {seen : List String} {s : Step} (h : checkStep seen s = .ok ()) :
    s.name ∉ seen := by
  intro hmem
  simp [checkStep, hmem] at h

theorem known_of_checkStep {seen : List String} {s : Step} (h : checkStep seen s = .ok ()) :
    StepKind.ofWord? s.kind ≠ none := by
  have new := new_of_checkStep h
  intro hkind
  simp [checkStep, new, hkind] at h

theorem distinct_of_validateFrom {seen : List String} {entries : List Entry} {steps : List Step}
    (h : validateFrom seen entries = .ok steps) (distinct : seen.Nodup) :
    (∀ s ∈ steps, checkStep [] s = .ok ()) ∧ (seen ++ steps.map Step.name).Nodup := by
  induction entries generalizing seen steps with
  | nil =>
    obtain rfl := Except.ok.inj h
    simpa using distinct
  | cons e rest ih =>
    cases e with
    | other v => cases h
    | step s =>
      obtain ⟨_, checked, h⟩ := bind_eq_ok.1 h
      obtain ⟨tail, htail, h⟩ := bind_eq_ok.1 h
      obtain rfl := Except.ok.inj h
      have new := new_of_checkStep checked
      have hseen : (seen ++ [s.name]).Nodup := by
        apply List.nodup_append.2
        refine ⟨distinct, by simp, ?_⟩
        intro a ha b hb
        rw [List.mem_singleton.1 hb]
        exact ne_of_mem_of_not_mem ha new
      obtain ⟨valid, hall⟩ := ih htail hseen
      rw [List.append_assoc] at hall
      refine ⟨?_, hall⟩
      intro s' hs'
      rcases List.mem_cons.1 hs' with rfl | hs'
      · exact (checkStep_of_new new).symm.trans checked
      · exact valid s' hs'

theorem validateFrom_of_distinct {seen : List String} {steps : List Step}
    (valid : ∀ s ∈ steps, checkStep [] s = .ok ())
    (distinct : (seen ++ steps.map Step.name).Nodup) :
    validateFrom seen (steps.map .step) = .ok steps := by
  induction steps generalizing seen with
  | nil => rfl
  | cons s rest ih =>
    have new : s.name ∉ seen := by
      intro hmem
      exact (List.nodup_append.1 distinct).2.2 _ hmem _ (by simp) rfl
    have hrest : validateFrom (seen ++ [s.name]) (rest.map .step) = .ok rest := by
      refine ih (fun s' hs' => valid s' (List.mem_cons_of_mem _ hs')) ?_
      rw [List.append_assoc]
      exact distinct
    have checked := (checkStep_of_new new).trans (valid s List.mem_cons_self)
    exact bind_eq_ok.2 ⟨_, checked, bind_eq_ok.2 ⟨_, hrest, rfl⟩⟩

theorem make_of_distinct {steps : List Step} (nonempty : steps ≠ [])
    (valid : ∀ s ∈ steps, checkStep [] s = .ok ())
    (distinct : (steps.map Step.name).Nodup) :
    make (steps.map .step) = .ok { steps } := by
  have hvalidate : validate (steps.map .step) = .ok steps := by
    cases steps with
    | nil => exact absurd rfl nonempty
    | cons s rest => exact validateFrom_of_distinct valid distinct
  exact bind_eq_ok.2 ⟨_, hvalidate, rfl⟩

theorem distinct_of_make {entries : List Entry} {p : Pipeline} (made : make entries = .ok p) :
    (∀ s ∈ p.steps, checkStep [] s = .ok ()) ∧ (p.steps.map Step.name).Nodup := by
  obtain ⟨steps, hvalidate, h⟩ := bind_eq_ok.1 made
  obtain rfl := Except.ok.inj h
  cases entries with
  | nil => cases hvalidate
  | cons e rest => exact distinct_of_validateFrom hvalidate List.nodup_nil

end Provisioning.Pipeline
