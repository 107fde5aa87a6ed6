import Provisioning.Proofs.Validation
import Provisioning.Proofs.Verdict

/-!
Validation as a statement about the whole list. A list of entries is accepted exactly if it holds
only steps that can be run and are told apart by their names, and then it is kept as it is. Any
other list is refused for its first entry that offends: for not being a step, for a name that an
earlier step has, for a kind that is not known, or for want of instructions, in this order.
-/
namespace Provisioning

theorem StepKind.ofWord?_eq_some_iff {word : String} {k : StepKind} :
    StepKind.ofWord? word = some k ↔ word = k.word := by
  constructor
  · intro h
    unfold StepKind.ofWord? at h
    split at h
    · obtain rfl := Option.some.inj h
      rfl
    · obtain rfl := Option.some.inj h
      rfl
    · obtain rfl := Option.some.inj h
      rfl
    · cases h
  · rintro rfl
    exact k.ofWord?_word

theorem StepKind.ofWord?_eq_none_iff {word : String} :
    StepKind.ofWord? word = none ↔ ∀ k : StepKind, word ≠ k.word := by
  rw [Option.eq_none_iff_forall_ne_some]
  exact forall_congr' fun k => not_congr ofWord?_eq_some_iff

namespace Pipeline

open Refusable

structure Runnable (steps : List Step) : Prop where
  nonempty : steps ≠ []
  distinct : (steps.map Step.name).Nodup
  known : ∀ s ∈ steps, ∃ k : StepKind, s.kind = k.word
  instructed : ∀ s ∈ steps, s.kind = StepKind.shell.word → s.run ≠ []

inductive Offence (taken : List String) : Entry → Refusal → Prop
  | type (v : Value) : Offence taken (.other v) (.notAStep v.typeName)
  | name {s : Step} (old : s.name ∈ taken) : Offence taken (.step s) (.duplicateStep s.name)
  | kind {s : Step} (new : s.name ∉ taken) (unknown : ∀ k : StepKind, s.kind ≠ k.word) :
      Offence taken (.step s) (.unknownKind s.name s.kind)
  | instructions {s : Step} (new : s.name ∉ taken) (shell : s.kind = StepKind.shell.word)
      (empty : s.run = []) : Offence taken (.step s) (.noInstructions s.name)

theorem checkStep_of_offence {taken : List String} {s : Step} {cause : Refusal}
    (h : Offence taken (.step s) cause) : checkStep taken s = .error cause := by
  cases h with
  | name old => simp [checkStep, old]
  | kind new unknown => simp [checkStep, new, StepKind.ofWord?_eq_none_iff.2 unknown]
  | instructions new shell empty =>
    simp [checkStep, new, StepKind.ofWord?_eq_some_iff.2 shell, empty]

theorem offence_of_checkStep {taken : List String} {s : Step} {cause : Refusal}
    (h : checkStep taken s = .error cause) : Offence taken (.step s) cause := by
  unfold checkStep at h
  split at h
  · rename_i old
    obtain rfl := Except.error.inj h
    exact .name (by simpa using old)
  · rename_i new
    have new : s.name ∉ taken := by simpa using new
    split at h
    · rename_i unknown
      obtain rfl := Except.error.inj h
      exact .kind new (StepKind.ofWord?_eq_none_iff.1 unknown)
    · rename_i known
      split at h
      · rename_i empty
        obtain rfl := Except.error.inj h
        exact .instructions new (StepKind.ofWord?_eq_some_iff.1 known) (by simpa using empty)
      · cases h
    · cases h

theorem Offence.unique {taken : List String} {e : Entry} {cause cause' : Refusal}
    (h : Offence taken e cause) (h' : Offence taken e cause') : cause = cause' := by
  cases e with
  | other v =>
    cases h
    cases h'
    rfl
  | step s =>
    exact Except.error.inj ((checkStep_of_offence h).symm.trans (checkStep_of_offence h'))

def taken (entries : List Entry) : List String := (entries.filterMap Entry.step?).map Step.name

theorem taken_append (a b : List Entry) : taken (a ++ b) = taken a ++ taken b := by
  simp [taken]

def OffendsAt (entries : List Entry) (i : Nat) (cause : Refusal) : Prop :=
  ∃ e, entries[i]? = some e ∧ Offence (taken (entries.take i)) e cause

def OffendsFrom (earlier : List String) (entries : List Entry) (i : Nat) (cause : Refusal) : Prop :=
  ∃ e, entries[i]? = some e ∧ Offence (earlier ++ taken (entries.take i)) e cause

def First (offends : Nat → Refusal → Prop) (cause : Refusal) : Prop :=
  ∃ i, offends i cause ∧ ∀ j < i, ∀ cause', ¬ offends j cause'

section First

variable {offends : Nat → Refusal → Prop} {cause cause' : Refusal}

theorem first_of_zero (h : offends 0 cause')
    (unique : ∀ cause, offends 0 cause → cause = cause') :
    First offends cause ↔ cause = cause' := by
  constructor
  · rintro ⟨i, hi, clean⟩
    cases i with
    | zero => exact unique cause hi
    | succ i => exact absurd h (clean 0 (Nat.succ_pos i) cause')
  · rintro rfl
    exact ⟨0, h, fun j hj => absurd hj (Nat.not_lt_zero j)⟩

theorem first_of_not_zero (h : ∀ cause, ¬ offends 0 cause) :
    First offends cause ↔ First (fun i => offends (i + 1)) cause := by
  constructor
  · rintro ⟨i, hi, clean⟩
    cases i with
    | zero => exact absurd hi (h cause)
    | succ i => exact ⟨i, hi, fun j hj => clean (j + 1) (Nat.succ_lt_succ hj)⟩
  · rintro ⟨i, hi, clean⟩
    refine ⟨i + 1, hi, fun j hj => ?_⟩
    cases j with
    | zero => exact h
    | succ j => exact clean j (Nat.lt_of_succ_lt_succ hj)

end First

theorem offendsFrom_zero {earlier : List String} {e : Entry} {rest : List Entry} {cause : Refusal} :
    OffendsFrom earlier (e :: rest) 0 cause ↔ Offence earlier e cause := by
  simp [OffendsFrom, taken]

theorem offendsFrom_succ (earlier : List String) (s : Step) (rest : List Entry) (i : Nat) :
    OffendsFrom earlier (.step s :: rest) (i + 1) = OffendsFrom (earlier ++ [s.name]) rest i := by
  have hnames : earlier ++ taken ((.step s :: rest).take (i + 1)) =
      earlier ++ [s.name] ++ taken (rest.take i) := by
    rw [List.take_succ_cons, ← List.singleton_append, taken_append, List.append_assoc]
    rfl
  unfold OffendsFrom
  rw [hnames]
  rfl

/-- Going through the entries stops at the first that offends. -/
theorem validateFrom_eq_error_iff {seen : List String} {entries : List Entry} {cause : Refusal} :
    validateFrom seen entries = .error cause ↔ First (OffendsFrom seen entries) cause := by
  induction entries generalizing seen with
  | nil =>
    refine iff_of_false (by simp [validateFrom]) ?_
    rintro ⟨i, ⟨e, he, -⟩, -⟩
    cases he
  | cons e rest ih =>
    by_cases clean : ∀ cause, ¬ Offence seen e cause
    · cases e with
      | other v => exact absurd (.type v) (clean _)
      | step s =>
        have checked : checkStep seen s = .ok () := by
          cases hcheck : checkStep seen s with
          | ok => rfl
          | error cause => exact absurd (offence_of_checkStep hcheck) (clean cause)
        have hrest : validateFrom seen (.step s :: rest) = .error cause ↔
            validateFrom (seen ++ [s.name]) rest = .error cause := by
          rw [validateFrom, checked]
          cases validateFrom (seen ++ [s.name]) rest <;> simp [bind, Except.bind, pure, Except.pure]
        rw [hrest, ih, first_of_not_zero fun c => mt offendsFrom_zero.1 (clean c)]
        simp only [offendsFrom_succ]
    · rw [not_forall_not] at clean
      obtain ⟨cause', offence⟩ := clean
      have stops : validateFrom seen (e :: rest) = .error cause' := by
        cases e with
        | other v =>
          obtain rfl := offence.unique (.type v)
          rfl
        | step s => exact bind_of_error (checkStep_of_offence offence) _
      rw [first_of_zero (offendsFrom_zero.2 offence)
        fun c hc => (offendsFrom_zero.1 hc).unique offence, stops, Except.error.injEq, eq_comm]

theorem validate_eq_error_iff {entries : List Entry} {cause : Refusal} :
    validate entries = .error cause ↔
      entries = [] ∧ cause = .emptyPipeline ∨ First (OffendsAt entries) cause := by
  have hfirst : validateFrom [] entries = .error cause ↔ First (OffendsAt entries) cause :=
    validateFrom_eq_error_iff
  rw [← hfirst]
  cases entries with
  | nil => simp [validate, validateFrom, eq_comm]
  | cons e rest => simp [validate]

theorem checkStep_nil_iff {s : Step} :
    checkStep [] s = .ok () ↔
      (∃ k : StepKind, s.kind = k.word) ∧ (s.kind = StepKind.shell.word → s.run ≠ []) := by
  constructor
  · intro checked
    refine ⟨?_, fun shell empty => ?_⟩
    · obtain ⟨k, hk⟩ := Option.ne_none_iff_exists'.1 (known_of_checkStep checked)
      exact ⟨k, StepKind.ofWord?_eq_some_iff.1 hk⟩
    · have refused := checkStep_of_offence (.instructions List.not_mem_nil shell empty)
      cases checked.symm.trans refused
  · rintro ⟨⟨k, hk⟩, instructed⟩
    cases hcheck : checkStep [] s with
    | ok => rfl
    | error cause =>
      cases offence_of_checkStep hcheck with
      | name old => cases old
      | kind _ unknown => exact absurd hk (unknown k)
      | instructions _ shell empty => exact absurd empty (instructed shell)

theorem validate_eq_ok_iff {entries : List Entry} {steps : List Step} :
    validate entries = .ok steps ↔ entries = steps.map .step ∧ Runnable steps := by
  constructor
  · intro h
    obtain ⟨p, made, rfl⟩ : ∃ p, make entries = .ok p ∧ p.steps = steps :=
      ⟨{ steps }, bind_eq_ok.2 ⟨steps, h, rfl⟩, rfl⟩
    obtain ⟨hentries, nonempty⟩ := entries_of_make made
    obtain ⟨valid, distinct⟩ := distinct_of_make made
    have checked (s : Step) (hs : s ∈ p.steps) := checkStep_nil_iff.1 (valid s hs)
    exact ⟨hentries, nonempty, distinct, fun s hs => (checked s hs).1, fun s hs => (checked s hs).2⟩
  · rintro ⟨rfl, runnable⟩
    have made := make_of_distinct runnable.nonempty
      (fun s hs => checkStep_nil_iff.2 ⟨runnable.known s hs, runnable.instructed s hs⟩)
      runnable.distinct
    obtain ⟨steps', hsteps, h⟩ := bind_eq_ok.1 made
    obtain rfl := Pipeline.mk.inj (Except.ok.inj h) |>.1
    exact hsteps

section Make

variable {σ : Type} {entries : List Entry} {p : Pipeline}

theorem runnable_of_make (made : make entries = .ok p) : Runnable p.steps := by
  obtain ⟨steps, hsteps, h⟩ := bind_eq_ok.1 made
  obtain rfl := Except.ok.inj h
  exact (validate_eq_ok_iff.1 hsteps).2

theorem dispatched_of_visited (made : make entries = .ok p) {settings : Settings} {c : Console}
    {t : Target σ} {w : σ} {v : Visit σ} (hv : v ∈ visited settings c t p.steps w) :
    ∃ k, StepKind.ofWord? v.step.kind = some k := by
  have hmem : v.step ∈ p.steps :=
    List.IsPrefix.subset steps_visited_prefix (List.mem_map_of_mem hv)
  obtain ⟨k, hk⟩ := (runnable_of_make made).known _ hmem
  exact ⟨k, StepKind.ofWord?_eq_some_iff.2 hk⟩

theorem Runnable.index_eq {steps : List Step} (runnable : Runnable steps) {i j : Nat} {s s' : Step}
    (hi : steps[i]? = some s) (hj : steps[j]? = some s') (names : s.name = s'.name) : i = j := by
  have hlt : i < (steps.map Step.name).length := by
    rw [List.length_map]
    exact (List.getElem?_eq_some_iff.1 hi).1
  refine (List.getElem?_inj hlt runnable.distinct).1 ?_
  rw [List.getElem?_map, List.getElem?_map, hi, hj, Option.map_some, Option.map_some, names]

end Make

/-- A list of entries is accepted as it is exactly if it holds only steps, at least one, all with
names of their own, known kinds, and instructions if they are shell steps. Any other list is refused
for the first entry that offends. A run of an accepted list finds a way to carry out each step that
it comes to, and no two steps of the list have one name. -/
theorem runnable_lists_accepted (entries : List Entry) :
    (∀ steps, validate entries = .ok steps ↔ entries = steps.map .step ∧ Runnable steps) ∧
    (∀ cause, validate entries = .error cause ↔
      entries = [] ∧ cause = .emptyPipeline ∨ First (OffendsAt entries) cause) ∧
    ∀ p, make entries = .ok p →
      (∀ (σ : Type) settings c (t : Target σ) w, ∀ v ∈ visited settings c t p.steps w,
        ∃ k, StepKind.ofWord? v.step.kind = some k) ∧
      ∀ (i j : Nat) (s s' : Step), p.steps[i]? = some s → p.steps[j]? = some s' →
        s.name = s'.name → i = j := by
  refine ⟨fun steps => validate_eq_ok_iff, fun cause => validate_eq_error_iff, ?_⟩
  intro p made
  refine ⟨fun σ settings c t w v hv => dispatched_of_visited made hv, ?_⟩
  intro i j s s' hi hj names
  exact (runnable_of_make made).index_eq hi hj names

def greeting : Step := ⟨"greet", [.text "echo hello"], .unprivileged, none, "sh", []⟩

def checking : Step := ⟨"check", [], .unprivileged, none, "build-test", []⟩

theorem refused_second_greeting :
    make [.step greeting, .step checking] = .ok { steps := [greeting, checking] } ∧
    (∀ i, [greeting, checking][i]? = some checking → i = 1) ∧
    validate [.step greeting, .step { greeting with kind := "ruby" }, .other .null,
      .step { checking with kind := "sh" }] = .error (.duplicateStep "greet") := by
  have made : make [.step greeting, .step checking] = .ok { steps := [greeting, checking] } := rfl
  refine ⟨made, fun i hi => ?_, ?_⟩
  · exact ((runnable_lists_accepted _).2.2 _ made).2 i 1 checking checking hi rfl rfl
  · refine ((runnable_lists_accepted _).2.1 _).2 (.inr ⟨1, ⟨_, rfl, .name (by decide)⟩, ?_⟩)
    rintro j hj cause ⟨e, he, offence⟩
    obtain rfl : j = 0 := by omega
    obtain rfl := Option.some.inj he
    cases offence with
    | name old => cases old
    | kind _ unknown => exact unknown .shell rfl
    | instructions _ _ empty => cases empty

end Pipeline
end Provisioning
