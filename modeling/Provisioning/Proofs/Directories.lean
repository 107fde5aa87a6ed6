import Provisioning.Proofs.Plan
import Provisioning.Proofs.Quoting

/-!
Where the lines of a step run. Every line that a step hands over is an instruction wrapped with the
privilege of the step and one directory: the root for an installer, and otherwise the directory of
the step, or that of the target if the step has none.
-/
namespace Provisioning

open Activity

variable {σ : Type}

theorem firstDirectory_of_ne_empty {d : String} (h : d ≠ "") (e : Option String) :
    firstDirectory (some d) e = some d := by
  unfold firstDirectory
  split
  · rename_i he
    cases he
  · rename_i he
    exact absurd (Option.some.inj he) h
  · rename_i he
    exact he.symm

theorem firstDirectory_self (d : Option String) : firstDirectory d d = d := by
  cases d with
  | none => rfl
  | some d =>
    by_cases hd : d = ""
    · subst hd
      rfl
    · exact firstDirectory_of_ne_empty hd _

theorem firstDirectory_firstDirectory (d e : Option String) :
    firstDirectory (firstDirectory d e) e = firstDirectory d e := by
  cases d with
  | none => exact firstDirectory_self e
  | some d =>
    by_cases hd : d = ""
    · subst hd
      exact firstDirectory_self e
    · rw [firstDirectory_of_ne_empty hd, firstDirectory_of_ne_empty hd]

def Shell.entered (d : Option String) (x : String) : String :=
  match d with
  | none | some "" => x
  | some d => Shell.enter d x

theorem Shell.entered_of_ne_empty {d : String} (h : d ≠ "") (x : String) :
    entered (some d) x = enter d x := by
  unfold entered
  split
  · rename_i he
    cases he
  · rename_i he
    exact absurd (Option.some.inj he) h
  · rename_i he
    rw [Option.some.inj he]

theorem Shell.entered_eq_iff {d : String} (h : d ≠ "") (e : Option String) (x : String) :
    entered (some d) x = entered e x ↔ e = some d := by
  constructor
  · intro he
    rw [entered_of_ne_empty h] at he
    cases e with
    | none => exact absurd he (enter_ne d x)
    | some e =>
      by_cases hempty : e = ""
      · rw [hempty] at he
        exact absurd he (enter_ne d x)
      · rw [entered_of_ne_empty hempty] at he
        rw [enter_injective he]
  · intro he
    rw [he]

namespace Target

variable (t : Target σ) (x : String) (p : Privilege)

theorem wrap_eq (d : Option String) :
    t.wrap x p d =
      if p = .elevated && !t.isRoot then
        Shell.elevate (Shell.entered (firstDirectory d t.workdir) x)
      else Shell.entered (firstDirectory d t.workdir) x := rfl

theorem wrap_firstDirectory (d : Option String) :
    t.wrap x p (firstDirectory d t.workdir) = t.wrap x p d := by
  rw [wrap_eq, wrap_eq, firstDirectory_firstDirectory]

theorem wrap_eq_iff (d : String) :
    t.wrap x p (some d) = t.wrap x p none ↔ d = "" ∨ t.workdir = some d := by
  by_cases hd : d = ""
  · subst hd
    exact iff_of_true rfl (.inl rfl)
  have hsame : t.wrap x p (some d) = t.wrap x p none ↔
      Shell.entered (some d) x = Shell.entered t.workdir x := by
    rw [wrap_eq, wrap_eq, firstDirectory_of_ne_empty hd]
    change _ = (if _ then Shell.elevate (Shell.entered t.workdir x) else _) ↔ _
    split
    · exact ⟨Shell.elevate_injective, congrArg _⟩
    · rfl
  rw [hsame, Shell.entered_eq_iff hd]
  exact (or_iff_right hd).symm

end Target
namespace Activity

variable {α β : Type} {x : Activity Event σ α} {L : String → Prop}

def Hands (x : Activity Event σ α) (L : String → Prop) : Prop :=
  x.Leaves fun tr _ => ∀ line ∈ lines tr, L line

theorem Follows.hands {plan : List String} (hx : Follows x plan) (h : ∀ line ∈ plan, L line) :
    x.Hands L :=
  fun w line hline => h line ((hx w).1.subset hline)

theorem Follows.hands_nothing (hx : Follows x []) : x.Hands L := hx.hands (by simp)

theorem Hands.bind {f : α → Activity Event σ β} (hx : x.Hands L) (hf : ∀ a, (f a).Hands L) :
    (x >>= f).Hands L := by
  refine Leaves.bind hx hf (fun _ _ h => h) ?_
  intro tr _ tr' _ h h' line hline
  rw [lines_append] at hline
  rcases List.mem_append.1 hline with hline | hline
  · exact h line hline
  · exact h' line hline

theorem hands_require {r : Except Refusal α} {f : α → Activity Event σ β}
    (hf : ∀ a, r = .ok a → (f a).Hands L) : (require r >>= f).Hands L :=
  leaves_require hf (by simp)

end Activity

section Bodies

variable (settings : Settings) (c : Console) (t : Target σ)

def Target.Wraps (p : Privilege) (d : Option String) (line : String) : Prop :=
  ∃ x, line = t.wrap x p d

def Target.WrapsOne (X : String → Prop) (p : Privilege) (d : Option String) (line : String) :
    Prop :=
  ∃ x, X x ∧ line = t.wrap x p d

def ScriptInstaller.Instructs (i : ScriptInstaller) (x : String) : Prop :=
  Target.probe i.tool i.envFile = .ok x ∨ i.fetchCommand = .ok x ∨ i.runCommand = .ok x

def Stage.Instructs (s : Stage) (x : String) : Prop :=
  ∃ v ∈ s.substeps, ∃ name command, v.pair = .ok (name, command) ∧
    x = Shell.sourced s.envFile command.display

/-- The instructions of a step: those that it lists, or those of the installer or the stage that
its data describe. -/
def Step.Instructs (s : Step) (x : String) : Prop :=
  match StepKind.ofWord? s.kind with
  | some .toolchain =>
    ∃ i, Installer.ofConfig settings s.data.distinct s.privilege = .script i ∧ i.Instructs x
  | some .buildTest =>
    ∃ stage, Stage.ofConfig s.data.distinct s.privilege = .ok stage ∧ stage.Instructs x
  | _ => ∃ v ∈ s.run, x = v.display

theorem Installer.privilege_of_ofConfig {settings : Settings} {data : Config} {p : Privilege}
    {i : ScriptInstaller} (h : ofConfig settings data p = .script i) : i.privilege = p := by
  unfold ofConfig at h
  split at h
  · cases h
  · obtain rfl := Installer.script.inj h
    rfl

theorem hands_runInstruction {X : String → Prop} {x : String} (hx : X x) (p : Privilege)
    (d : Option String) : (runInstruction c t x p d).Hands (t.WrapsOne X p d) :=
  (follows_runInstruction c t x p d).hands fun _ h => ⟨x, hx, List.mem_singleton.1 h⟩

theorem ScriptInstaller.hands_install (i : ScriptInstaller) :
    (i.install c t).Hands (t.WrapsOne i.Instructs i.privilege (some "/")) := by
  have asked : (i.isInstalled t).Hands (t.WrapsOne i.Instructs i.privilege (some "/")) := by
    cases hp : Target.probe i.tool i.envFile with
    | ok probe =>
      refine (follows_hasTool t i.privilege hp).hands fun _ h => ?_
      exact ⟨probe, .inl hp, List.mem_singleton.1 h⟩
    | error cause =>
      unfold isInstalled Target.hasTool
      rw [require_bind_of_error hp]
      exact (follows_fail _ []).hands_nothing
  have fetched : (i.fetch c t).Hands (t.WrapsOne i.Instructs i.privilege (some "/")) :=
    hands_require fun command made => (hands_runInstruction c t (.inr (.inl made)) _ _).bind
      fun _ => ((follows_pure ()).guarded _).hands_nothing
  have ran : (i.runScript c t).Hands (t.WrapsOne i.Instructs i.privilege (some "/")) :=
    hands_require fun command made => (hands_runInstruction c t (.inr (.inr made)) _ _).bind
      fun _ => ((follows_pure ()).guarded _).hands_nothing
  refine asked.bind fun present => ?_
  refine Hands.bind (Follows.hands_nothing (follows_record ?_)) fun _ => ?_
  · cases present <;> rfl
  · exact fetched.bind fun _ => ran.bind fun _ => asked.bind fun _ =>
      ((follows_pure ()).guarded _).hands_nothing

theorem Stage.hands_runSubsteps (s : Stage) (project : Option String) {xs : List Value}
    (sub : xs ⊆ s.substeps) :
    (s.runSubsteps c t project xs).Hands (t.WrapsOne s.Instructs s.privilege project) := by
  induction xs with
  | nil => exact (follows_pure ()).hands_nothing
  | cons x xs ih =>
    obtain ⟨mem, rest⟩ := List.cons_subset.1 sub
    refine hands_require fun pair hpair => ?_
    have instructs : s.Instructs (Shell.sourced s.envFile pair.2.display) :=
      ⟨x, mem, pair.1, pair.2, hpair, rfl⟩
    refine Hands.bind (Follows.hands_nothing (follows_record rfl)) fun _ => ?_
    refine (hands_runInstruction c t instructs _ _).bind fun status => ?_
    split
    · exact ih rest
    · exact (follows_fail _ []).hands_nothing

def Step.directory (s : Step) : Option String :=
  if StepKind.ofWord? s.kind = some .toolchain then some "/" else s.cwd

theorem Step.hands_instructions (s : Step) :
    (s.perform settings c t).Hands (t.WrapsOne (s.Instructs settings) s.privilege s.directory) := by
  unfold Step.perform Step.directory Step.Instructs
  rcases hk : StepKind.ofWord? s.kind with _ | ⟨_ | _ | _⟩
  case some.toolchain =>
    refine hands_require fun data hdata => ?_
    obtain rfl := Step.eq_of_config hdata
    cases hi : Installer.ofConfig settings s.data.distinct s.privilege with
    | noop => exact (follows_record (lines_debugLine c _)).hands_nothing
    | unspecified => exact (follows_fail _ []).hands_nothing
    | script i =>
      have privilege : i.privilege = s.privilege := Installer.privilege_of_ofConfig hi
      intro w line hline
      obtain ⟨x, hx, rfl⟩ := i.hands_install c t w line hline
      exact ⟨x, ⟨i, rfl, hx⟩, by rw [privilege]; rfl⟩
  case some.buildTest =>
    refine hands_require fun data hdata => hands_require fun stage hstage => ?_
    obtain rfl := Step.eq_of_config hdata
    obtain ⟨-, hp, -⟩ := Stage.yields_of_ofConfig hstage
    -- The stage is handed the directory that was chosen, and choosing again changes nothing.
    intro w line hline
    obtain ⟨x, hx, rfl⟩ := stage.hands_runSubsteps c t _ (List.Subset.refl _) w line hline
    exact ⟨x, ⟨stage, hstage, hx⟩, by rw [t.wrap_firstDirectory, hp]; rfl⟩
  all_goals
    refine (follows_runInstructions c t s s.run).hands fun line hline => ?_
    obtain ⟨x, hx, rfl⟩ := List.mem_map.1 hline
    exact ⟨x.display, ⟨x, hx, rfl⟩, rfl⟩

theorem Step.hands_perform (s : Step) :
    (s.perform settings c t).Hands (t.Wraps s.privilege s.directory) := by
  intro w line hline
  obtain ⟨x, -, hx⟩ := s.hands_instructions settings c t w line hline
  exact ⟨x, hx⟩

end Bodies
end Provisioning
