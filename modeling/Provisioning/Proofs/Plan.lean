import Provisioning.Pipeline
import Provisioning.Proofs.Lines
import Provisioning.Proofs.Decoding

/-!
The plan of a step: the lines that it hands over as long as every one of them ends well. Plans are
read off the data of a step alone, and the body of a step follows its plan in every target.
-/
namespace Provisioning

open Activity

variable {σ : Type}

def ScriptInstaller.plan (t : Target σ) (i : ScriptInstaller) : Except Refusal (List String) := do
  let probe ← Target.probe i.tool i.envFile
  let commands := [probe, ← i.fetchCommand, ← i.runCommand, probe]
  return commands.map fun x => t.wrap x i.privilege (some "/")

def Installer.plan (t : Target σ) : Installer → Except Refusal (List String)
  | .script i => i.plan t
  | .noop | .unspecified => return []

def Stage.plan (t : Target σ) (s : Stage) (project : Option String) :
    Except Refusal (List String) :=
  s.substeps.mapM fun substep => do
    return t.wrap (Shell.sourced s.envFile (← substep.pair).2.display) s.privilege project

namespace Step

def stageOf (s : Step) (substeps : List Value) : Stage where
  substeps := substeps
  envFile := s.field "env_file" defaultEnvFile
  privilege := s.privilege

def plan (settings : Settings) (t : Target σ) (s : Step) : Except Refusal (List String) :=
  match StepKind.ofWord? s.kind with
  | some .toolchain => (Installer.ofConfig settings s.data.distinct s.privilege).plan t
  | some .buildTest => do (s.stageOf (← s.substeps)).plan t (firstDirectory s.cwd t.workdir)
  | _ => return s.run.map fun x => t.wrap x.display s.privilege s.cwd

end Step

theorem ScriptInstaller.plan_accepted (t : Target σ) {i : ScriptInstaller} (ht : i.tool.Quotable)
    (hu : i.url.Quotable) (hs : i.scriptPath.Quotable) : ∃ plan, i.plan t = .ok plan := by
  obtain ⟨tool, ht⟩ := Value.quotable_iff.1 ht
  obtain ⟨url, hu⟩ := Value.quotable_iff.1 hu
  obtain ⟨script, hs⟩ := Value.quotable_iff.1 hs
  have hp : Target.probe i.tool i.envFile = .ok _ := Refusable.bind_eq_ok.2 ⟨tool, ht, rfl⟩
  have hf : i.fetchCommand = .ok _ :=
    Refusable.bind_eq_ok.2 ⟨script, hs, Refusable.bind_eq_ok.2 ⟨url, hu, rfl⟩⟩
  have hr : i.runCommand = .ok _ := Refusable.bind_eq_ok.2 ⟨script, hs, rfl⟩
  exact ⟨_, Refusable.bind_eq_ok.2 ⟨_, hp, Refusable.bind_eq_ok.2 ⟨_, hf,
    Refusable.bind_eq_ok.2 ⟨_, hr, rfl⟩⟩⟩⟩

theorem Step.plan_of_legible (settings : Settings) (t : Target σ) {s : Step} (h : s.Legible) :
    ∃ plan, s.plan settings t = .ok plan := by
  unfold Step.plan
  rcases hk : StepKind.ofWord? s.kind with _ | ⟨_ | _ | _⟩
  case some.toolchain =>
    simp only [Step.Legible, hk] at h
    simp only [Installer.ofConfig]
    split
    · exact ⟨[], rfl⟩
    · rcases h with hn | ⟨ht, hu⟩
      · contradiction
      · exact ScriptInstaller.plan_accepted t ht ((Value.quotable_orElse _).2 hu)
          (Value.quotable_text _)
  case some.buildTest =>
    simp only [Step.Legible, hk] at h
    obtain ⟨xs, hx, hpairs⟩ := h
    have hp : ∃ plan, (s.stageOf xs).plan t (firstDirectory s.cwd t.workdir) = .ok plan := by
      refine Refusable.mapM_accepted fun x hm => ?_
      obtain ⟨name, command, he⟩ := hpairs x hm
      exact ⟨_, Refusable.bind_eq_ok.2 ⟨(name, command), he, rfl⟩⟩
    obtain ⟨plan, hp⟩ := hp
    exact ⟨plan, Refusable.bind_eq_ok.2 ⟨xs, hx, hp⟩⟩
  all_goals exact ⟨_, rfl⟩

theorem follows_checkAvailable (t : Target σ) : Follows t.checkAvailable [] := by
  refine Follows.bind_quiet ?_ fun available => ?_
  · refine Follows.bind_quiet (follows_exchanges _).attempt fun answer => ?_
    exact Follows.bind_quiet (follows_record rfl) fun _ => follows_conclude answer
  · exact Follows.guarded (follows_pure ()) _

theorem follows_handOver (t : Target σ) (line : String) : Follows (t.handOver line) [line] := by
  refine Follows.bind_quiet (follows_exchanges _).attempt fun answer => ?_
  exact Follows.quiet_bind (follows_record rfl) fun _ => follows_conclude answer

theorem follows_runInstruction (c : Console) (t : Target σ) (x : String) (p : Privilege)
    (cwd : Option String) : Follows (runInstruction c t x p cwd) [t.wrap x p cwd] := by
  refine Follows.bind_quiet (follows_checkAvailable t) fun _ => ?_
  exact Follows.bind_quiet (follows_record (by simp)) fun _ => follows_handOver t _

theorem follows_runInstructions (c : Console) (t : Target σ) (s : Step) (xs : List Value) :
    Follows (s.runInstructions c t xs) (xs.map fun x => t.wrap x.display s.privilege s.cwd) := by
  induction xs with
  | nil => exact follows_pure ()
  | cons x xs ih =>
    exact (follows_runInstruction c t x.display s.privilege s.cwd).bind fun _ => ih.guarded _

theorem follows_hasTool (t : Target σ) {tool envFile : Value} {probe : String} (p : Privilege)
    (h : Target.probe tool envFile = .ok probe) :
    Follows (t.hasTool tool envFile p) [t.wrap probe p (some "/")] := by
  unfold Target.hasTool
  rw [require_bind_of_ok h]
  refine Follows.bind_quiet (follows_checkAvailable t) fun _ => ?_
  exact Follows.quiet_bind (follows_handOver t _) fun _ => follows_pure _

theorem ScriptInstaller.follows_install (c : Console) (t : Target σ) {i : ScriptInstaller}
    {plan : List String} (h : i.plan t = .ok plan) : Follows (i.install c t) plan := by
  obtain ⟨probe, hp, h⟩ := Refusable.bind_eq_ok.1 h
  obtain ⟨fetch, hf, h⟩ := Refusable.bind_eq_ok.1 h
  obtain ⟨run, hr, h⟩ := Refusable.bind_eq_ok.1 h
  obtain rfl := Except.ok.inj h
  have asked : Follows (i.isInstalled t) [t.wrap probe i.privilege (some "/")] :=
    follows_hasTool t i.privilege hp
  refine asked.bind fun present => Follows.bind_quiet (follows_record ?_) fun _ => ?_
  · cases present <;> rfl
  have fetched : Follows (i.fetch c t) [t.wrap fetch i.privilege (some "/")] := by
    unfold ScriptInstaller.fetch
    rw [require_bind_of_ok hf]
    exact (follows_runInstruction c t _ i.privilege (some "/")).quiet_bind fun _ =>
      (follows_pure ()).guarded _
  have ran : Follows (i.runScript c t) [t.wrap run i.privilege (some "/")] := by
    unfold ScriptInstaller.runScript
    rw [require_bind_of_ok hr]
    exact (follows_runInstruction c t _ i.privilege (some "/")).quiet_bind fun _ =>
      (follows_pure ()).guarded _
  refine fetched.bind fun _ => ran.bind fun _ => ?_
  exact asked.quiet_bind fun _ => (follows_pure ()).guarded _

/-- The substeps may be any that yield what the planned ones do. -/
theorem Stage.follows_runSubsteps (c : Console) (t : Target σ) (s : Stage)
    (project : Option String) {planned substeps : List Value} {plan : List String}
    (hp : Stage.plan t { s with substeps := planned } project = .ok plan)
    (hy : List.Forall₂ Value.Yields planned substeps) :
    Follows (s.runSubsteps c t project substeps) plan := by
  have hf := Refusable.mapM_eq_ok.1 hp
  clear hp
  -- Planned and actual substeps side by side; the plan loses a line with each.
  induction hy generalizing plan with
  | nil =>
    rw [List.forall₂_nil_left_iff.1 hf]
    exact follows_pure ()
  | cons hxy _ ih =>
    obtain ⟨line, rest, hl, hr, rfl⟩ := List.forall₂_cons_left_iff.1 hf
    obtain ⟨⟨name, command⟩, hx, he⟩ := Refusable.bind_eq_ok.1 hl
    obtain rfl := Except.ok.inj he
    unfold Stage.runSubsteps
    rw [require_bind_of_ok (hxy.pair hx)]
    refine Follows.bind_quiet (follows_record rfl) fun _ => ?_
    exact (follows_runInstruction c t _ s.privilege project).bind fun _ => (ih hr).guarded _

theorem Installer.follows_install (c : Console) (t : Target σ) {i : Installer}
    {plan : List String} (h : i.plan t = .ok plan) : Follows (i.install c t) plan := by
  cases i with
  | script i => exact i.follows_install c t h
  | noop =>
    obtain rfl := Except.ok.inj h
    exact follows_record (lines_debugLine c _)
  | unspecified => exact follows_fail _ _

theorem Stage.follows_run (c : Console) (t : Target σ) (s : Step) {stage : Stage}
    {planned : List Value} {plan : List String} {project : Option String}
    (hd : Stage.ofConfig s.data.distinct s.privilege = .ok stage)
    (hs : s.substeps = .ok planned) (h : (s.stageOf planned).plan t project = .ok plan) :
    Follows (stage.run c t project) plan := by
  obtain ⟨he, hp, xs, hx, -, hy⟩ := Stage.yields_of_ofConfig hd
  obtain rfl := Except.ok.inj (hs.symm.trans hx)
  refine stage.follows_runSubsteps c t project ?_ hy
  rw [he, hp]
  exact h

theorem Step.follows_perform (settings : Settings) (c : Console) (t : Target σ) {s : Step}
    {plan : List String} (h : s.plan settings t = .ok plan) :
    Follows (s.perform settings c t) plan := by
  rcases hk : StepKind.ofWord? s.kind with _ | ⟨_ | _ | _⟩
  case some.toolchain =>
    simp only [Step.plan, Step.perform, hk] at h ⊢
    rcases s.config_eq with hc | ⟨cause, hc⟩
    · rw [require_bind_of_ok hc]
      exact Installer.follows_install c t h
    · rw [require_bind_of_error hc]
      exact follows_fail _ _
  case some.buildTest =>
    simp only [Step.plan, Step.perform, hk] at h ⊢
    obtain ⟨planned, hs, h⟩ := Refusable.bind_eq_ok.1 h
    rcases s.config_eq with hc | ⟨cause, hc⟩
    · rw [require_bind_of_ok hc]
      cases hd : Stage.ofConfig s.data.distinct s.privilege with
      | ok stage => exact Stage.follows_run c t s hd hs h
      | error cause => exact follows_fail _ _
    · rw [require_bind_of_error hc]
      exact follows_fail _ _
  all_goals
    simp only [Step.plan, Step.perform, hk] at h ⊢
    obtain rfl := Except.ok.inj h
    exact follows_runInstructions c t s s.run

end Provisioning
