import Provisioning.Proofs.Directories
import Provisioning.Proofs.Exchanges
import Provisioning.Proofs.SideBySide

/-!
The body of a step as a list of errands. An errand is one instruction and what a status other than 0
is blamed as; an instruction that is only asked for information is blamed for nothing. Whatever the
kind of a step, its body asks, before each errand, whether the target is available, hands over the
instruction, and goes on unless the status is blamed. But for the text that it writes meanwhile that
is all it does.
-/
namespace Provisioning

open Activity

variable {σ α β : Type}

def deeds (trace : List Event) : List Event := trace.filter fun e => !e.isText

@[simp] theorem deeds_append (a b : List Event) : deeds (a ++ b) = deeds a ++ deeds b :=
  List.filter_append ..

theorem Written.deeds_eq {a : List Event} (h : Written a) : deeds a = [] := by
  apply List.filter_eq_nil_iff.2
  intro e he
  simp [h e he]

theorem Visit.deeds_trace (c : Console) (v : Visit σ) :
    deeds (v.trace c) = deeds v.report.trace := by
  have closing : Written (v.closing c) := by
    unfold Visit.closing
    split
    · exact Console.written_success
    · split
      · exact c.written_failure _ _ _ _
      · exact .nil
  rw [Visit.trace, deeds_append, deeds_append, (Console.written_stepHeader _ _).deeds_eq,
    closing.deeds_eq, List.nil_append, List.append_nil]

namespace Activity

def DeedsMatch (trace trace' : List Event) : Prop := deeds trace = deeds trace'

instance : Composes DeedsMatch where
  nil := rfl
  append h h' := by rw [DeedsMatch, deeds_append, deeds_append, h, h']

abbrev SameDeeds (x y : Activity Event σ α) : Prop := Relates DeedsMatch Eq x y

theorem SameDeeds.refl (x : Activity Event σ α) : x.SameDeeds x := relates_refl fun _ => rfl

theorem SameDeeds.of_written {text : List Event} (written : Written text)
    {f : Unit → Activity Event σ β} {y : Activity Event σ β} (h : (f ()).SameDeeds y) :
    (record text >>= f).SameDeeds y := by
  rintro w _ rfl
  obtain ⟨htrace, hanswer, hafter⟩ := h w w rfl
  rw [record_bind_apply, DeedsMatch, deeds_append, written.deeds_eq, List.nil_append]
  exact ⟨htrace, hanswer, hafter⟩

theorem require_map_bind (g : α → β) (r : Except Refusal α) {γ : Type}
    (f : β → Activity Event σ γ) : (require (g <$> r) >>= f) = require r >>= fun a => f (g a) := by
  cases r <;> rfl

end Activity

structure Errand where
  instruction : String
  blame : Option (Int → Fault)

namespace Errand

/-- Runs the errands up to the first that is blamed. An errand that cannot be read off the data of
its step is refused when its turn comes. -/
def carryOut (t : Target σ) (p : Privilege) (d : Option String) :
    List (Except Refusal Errand) → Activity Event σ Unit
  | [] => return ()
  | errand :: rest => do
    let e ← require errand
    t.checkAvailable
    let status ← t.run e.instruction p d
    match e.blame with
    | none => carryOut t p d rest
    | some blame => if status = 0 then carryOut t p d rest else fail (blame status)

end Errand

section Parts

variable (c : Console) (t : Target σ)

theorem sameDeeds_runInstruction (x : String) (p : Privilege) (d : Option String) :
    (runInstruction c t x p d).SameDeeds (t.checkAvailable >>= fun _ => t.run x p d) :=
  (SameDeeds.refl _).bind fun _ _ _ =>
    SameDeeds.of_written (c.written_debugLine _) (SameDeeds.refl _)

theorem Target.run_firstDirectory (x : String) (p : Privilege) (d : Option String) :
    t.run x p (firstDirectory d t.workdir) = t.run x p d := by
  rw [run, run, t.wrap_firstDirectory]

theorem Target.hasTool_bind (tool envFile : Value) (p : Privilege)
    (f : Bool → Activity Event σ β) :
    (t.hasTool tool envFile p >>= f) =
      require (probe tool envFile) >>= fun x => t.checkAvailable >>= fun _ =>
        t.run x p (some "/") >>= fun status => f (status = 0) := by
  unfold hasTool
  rw [Activity.bind_assoc]
  congr 1
  funext x
  rw [Activity.bind_assoc]
  congr 1
  funext _
  rw [Activity.bind_assoc]
  rfl

end Parts

section Bodies

variable (c : Console) (t : Target σ)

def ScriptInstaller.probe (i : ScriptInstaller) : Except Refusal String :=
  Target.probe i.tool i.envFile

/-- Asks for the tool, fetches the script, runs it, and asks again; the first answer does not
count. -/
def ScriptInstaller.errands (i : ScriptInstaller) : List (Except Refusal Errand) := [
  (fun x => ⟨x, none⟩) <$> i.probe,
  (fun x => ⟨x, some (.fetchFailed i.url.display)⟩) <$> i.fetchCommand,
  (fun x => ⟨x, some fun status => .scriptFailed i.url.display status ""⟩) <$> i.runCommand,
  (fun x => ⟨x, some fun _ =>
    .scriptFailed i.url.display 0 (i.tool.display ++ " not found after install")⟩) <$> i.probe]

def Installer.errands : Installer → List (Except Refusal Errand)
  | .script i => i.errands
  | .noop => []
  | .unspecified => [.error .unsupported]

def Stage.errand (s : Stage) (substep : Value) : Except Refusal Errand :=
  (fun x => ⟨Shell.sourced s.envFile x.2.display, some (.buildFailed x.1 x.2)⟩) <$> substep.pair

def Stage.errands (s : Stage) : List (Except Refusal Errand) := s.substeps.map s.errand

namespace Step

def errand (s : Step) (instruction : Value) : Errand :=
  ⟨instruction.display, some (.stepFailed s.name instruction)⟩

def errands (settings : Settings) (s : Step) : List (Except Refusal Errand) :=
  match StepKind.ofWord? s.kind with
  | some .toolchain =>
    match s.config with
    | .ok data => (Installer.ofConfig settings data s.privilege).errands
    | .error cause => [.error cause]
  | some .buildTest =>
    match s.config with
    | .ok data =>
      match Stage.ofConfig data s.privilege with
      | .ok stage => stage.errands
      | .error cause => [.error cause]
    | .error cause => [.error cause]
  | _ => s.run.map fun x => .ok (s.errand x)

end Step

theorem sameDeeds_blamed {x : String} {p : Privilege} {d : Option String} {blame : Int → Fault}
    {rest rest' : Activity Event σ Unit} (h : rest.SameDeeds rest') :
    (runInstruction c t x p d >>= fun status =>
        if status = 0 then rest else fail (blame status)).SameDeeds
      (t.checkAvailable >>= fun _ => t.run x p d >>= fun status =>
        if status = 0 then rest' else fail (blame status)) := by
  have hbind : (runInstruction c t x p d >>= fun status =>
      if status = 0 then rest else fail (blame status)).SameDeeds
        ((t.checkAvailable >>= fun _ => t.run x p d) >>= fun status =>
          if status = 0 then rest' else fail (blame status)) :=
    (sameDeeds_runInstruction c t x p d).bind fun _ _ _ =>
      relates_ite (fun _ => h) fun _ => SameDeeds.refl _
  rw [Activity.bind_assoc] at hbind
  exact hbind

theorem Step.sameDeeds_runShell (s : Step) :
    (s.runShell c t).SameDeeds
      (Errand.carryOut t s.privilege s.cwd (s.run.map fun x => .ok (s.errand x))) := by
  unfold runShell
  induction s.run with
  | nil => exact SameDeeds.refl _
  | cons x xs ih => exact sameDeeds_blamed c t ih

theorem Stage.sameDeeds_run (s : Stage) (d : Option String) :
    (s.run c t (firstDirectory d t.workdir)).SameDeeds
      (Errand.carryOut t s.privilege d s.errands) := by
  unfold run errands
  induction s.substeps with
  | nil => exact SameDeeds.refl _
  | cons v vs ih =>
    rw [List.map_cons, errand, Errand.carryOut, require_map_bind]
    apply relates_require
    intro pair _
    apply SameDeeds.of_written (Console.written_substep _ _)
    rw [← t.run_firstDirectory]
    exact sameDeeds_blamed c t ih

theorem sameDeeds_checked {p : Privilege} {d : Option String} (r : Except Refusal String)
    (blame : Int → Fault) {rest : Activity Event σ Unit} {errands : List (Except Refusal Errand)}
    (h : rest.SameDeeds (Errand.carryOut t p d errands)) :
    ((require r >>= fun x => runInstruction c t x p d >>= fun status =>
        if status = 0 then return () else fail (blame status)) >>= fun _ => rest).SameDeeds
      (Errand.carryOut t p d ((fun x => ⟨x, some blame⟩) <$> r :: errands)) := by
  have hguard (status : Int) :
      ((if status = 0 then pure () else fail (blame status) : Activity Event σ Unit) >>=
        fun _ => rest) = if status = 0 then rest else fail (blame status) := by
    by_cases hstatus : status = 0
    · rw [if_pos hstatus, if_pos hstatus]
      rfl
    · rw [if_neg hstatus, if_neg hstatus]
      rfl
  rw [Errand.carryOut, require_map_bind, Activity.bind_assoc]
  apply relates_require
  intro x _
  rw [Activity.bind_assoc]
  simp only [hguard]
  exact sameDeeds_blamed c t h

theorem ScriptInstaller.sameDeeds_install (i : ScriptInstaller) :
    (i.install c t).SameDeeds (Errand.carryOut t i.privilege (some "/") i.errands) := by
  have confirmed : (i.confirm t).SameDeeds (Errand.carryOut t i.privilege (some "/")
      [(fun x => ⟨x, some fun _ => .scriptFailed i.url.display 0
        (i.tool.display ++ " not found after install")⟩) <$> i.probe]) := by
    unfold confirm isInstalled
    rw [t.hasTool_bind, Errand.carryOut, require_map_bind]
    simp only [decide_eq_true_eq]
    exact SameDeeds.refl _
  unfold install isInstalled errands
  rw [t.hasTool_bind, Errand.carryOut, require_map_bind]
  apply relates_require
  intro x _
  apply (SameDeeds.refl _).bind
  intro _ _ _
  apply (SameDeeds.refl _).bind
  intro status _ _
  apply SameDeeds.of_written
  · by_cases present : status = 0
    · simp only [present, decide_true, if_true]
      exact Console.written_info _
    · simp only [present, decide_false]
      exact .nil
  · apply sameDeeds_checked
    apply sameDeeds_checked
    exact confirmed

theorem Installer.sameDeeds_install (i : Installer) (p : Privilege)
    (privilege : ∀ j, i = .script j → j.privilege = p) :
    (i.install c t).SameDeeds (Errand.carryOut t p (some "/") i.errands) := by
  cases i with
  | script j =>
    rw [← privilege j rfl]
    exact j.sameDeeds_install c t
  | noop =>
    rintro w _ rfl
    exact ⟨(c.written_debugLine _).deeds_eq, rfl, rfl⟩
  | unspecified => exact SameDeeds.refl _

/-- But for text, a body does no more than carry out the errands of its step. -/
theorem Step.sameDeeds_perform (settings : Settings) (s : Step) :
    (s.perform settings c t).SameDeeds
      (Errand.carryOut t s.privilege s.directory (s.errands settings)) := by
  unfold perform directory errands
  rcases hk : StepKind.ofWord? s.kind with _ | ⟨_ | _ | _⟩
  case some.toolchain =>
    cases s.config with
    | error cause => exact SameDeeds.refl _
    | ok data =>
      apply Installer.sameDeeds_install c t
      intro j hj
      exact Installer.privilege_of_ofConfig hj
  case some.buildTest =>
    dsimp only
    cases s.config with
    | error cause => exact SameDeeds.refl _
    | ok data =>
      dsimp only
      rw [require_bind_of_ok rfl]
      cases hstage : Stage.ofConfig data s.privilege with
      | error cause => exact SameDeeds.refl _
      | ok stage =>
        rw [← (Stage.yields_of_ofConfig hstage).2.1]
        exact stage.sameDeeds_run c t s.cwd
  all_goals exact s.sameDeeds_runShell c t

end Bodies
end Provisioning
