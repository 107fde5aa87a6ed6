import Provisioning.Pipeline
import Provisioning.Proofs.Exchanges

/-!
What the bodies of steps are put together from: instructions that are run, tools that are asked
for, text, and faults that are exceptions. A property of all these that is kept when one activity
follows another is a property of every body. So is a relation between activities that are shown on
two consoles, and a property is such a relation on one console.
-/
namespace Provisioning

open Activity

variable {σ : Type}

def Fault.Speaks (f : Fault) : Prop := f.isProvisioning = true → f.message ≠ ""

theorem Fault.speaks_of_foreign {f : Fault} (h : f.isProvisioning = false) : f.Speaks :=
  fun provisioning => absurd (h.symm.trans provisioning) Bool.false_ne_true

theorem Fault.speaks_of_status {f : Fault} {status : Int} (h : f.status? = some status) :
    f.Speaks := by
  intro _
  cases f with
  | fetchFailed url status =>
    change "could not fetch installer from " ++ url ++ " " ++ statusNote status ≠ ""
    simp
  | scriptFailed url status detail =>
    change "installer from " ++ url ++ " failed " ++ statusNote status ++
      (if detail = "" then "" else ": " ++ detail) ≠ ""
    simp
  | buildFailed substep command status =>
    change "build substep '" ++ substep.display ++ "' failed " ++ statusNote status ++ ": " ++
      command.display ≠ ""
    simp
  | stepFailed step command status =>
    change "step '" ++ step ++ "' failed " ++ statusNote status ++ ": " ++ command.display ≠ ""
    simp
  | _ => cases h

/-- A relation that the parts of every body have, on one console and on another, and that sequences
of such parts keep. -/
structure Paired (c c' : Console) (t : Target σ)
    (R : ∀ {α : Type}, Activity Event σ α → Activity Event σ α → Prop) : Prop where
  giving {α : Type} (a : α) : R (pure a : Activity Event σ α) (pure a)
  failing {α : Type} {f : Fault} (h : f.isException = true) (speaks : f.Speaks) :
    R (fail f : Activity Event σ α) (fail f)
  announcing (i : ScriptInstaller) : R (record (i.announce t)) (record (i.announce t))
  showing (name command : String) :
    R (record (Console.substep name command)) (record (Console.substep name command))
  remarking (message : String) : R (record (c.debugLine message)) (record (c'.debugLine message))
  running (x : String) (p : Privilege) (cwd : Option String) :
    R (runInstruction c t x p cwd) (runInstruction c' t x p cwd)
  probing (tool envFile : Value) (p : Privilege) :
    R (t.hasTool tool envFile p) (t.hasTool tool envFile p)
  following {α β : Type} {x x' : Activity Event σ α} {f f' : α → Activity Event σ β} (hx : R x x')
    (hf : ∀ a, R (f a) (f' a)) : R (x >>= f) (x' >>= f')

section Paired

variable {c c' : Console} {t : Target σ}
  {R : ∀ {α : Type}, Activity Event σ α → Activity Event σ α → Prop} (h : Paired c c' t R)

include h

theorem Paired.requiring {α β : Type} (r : Except Refusal α) {f f' : α → Activity Event σ β}
    (hf : ∀ a, R (f a) (f' a)) : R (require r >>= f) (require r >>= f') := by
  refine h.following ?_ hf
  cases r with
  | ok a => exact h.giving a
  | error cause => exact h.failing rfl (Fault.speaks_of_foreign rfl)

theorem Paired.checking {status : Int} {x x' : Activity Event σ Unit} {f : Fault} (hx : R x x')
    (hf : f.isException = true) (speaks : f.Speaks) :
    R (if status = 0 then x else fail f) (if status = 0 then x' else fail f) := by
  split
  · exact hx
  · exact h.failing hf speaks

theorem Step.runShell_paired (s : Step) : R (s.runShell c t) (s.runShell c' t) := by
  unfold runShell
  induction s.run with
  | nil => exact h.giving ()
  | cons x xs ih =>
    exact h.following (h.running _ _ _) fun status =>
      h.checking ih rfl (Fault.speaks_of_status rfl)

theorem ScriptInstaller.install_paired (i : ScriptInstaller) :
    R (i.install c t) (i.install c' t) := by
  have asked : R (i.isInstalled t) (i.isInstalled t) := h.probing _ _ _
  have fetched : R (i.fetch c t) (i.fetch c' t) := h.requiring _ fun command =>
    h.following (h.running _ _ _) fun status =>
      h.checking (h.giving ()) rfl (Fault.speaks_of_status rfl)
  have ran : R (i.runScript c t) (i.runScript c' t) := h.requiring _ fun command =>
    h.following (h.running _ _ _) fun status =>
      h.checking (h.giving ()) rfl (Fault.speaks_of_status rfl)
  refine h.following asked fun present => h.following ?_ fun _ =>
    h.following fetched fun _ => h.following ran fun _ => h.following asked fun found => ?_
  · split
    · exact h.announcing i
    · exact h.giving ()
  · split
    · exact h.giving ()
    · exact h.failing rfl (Fault.speaks_of_status rfl)

theorem Installer.install_paired (i : Installer) : R (i.install c t) (i.install c' t) := by
  cases i with
  | script i => exact i.install_paired h
  | noop => exact h.remarking _
  | unspecified => exact h.failing rfl (Fault.speaks_of_foreign rfl)

theorem Stage.run_paired (s : Stage) (project : Option String) :
    R (s.run c t project) (s.run c' t project) := by
  unfold run
  induction s.substeps with
  | nil => exact h.giving ()
  | cons x xs ih =>
    exact h.requiring _ fun pair => h.following (h.showing _ _) fun _ =>
      h.following (h.running _ _ _) fun status => h.checking ih rfl (Fault.speaks_of_status rfl)

theorem Step.perform_paired (settings : Settings) (s : Step) :
    R (s.perform settings c t) (s.perform settings c' t) := by
  unfold perform
  split
  · exact h.requiring _ fun data => Installer.install_paired h _
  · exact h.requiring _ fun data => h.requiring _ fun stage => stage.run_paired h _
  · exact s.runShell_paired h

end Paired

/-- A property that the parts of every body have in a target, and that sequences of such parts
keep. -/
structure Composed (c : Console) (t : Target σ)
    (P : ∀ {α : Type}, Activity Event σ α → Prop) : Prop where
  giving {α : Type} (a : α) : P (pure a : Activity Event σ α)
  failing {α : Type} {f : Fault} (h : f.isException = true) : P (fail f : Activity Event σ α)
  writing {entries : List Event} (h : Written entries) : P (record entries : Activity Event σ Unit)
  running (x : String) (p : Privilege) (cwd : Option String) : P (runInstruction c t x p cwd)
  probing (tool envFile : Value) (p : Privilege) : P (t.hasTool tool envFile p)
  following {α β : Type} {x : Activity Event σ α} {f : α → Activity Event σ β} (hx : P x)
    (hf : ∀ a, P (f a)) : P (x >>= f)

section Composed

variable {c : Console} {t : Target σ} {P : ∀ {α : Type}, Activity Event σ α → Prop}
  (h : Composed c t P)

include h

theorem Composed.paired : Paired c c t fun x _ => P x where
  giving := h.giving
  failing hf _ := h.failing hf
  announcing _ := h.writing (Console.written_info _)
  showing _ _ := h.writing (Console.written_substep _ _)
  remarking _ := h.writing (c.written_debugLine _)
  running := h.running
  probing := h.probing
  following hx hf := h.following hx hf

theorem Stage.run_composed (s : Stage) (project : Option String) : P (s.run c t project) :=
  s.run_paired h.paired project

theorem Step.perform_composed (settings : Settings) (s : Step) : P (s.perform settings c t) :=
  s.perform_paired h.paired settings

end Composed
end Provisioning
