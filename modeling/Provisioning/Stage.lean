import Provisioning.Installer
import Provisioning.Recipe

/-!
The build-and-test stage: its substeps in order, in the project directory, up to the first that
fails. A substep is a name and a command, and is only taken apart when its turn comes.
-/
namespace Provisioning

structure Stage where
  substeps : List Value
  envFile : Value
  privilege : Privilege

namespace Stage

variable {σ : Type}

def substepsOf : Value → Except Refusal (List Value)
  | .null => (Recipe.substepValues defaultSubsteps).items
  | v => v.items

def make (substeps : Value) (envFile : Value) (p : Privilege) : Except Refusal Stage := do
  let chosen ← substepsOf substeps
  if chosen.isEmpty then .error .noSubsteps
  else return { substeps := chosen, envFile, privilege := p }

def runSubsteps (c : Console) (t : Target σ) (s : Stage) (project : Option String) :
    List Value → Activity Event σ Unit
  | [] => return ()
  | substep :: rest => do
    let (name, command) ← Activity.require substep.pair
    Activity.record (Console.substep name.display command.display)
    let status ← runInstruction c t (Shell.sourced s.envFile command.display) s.privilege project
    if status = 0 then runSubsteps c t s project rest
    else Activity.fail (.buildFailed name command status)

def run (c : Console) (t : Target σ) (s : Stage) (project : Option String) :
    Activity Event σ Unit :=
  s.runSubsteps c t project s.substeps

def tupled : Value → Except Refusal Value
  | .null => .ok .null
  | v => do return .list (← (← v.items).mapM fun s => Value.tuple <$> s.items)

def ofConfig (data : Config) (p : Privilege) : Except Refusal Stage := do
  make (← tupled (data.getD "substeps" .null)) (data.getD "env_file" defaultEnvFile) p

end Stage
end Provisioning
