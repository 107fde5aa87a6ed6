import Provisioning.Path
import Provisioning.Target

/-!
This host as a target. It is available as long as its working directory is a directory, and each
line runs in a shell that sees the process environment with the target's own variables set on top.
-/
namespace Provisioning.Target

variable {σ : Type}

def statusOf (call : Call) : Reply → Inquiry σ Int
  | .exited status _ => return status
  | .missing => Activity.fail (.refused (.programMissing call.command.program))
  | .interrupted => Activity.fail (.interrupted "")

def shellCall (environ : Environ) (line : String) : Call where
  command := .line line
  cwd := none
  captured := false
  environ := some environ.values

def hostWorkdir (place : Place) (given : String) : Except Refusal String :=
  return (← (Path.ofString given).expand place).toString

/-- Without account numbers (`none`) no process is the superuser. -/
def host (w : World σ) (environ own : Environ) (superuser : Option Bool)
    (workdir : Option String) : Target σ where
  name := "local"
  workdir := workdir
  isRoot := superuser.getD false
  available := match workdir with
    | none => Activity.fail (.refused (.notAPath Value.null.typeName))
    | some d => do Activity.require (← Activity.ask fun s => (w.isDirectory s d, s))
  perform := fun line => do
    let call := shellCall (Keyed.update environ own) line
    statusOf call (← w.run call)

end Provisioning.Target
