import Provisioning.Console
import Provisioning.Step
import Provisioning.Target

/-!
Running the instructions of a shell step. The target is asked before every instruction, and the
first one that does not exit with 0 fails the step.
-/
namespace Provisioning

variable {σ : Type}

def runInstruction (c : Console) (t : Target σ) (instruction : String) (p : Privilege)
    (cwd : Option String) : Activity Event σ Int := do
  t.checkAvailable
  Activity.record (c.debugLine (t.name ++ " [" ++ p.word ++ "] $ " ++ instruction))
  t.run instruction p cwd

namespace Step

def runInstructions (c : Console) (t : Target σ) (s : Step) :
    List Value → Activity Event σ Unit
  | [] => return ()
  | instruction :: rest => do
    let status ← runInstruction c t instruction.display s.privilege s.cwd
    if status = 0 then runInstructions c t s rest
    else Activity.fail (.stepFailed s.name instruction status)

def runShell (c : Console) (t : Target σ) (s : Step) : Activity Event σ Unit :=
  s.runInstructions c t s.run

end Step
end Provisioning
