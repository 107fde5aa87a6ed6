import Provisioning.Pipeline.Validation
import Provisioning.Stage

/-!
A pipeline is an ordered list of steps that runs once against one target and stops at the first
step that fails. A failure of provisioning ends the run; any other fault escapes it and leaves the
pipeline running at the step where it arose.
-/
namespace Provisioning

structure Pipeline where
  steps : List Step
  state : Pipeline.State := .notStarted
  current : Option Nat := none
  result : Option Pipeline.Outcome := none

namespace Step

variable {σ : Type}

def perform (settings : Settings) (c : Console) (t : Target σ) (s : Step) :
    Activity Event σ Unit :=
  match StepKind.ofWord? s.kind with
  | some .toolchain => do
    let data ← Activity.require s.config
    (Installer.ofConfig settings data s.privilege).install c t
  | some .buildTest => do
    let project := firstDirectory s.cwd t.workdir
    let data ← Activity.require s.config
    let stage ← Activity.require (Stage.ofConfig data s.privilege)
    stage.run c t project
  | _ => s.runShell c t

end Step

namespace Pipeline

variable {σ : Type}

def make (entries : List Entry) : Except Refusal Pipeline := do
  return { steps := ← validate entries }

def finish (p : Pipeline) (o : Outcome) : Pipeline :=
  { p with state := o.state, result := some o }

def failureDetails (index : Nat) (s : Step) : List (String × Value) :=
  [("index", .int index), ("privilege", .text s.privilege.word)]

/-- Runs the steps that are left, the first of them being number `index`. The pipeline as it is
afterwards is given also when a fault escapes. -/
def runFrom (settings : Settings) (c : Console) (t : Target σ) (p : Pipeline) (index : Nat)
    (executed : List String) :
    List Step → Activity Event σ (Pipeline × Except Fault Outcome)
  | [] =>
    let o : Outcome := { state := .succeeded, executed }
    return (p.finish o, .ok o)
  | s :: rest => do
    let p := { p with current := some index }
    Activity.record (Console.stepHeader s.name s.privilege.word)
    let executed := executed ++ [s.name]
    match ← (s.perform settings c t).attempt with
    | .ok () => do
      Activity.record Console.success
      runFrom settings c t p (index + 1) executed rest
    | .error f =>
      if f.isProvisioning then do
        Activity.record (c.failure s.name f.message f.status? none)
        let o : Outcome := {
          state := .failed, executed, failedIndex := some index
          error := some (.pipelineFailed (some s.name) f (failureDetails index s)) }
        return (p.finish o, .ok o)
      else return (p, .error f)

def execute (settings : Settings) (c : Console) (t : Target σ) (p : Pipeline) :
    Activity Event σ (Pipeline × Except Fault Outcome) :=
  if p.state ≠ .notStarted then return (p, .error (.refused (.alreadyRun p.state)))
  else do
    match ← t.checkAvailable.attempt with
    | .ok () => runFrom settings c t { p with state := .running } 0 [] p.steps
    | .error f@(.unavailable ..) =>
      let o : Outcome := { state := .failed, error := some (.pipelineFailed none f []) }
      return (p.finish o, .ok o)
    | .error f => return (p, .error f)

end Pipeline
end Provisioning
