/-!
The life of a pipeline: it is built, runs once, and ends in one of two states that it never leaves.
-/
namespace Provisioning.Pipeline

inductive State
  | notStarted
  | running
  | succeeded
  | failed
  deriving DecidableEq, Repr

def State.word : State → String
  | .notStarted => "not_started"
  | .running => "running"
  | .succeeded => "succeeded"
  | .failed => "failed"

def State.ofWord? : String → Option State
  | "not_started" => some .notStarted
  | "running" => some .running
  | "succeeded" => some .succeeded
  | "failed" => some .failed
  | _ => none

theorem State.ofWord?_word (s : State) : State.ofWord? s.word = some s := by cases s <;> rfl

end Provisioning.Pipeline
