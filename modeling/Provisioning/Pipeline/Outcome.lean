import Provisioning.Fault

/-!
What one pipeline run came to, and the exit code that tells it to the shell.
-/
namespace Provisioning.Pipeline

structure Outcome where
  state : State
  executed : List String := []
  error : Option Fault := none
  failedIndex : Option Int := none

namespace Outcome

def ok (o : Outcome) : Bool := o.state == .succeeded

/-- Success is 0, a target that was unavailable before any step is 3, and step `i` failing is
`10 + i`, kept from passing 255 so that it never wraps round to 0. -/
def exitCode (o : Outcome) : Int :=
  if o.ok then 0
  else match o.failedIndex with
    | none => 3
    | some i => min (10 + i) 255

end Outcome
end Provisioning.Pipeline
