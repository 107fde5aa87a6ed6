import Provisioning.World

/-!
What happens during provisioning, in order: text on the two output streams, questions to the target
whether it is available, instruction lines handed to the target, and the child processes that these
start. A question or a line is entered once it is answered, behind the child processes that it
took.
-/
namespace Provisioning

inductive Event
  | out (text : String)
  | err (text : String)
  | traceback (handled : Option Fault)
  | exchanged (e : Exchange)
  | asked (answer : Except Fault Bool)
  | ran (line : String) (answer : Except Fault Int)

namespace Event

def outLine (text : String) : Event := .out (text ++ "\n")

def errLine (text : String) : Event := .err (text ++ "\n")

end Event
end Provisioning
