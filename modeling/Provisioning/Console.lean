import Provisioning.Event
import Provisioning.Pipeline.Outcome
import Provisioning.Text.Lines

/-!
The texts that provisioning prints. With debugging on, a failure is printed with its whole reason,
a fault with its traceback, and every instruction is shown before it runs.
-/
namespace Provisioning

structure Console where
  debug : Bool := false

namespace Console

open Event (outLine errLine)

def header (title : String) : List Event :=
  [outLine ("\n" ++ title), outLine (String.ofList (List.replicate title.length '-'))]

def runStarted (target pipeline : String) (steps : Int) : List Event :=
  [outLine "\nRUN STARTED", outLine ("Target: " ++ target), outLine ("Pipeline: " ++ pipeline),
    outLine ("Steps: " ++ toString steps), outLine ""]

def planStep (number : Int) (name privilege kind : String) : List Event :=
  [outLine ("  " ++ toString number ++ ". " ++ name ++ " [" ++ privilege ++ "] (" ++ kind ++ ")")]

def digitLimit : Nat := 4300

def planStepAt (index : Int) (name privilege kind : String) : Except Refusal (List Event) :=
  let number := index + 1
  if digitLimit < (Nat.toDigits 10 number.natAbs).length then .error .numberTooLong
  else .ok (planStep number name privilege kind)

def stepHeader (name privilege : String) : List Event :=
  [outLine ("\nSTEP: " ++ name ++ " [" ++ privilege ++ "]")]

def substep (name command : String) : List Event :=
  [outLine ("  ▶ " ++ name ++ ": " ++ command)]

def success : List Event := [outLine "STATUS: success"]

def reasonLine (c : Console) (reason : String) : String :=
  if c.debug then "Error details: " ++ reason
  else "Error: " ++ (if reason = "" then "Unknown error" else Text.firstLine reason)

def failure (c : Console) (name reason : String) (status : Option Int) (hint : Option String) :
    List Event :=
  [outLine ("STEP FAILED: " ++ name)] ++
    (match status with
      | none => []
      | some n => [outLine ("Exit code: " ++ toString n)]) ++
    (match hint with
      | none | some "" => []
      | some h => [outLine ("Hint: " ++ h)]) ++
    [outLine (c.reasonLine reason)]

def rule : String := String.ofList (List.replicate 40 '=')

def resultLine (error : Option Fault) (name : String) : Event :=
  let failed := (error.bind Fault.failedStep?) = some name
  outLine ("  " ++ name ++ ": " ++ (if failed then "FAILED" else "SUCCESS"))

def results (o : Pipeline.Outcome) : List Event :=
  [outLine ("\n" ++ rule), outLine "RESULTS", outLine rule] ++
    o.executed.map (resultLine o.error) ++
    [if o.ok then outLine "\nPipeline succeeded"
      else outLine ("\nPipeline failed: " ++ (o.error.map Fault.message).getD "None")]

def error (title message : String) (details : List String) (suggestion : Option String) :
    List Event :=
  [errLine ("\nERROR: " ++ title), errLine message] ++
    details.map (fun d => errLine ("  " ++ d)) ++
    (match suggestion with
      | none | some "" => []
      | some s => [errLine ("\n" ++ s)])

def fault (c : Console) (handled : Option Fault) (f : Fault) : List Event :=
  if c.debug then [.traceback handled] else [errLine ("Error: " ++ f.message)]

def info (message : String) : List Event := [outLine message]

def debugLine (c : Console) (message : String) : List Event :=
  if c.debug then [errLine ("[DEBUG] " ++ message)] else []

end Console
end Provisioning
