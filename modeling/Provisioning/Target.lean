import Provisioning.Event
import Provisioning.Privilege
import Provisioning.Shell.Line

/-!
A target is where instructions run. It says whether it is available and takes shell lines; how it
does so is its own affair, and all that it can leave in a trace is child processes. Which directory
a line runs in and whether it is elevated is decided here, the same way for every target.
-/
namespace Provisioning

abbrev Inquiry (σ α : Type) : Type := Activity Exchange σ α

structure Target (σ : Type) where
  name : String
  workdir : Option String
  isRoot : Bool
  available : Inquiry σ Bool
  perform : String → Inquiry σ Int

def firstDirectory (first second : Option String) : Option String :=
  match first with
  | none | some "" => second
  | some d => some d

namespace Target

variable {σ : Type}

def wrap (t : Target σ) (instruction : String) (p : Privilege) (cwd : Option String) : String :=
  let line := match firstDirectory cwd t.workdir with
    | none | some "" => instruction
    | some d => Shell.enter d instruction
  if p = .elevated && !t.isRoot then Shell.elevate line else line

def isAvailable (t : Target σ) : Activity Event σ Bool := do
  let answer ← (t.available.rename Event.exchanged).attempt
  Activity.record [.asked answer]
  Activity.conclude answer

def checkAvailable (t : Target σ) : Activity Event σ Unit := do
  if ← t.isAvailable then return ()
  else Activity.fail (.unavailable t.name "not reachable")

def handOver (t : Target σ) (line : String) : Activity Event σ Int := do
  let answer ← ((t.perform line).rename Event.exchanged).attempt
  Activity.record [.ran line answer]
  Activity.conclude answer

def run (t : Target σ) (instruction : String) (p : Privilege) (cwd : Option String) :
    Activity Event σ Int :=
  t.handOver (t.wrap instruction p cwd)

def probe (tool envFile : Value) : Except Refusal String := do
  return Shell.sourced envFile ("command -v " ++ (← Shell.quoteValue tool) ++ " >/dev/null 2>&1")

/-- Asks for a tool; the answer is never kept, every question is put anew. -/
def hasTool (t : Target σ) (tool envFile : Value) (p : Privilege) : Activity Event σ Bool := do
  let command ← Activity.require (probe tool envFile)
  t.checkAvailable
  return (← t.run command p (some "/")) = 0

def describe (t : Target σ) (className : String) : String :=
  className ++ "(name=" ++ Text.quoted t.name ++ ", workdir=" ++
    (match t.workdir with
      | none => "None"
      | some d => Text.quoted d) ++ ")"

end Target
end Provisioning
