import Provisioning.Target.Host
import Provisioning.Text.Lines

/-!
A virtual machine as a target, by way of the `vagrant` program in the directory of its
configuration. Status output is read as records of a timestamp, a target, a type and data; the
machine's state is the data of the first `state` record.
-/
namespace Provisioning

structure Machine where
  directory : String
  name : String
  workdir : Option String

namespace Machine

variable {σ : Type}

def targetName (m : Machine) : String := "vagrant:" ++ m.name

def stateOf (output : String) : Option String :=
  (Text.lines output.toList).findSome? fun line =>
    match (Text.fields ',' line).map String.ofList with
    | _ :: _ :: "state" :: data :: _ => some data
    | _ => none

def call (m : Machine) (arguments : List String) (captured : Bool) : Call where
  command := .words ("vagrant" :: arguments)
  cwd := some m.directory
  captured := captured
  environ := none

def statusCall (m : Machine) : Call := m.call ["status", m.name, "--machine-readable"] true

def sshCall (m : Machine) (line : String) : Call := m.call ["ssh", m.name, "-c", line] false

def bootCall (m : Machine) (environ : Environ) (box : Option String) : Call :=
  let withBox := match box with
    | none | some "" => environ
    | some b => Keyed.set "VMBUILD_BASE_BOX" b environ
  { m.call ["up", m.name] false with
    environ := some (Keyed.set "VMBUILD_GUEST_PATH" m.workdir withBox.values) }

def notInstalled (m : Machine) : Fault := .unavailable m.targetName "vagrant not installed"

def bootFailed (m : Machine) (status : Int) : Fault :=
  .unavailable m.targetName ("vagrant up failed (exit=" ++ toString status ++ ")")

def lost (m : Machine) : Fault := .unavailable m.targetName "lost during instruction"

def state (w : World σ) (m : Machine) : Inquiry σ (Option String) := do
  match ← w.run m.statusCall with
  | .missing => return none
  | .interrupted => Activity.fail (.interrupted "")
  | .exited status output => return if status = 0 then stateOf output else none

def isRunning (w : World σ) (m : Machine) : Inquiry σ Bool := do
  return (← m.state w) = some "running"

def boot (w : World σ) (environ : Environ) (m : Machine) (box : Option String) :
    Inquiry σ Unit := do
  match ← w.run (m.bootCall environ box) with
  | .missing => Activity.fail m.notInstalled
  | .interrupted => Activity.fail (.interrupted "")
  | .exited status _ =>
    if status = 0 then return () else Activity.fail (m.bootFailed status)

/-- Runs a line inside the machine. Status 255 is also how the connection reports that it was
lost, so the machine is asked again before it is believed. -/
def ssh (w : World σ) (m : Machine) (line : String) : Inquiry σ Int := do
  match ← w.run (m.sshCall line) with
  | .missing => Activity.fail m.notInstalled
  | .interrupted => Activity.fail (.interrupted "")
  | .exited status _ =>
    if status = 255 then
      if ← m.isRunning w then return status else Activity.fail m.lost
    else return status

def target (w : World σ) (m : Machine) : Target σ where
  name := m.targetName
  workdir := m.workdir
  isRoot := false
  available := m.isRunning w
  perform := m.ssh w

end Machine
end Provisioning
