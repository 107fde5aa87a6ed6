import Provisioning.CommandLine.Help
import Provisioning.Console
import Provisioning.Recipe
import Provisioning.Target.Machine

/-!
What a command finds when it starts, and the target that its options select there: a machine or
this host. A machine is booted when it is selected, if that was asked for.
-/
namespace Provisioning.CommandLine

structure Surroundings where
  environ : Environ
  place : Place
  files : FileTree PipelineFile
  superuser : Option Bool

namespace Surroundings

def settings (u : Surroundings) : Settings := Settings.ofEnviron u.environ

def cwdText (u : Surroundings) : String := (Path.mk "/" u.place.cwd).toString

end Surroundings

structure Chosen (σ : Type) where
  target : Target σ
  machine : Option Machine

variable {σ : Type}

structure TargetChoice where
  target : String
  machineDir : String
  machine : String
  boot : Bool
  box : String
  guestPath : Option String

def TargetChoice.ofGiven (s : Settings) (g : Given) : TargetChoice where
  target := (g.text? "--target").getD "vagrant"
  machineDir := (g.text? "--vagrant-dir").getD s.machineDir
  machine := (g.text? "--machine").getD "default"
  boot := g.on "--boot" false
  box := (g.text? "--box").getD s.baseBox
  guestPath := g.text? "--guest-path"

def machineDirectory (place : Place) (given : String) : Except Refusal String := do
  return (← (← (Path.ofString given).expand place).resolve place).toString

def chooseTarget (u : Surroundings) (w : World σ) (o : TargetChoice) :
    Except Refusal (Chosen σ) := do
  if o.target = "vagrant" then
    let m : Machine := {
      directory := ← machineDirectory u.place o.machineDir
      name := o.machine
      workdir := some (firstGiven o.guestPath u.settings.guestPath) }
    return { target := m.target w, machine := some m }
  else
    let workdir ← Target.hostWorkdir u.place (firstGiven o.guestPath u.cwdText)
    return { target := Target.host w u.environ [] u.superuser (some workdir), machine := none }

def prepareTarget (u : Surroundings) (w : World σ) (o : TargetChoice) :
    Activity Event σ (Target σ) := do
  let chosen ← Activity.require (chooseTarget u w o)
  match chosen.machine with
  | some m =>
    if o.boot then
      Activity.record (Console.info ("Booting " ++ m.targetName ++ " (" ++ o.box ++ ")..."))
      (m.boot w u.environ (some o.box)).rename Event.exchanged
  | none => pure ()
  return chosen.target

end Provisioning.CommandLine
