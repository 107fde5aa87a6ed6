import Provisioning.CommandLine.Commands

/-!
The command line. A command ends with an exit code: 0 for success, 1 for an input that was refused
or a failed build, 2 for a usage error, 3 for an unavailable target, 10 and more for the step that
failed, and 130 for an interrupted run. An exit that a pipeline file asks for ends the program with
its own status. Any other fault that no command handles escapes.
-/
namespace Provisioning.CommandLine

variable {σ : Type}

def groupPath : String := program

def command? (u : Surroundings) (w : World σ) (c : Console) (name : String) :
    Option (CommandSpec × (Given → Activity Event σ Int)) :=
  if name = "run" then some (runCommand u.settings, run u w c)
  else if name = "plan" then some (planCommand u.settings, plan u c)
  else if name = "build" then some (buildCommand, build u w c)
  else if name = "install-toolchain" then some (installCommand u.settings, installToolchain u w c)
  else none

def printText (text : String) : Activity Event σ Int := do
  Activity.record [.out text]
  return 0

def runNamed (spec : CommandSpec) (action : Given → Activity Event σ Int)
    (arguments : List String) : Activity Event σ Int :=
  match readCommand spec.options arguments with
  | .help => printText spec.helpText
  | .refused e => usageError spec.usage spec.path e
  | .accepted g => action g

def looksLikeOption (name : String) : Bool :=
  match name.toList with
  | [] => false
  | c :: _ => !Text.isAlphanumeric c

def unknownCommand (u : Surroundings) (name : String) (arguments : List String) :
    Activity Event σ Int :=
  let complain := usageError groupUsage groupPath
    (.noSuchCommand name (Text.closest name ((commands u.settings).map (·.name))))
  if looksLikeOption name then
    match parse [debugOption, helpOption] false (name :: arguments) with
    | .error e => usageError groupUsage groupPath e
    | .ok p => if p.given.has helpOption.long then printText (groupHelp u.settings) else complain
  else complain

/-- The command line without the treatment of what ends the whole program. -/
def dispatch (u : Surroundings) (w : World σ) (arguments : List String) :
    Activity Event σ Int :=
  if arguments.isEmpty then do
    Activity.record [.err (groupHelp u.settings)]
    return 2
  else
    match parse [debugOption, helpOption] false arguments with
    | .error e => usageError groupUsage groupPath e
    | .ok p =>
      if p.given.has helpOption.long then printText (groupHelp u.settings)
      else
        let c : Console := { debug := p.given.on debugOption.long false }
        match p.rest with
        | [] => usageError groupUsage groupPath .missingCommand
        | name :: rest =>
          match command? u w c name with
          | some (spec, action) => runNamed spec action rest
          | none => unknownCommand u name rest

def parting : ExitRequest → List Event
  | .telling text => [Event.errLine text]
  | .shown text _ => [.err text]
  | _ => []

def depart (f : Fault) : Activity Event σ Int :=
  match f with
  | .interrupted _ => do
    Activity.record [.err "\nAborted!\n"]
    return 1
  | .exiting request => do
    Activity.record (parting request)
    return request.status
  | f => Activity.fail f

def execute (u : Surroundings) (w : World σ) (arguments : List String) :
    Activity Event σ Int := do
  match ← (dispatch u w arguments).attempt with
  | .ok code => return code
  | .error f => depart f

end Provisioning.CommandLine
