import Provisioning.CommandLine.Help
import Provisioning.Console

/-!
How a command ends that cannot go on. Faults of the expected classes, an interrupt, a pipeline file
that cannot be settled on and a usage error each have their report and their exit code; all other
faults escape.
-/
namespace Provisioning.CommandLine

variable {σ : Type}

def handle (c : Console) (f : Fault) : Activity Event σ Int :=
  match f with
  | .unavailable .. => do
    Activity.record (Console.error "Environment unavailable" f.message []
      (some "Start the VM first (vagrant up) or pass --boot."))
    return 3
  | f => do
    Activity.record (c.fault (some f) f)
    return 1

def isLoadFault (f : Fault) : Bool :=
  match f.kind? with
  | some .missingFile | some .type | some .value => true
  | _ => false

def guarded (c : Console) (expects : Fault → Bool) (x : Activity Event σ Int) :
    Activity Event σ Int := do
  match ← x.attempt with
  | .ok code => return code
  | .error f =>
    if f.isInterrupt then do
      Activity.record (Console.info "\nInterrupted by user")
      return 130
    else if expects f then handle c f
    else Activity.fail f

def fileMissing (asked : String) : List Event :=
  Console.error "Pipeline file not found" ("Could not find pipeline file: " ++ asked) []
    (some ("Create a pipeline file or specify a different path:\n" ++
      "  vmbuild run --pipeline my_pipeline.py"))

def filesAmbiguous (paths : List Path) : List Event :=
  Console.error "Multiple pipeline files found"
    "Found multiple pipeline files. Please specify which one to use:"
    [String.intercalate "\n" (paths.map fun p => "  " ++ p.toString)]
    (some ("Specify a pipeline explicitly:\n  vmbuild run --pipeline " ++ Discovery.defaultFile))

def usageError (usage path : String) (e : UsageError) : Activity Event σ Int := do
  Activity.record [.err (complaint usage path e)]
  return 2

end Provisioning.CommandLine
