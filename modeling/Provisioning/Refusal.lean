import Provisioning.Pipeline.State
import Provisioning.Text.Quoted

/-!
Why an input is refused. Each constructor is one cause; `Refusal.message` gives its wording and
`Refusal.kind` the class it is reported under, which decides who handles it.
-/
namespace Provisioning

inductive FaultKind
  | value
  | type
  | runtime
  | missingFile
  | system
  | unsupported
  | loading
  | attribute
  deriving DecidableEq, Repr

def FaultKind.label : FaultKind → String
  | .value => "ValueError"
  | .type => "TypeError"
  | .runtime => "RuntimeError"
  | .missingFile => "FileNotFoundError"
  | .system => "OSError"
  | .unsupported => "NotImplementedError"
  | .loading => "ImportError"
  | .attribute => "AttributeError"

inductive Refusal
  | unordered (later earlier : String)
  | notIterable (type : String)
  | notUnpackable (type : String)
  | tooFew (found : Nat)
  | tooMany
  | notText (type : String)
  | notTextAt (index : Nat) (type : String)
  | notJoinable
  | notAKey (type : String)
  | numberTooLong
  | notAPath (type : String)
  | unknownPrivilege (word : String)
  | unknownState (word : String)
  | noCommands (step : String)
  | emptyPipeline
  | notAStep (type : String)
  | duplicateStep (name : String)
  | unknownKind (step kind : String)
  | noInstructions (step : String)
  | noSubsteps
  | alreadyRun (state : Pipeline.State)
  | noHome
  | programMissing (program : String)
  | fileMissing (path : String)
  | nameTooLong (path : String)
  | nulInPath
  | notAPipelineFile (name : String)
  | directoryLoaded (path : String)
  | missingArguments (callee : String) (positional : Bool) (names : List String)
  | nameCollision
  | notStepList
  | unsupported
  | lacks (type member : String)
  deriving DecidableEq, Repr

namespace Refusal

def kind : Refusal → FaultKind
  | .unordered .. | .notIterable _ | .notUnpackable _ | .notText _ | .notTextAt .. | .notJoinable
  | .notAKey _ | .notAPath _ | .notAStep _ | .missingArguments .. | .nameCollision
  | .notStepList => .type
  | .tooFew _ | .tooMany | .unknownPrivilege _ | .unknownState _ | .noCommands _ | .emptyPipeline
  | .duplicateStep _ | .unknownKind .. | .noInstructions _ | .noSubsteps
  | .notAPipelineFile _ | .nulInPath | .numberTooLong => .value
  | .alreadyRun _ | .noHome => .runtime
  | .programMissing _ | .fileMissing _ => .missingFile
  | .nameTooLong _ => .system
  | .directoryLoaded _ => .loading
  | .unsupported => .unsupported
  | .lacks .. => .attribute

def spokenList (names : List String) : String :=
  match names.map Text.quoted with
  | [] => ""
  | [a] => a
  | [a, b] => a ++ " and " ++ b
  | many => String.intercalate ", " many.dropLast ++ ", and " ++ many.getLast?.getD ""

def message : Refusal → String
  | .unordered later earlier =>
    "'<' not supported between instances of '" ++ later ++ "' and '" ++ earlier ++ "'"
  | .notIterable type => "'" ++ type ++ "' object is not iterable"
  | .notUnpackable type => "cannot unpack non-iterable " ++ type ++ " object"
  | .tooFew found =>
    "not enough values to unpack (expected 2, got " ++ toString found ++ ")"
  | .tooMany => "too many values to unpack (expected 2)"
  | .notText type => "expected string or bytes-like object, got '" ++ type ++ "'"
  | .notTextAt index type =>
    "sequence item " ++ toString index ++ ": expected str instance, " ++ type ++ " found"
  | .notJoinable => "can only join an iterable"
  | .notAKey type => "unhashable type: '" ++ type ++ "'"
  | .numberTooLong =>
    "Exceeds the limit (4300 digits) for integer string conversion; " ++
      "use sys.set_int_max_str_digits() to increase the limit"
  | .notAPath type => "expected str, bytes or os.PathLike object, not " ++ type
  | .unknownPrivilege word => Text.quoted word ++ " is not a valid Privilege"
  | .unknownState word => Text.quoted word ++ " is not a valid PipelineState"
  | .noCommands step => "sh(" ++ Text.quoted step ++ ") must have at least one command"
  | .emptyPipeline => "pipeline must have at least one step"
  | .notAStep type => "pipeline entries must be Step, got " ++ type
  | .duplicateStep name => "Duplicate step name: " ++ name
  | .unknownKind step kind => "Step '" ++ step ++ "' has unknown kind " ++ Text.quoted kind
  | .noInstructions step => "Step '" ++ step ++ "' has no instructions"
  | .noSubsteps => "BuildTestStage needs at least one substep"
  | .alreadyRun state => "pipeline already " ++ state.word ++ "; build a new one to run again"
  | .noHome => "Could not determine home directory."
  | .programMissing program =>
    "[Errno 2] No such file or directory: " ++ Text.quoted program
  | .fileMissing path => "Pipeline file not found: " ++ path
  | .nameTooLong path => "[Errno 36] File name too long: " ++ Text.quoted path
  | .nulInPath => "embedded null byte"
  | .notAPipelineFile name => "Pipeline must be a .py file, got: " ++ name
  | .directoryLoaded path => "can't find '__main__' module in " ++ Text.quoted path
  | .missingArguments callee positional names =>
    callee ++ "() missing " ++ toString names.length ++ " required " ++
      (if positional then "positional" else "keyword-only") ++
      (if names.length = 1 then " argument: " else " arguments: ") ++ spokenList names
  | .nameCollision =>
    "Your pipeline() is being called with arguments (name collision with the helper). " ++
      "Use the `pl` helper instead: `from vmbuild.dsl import pl` then " ++
      "`def pipeline(): return pl(sudo(...), build_test(...))`"
  | .notStepList =>
    "Pipeline must return/define a List[Step]. " ++
      "Define pipeline() -> List[Step] or STEPS = [Step, ...]."
  | .unsupported => ""
  | .lacks type member => "'" ++ type ++ "' object has no attribute '" ++ member ++ "'"

end Refusal
end Provisioning
