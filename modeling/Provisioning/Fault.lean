import Provisioning.Value

/-!
What can go wrong. The first eight constructors are the failures of provisioning itself, which a
pipeline run catches and reports; a refusal and what a pipeline file raises pass through it, an
interrupt and an exit among them.
-/
namespace Provisioning

/-- What ends the process with a status of its own: a request to exit, or a fault that whatever
reads the options shows itself before it exits. -/
inductive ExitRequest
  | silent
  | code (n : Int)
  | telling (text : String)
  | shown (text : String) (code : Int)
  deriving DecidableEq, Repr

namespace ExitRequest

/-- The status that the process ends with. Of a code it is the last byte, if the code fits in a
machine word. -/
def status : ExitRequest → Int
  | .silent => 0
  | .code n | .shown _ n =>
    if -0x8000000000000000 ≤ n ∧ n < 0x8000000000000000 then n % 256 else 255
  | .telling _ => 1

def message : ExitRequest → String
  | .silent => ""
  | .code n => toString n
  | .telling text | .shown text _ => text

end ExitRequest

inductive Fault
  | general (message : String)
  | unavailable (target reason : String)
  | installation (message : String)
  | fetchFailed (url : String) (status : Int)
  | scriptFailed (url : String) (status : Int) (detail : String)
  | buildFailed (substep command : Value) (status : Int)
  | stepFailed (step : String) (command : Value) (status : Int)
  | pipelineFailed (step : Option String) (cause : Fault) (details : List (String × Value))
  | refused (cause : Refusal)
  | raised (kind : FaultKind) (message : String)
  | interrupted (message : String)
  | exiting (request : ExitRequest)
  deriving Inhabited, Repr

namespace Fault

def isProvisioning : Fault → Bool
  | .refused _ | .raised .. | .interrupted _ | .exiting _ => false
  | _ => true

/-- Whether a fault is not meant to end the whole program. -/
def isException : Fault → Bool
  | .interrupted _ | .exiting _ => false
  | _ => true

def isInterrupt : Fault → Bool
  | .interrupted _ => true
  | _ => false

def kind? : Fault → Option FaultKind
  | .refused cause => some cause.kind
  | .raised kind _ => some kind
  | _ => none

def label : Fault → String
  | .general _ => "VMBuildError"
  | .unavailable .. => "EnvironmentUnavailable"
  | .installation _ => "InstallError"
  | .fetchFailed .. => "NetworkFetchFailed"
  | .scriptFailed .. => "InstallScriptFailed"
  | .buildFailed .. => "BuildError"
  | .stepFailed .. => "StepFailure"
  | .pipelineFailed .. => "PipelineError"
  | .refused cause => cause.kind.label
  | .raised kind _ => kind.label
  | .interrupted _ => "KeyboardInterrupt"
  | .exiting _ => "SystemExit"

def classes : Fault → List String
  | .refused _ | .raised .. | .interrupted _ | .exiting _ => []
  | .general _ => ["VMBuildError"]
  | .installation _ => ["InstallError", "VMBuildError"]
  | f@(.fetchFailed ..) | f@(.scriptFailed ..) => [f.label, "InstallError", "VMBuildError"]
  | f => [f.label, "VMBuildError"]

def statusNote (status : Int) : String := "(exit=" ++ toString status ++ ")"

def place (step : Option String) : String :=
  match step with
  | none | some "" => "before first step"
  | some name => "step '" ++ name ++ "'"

def message : Fault → String
  | .general message => message
  | .unavailable target reason => "environment '" ++ target ++ "' unavailable: " ++ reason
  | .installation message => message
  | .fetchFailed url status =>
    "could not fetch installer from " ++ url ++ " " ++ statusNote status
  | .scriptFailed url status detail =>
    "installer from " ++ url ++ " failed " ++ statusNote status ++
      (if detail = "" then "" else ": " ++ detail)
  | .buildFailed substep command status =>
    "build substep '" ++ substep.display ++ "' failed " ++ statusNote status ++ ": " ++
      command.display
  | .stepFailed step command status =>
    "step '" ++ step ++ "' failed " ++ statusNote status ++ ": " ++ command.display
  | .pipelineFailed step cause details =>
    String.intercalate "\n"
      ((cause.label ++ " at " ++ place step ++ ": " ++ cause.message) ::
        details.map fun d => d.1 ++ "=" ++ d.2.display)
  | .refused cause => cause.message
  | .raised _ message => message
  | .interrupted message => message
  | .exiting request => request.message

def status? : Fault → Option Int
  | .fetchFailed _ status | .scriptFailed _ status _ | .buildFailed _ _ status
  | .stepFailed _ _ status => some status
  | _ => none

def failedStep? : Fault → Option String
  | .pipelineFailed step .. => step
  | _ => none

def same : Fault → Fault → Bool
  | .unavailable t r, .unavailable t' r' => t == t' && r == r'
  | .fetchFailed u s, .fetchFailed u' s' => u == u' && s == s'
  | .scriptFailed u s d, .scriptFailed u' s' d' => u == u' && s == s' && d == d'
  | .buildFailed b c s, .buildFailed b' c' s' => b.same b' && c.same c' && s == s'
  | .stepFailed n c s, .stepFailed n' c' s' => n == n' && c.same c' && s == s'
  | .pipelineFailed n c ds, .pipelineFailed n' c' ds' =>
    n == n' && same c c' && (Value.record ds).same (.record ds')
  | _, _ => false

end Fault
end Provisioning
