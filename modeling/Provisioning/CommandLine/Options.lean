import Provisioning.Refusal
import Provisioning.Text.Similarity

/-!
Reading an argument list. Options start with a hyphen and may stand between the other arguments; a
value follows its option or an equals sign, and a lone double hyphen ends the options. Of an option
given several times the last value counts. Asking for help takes precedence over every complaint
about a value or an argument too many, but not over an option that cannot be read. A name that is
not known is answered with the known ones that it is close to.
-/
namespace Provisioning.CommandLine

inductive Shape
  | text
  | choice (allowed : List String)
  | flag
  | toggle (off : String)
  deriving DecidableEq, Repr

structure OptionSpec where
  long : String
  shape : Shape
  help : String
  shown : Option String := none

inductive Setting
  | text (value : String)
  | on (given : Bool)
  deriving DecidableEq, Repr

abbrev Given := List (String × Setting)

namespace Given

def last? (g : Given) (long : String) : Option Setting :=
  (g.findRev? fun e => e.1 == long).map (·.2)

def has (g : Given) (long : String) : Bool := g.any fun e => e.1 == long

def text? (g : Given) (long : String) : Option String :=
  match g.last? long with
  | some (.text v) => some v
  | _ => none

def on (g : Given) (long : String) (fallback : Bool) : Bool :=
  match g.last? long with
  | some (.on b) => b
  | _ => fallback

end Given

inductive UsageError
  | noSuchOption (name : String) (close : List String)
  | noArgument (name : String)
  | noValueTaken (name : String)
  | badChoice (name value : String) (allowed : List String)
  | extraArguments (arguments : List String)
  | missingCommand
  | noSuchCommand (name : String) (close : List String)
  | builtinOnly (options : List String) (path : String)
  deriving DecidableEq, Repr

namespace UsageError

def hint : List String → String
  | [] => ""
  | [name] => " Did you mean " ++ Text.quoted name ++ "?"
  | names =>
    " (Did you mean one of: " ++ String.intercalate ", " (names.map Text.quoted) ++ "?)"

def message : UsageError → String
  | .noSuchOption name close => "No such option " ++ Text.quoted name ++ "." ++ hint close
  | .noArgument name => "Option " ++ Text.quoted name ++ " requires an argument."
  | .noValueTaken name => "Option " ++ Text.quoted name ++ " does not take a value."
  | .badChoice name value allowed =>
    "Invalid value for " ++ Text.quoted name ++ ": " ++ Text.quoted value ++ " is not one of " ++
      String.intercalate ", " (allowed.map Text.quoted) ++ "."
  | .extraArguments [a] => "Got unexpected extra argument (" ++ a ++ ")"
  | .extraArguments many =>
    "Got unexpected extra arguments (" ++ String.intercalate " " many ++ ")"
  | .missingCommand => "Missing command."
  | .noSuchCommand name close => "No such command " ++ Text.quoted name ++ "." ++ hint close
  | .builtinOnly options path =>
    String.intercalate ", " options ++ " only apply to the built-in pipeline, but " ++ path ++
      " was loaded. Edit the pipeline file instead."

def showsUsage : UsageError → Bool
  | .noArgument _ | .noValueTaken _ => false
  | _ => true

end UsageError

inductive Argument
  | terminator
  | plain (text : String)
  | option (name : String) (value : Option String)

namespace Argument

def splitEquals (cs : List Char) : String × Option String :=
  let name := cs.takeWhile (· ≠ '=')
  let rest := cs.drop name.length
  (String.ofList name, if rest.isEmpty then none else some (String.ofList (rest.drop 1)))

/-- Arguments with a single hyphen are read as one-letter options. -/
def classify (a : String) : Argument :=
  match a.toList with
  | ['-', '-'] => .terminator
  | '-' :: '-' :: cs =>
    let (name, value) := splitEquals ('-' :: '-' :: cs)
    .option name value
  | '-' :: c :: _ => .option (String.ofList ['-', c]) none
  | _ => .plain a

end Argument

def findOption (specs : List OptionSpec) (name : String) : Option (OptionSpec × Bool) :=
  specs.findSome? fun o =>
    if o.long = name then some (o, true)
    else match o.shape with
      | .toggle off => if off = name then some (o, false) else none
      | _ => none

def OptionSpec.names (o : OptionSpec) : List String :=
  match o.shape with
  | .toggle off => [o.long, off]
  | _ => [o.long]

def unknownOption (specs : List OptionSpec) (name : String) : UsageError :=
  .noSuchOption name
    (if "--".isPrefixOf name then Text.closest name (specs.flatMap OptionSpec.names) else [])

def Shape.takesValue : Shape → Bool
  | .text | .choice _ => true
  | _ => false

structure Parsed where
  given : Given
  rest : List String

def Parsed.withSetting (long : String) (v : Setting) (p : Parsed) : Parsed :=
  { p with given := (long, v) :: p.given }

def Parsed.withPlain (a : String) (p : Parsed) : Parsed := { p with rest := a :: p.rest }

/-- Reads options and arguments. Unless arguments may stand between options, the first argument
ends the options. -/
def parse (specs : List OptionSpec) (interspersed : Bool) :
    List String → Except UsageError Parsed
  | [] => .ok ⟨[], []⟩
  | a :: rest =>
    match Argument.classify a with
    | .terminator => .ok ⟨[], rest⟩
    | .plain _ =>
      if interspersed then Parsed.withPlain a <$> parse specs interspersed rest
      else .ok ⟨[], a :: rest⟩
    | .option name value =>
      match findOption specs name with
      | none => .error (unknownOption specs name)
      | some (o, on) =>
        if o.shape.takesValue then
          match value with
          | some v => Parsed.withSetting o.long (.text v) <$> parse specs interspersed rest
          | none =>
            match rest with
            | v :: more => Parsed.withSetting o.long (.text v) <$> parse specs interspersed more
            | [] => .error (.noArgument name)
        else
          match value with
          | some _ => .error (.noValueTaken name)
          | none => Parsed.withSetting o.long (.on on) <$> parse specs interspersed rest

def badChoice? (specs : List OptionSpec) (g : Given) : Option UsageError :=
  specs.findSome? fun o =>
    match o.shape, g.text? o.long with
    | .choice allowed, some v =>
      if allowed.contains v then none else some (.badChoice o.long v allowed)
    | _, _ => none

def helpOption : OptionSpec :=
  { long := "--help", shape := .flag, help := "Show this message and exit." }

inductive Reading
  | help
  | refused (e : UsageError)
  | accepted (g : Given)

def readCommand (specs : List OptionSpec) (arguments : List String) : Reading :=
  match parse (specs ++ [helpOption]) true arguments with
  | .error e => .refused e
  | .ok p =>
    if p.given.has helpOption.long then .help
    else match badChoice? specs p.given with
      | some e => .refused e
      | none => if p.rest.isEmpty then .accepted p.given else .refused (.extraArguments p.rest)

end Provisioning.CommandLine
