import Provisioning.Privilege
import Provisioning.Value.Freeze

/-!
A step is one named unit of provisioning. Its data is given as a record or as pairs in any order
and is kept frozen and sorted by key.
-/
namespace Provisioning

inductive StepKind
  | shell
  | toolchain
  | buildTest
  deriving DecidableEq, Repr

def StepKind.word : StepKind → String
  | .shell => "sh"
  | .toolchain => "toolchain"
  | .buildTest => "build-test"

def StepKind.ofWord? : String → Option StepKind
  | "sh" => some .shell
  | "toolchain" => some .toolchain
  | "build-test" => some .buildTest
  | _ => none

theorem StepKind.ofWord?_word (k : StepKind) : StepKind.ofWord? k.word = some k := by
  cases k <;> rfl

/-- The data of a step by key; of a repeated key the last entry counts. -/
abbrev Config := List (Value × Value)

namespace Config

def get? (c : Config) (key : String) : Option Value :=
  (c.findRev? fun e => e.1.same (.text key)).map (·.2)

def getD (c : Config) (key : String) (fallback : Value) : Value :=
  (c.get? key).getD fallback

def requireKeys (c : Config) : Except Refusal Unit := c.forM fun e => e.1.requireKey

def distinct : Config → Config
  | [] => []
  | e :: es =>
    let rest := distinct es
    match rest.find? fun f => f.1.same e.1 with
    | none => e :: rest
    | some f => (e.1, f.2) :: rest.filter fun g => !g.1.same e.1

def ofRecord (es : List (String × Value)) : Config :=
  es.map fun e => (.text e.1, e.2)

def ofValue (data : Value) : Except Refusal Config :=
  match data with
  | .record es => .ok (ofRecord es)
  | v => if v.truthy then .error (.lacks v.typeName "get") else .ok []

end Config

structure Step where
  name : String
  run : List Value
  privilege : Privilege
  cwd : Option String
  kind : String
  data : Config

namespace Step

def entriesOf (data : Value) : Except Refusal Config :=
  match data with
  | .record es => .ok (Config.ofRecord es)
  | v => if v.truthy then do (← v.items).mapM Value.pair else .ok []

def freezeEntry (e : Value × Value) : Except Refusal (Value × Value) := do
  return (e.1, ← e.2.freeze)

def make (name : String) (run : Value) (privilege : Privilege) (cwd : Option String)
    (kind : String) (data : Value) : Except Refusal Step := do
  let run ← run.items
  let entries ← (← entriesOf data).mapM freezeEntry
  return { name, run, privilege, cwd, kind, data := ← Value.sortEntries entries }

def config (s : Step) : Except Refusal Config := do
  s.data.requireKeys
  return s.data.distinct

def requireKey (s : Step) : Except Refusal Unit := do
  s.run.forM Value.requireKey
  s.data.requireKeys

def same (s t : Step) : Bool :=
  s.name == t.name && Value.sameItems s.run t.run && s.privilege == t.privilege && s.cwd == t.cwd &&
    s.kind == t.kind && s.data.length == t.data.length &&
    (s.data.zip t.data).all fun p => p.1.1.same p.2.1 && p.1.2.same p.2.2

end Step
end Provisioning
