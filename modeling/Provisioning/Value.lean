import Provisioning.Refusal
import Provisioning.Value.Double

/-!
Untyped values: what the data of a step and the contents of a pipeline file may hold. Numbers of all
kinds are compared by what they amount to, a truth value as 0 or 1. The order is partial: values of
unlike types, and two nulls or two records, have none.
-/
namespace Provisioning

inductive Value
  | null
  | bool (b : Bool)
  | int (n : Int)
  | double (x : Double)
  | text (s : String)
  | list (items : List Value)
  | tuple (items : List Value)
  | record (entries : List (String × Value))
  deriving Inhabited, Repr

namespace Value

def typeName : Value → String
  | .null => "NoneType"
  | .bool _ => "bool"
  | .int _ => "int"
  | .double _ => "float"
  | .text _ => "str"
  | .list _ => "list"
  | .tuple _ => "tuple"
  | .record _ => "dict"

/-- Whether a value counts as given: null, false, zero and whatever is empty do not. -/
def truthy : Value → Bool
  | .null => false
  | .bool b => b
  | .int n => n != 0
  | .double x => x.significand != 0
  | .text s => s != ""
  | .list xs | .tuple xs => !xs.isEmpty
  | .record es => !es.isEmpty

def orElse (v w : Value) : Value := if v.truthy then v else w

def number? : Value → Option Rat
  | .bool b => some (if b then 1 else 0)
  | .int n => some n
  | .double x => some x.value
  | _ => none

mutual

def unfrozen? : Value → Option Value
  | .list xs => some (.list xs)
  | .record es => some (.record es)
  | .tuple xs => unfrozenAmong? xs
  | _ => none

def unfrozenAmong? : List Value → Option Value
  | [] => none
  | x :: xs => (unfrozen? x).or (unfrozenAmong? xs)

end

def requireKey (v : Value) : Except Refusal Unit :=
  match v.unfrozen? with
  | some u => .error (.notAKey u.typeName)
  | none => .ok ()

mutual

def same : Value → Value → Bool
  | .null, .null => true
  | .text s, .text t => s == t
  | .list xs, .list ys => sameItems xs ys
  | .tuple xs, .tuple ys => sameItems xs ys
  | .record es, .record fs => es.length == fs.length && sameEntries es fs
  | v, w => match v.number?, w.number? with
    | some m, some n => m == n
    | _, _ => false

def sameItems : List Value → List Value → Bool
  | [], [] => true
  | x :: xs, y :: ys => same x y && sameItems xs ys
  | _, _ => false

def sameEntries : List (String × Value) → List (String × Value) → Bool
  | [], _ => true
  | (k, v) :: es, fs =>
    (match fs.lookup k with
      | some w => same v w
      | none => false) && sameEntries es fs

end

mutual

/-- Whether the first value comes before the second, where they have an order. Sequences of one
type are ordered by their first place that differs. -/
def before : Value → Value → Except Refusal Bool
  | .text s, .text t => .ok (s < t)
  | .list xs, .list ys => beforeItems xs ys
  | .tuple xs, .tuple ys => beforeItems xs ys
  | v, w => match v.number?, w.number? with
    | some m, some n => .ok (m < n)
    | _, _ => .error (.unordered v.typeName w.typeName)

def beforeItems : List Value → List Value → Except Refusal Bool
  | [], ys => .ok !ys.isEmpty
  | _ :: _, [] => .ok false
  | x :: xs, y :: ys => if same x y then beforeItems xs ys else before x y

end

mutual

def literal : Value → String
  | .null => "None"
  | .bool b => if b then "True" else "False"
  | .int n => toString n
  | .double x => x.written
  | .text s => Text.quoted s
  | .list xs => "[" ++ String.intercalate ", " (literals xs) ++ "]"
  | .tuple [x] => "(" ++ literal x ++ ",)"
  | .tuple xs => "(" ++ String.intercalate ", " (literals xs) ++ ")"
  | .record es => "\x7b" ++ String.intercalate ", " (entryLiterals es) ++ "\x7d"

def literals : List Value → List String
  | [] => []
  | x :: xs => literal x :: literals xs

def entryLiterals : List (String × Value) → List String
  | [] => []
  | (k, v) :: es => (Text.quoted k ++ ": " ++ literal v) :: entryLiterals es

end

def display : Value → String
  | .text s => s
  | v => v.literal

def items : Value → Except Refusal (List Value)
  | .text s => .ok (s.toList.map fun c => .text (String.singleton c))
  | .list xs | .tuple xs => .ok xs
  | .record es => .ok (es.map fun e => .text e.1)
  | v => .error (.notIterable v.typeName)

def textsFrom (index : Nat) : List Value → Except Refusal (List String)
  | [] => .ok []
  | .text s :: vs => (s :: ·) <$> textsFrom (index + 1) vs
  | v :: _ => .error (.notTextAt index v.typeName)

def spaced (v : Value) : Except Refusal String :=
  match v.items with
  | .error _ => .error .notJoinable
  | .ok items => String.intercalate " " <$> textsFrom 0 items

def pair (v : Value) : Except Refusal (Value × Value) :=
  match v.items with
  | .error _ => .error (.notUnpackable v.typeName)
  | .ok [a, b] => .ok (a, b)
  | .ok (_ :: _ :: _ :: _) => .error .tooMany
  | .ok few => .error (.tooFew few.length)

end Value
end Provisioning
