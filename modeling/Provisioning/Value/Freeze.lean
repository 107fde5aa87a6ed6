import Provisioning.Sorting
import Provisioning.Value

/-!
The frozen form of a value: sequences become tuples, and a record becomes the tuple of its entries
in the order of their keys. A frozen value holds no list and no record at any depth.
-/
namespace Provisioning.Value

def entryBefore (a b : Value × Value) : Except Refusal Bool :=
  beforeItems [a.1, a.2] [b.1, b.2]

def sortEntries : List (Value × Value) → Except Refusal (List (Value × Value)) :=
  Sorting.sort entryBefore

mutual

def freeze : Value → Except Refusal Value
  | .null => .ok .null
  | .bool b => .ok (.bool b)
  | .int n => .ok (.int n)
  | .double x => .ok (.double x)
  | .text s => .ok (.text s)
  | .list xs => do return .tuple (← freezeItems xs)
  | .tuple xs => do return .tuple (← freezeItems xs)
  | .record es => do
    let sorted ← sortEntries (← freezeEntries es)
    return .tuple (sorted.map fun e => .tuple [e.1, e.2])

def freezeItems : List Value → Except Refusal (List Value)
  | [] => .ok []
  | x :: xs => do return (← freeze x) :: (← freezeItems xs)

def freezeEntries : List (String × Value) → Except Refusal (List (Value × Value))
  | [] => .ok []
  | (k, v) :: es => do return (.text k, ← freeze v) :: (← freezeEntries es)

end

mutual

def Frozen : Value → Prop
  | .list _ | .record _ => False
  | .tuple xs => AllFrozen xs
  | _ => True

def AllFrozen : List Value → Prop
  | [] => True
  | x :: xs => Frozen x ∧ AllFrozen xs

end

end Provisioning.Value
