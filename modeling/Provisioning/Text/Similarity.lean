/-!
How alike two texts are. The longest block that both hold is matched, then what stands before it and
what stands behind it, in the same way. The likeness of two texts is the share of their characters
that is matched.
-/
namespace Provisioning.Text

def sharedLead : List Char → List Char → Nat
  | a :: as, b :: bs => if a = b then sharedLead as bs + 1 else 0
  | _, _ => 0

structure Block where
  left : Nat
  right : Nat
  size : Nat

/-- The place, counted from `j`, at which a text shares the most leading characters with the given
one, and their number; of several places the first. -/
def bestLead (as : List Char) : Nat → List Char → Nat × Nat
  | j, [] => (j, 0)
  | j, b :: bs =>
    let here := sharedLead as (b :: bs)
    let later := bestLead as (j + 1) bs
    if later.2 ≤ here then (j, here) else later

def longestBlock (bs : List Char) : Nat → List Char → Block
  | i, [] => ⟨i, 0, 0⟩
  | i, a :: as =>
    let here := bestLead (a :: as) 0 bs
    let later := longestBlock bs (i + 1) as
    if later.size ≤ here.2 then ⟨i, here.1, here.2⟩ else later

/-- The number of matched characters of the left text. The first argument bounds the number of
blocks on the way to any of them. -/
def matchedWithin : Nat → List Char → List Char → Nat
  | 0, _, _ => 0
  | n + 1, as, bs =>
    let b := longestBlock bs 0 as
    if b.size = 0 then 0
    else
      matchedWithin n (as.take b.left) (bs.take b.right) + b.size +
        matchedWithin n (as.drop (b.left + b.size)) (bs.drop (b.right + b.size))

structure Likeness where
  matched : Nat
  total : Nat

def likeness (left right : String) : Likeness where
  matched := 2 * matchedWithin left.length left.toList right.toList
  total := left.length + right.length

def Likeness.isClose (l : Likeness) : Bool := 3 * l.total ≤ 5 * l.matched

def candidateBefore (a b : Likeness × String) : Bool :=
  let p := a.1.matched * b.1.total
  let q := b.1.matched * a.1.total
  q < p || (q = p && b.2 ≤ a.2)

def closest (word : String) (candidates : List String) : List String :=
  let close := (candidates.map fun c => (likeness c word, c)).filter fun c => c.1.isClose
  (((close.mergeSort candidateBefore).take 3).map (·.2)).mergeSort fun a b => a ≤ b

end Provisioning.Text
