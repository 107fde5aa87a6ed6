/-!
Control sequences in text for a terminal: the escape character and an opening bracket, then
parameters, then intermediate characters, then one final character. They take no room, and they are
left out of text that goes elsewhere.
-/
namespace Provisioning.Text

def isParameter (c : Char) : Bool := '0' ≤ c && c ≤ '?'

def isIntermediate (c : Char) : Bool := ' ' ≤ c && c ≤ '/'

def isFinal (c : Char) : Bool := '@' ≤ c && c ≤ '~'

def sequenceLength : List Char → Nat
  | '\x1b' :: '[' :: cs =>
    let rest := (cs.dropWhile isParameter).dropWhile isIntermediate
    match rest with
    | c :: _ => if isFinal c then cs.length - rest.length + 3 else 0
    | [] => 0
  | _ => 0

def visibleFrom : Nat → List Char → List Char
  | _, [] => []
  | skip + 1, _ :: cs => visibleFrom skip cs
  | 0, c :: cs =>
    match sequenceLength (c :: cs) with
    | 0 => c :: visibleFrom 0 cs
    | n + 1 => visibleFrom n cs

def visible (cs : List Char) : List Char := visibleFrom 0 cs

def visibleLength (cs : List Char) : Nat := (visible cs).length

def visibleSplit (n : Nat) (cs : List Char) : List Char × List Char := go 0 n cs
where
  go : Nat → Nat → List Char → List Char × List Char
    | _, _, [] => ([], [])
    | skip + 1, n, c :: cs =>
      let (first, rest) := go skip n cs
      (c :: first, rest)
    | 0, n, c :: cs =>
      match sequenceLength (c :: cs), n with
      | 0, 0 => ([], c :: cs)
      | 0, n + 1 =>
        let (first, rest) := go 0 n cs
        (c :: first, rest)
      | l + 1, n =>
        let (first, rest) := go l n cs
        (c :: first, rest)

theorem append_visibleSplit (n : Nat) (cs : List Char) :
    (visibleSplit n cs).1 ++ (visibleSplit n cs).2 = cs := by
  unfold visibleSplit
  fun_induction visibleSplit.go 0 n cs <;> simp_all

end Provisioning.Text
