/-!
Finding how many leading elements of a list pass a test that all of them pass before none does. The
test may fail, and a search fails as soon as a test that it makes fails. A search by halving probes
the middle; a search by strides first doubles its stride until a probe does not pass, and is the
quicker one where few elements pass.
-/
namespace Provisioning.Sorting

variable {α ε : Type}

inductive Side
  | front
  | back
  deriving DecidableEq, Repr

def Side.middle : Side → Nat → Nat
  | .front, n => n / 2
  | .back, n => (n - 1) / 2

theorem Side.middle_lt (s : Side) {n : Nat} (h : 0 < n) : s.middle n < n := by
  cases s <;> simp only [Side.middle] <;> omega

def halving (side : Side) (test : α → Except ε Bool) (l : List α) : Except ε Nat :=
  if h : l = [] then .ok 0
  else
    let mid := side.middle l.length
    have hm : mid < l.length := side.middle_lt (List.length_pos_iff.2 h)
    match test l[mid] with
    | .error e => .error e
    | .ok true => do return mid + 1 + (← halving side test (l.drop (mid + 1)))
    | .ok false => halving side test (l.take mid)
termination_by l.length
decreasing_by
  · simp only [List.length_drop]; omega
  · simp only [List.length_take]; omega

/-- Goes on behind an element that passed: probes the element that follows the next `skip` ones, and
searches those once a probe does not pass or nothing is left to probe. -/
def climb (side : Side) (test : α → Except ε Bool) (skip : Nat) (l : List α) : Except ε Nat :=
  match h : l.drop skip with
  | [] => halving side test l
  | x :: beyond =>
    have hb : beyond.length < l.length := by
      have := congrArg List.length h
      simp only [List.length_drop, List.length_cons] at this
      omega
    match test x with
    | .error e => .error e
    | .ok true => do return skip + 1 + (← climb side test (2 * skip + 1) beyond)
    | .ok false => halving side test (l.take skip)
termination_by l.length

def striding (side : Side) (test : α → Except ε Bool) : List α → Except ε Nat
  | [] => .ok 0
  | x :: l => do
    if ← test x then return 1 + (← climb side test 0 l)
    else return 0

end Provisioning.Sorting
