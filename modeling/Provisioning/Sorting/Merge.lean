import Provisioning.Sorting.Search

/-!
Merging two adjacent runs under a comparison that may fail. The elements that are in place already
stay out of it: those of the first run that the head of the second does not come before, and those
of the second that do not come before the end of the first. Of what is left the shorter run decides
the end to merge from. A merge compares heads until one run has won as many times in a row as the
threshold says; then it sweeps by strides, until both sweeps of a round are short. Every round but
the first lowers the threshold, and leaving the rounds raises it, for later merges too.
-/
namespace Provisioning.Sorting

variable {α ε : Type}

def shortSweep : Nat := 7

structure Merged (α : Type) where
  items : List α
  threshold : Nat

def Merged.behind (front : List α) (m : Merged α) : Merged α :=
  { m with items := front ++ m.items }

def Side.secondWins (side : Side) (before : α → α → Except ε Bool) (b a : α) : Except ε Bool :=
  match side with
  | .front => before b a
  | .back => Bool.not <$> before b a

/-- Where a merge stands. Heads are compared with the wins in a row of either run so far; a round
sweeps the first run up to the head of the second, takes that head, and does the same with the runs
exchanged. -/
inductive Phase
  | heads (firstWon secondWon : Nat)
  | sweepFirst
  | headSecond (swept : Nat)
  | sweepSecond (swept : Nat)
  | headFirst (swept sweptSecond : Nat)
  | roundEnd (swept sweptSecond : Nat)

def Phase.idle : Phase → Nat
  | .heads .. | .headSecond _ | .headFirst .. => 0
  | .sweepFirst | .sweepSecond _ => 1
  | .roundEnd .. => 2

theorem Phase.idle_le (p : Phase) : p.idle ≤ 2 := by
  cases p <;> simp only [Phase.idle] <;> omega

def Phase.afterHead (threshold firstWon secondWon : Nat) : Phase :=
  if threshold ≤ max firstWon secondWon then .sweepFirst else .heads firstWon secondWon

/-- Merges two runs, given from the end that the merge works from. The last element of the shorter
run goes behind all that is left of the other one. -/
def mergeFrom (side : Side) (before : α → α → Except ε Bool) (threshold : Nat) (phase : Phase) :
    List α → List α → Except ε (Merged α)
  | as, [] => .ok ⟨as, threshold⟩
  | [], bs => .ok ⟨bs, threshold⟩
  | a :: as, b :: bs =>
    if side = .front && as.isEmpty then .ok ⟨b :: bs ++ [a], threshold⟩
    else if side = .back && bs.isEmpty then .ok ⟨a :: as ++ [b], threshold⟩
    else match phase with
    | .heads firstWon secondWon =>
      match side.secondWins before b a with
      | .error e => .error e
      | .ok true =>
        Merged.behind [b] <$> mergeFrom side before threshold
          (.afterHead threshold 0 (secondWon + 1)) (a :: as) bs
      | .ok false =>
        Merged.behind [a] <$> mergeFrom side before threshold
          (.afterHead threshold (firstWon + 1) 0) as (b :: bs)
    | .sweepFirst =>
      match striding side (fun x => Bool.not <$> side.secondWins before b x) (a :: as) with
      | .error e => .error e
      | .ok n =>
        Merged.behind ((a :: as).take n) <$>
          mergeFrom side before threshold (.headSecond n) ((a :: as).drop n) (b :: bs)
    | .headSecond n =>
      Merged.behind [b] <$> mergeFrom side before threshold (.sweepSecond n) (a :: as) bs
    | .sweepSecond n =>
      match striding side (fun x => side.secondWins before x a) (b :: bs) with
      | .error e => .error e
      | .ok m =>
        Merged.behind ((b :: bs).take m) <$>
          mergeFrom side before threshold (.headFirst n m) (a :: as) ((b :: bs).drop m)
    | .headFirst n m =>
      Merged.behind [a] <$> mergeFrom side before threshold (.roundEnd n m) as (b :: bs)
    | .roundEnd n m =>
      if shortSweep ≤ n || shortSweep ≤ m then
        mergeFrom side before (max (threshold - 1) 1) .sweepFirst (a :: as) (b :: bs)
      else mergeFrom side before (threshold + 1) (.heads 0 0) (a :: as) (b :: bs)
termination_by as bs => 3 * (as.length + bs.length) + phase.idle
decreasing_by
  · have := Phase.idle_le (.afterHead threshold 0 (secondWon + 1))
    simp only [List.length_cons]; omega
  · have := Phase.idle_le (.afterHead threshold (firstWon + 1) 0)
    simp only [List.length_cons]; omega
  all_goals simp only [List.length_cons, List.length_drop, Phase.idle]; omega

def merge (before : α → α → Except ε Bool) (threshold : Nat) (as bs : List α) :
    Except ε (Merged α) :=
  match bs.head? with
  | none => .ok ⟨as, threshold⟩
  | some b => do
    let inPlace ← striding .front (fun a => Bool.not <$> before b a) as
    let rest := as.drop inPlace
    match rest.getLast? with
    | none => return ⟨as ++ bs, threshold⟩
    | some a =>
      let after ← striding .back (fun b => Bool.not <$> before b a) bs.reverse
      let moved := bs.take (bs.length - after)
      let m ← mergeMoved rest moved
      return ⟨as.take inPlace ++ m.items ++ bs.drop (bs.length - after), m.threshold⟩
where
  /-- The merge of what has to move, from the end at which the shorter run is used up. -/
  mergeMoved (as bs : List α) : Except ε (Merged α) := do
    if as.length ≤ bs.length then
      match bs with
      | [] => return ⟨as, threshold⟩
      | b :: bs => Merged.behind [b] <$> mergeFrom .front before threshold (.heads 0 0) as bs
    else
      match as.reverse with
      | [] => return ⟨bs, threshold⟩
      | a :: as =>
        let m ← mergeFrom .back before threshold (.heads 0 0) as bs.reverse
        return ⟨(a :: m.items).reverse, m.threshold⟩

end Provisioning.Sorting
