import Provisioning.Sorting.Merge

/-!
Sorting under a comparison that may fail. The list is cut into runs, ascending or strictly
descending; a short run is filled up by placing further elements in it one by one. Before a run is
added to the pending ones, those are merged whose boundary lies deeper than the new one in the
repeated halving of the list, so that runs of like length meet. The sort is stable, and it fails as
soon as a comparison that it makes fails.
-/
namespace Provisioning.Sorting

variable {α ε : Type}

def place (before : α → α → Except ε Bool) (x : α) (sorted : List α) : Except ε (List α) := do
  let n ← halving .front (fun y => Bool.not <$> before x y) sorted
  return sorted.take n ++ x :: sorted.drop n

def continueRun (before : α → α → Except ε Bool) (descending : Bool) :
    α → List α → Except ε (List α × List α)
  | _, [] => .ok ([], [])
  | last, x :: xs =>
    match before x last with
    | .error e => .error e
    | .ok b =>
      if b = descending then
        match continueRun before descending x xs with
        | .error e => .error e
        | .ok (run, rest) => .ok (x :: run, rest)
      else .ok ([], x :: xs)

theorem append_of_continueRun {before : α → α → Except ε Bool} {descending : Bool} {last : α}
    {xs run rest : List α} (h : continueRun before descending last xs = .ok (run, rest)) :
    run ++ rest = xs := by
  induction xs generalizing last run with
  | nil => simp_all [continueRun]
  | cons x xs ih =>
    rw [continueRun] at h
    split at h
    · simp at h
    · split at h
      · split at h
        · simp at h
        · rename_i hr
          simp only [Except.ok.injEq, Prod.mk.injEq] at h
          obtain ⟨rfl, rfl⟩ := h
          simp [ih hr]
      · simp only [Except.ok.injEq, Prod.mk.injEq] at h
        obtain ⟨rfl, rfl⟩ := h
        rfl

def firstRun (before : α → α → Except ε Bool) (a : α) :
    List α → Except ε (List α × List α)
  | [] => .ok ([a], [])
  | b :: xs =>
    match before b a with
    | .error e => .error e
    | .ok descending =>
      match continueRun before descending b xs with
      | .error e => .error e
      | .ok (run, rest) =>
        .ok (if descending then (a :: b :: run).reverse else a :: b :: run, rest)

theorem length_rest_of_firstRun {before : α → α → Except ε Bool} {a : α}
    {xs run rest : List α} (h : firstRun before a xs = .ok (run, rest)) :
    rest.length ≤ xs.length := by
  cases xs with
  | nil => simp_all [firstRun]
  | cons b xs =>
    rw [firstRun] at h
    split at h
    · simp at h
    · split at h
      · simp at h
      · rename_i hr
        simp only [Except.ok.injEq, Prod.mk.injEq] at h
        obtain ⟨-, rfl⟩ := h
        have := congrArg List.length (append_of_continueRun hr)
        simp only [List.length_append] at this
        simp only [List.length_cons]
        omega

/-- The length that short runs are filled up to: that of the list halved until it is below 64,
rounded up if any of it was lost. -/
def leastRun (n : Nat) : Nat := go n 0
where
  go (n lost : Nat) : Nat :=
    if n < 64 then n + lost else go (n / 2) (max lost (n % 2))

structure Run (α : Type) where
  start : Nat
  items : List α
  depth : Nat := 0

/-- How often the list has to be halved until a halving parts the middles of two adjacent runs. Both
middles are given doubled. -/
def boundaryDepth (total first second : Nat) : Nat :=
  go total first second
where
  /-- The first argument bounds the number of halvings. -/
  go : Nat → Nat → Nat → Nat
    | 0, _, _ => 1
    | n + 1, first, second =>
      if first / total ≠ second / total then 1
      else 1 + go n (2 * (first % total)) (2 * (second % total))

structure Pending (α : Type) where
  runs : List (Run α)
  threshold : Nat

def mergeRuns (before : α → α → Except ε Bool) (threshold : Nat) (lower upper : Run α) :
    Except ε (Run α × Nat) := do
  let m ← merge before threshold lower.items upper.items
  return ({ lower with items := m.items }, m.threshold)

def mergeDeeper (before : α → α → Except ε Bool) (depth : Nat) :
    Nat → Run α → List (Run α) → Except ε (Pending α)
  | threshold, last, [] => .ok ⟨[last], threshold⟩
  | threshold, last, r :: below =>
    if depth < r.depth then
      match mergeRuns before threshold r last with
      | .error e => .error e
      | .ok (merged, threshold) => mergeDeeper before depth threshold merged below
    else .ok ⟨last :: r :: below, threshold⟩

def Pending.add (before : α → α → Except ε Bool) (total : Nat) (p : Pending α) (r : Run α) :
    Except ε (Pending α) :=
  match p.runs with
  | [] => .ok { p with runs := [r] }
  | last :: below => do
    let first := 2 * last.start + last.items.length
    let depth := boundaryDepth total first (first + last.items.length + r.items.length)
    let q ← mergeDeeper before depth p.threshold last below
    match q.runs with
    | [] => return { q with runs := [r] }
    | last :: below => return { q with runs := r :: { last with depth } :: below }

/-- Merges what is pending into one run. Of three runs the middle one goes to the shorter
neighbour. -/
def Pending.collapse (before : α → α → Except ε Bool) :
    Nat → List (Run α) → Except ε (List α)
  | _, [] => .ok []
  | _, [r] => .ok r.items
  | threshold, [last, second] => do
    return (← mergeRuns before threshold second last).1.items
  | threshold, last :: second :: third :: below =>
    if third.items.length < last.items.length then do
      let (r, threshold) ← mergeRuns before threshold third second
      Pending.collapse before threshold (last :: r :: below)
    else do
      let (r, threshold) ← mergeRuns before threshold second last
      Pending.collapse before threshold (r :: third :: below)
termination_by _ runs => runs.length

def cut (before : α → α → Except ε Bool) (total : Nat) (p : Pending α) :
    List α → Except ε (Pending α)
  | [] => .ok p
  | a :: xs =>
    match h : firstRun before a xs with
    | .error e => .error e
    | .ok (run, rest) =>
      have := length_rest_of_firstRun h
      let wanted := leastRun total - run.length
      match (rest.take wanted).foldlM (fun sorted x => place before x sorted) run with
      | .error e => .error e
      | .ok filled =>
        match p.add before total { start := total - (xs.length + 1), items := filled } with
        | .error e => .error e
        | .ok p => cut before total p (rest.drop wanted)
termination_by xs => xs.length
decreasing_by simp only [List.length_drop, List.length_cons]; omega

def sort (before : α → α → Except ε Bool) (l : List α) : Except ε (List α) := do
  let p ← cut before l.length ⟨[], shortSweep⟩ l
  Pending.collapse before p.threshold p.runs

end Provisioning.Sorting
