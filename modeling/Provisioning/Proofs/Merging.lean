import Mathlib.Order.Lattice
import Provisioning.Proofs.Searching
import Provisioning.Sorting.Merge

/-!
Merging under a comparison that may fail. If the comparison answers by an order of keys wherever it
answers, then merging two sorted runs either fails as one of the comparisons does, or arranges the
elements of both runs in the order of their keys.
-/
namespace Provisioning.Sorting

variable {α κ ε : Type} [LinearOrder κ] {fails : ε → Prop} {held : α → Prop}
  {before : α → α → Except ε Bool} {key : α → κ}

structure Arranges (le : α → α → Prop) (l arranged : List α) : Prop where
  perm : arranged.Perm l
  sorted : arranged.Pairwise le

theorem Arranges.behind {le : α → α → Prop} {rest l arranged : List α}
    (h : Arranges le rest arranged) (front : List α) (perm : (front ++ rest).Perm l)
    (sorted : front.Pairwise le) (below : ∀ x ∈ front, ∀ y ∈ rest, le x y) :
    Arranges le l (front ++ arranged) where
  perm := (h.perm.append_left front).trans perm
  sorted := List.pairwise_append.2
    ⟨sorted, h.sorted, fun x hx y hy => below x hx y (h.perm.mem_iff.1 hy)⟩

def Compares (fails : ε → Prop) (held : α → Prop) (before : α → α → Except ε Bool) (key : α → κ) :
    Prop :=
  ∀ a b, held a → held b → Meets fails (before a b) (fun first => first = true ↔ key a < key b)

def Side.le (side : Side) (key : α → κ) (x y : α) : Prop :=
  match side with
  | .front => key x ≤ key y
  | .back => key y ≤ key x

def Side.prefers (side : Side) (key : α → κ) (b a : α) : Bool :=
  match side with
  | .front => key b < key a
  | .back => key a ≤ key b

section Side

variable {side : Side} {a b x y : α}

theorem Side.transitive (h : side.le key a b) (h' : side.le key b x) : side.le key a x := by
  cases side with
  | front => exact le_trans h h'
  | back => exact le_trans h' h

theorem Side.le_of_prefers (h : side.prefers key b a = true) : side.le key b a := by
  cases side with
  | front => exact le_of_lt (of_decide_eq_true h)
  | back => exact (show key a ≤ key b from of_decide_eq_true h)

theorem Side.le_of_not_prefers (h : side.prefers key b a = false) : side.le key a b := by
  cases side with
  | front => exact le_of_not_gt (of_decide_eq_false h)
  | back => exact le_of_not_ge (of_decide_eq_false h)

theorem Side.prefers_of_le (h : side.le key x y) (hy : side.prefers key y a = true) :
    side.prefers key x a = true := by
  cases side with
  | front => exact decide_eq_true (lt_of_le_of_lt h (of_decide_eq_true hy))
  | back => exact decide_eq_true (le_trans (of_decide_eq_true hy) h)

theorem Side.not_prefers_of_le (h : side.le key x y) (hy : side.prefers key b y = false) :
    side.prefers key b x = false := by
  cases hx : side.prefers key b x with
  | false => rfl
  | true =>
    cases side with
    | front => exact absurd (lt_of_lt_of_le (of_decide_eq_true hx) h) (of_decide_eq_false hy)
    | back => exact absurd (le_trans h (of_decide_eq_true hx)) (of_decide_eq_false hy)

theorem Side.secondWins_meets (side : Side) (compares : Compares fails held before key)
    (hb : held b) (ha : held a) :
    Meets fails (side.secondWins before b a) (· = side.prefers key b a) := by
  cases side with
  | front => exact (compares b a hb ha).imp fun _ hr =>
      Bool.eq_iff_iff.2 (hr.trans decide_eq_true_iff.symm)
  | back =>
    refine (compares b a hb ha).map fun r hr => Bool.eq_iff_iff.2 ?_
    rw [Bool.not_eq_true', ← Bool.not_eq_true, hr, not_lt]
    exact decide_eq_true_iff.symm

end Side

theorem sieve_first {side : Side} {b : α} {as : List α}
    (compares : Compares fails held before key) (hb : held b) (has : ∀ a ∈ as, held a)
    (sorted : as.Pairwise (side.le key)) :
    Sieve fails (fun x => Bool.not <$> side.secondWins before b x) (!side.prefers key b ·) as where
  answers x hx := (side.secondWins_meets compares hb (has x hx)).map
    fun _ hr => congrArg Bool.not hr
  falling := sorted.imp fun {x y} hxy hy => by
    rw [Bool.not_eq_true'] at hy ⊢
    exact Side.not_prefers_of_le hxy hy

theorem sieve_second {side : Side} {a : α} {bs : List α}
    (compares : Compares fails held before key) (ha : held a) (hbs : ∀ b ∈ bs, held b)
    (sorted : bs.Pairwise (side.le key)) :
    Sieve fails (fun x => side.secondWins before x a) (side.prefers key · a) bs where
  answers x hx := side.secondWins_meets compares (hbs x hx) ha
  falling := sorted.imp Side.prefers_of_le

/-- What holds of two runs, given from the end that they are merged from, while they are merged.
The last element of the run that is used up first is not in front of any of the other one. -/
structure Mergeable (held : α → Prop) (side : Side) (key : α → κ) (as bs : List α) : Prop where
  first_held : ∀ a ∈ as, held a
  second_held : ∀ b ∈ bs, held b
  first : as.Pairwise (side.le key)
  second : bs.Pairwise (side.le key)
  first_capped : side = .front → ∀ a ∈ as.getLast?, ∀ b ∈ bs, side.le key b a
  second_capped : side = .back → ∀ b ∈ bs.getLast?, ∀ a ∈ as, side.le key a b

section Mergeable

variable {side : Side} {as bs : List α}

theorem getLast?_of_append {l l' : List α} {a : α} (h : a ∈ l'.getLast?) :
    a ∈ (l ++ l').getLast? := by
  rw [Option.mem_def] at h
  rw [List.getLast?_append, h]
  rfl

theorem Mergeable.without_first (front : List α)
    (h : Mergeable held side key (front ++ as) bs) :
    Mergeable held side key as bs where
  first_held a ha := h.first_held a (List.mem_append_right _ ha)
  second_held := h.second_held
  first := (List.pairwise_append.1 h.first).2.1
  second := h.second
  first_capped hside a ha := h.first_capped hside a (getLast?_of_append ha)
  second_capped hside b hb a ha := h.second_capped hside b hb a (List.mem_append_right _ ha)

theorem Mergeable.without_second (front : List α)
    (h : Mergeable held side key as (front ++ bs)) :
    Mergeable held side key as bs where
  first_held := h.first_held
  second_held b hb := h.second_held b (List.mem_append_right _ hb)
  first := h.first
  second := (List.pairwise_append.1 h.second).2.1
  first_capped hside a ha b hb := h.first_capped hside a ha b (List.mem_append_right _ hb)
  second_capped hside b hb := h.second_capped hside b (getLast?_of_append hb)

/-- Elements from the start of the first run may go next if none of the second comes before
them. -/
theorem Mergeable.take_first (front : List α)
    (h : Mergeable held side key (front ++ as) bs)
    (below : ∀ x ∈ front, ∀ b ∈ bs, side.le key x b) {arranged : List α}
    (rest : Arranges (side.le key) (as ++ bs) arranged) :
    Arranges (side.le key) (front ++ as ++ bs) (front ++ arranged) := by
  obtain ⟨hfront, -, hacross⟩ := List.pairwise_append.1 h.first
  refine rest.behind _ (by rw [List.append_assoc]) hfront fun x hx y hy => ?_
  rcases List.mem_append.1 hy with hy | hy
  · exact hacross x hx y hy
  · exact below x hx y hy

theorem Mergeable.take_second (front : List α)
    (h : Mergeable held side key as (front ++ bs))
    (below : ∀ x ∈ front, ∀ a ∈ as, side.le key x a) {arranged : List α}
    (rest : Arranges (side.le key) (as ++ bs) arranged) :
    Arranges (side.le key) (as ++ (front ++ bs)) (front ++ arranged) := by
  obtain ⟨hfront, -, hacross⟩ := List.pairwise_append.1 h.second
  refine rest.behind _ (List.perm_append_comm_assoc ..).symm hfront fun x hx y hy => ?_
  rcases List.mem_append.1 hy with hy | hy
  · exact below x hx y hy
  · exact hacross x hx y hy

theorem Mergeable.head_first {a : α} (h : Mergeable held side key (a :: as) bs)
    (below : ∀ b ∈ bs, side.le key a b) {arranged : List α}
    (rest : Arranges (side.le key) (as ++ bs) arranged) :
    Arranges (side.le key) (a :: as ++ bs) (a :: arranged) :=
  h.take_first [a] (fun _ hx => List.mem_singleton.1 hx ▸ below) rest

theorem Mergeable.head_second {b : α} (h : Mergeable held side key as (b :: bs))
    (below : ∀ a ∈ as, side.le key b a) {arranged : List α}
    (rest : Arranges (side.le key) (as ++ bs) arranged) :
    Arranges (side.le key) (as ++ b :: bs) (b :: arranged) :=
  h.take_second [b] (fun _ hx => List.mem_singleton.1 hx ▸ below) rest

theorem Mergeable.sieve_first {b : α} (h : Mergeable held side key as (b :: bs))
    (compares : Compares fails held before key) :
    Sieve fails (fun x => Bool.not <$> side.secondWins before b x) (!side.prefers key b ·) as :=
  Sorting.sieve_first compares (h.second_held b List.mem_cons_self) h.first_held h.first

theorem Mergeable.sieve_second {a : α} (h : Mergeable held side key (a :: as) bs)
    (compares : Compares fails held before key) :
    Sieve fails (fun x => side.secondWins before x a) (side.prefers key · a) bs :=
  Sorting.sieve_second compares (h.first_held a List.mem_cons_self) h.second_held h.second

theorem Mergeable.heads_meet {a b : α} (h : Mergeable held side key (a :: as) (b :: bs))
    (compares : Compares fails held before key) :
    Meets fails (side.secondWins before b a) (· = side.prefers key b a) :=
  side.secondWins_meets compares (h.second_held b List.mem_cons_self)
    (h.first_held a List.mem_cons_self)

theorem Mergeable.le_all_first {a : α} (h : Mergeable held side key (a :: as) bs) {x : α}
    (hx : side.le key x a) : ∀ y ∈ a :: as, side.le key x y := by
  intro y hy
  rcases List.mem_cons.1 hy with rfl | hy
  · exact hx
  · exact Side.transitive hx ((List.pairwise_cons.1 h.first).1 y hy)

theorem Mergeable.le_all_second {b : α} (h : Mergeable held side key as (b :: bs)) {x : α}
    (hx : side.le key x b) : ∀ y ∈ b :: bs, side.le key x y := by
  intro y hy
  rcases List.mem_cons.1 hy with rfl | hy
  · exact hx
  · exact Side.transitive hx ((List.pairwise_cons.1 h.second).1 y hy)

end Mergeable

/-- What a phase knows of the heads when it starts: after a sweep, which of them goes next. -/
def Phase.Ready (phase : Phase) (le : α → α → Prop) (as bs : List α) : Prop :=
  match phase with
  | .headSecond _ => ∀ b ∈ bs.head?, ∀ a ∈ as, le b a
  | .headFirst .. => ∀ a ∈ as.head?, ∀ b ∈ bs, le a b
  | _ => True

theorem Phase.ready_heads (firstWon secondWon : Nat) (le : α → α → Prop) (as bs : List α) :
    (Phase.heads firstWon secondWon).Ready le as bs := trivial

theorem Phase.ready_afterHead (threshold firstWon secondWon : Nat) (le : α → α → Prop)
    (as bs : List α) : (Phase.afterHead threshold firstWon secondWon).Ready le as bs := by
  unfold Phase.afterHead
  split
  · trivial
  · trivial

section Sweep

variable {side : Side} {as bs : List α} {a b : α} {n : Nat}

theorem Mergeable.swept_first (h : Mergeable held side key as (b :: bs))
    (cut : Splits (!side.prefers key b ·) as n) :
    Mergeable held side key (as.drop n) (b :: bs) ∧
      (Phase.headSecond n).Ready (side.le key) (as.drop n) (b :: bs) ∧
      ∀ arranged, Arranges (side.le key) (as.drop n ++ b :: bs) arranged →
        Arranges (side.le key) (as ++ b :: bs) (as.take n ++ arranged) := by
  obtain ⟨front, back, rfl, rfl, hfront, hback⟩ := cut
  rw [List.take_left, List.drop_left]
  refine ⟨h.without_first front, ?_, fun arranged hm => h.take_first front ?_ hm⟩
  · rintro _ ⟨⟩ x hx
    exact Side.le_of_prefers (by simpa using hback x hx)
  · exact fun x hx => h.le_all_second (Side.le_of_not_prefers (by simpa using hfront x hx))

theorem Mergeable.swept_second (swept : Nat) (h : Mergeable held side key (a :: as) bs)
    (cut : Splits (side.prefers key · a) bs n) :
    Mergeable held side key (a :: as) (bs.drop n) ∧
      (Phase.headFirst swept n).Ready (side.le key) (a :: as) (bs.drop n) ∧
      ∀ arranged, Arranges (side.le key) (a :: as ++ bs.drop n) arranged →
        Arranges (side.le key) (a :: as ++ bs) (bs.take n ++ arranged) := by
  obtain ⟨front, back, rfl, rfl, hfront, hback⟩ := cut
  rw [List.take_left, List.drop_left]
  refine ⟨h.without_second front, ?_, fun arranged hm => h.take_second front ?_ hm⟩
  · rintro _ ⟨⟩ x hx
    exact Side.le_of_not_prefers (hback x hx)
  · exact fun x hx => h.le_all_first (Side.le_of_prefers (hfront x hx))

end Sweep

theorem mergeFrom_meets {side : Side} {threshold : Nat} {phase : Phase} {as bs : List α}
    (compares : Compares fails held before key) (h : Mergeable held side key as bs)
    (ready : phase.Ready (side.le key) as bs) :
    Meets fails (mergeFrom side before threshold phase as bs)
      (fun m => Arranges (side.le key) (as ++ bs) m.items) := by
  -- First the cases in which only one run is left or its last element is due, then the phases; each
  -- of these puts what it took in front of what the rest of the merge arranges.
  fun_induction mergeFrom side before threshold phase as bs with
  | case1 => exact ⟨by simp, h.first⟩
  | case2 => exact ⟨by simp, h.second⟩
  | case3 threshold phase a as b bs hlast =>
    obtain ⟨hside, rfl⟩ : side = .front ∧ as = [] := by simpa using hlast
    have capped := h.first_capped hside a rfl
    exact ⟨List.perm_append_comm, List.pairwise_append.2 ⟨h.second, List.pairwise_singleton _ _,
      fun x hx y hy => List.mem_singleton.1 hy ▸ capped x hx⟩⟩
  | case4 threshold phase a as b bs _ hlast =>
    obtain ⟨hside, rfl⟩ : side = .back ∧ bs = [] := by simpa using hlast
    have capped := h.second_capped hside b rfl
    exact ⟨.refl _, List.pairwise_append.2 ⟨h.first, List.pairwise_singleton _ _,
      fun x hx y hy => List.mem_singleton.1 hy ▸ capped x hx⟩⟩
  | case5 threshold a as b bs _ _ firstWon secondWon e hwins =>
    exact (h.heads_meet compares).of_error hwins
  | case6 threshold a as b bs _ _ firstWon secondWon hwins ih =>
    have hle : side.le key b a := Side.le_of_prefers ((h.heads_meet compares).of_ok hwins).symm
    exact (ih (h.without_second [b]) (Phase.ready_afterHead ..)).map fun m hm =>
      h.head_second (h.le_all_first hle) hm
  | case7 threshold a as b bs _ _ firstWon secondWon hwins ih =>
    have hle : side.le key a b := Side.le_of_not_prefers ((h.heads_meet compares).of_ok hwins).symm
    exact (ih (h.without_first [a]) (Phase.ready_afterHead ..)).map fun m hm =>
      h.head_first (h.le_all_second hle) hm
  | case8 threshold a as b bs _ _ e hsweep =>
    exact (striding_meets side (h.sieve_first compares)).of_error hsweep
  | case9 threshold a as b bs _ _ n hsweep ih =>
    obtain ⟨rest, ready, whole⟩ :=
      h.swept_first ((striding_meets side (h.sieve_first compares)).of_ok hsweep)
    exact (ih rest ready).map fun m => whole m.items
  | case10 threshold a as b bs _ _ n ih =>
    exact (ih (h.without_second [b]) trivial).map fun m hm => h.head_second (ready b rfl) hm
  | case11 threshold a as b bs _ _ n e hsweep =>
    exact (striding_meets side (h.sieve_second compares)).of_error hsweep
  | case12 threshold a as b bs _ _ n m hsweep ih =>
    obtain ⟨rest, ready, whole⟩ :=
      h.swept_second n ((striding_meets side (h.sieve_second compares)).of_ok hsweep)
    exact (ih rest ready).map fun merged => whole merged.items
  | case13 threshold a as b bs _ _ n m ih =>
    exact (ih (h.without_first [a]) trivial).map fun m hm => h.head_first (ready a rfl) hm
  | case14 threshold a as b bs _ _ n m _ ih => exact ih h trivial
  | case15 threshold a as b bs _ _ n m _ ih => exact ih h trivial

section Adjacent

variable {l l' rest moved arranged : List α}

theorem Arranges.followed {le : α → α → Prop} {back : List α} (h : Arranges le l arranged)
    (perm : (l ++ back).Perm l') (sorted : back.Pairwise le) (below : ∀ x ∈ l, ∀ y ∈ back, le x y) :
    Arranges le l' (arranged ++ back) where
  perm := (h.perm.append_right back).trans perm
  sorted := List.pairwise_append.2
    ⟨h.sorted, sorted, fun x hx y hy => below x (h.perm.mem_iff.1 hx) y hy⟩

theorem Arranges.between {le : α → α → Prop} {front tail : List α}
    (h : Arranges le (rest ++ moved) arranged) (first : (front ++ rest).Pairwise le)
    (second : (moved ++ tail).Pairwise le)
    (front_le : ∀ x ∈ front, ∀ y ∈ moved ++ tail, le x y)
    (le_tail : ∀ x ∈ rest, ∀ y ∈ tail, le x y) :
    Arranges le (front ++ rest ++ (moved ++ tail)) (front ++ arranged ++ tail) := by
  obtain ⟨front_sorted, -, across⟩ := List.pairwise_append.1 first
  obtain ⟨-, tail_sorted, along⟩ := List.pairwise_append.1 second
  have followed : Arranges le (rest ++ (moved ++ tail)) (arranged ++ tail) := by
    refine h.followed (by rw [List.append_assoc]) tail_sorted fun x hx y hy => ?_
    rcases List.mem_append.1 hx with hx | hx
    · exact le_tail x hx y hy
    · exact along x hx y hy
  rw [List.append_assoc front arranged]
  refine followed.behind front (by rw [List.append_assoc]) front_sorted fun x hx y hy => ?_
  rcases List.mem_append.1 hy with hy | hy
  · exact across x hx y hy
  · exact front_le x hx y hy

theorem Arranges.reverse (h : Arranges (Side.back.le key) l arranged) :
    Arranges (Side.front.le key) l arranged.reverse where
  perm := (List.reverse_perm arranged).trans h.perm
  sorted := List.pairwise_reverse.2 h.sorted

theorem le_last_of_pairwise {a : α} (sorted : l.Pairwise (Side.front.le key))
    (ha : a ∈ l.getLast?) : ∀ x ∈ l, Side.front.le key x a := by
  obtain ⟨front, rfl⟩ := List.getLast?_eq_some_iff.1 ha
  intro x hx
  rcases List.mem_append.1 hx with hx | hx
  · exact (List.pairwise_append.1 sorted).2.2 x hx a List.mem_cons_self
  · rw [List.mem_singleton.1 hx]
    exact le_refl (key a)

theorem head_le_of_pairwise {b : α} (sorted : l.Pairwise (Side.front.le key))
    (hb : b ∈ l.head?) : ∀ y ∈ l, Side.front.le key b y := by
  obtain ⟨back, rfl⟩ := List.head?_eq_some_iff.1 hb
  intro y hy
  rcases List.mem_cons.1 hy with rfl | hy
  · exact le_refl (key y)
  · exact (List.pairwise_cons.1 sorted).1 y hy

/-- Two runs whose ends both have to move: the head of the second goes in front of the first run,
and the end of the first behind the second. -/
structure Crossing (held : α → Prop) (key : α → κ) (as bs : List α) : Prop where
  first_held : ∀ a ∈ as, held a
  second_held : ∀ b ∈ bs, held b
  first : as.Pairwise (Side.front.le key)
  second : bs.Pairwise (Side.front.le key)
  head : ∀ b ∈ bs.head?, ∀ a ∈ as, Side.front.le key b a
  last : ∀ a ∈ as.getLast?, ∀ b ∈ bs, Side.front.le key b a

theorem crossing_of_ends {a b : α} (first_held : ∀ x ∈ rest, held x)
    (second_held : ∀ x ∈ moved, held x) (first : rest.Pairwise (Side.front.le key))
    (second : moved.Pairwise (Side.front.le key)) (hhead : ∀ b' ∈ moved.head?, b' = b)
    (hlast : rest.getLast? = some a) (behind_head : ∀ x ∈ rest, Side.front.le key b x)
    (before_last : ∀ x ∈ moved, Side.front.le key x a) : Crossing held key rest moved where
  first_held := first_held
  second_held := second_held
  first := first
  second := second
  head b' hb' := by
    rw [hhead b' hb']
    exact behind_head
  last a' ha' := by
    obtain rfl := Option.some.inj (hlast.symm.trans ha')
    exact before_last

theorem Crossing.mergeable_front {b : α} {bs : List α} (h : Crossing held key rest (b :: bs)) :
    Mergeable held .front key rest bs where
  first_held := h.first_held
  second_held x hx := h.second_held x (List.mem_cons_of_mem b hx)
  first := h.first
  second := (List.pairwise_cons.1 h.second).2
  first_capped _ a ha x hx := h.last a ha x (List.mem_cons_of_mem b hx)
  second_capped := nofun

theorem Crossing.mergeable_back {a : α} {as : List α}
    (h : Crossing held key (as.reverse ++ [a]) moved) :
    Mergeable held .back key as moved.reverse where
  first_held x hx := h.first_held x (by simp [hx])
  second_held x hx := h.second_held x (List.mem_reverse.1 hx)
  first := List.pairwise_reverse.1 (List.pairwise_append.1 h.first).1
  second := List.pairwise_reverse.2 h.second
  first_capped := nofun
  second_capped _ b hb x hx := by
    rw [List.getLast?_reverse] at hb
    exact h.head b hb x (by simp [hx])

theorem mergeMoved_meets {threshold : Nat} (compares : Compares fails held before key)
    (h : Crossing held key rest moved) :
    Meets fails (merge.mergeMoved before threshold rest moved)
      (fun m => Arranges (Side.front.le key) (rest ++ moved) m.items) := by
  unfold merge.mergeMoved
  split
  · cases moved with
    | nil => exact ⟨by simp, h.first⟩
    | cons b bs =>
      refine (mergeFrom_meets compares h.mergeable_front (Phase.ready_heads ..)).map fun m hm => ?_
      refine hm.behind [b] (List.perm_append_comm_assoc ..) (List.pairwise_singleton _ _) ?_
      intro x hx y hy
      rw [List.mem_singleton.1 hx]
      rcases List.mem_append.1 hy with hy | hy
      · exact h.head b rfl y hy
      · exact (List.pairwise_cons.1 h.second).1 y hy
  · cases hreverse : rest.reverse with
    | nil =>
      rw [List.reverse_eq_nil_iff.1 hreverse]
      exact ⟨.refl _, h.second⟩
    | cons a as =>
      obtain rfl : rest = as.reverse ++ [a] := by simpa using congrArg List.reverse hreverse
      refine (mergeFrom_meets compares h.mergeable_back (Phase.ready_heads ..)).bind fun m hm => ?_
      apply Arranges.reverse
      refine hm.behind [a] ?_ (List.pairwise_singleton _ _) ?_
      · have reversed := (List.reverse_perm as).symm.append (List.reverse_perm moved)
        exact (reversed.cons a).trans (List.perm_middle.symm.trans (by simp))
      · intro x hx y hy
        rw [List.mem_singleton.1 hx]
        rcases List.mem_append.1 hy with hy | hy
        · exact (List.pairwise_append.1 h.first).2.2 y (List.mem_reverse.2 hy) a
            List.mem_cons_self
        · exact h.last a (by simp) y (List.mem_reverse.1 hy)

theorem merge_meets {threshold : Nat} {as bs : List α} (compares : Compares fails held before key)
    (first_held : ∀ a ∈ as, held a) (second_held : ∀ b ∈ bs, held b)
    (first : as.Pairwise (Side.front.le key)) (second : bs.Pairwise (Side.front.le key)) :
    Meets fails (merge before threshold as bs)
      (fun m => Arranges (Side.front.le key) (as ++ bs) m.items) := by
  unfold merge
  cases hhead : bs.head? with
  | none =>
    rw [List.head?_eq_none_iff.1 hhead]
    exact ⟨by simp, first⟩
  | some b =>
    have hb : held b := second_held b (List.mem_of_head? hhead)
    have head_le : ∀ y ∈ bs, Side.front.le key b y := head_le_of_pairwise second hhead
    refine (striding_meets .front (sieve_first compares hb first_held first)).bind ?_
    rintro _ ⟨front, rest, rfl, rfl, hfront, hrest⟩
    dsimp only
    rw [List.drop_left, List.take_left]
    obtain ⟨front_sorted, rest_sorted, -⟩ := List.pairwise_append.1 first
    have front_le : ∀ x ∈ front, ∀ y ∈ bs, Side.front.le key x y := fun x hx y hy =>
      Side.transitive (Side.le_of_not_prefers (by simpa using hfront x hx)) (head_le y hy)
    have rest_held : ∀ x ∈ rest, held x := fun x hx => first_held x (List.mem_append_right _ hx)
    cases hlast : rest.getLast? with
    | none =>
      rw [List.getLast?_eq_none_iff.1 hlast, List.append_nil]
      exact ⟨.refl _, List.pairwise_append.2 ⟨front_sorted, second, front_le⟩⟩
    | some a =>
      have ha : held a := rest_held a (List.mem_of_getLast? hlast)
      have last_le : ∀ x ∈ rest, Side.front.le key x a := le_last_of_pairwise rest_sorted hlast
      have reversed : bs.reverse.Pairwise (Side.back.le key) := List.pairwise_reverse.2 second
      refine (striding_meets .back (sieve_second compares ha
        (fun x hx => second_held x (List.mem_reverse.1 hx)) reversed)).bind ?_
      intro n cut
      obtain ⟨moved, tail, rfl, hmoved, goes, stays⟩ := cut.of_reverse
      rw [hmoved, List.take_left, List.drop_left]
      have hhead' : ∀ b' ∈ moved.head?, b' = b := fun b' hb' => by
        rw [List.head?_append, Option.mem_def.1 hb'] at hhead
        exact Option.some.inj hhead
      have crossing : Crossing held key rest moved := by
        refine crossing_of_ends rest_held (fun x hx => second_held x (List.mem_append_left _ hx))
          rest_sorted (List.pairwise_append.1 second).1 hhead' hlast ?_ ?_
        · exact fun x hx => Side.le_of_prefers (by simpa using hrest x hx)
        · exact fun x hx =>
            show Side.back.le key a x from Side.le_of_not_prefers (goes x hx)
      refine (mergeMoved_meets compares crossing).bind fun m hm => ?_
      exact hm.between first second front_le fun x hx y hy => Side.transitive (last_le x hx)
        (show Side.back.le key y a from Side.le_of_prefers (stays y hy))

end Adjacent

end Provisioning.Sorting
