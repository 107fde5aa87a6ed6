import Provisioning.Proofs.Merging
import Provisioning.Sorting

/-!
Sorting under a comparison that may fail. If the comparison answers by an order of keys wherever it
answers, then sorting either fails as one of the comparisons does, or arranges the elements of the
list in the order of their keys. This holds for every such order, and one and the same result is
arranged by all of them.
-/
namespace Provisioning.Sorting

variable {α κ ε : Type} [LinearOrder κ] {fails : ε → Prop} {held : α → Prop}
  {before : α → α → Except ε Bool} {key : α → κ}

theorem place_meets {x : α} {l : List α} (compares : Compares fails held before key)
    (hx : held x) (hl : ∀ y ∈ l, held y) (sorted : l.Pairwise (Side.front.le key)) :
    Meets fails (place before x l) (Arranges (Side.front.le key) (x :: l)) := by
  refine (halving_meets .front (sieve_first compares hx hl sorted)).bind ?_
  rintro _ ⟨front, back, rfl, rfl, hfront, hback⟩
  rw [List.take_left, List.drop_left]
  obtain ⟨front_sorted, back_sorted, across⟩ := List.pairwise_append.1 sorted
  have below : ∀ y ∈ back, Side.front.le key x y := fun y hy =>
    Side.le_of_prefers (by simpa using hback y hy)
  have behind : Arranges (Side.front.le key) (x :: back) (x :: back) :=
    ⟨.refl _, List.pairwise_cons.2 ⟨below, back_sorted⟩⟩
  refine behind.behind front List.perm_middle front_sorted fun y hy z hz => ?_
  rcases List.mem_cons.1 hz with rfl | hz
  · exact Side.le_of_not_prefers (by simpa using hfront y hy)
  · exact across y hy z hz

theorem placeAll_meets {xs l : List α} (compares : Compares fails held before key)
    (hxs : ∀ x ∈ xs, held x) (hl : ∀ y ∈ l, held y) (sorted : l.Pairwise (Side.front.le key)) :
    Meets fails (xs.foldlM (fun sorted x => place before x sorted) l)
      (Arranges (Side.front.le key) (l ++ xs)) := by
  induction xs generalizing l with
  | nil => exact ⟨by simp, sorted⟩
  | cons x xs ih =>
    rw [List.foldlM_cons]
    have hx : held x := hxs x List.mem_cons_self
    refine (place_meets compares hx hl sorted).bind fun placed hplaced => ?_
    have held_placed : ∀ y ∈ placed, held y := fun y hy => by
      rcases List.mem_cons.1 (hplaced.perm.mem_iff.1 hy) with rfl | hy
      · exact hx
      · exact hl y hy
    refine (ih (fun y hy => hxs y (List.mem_cons_of_mem x hy)) held_placed hplaced.sorted).imp ?_
    rintro all ⟨perm, sorted⟩
    exact ⟨perm.trans ((hplaced.perm.append_right xs).trans List.perm_middle.symm), sorted⟩

def runSide (descending : Bool) : Side := if descending then .back else .front

theorem runSide_le {x last : α} {descending : Bool}
    (h : descending = true ↔ key x < key last) : (runSide descending).le key last x := by
  cases descending with
  | false => exact le_of_not_gt fun hlt => Bool.false_ne_true (h.2 hlt)
  | true => exact le_of_lt (h.1 rfl)

theorem continueRun_meets (descending : Bool) {last : α} {xs : List α}
    (compares : Compares fails held before key) (hlast : held last) (hxs : ∀ x ∈ xs, held x) :
    Meets fails (continueRun before descending last xs) (fun r =>
      r.1 ++ r.2 = xs ∧ (last :: r.1).Pairwise ((runSide descending).le key)) := by
  induction xs generalizing last with
  | nil => exact ⟨rfl, List.pairwise_singleton _ _⟩
  | cons x xs ih =>
    have hx : held x := hxs x List.mem_cons_self
    have compared := compares x last hx hlast
    rw [continueRun]
    cases hb : before x last with
    | error e => exact compared.of_error hb
    | ok b =>
      dsimp only
      split
      · rename_i same
        have continued := ih hx fun y hy => hxs y (List.mem_cons_of_mem x hy)
        cases hr : continueRun before descending x xs with
        | error e => exact continued.of_error hr
        | ok r =>
          obtain ⟨parts, sorted⟩ := continued.of_ok hr
          have hle : (runSide descending).le key last x :=
            runSide_le (same ▸ compared.of_ok hb)
          refine ⟨congrArg (x :: ·) parts, List.pairwise_cons.2 ⟨fun y hy => ?_, sorted⟩⟩
          rcases List.mem_cons.1 hy with rfl | hy
          · exact hle
          · exact Side.transitive hle ((List.pairwise_cons.1 sorted).1 y hy)
      · exact ⟨rfl, List.pairwise_singleton _ _⟩

theorem firstRun_meets {a : α} {xs : List α} (compares : Compares fails held before key)
    (ha : held a) (hxs : ∀ x ∈ xs, held x) :
    Meets fails (firstRun before a xs) (fun r =>
      (r.1 ++ r.2).Perm (a :: xs) ∧ r.1.Pairwise (Side.front.le key)) := by
  cases xs with
  | nil => exact ⟨.refl _, List.pairwise_singleton _ _⟩
  | cons b xs =>
    have hb : held b := hxs b List.mem_cons_self
    have compared := compares b a hb ha
    have continued (descending : Bool) := continueRun_meets descending compares hb
      fun x hx => hxs x (List.mem_cons_of_mem b hx)
    rw [firstRun]
    cases hd : before b a with
    | error e => exact compared.of_error hd
    | ok descending =>
      dsimp only
      cases hr : continueRun before descending b xs with
      | error e => exact (continued descending).of_error hr
      | ok r =>
        obtain ⟨parts, sorted⟩ := (continued descending).of_ok hr
        have read : (a :: b :: r.1).Pairwise ((runSide descending).le key) := by
          refine List.pairwise_cons.2 ⟨fun y hy => ?_, sorted⟩
          have hle : (runSide descending).le key a b := runSide_le (compared.of_ok hd)
          rcases List.mem_cons.1 hy with rfl | hy
          · exact hle
          · exact Side.transitive hle ((List.pairwise_cons.1 sorted).1 y hy)
        have whole : (a :: b :: r.1) ++ r.2 = a :: b :: xs := congrArg (a :: b :: ·) parts
        cases descending with
        | false => exact ⟨.of_eq whole, read⟩
        | true =>
          exact ⟨((List.reverse_perm _).append_right r.2).trans (.of_eq whole),
            List.pairwise_reverse.2 read⟩

/-- The runs hold the elements of the list between them, each in the order of the keys. -/
structure Covers (key : α → κ) (runs : List (Run α)) (l : List α) : Prop where
  perm : (runs.flatMap Run.items).Perm l
  sorted : ∀ r ∈ runs, r.items.Pairwise (Side.front.le key)

section Covers

variable {runs below : List (Run α)} {r s : Run α} {l : List α}

theorem covers_nil : Covers key ([] : List (Run α)) [] := ⟨.refl _, by simp⟩

theorem Covers.cons (h : Covers key runs l) (sorted : r.items.Pairwise (Side.front.le key)) :
    Covers key (r :: runs) (r.items ++ l) where
  perm := h.perm.append_left r.items
  sorted := List.forall_mem_cons.2 ⟨sorted, h.sorted⟩

theorem Covers.held_items (h : Covers key runs l) (hl : ∀ x ∈ l, held x) (hr : r ∈ runs) :
    ∀ x ∈ r.items, held x := fun x hx =>
  hl x (h.perm.mem_iff.1 (List.mem_flatMap.2 ⟨r, hr, hx⟩))

theorem Covers.merged (above : List (Run α)) (h : Covers key (above ++ r :: s :: below) l)
    {m : Run α} (hm : Arranges (Side.front.le key) (s.items ++ r.items) m.items) :
    Covers key (above ++ m :: below) l where
  perm := by
    refine List.Perm.trans ?_ h.perm
    simp only [List.flatMap_append, List.flatMap_cons, ← List.append_assoc]
    refine List.Perm.append_right _ ?_
    rw [List.append_assoc]
    exact (hm.perm.trans List.perm_append_comm).append_left _
  sorted q hq := by
    rcases List.mem_append.1 hq with hq | hq
    · exact h.sorted q (List.mem_append_left _ hq)
    · rcases List.mem_cons.1 hq with rfl | hq
      · exact hm.sorted
      · exact h.sorted q (by simp [hq])

theorem mergeRuns_meets (above : List (Run α)) (threshold : Nat)
    (compares : Compares fails held before key) (hl : ∀ x ∈ l, held x)
    (h : Covers key (above ++ r :: s :: below) l) :
    Meets fails (mergeRuns before threshold s r)
      (fun merged => Covers key (above ++ merged.1 :: below) l) := by
  refine (merge_meets compares (h.held_items hl (by simp)) (h.held_items hl (by simp))
    (h.sorted s (by simp)) (h.sorted r (by simp))).bind fun m hm => ?_
  exact h.merged above hm

theorem mergeDeeper_meets {threshold depth : Nat} (compares : Compares fails held before key)
    (hl : ∀ x ∈ l, held x) (h : Covers key (r :: below) l) :
    Meets fails (mergeDeeper before depth threshold r below) (fun p => Covers key p.runs l) := by
  induction below generalizing threshold r with
  | nil => exact h
  | cons s below ih =>
    rw [mergeDeeper]
    split
    · have merged := mergeRuns_meets [] threshold compares hl h
      cases hm : mergeRuns before threshold s r with
      | error e => exact merged.of_error hm
      | ok m => exact ih (merged.of_ok hm)
    · exact h

theorem Covers.unmarked {depth : Nat} (h : Covers key (r :: below) l) :
    Covers key ({ r with depth } :: below) l :=
  ⟨h.perm, by simpa using h.sorted⟩

theorem add_meets {total : Nat} {p : Pending α} (compares : Compares fails held before key)
    (hl : ∀ x ∈ l, held x) (h : Covers key p.runs l)
    (sorted : r.items.Pairwise (Side.front.le key)) :
    Meets fails (p.add before total r) (fun q => Covers key q.runs (r.items ++ l)) := by
  unfold Pending.add
  cases hruns : p.runs with
  | nil => exact (hruns ▸ h).cons sorted
  | cons last below =>
    refine (mergeDeeper_meets compares hl (hruns ▸ h)).bind fun q hq => ?_
    cases hq' : q.runs with
    | nil => exact (hq' ▸ hq).cons sorted
    | cons last below => exact (hq' ▸ hq).unmarked.cons sorted

theorem collapse_meets {threshold : Nat} (compares : Compares fails held before key)
    (hl : ∀ x ∈ l, held x) (h : Covers key runs l) :
    Meets fails (Pending.collapse before threshold runs) (Arranges (Side.front.le key) l) := by
  fun_induction Pending.collapse before threshold runs with
  | case1 => exact ⟨h.perm, .nil⟩
  | case2 _ r => exact ⟨by simpa using h.perm, h.sorted r List.mem_cons_self⟩
  | case3 threshold last second =>
    refine (mergeRuns_meets [] _ compares hl h).bind fun m hm => ?_
    exact ⟨by simpa using hm.perm, hm.sorted m.1 List.mem_cons_self⟩
  | case4 threshold last second third below _ ih =>
    exact (mergeRuns_meets [last] _ compares hl h).bind fun m hm => ih m.1 m.2 hm
  | case5 threshold last second third below _ ih =>
    exact (mergeRuns_meets [] _ compares hl h).bind fun m hm => ih m.1 m.2 hm

end Covers

theorem filled_meets {a : α} {xs run rest : List α} {wanted : Nat}
    (compares : Compares fails held before key) (hxs : ∀ x ∈ a :: xs, held x)
    (first : firstRun before a xs = .ok (run, rest)) :
    Meets fails ((rest.take wanted).foldlM (fun sorted x => place before x sorted) run)
      (fun filled => (filled ++ rest.drop wanted).Perm (a :: xs) ∧
        filled.Pairwise (Side.front.le key)) := by
  have read := (firstRun_meets compares (hxs a List.mem_cons_self)
    fun x hx => hxs x (List.mem_cons_of_mem a hx)).of_ok first
  have read_held : ∀ x ∈ run ++ rest, held x := fun x hx => hxs x (read.1.mem_iff.1 hx)
  refine (placeAll_meets compares
    (fun x hx => read_held x (List.mem_append_right run (List.mem_of_mem_take hx)))
    (fun x hx => read_held x (List.mem_append_left rest hx)) read.2).imp fun filled hfilled => ?_
  refine ⟨(hfilled.perm.append_right _).trans (.trans (.of_eq ?_) read.1), hfilled.sorted⟩
  rw [List.append_assoc, List.take_append_drop]

theorem cut_meets {total : Nat} {p : Pending α} {xs l : List α}
    (compares : Compares fails held before key) (hl : ∀ x ∈ l, held x) (hxs : ∀ x ∈ xs, held x)
    (h : Covers key p.runs l) :
    Meets fails (cut before total p xs) (fun q => Covers key q.runs (l ++ xs)) := by
  fun_induction cut before total p xs generalizing l with
  | case1 p => rwa [List.append_nil]
  | case2 p a xs e hfirst =>
    exact (firstRun_meets compares (hxs a List.mem_cons_self)
      fun x hx => hxs x (List.mem_cons_of_mem a hx)).of_error hfirst
  | case3 p a xs run rest hfirst _ wanted e =>
    rename_i hfilled
    exact (filled_meets compares hxs hfirst).of_error hfilled
  | case4 p a xs run rest hfirst _ wanted filled hfilled e =>
    rename_i hadd
    have ready := (filled_meets compares hxs hfirst).of_ok hfilled
    exact (add_meets compares hl h ready.2).of_error hadd
  | case5 p a xs run rest hfirst _ wanted filled hfilled q hadd =>
    rename_i ih
    have ready := (filled_meets compares hxs hfirst).of_ok hfilled
    have added := (add_meets compares hl h ready.2).of_ok hadd
    have left_held : ∀ x ∈ filled ++ rest.drop wanted, held x := fun x hx =>
      hxs x (ready.1.mem_iff.1 hx)
    refine (ih ?_ (fun x hx => left_held x (List.mem_append_right _ hx)) added).imp ?_
    · intro x hx
      rcases List.mem_append.1 hx with hx | hx
      · exact left_held x (List.mem_append_left _ hx)
      · exact hl x hx
    · rintro q ⟨perm, sorted⟩
      refine ⟨perm.trans ?_, sorted⟩
      calc ((filled ++ l) ++ rest.drop wanted).Perm ((l ++ filled) ++ rest.drop wanted) :=
            List.perm_append_comm.append_right _
        _ = l ++ (filled ++ rest.drop wanted) := List.append_assoc ..
        (l ++ (filled ++ rest.drop wanted)).Perm (l ++ a :: xs) := ready.1.append_left l

/-- A sort fails only as a comparison of two elements of the list does, and what it yields is in the
order of the keys. -/
theorem sort_meets {l : List α} (compares : Compares fails held before key)
    (hl : ∀ x ∈ l, held x) :
    Meets fails (sort before l) (Arranges (Side.front.le key) l) := by
  refine (cut_meets (l := []) compares (by simp) hl covers_nil).bind fun p hp => ?_
  exact collapse_meets compares hl hp

end Provisioning.Sorting
