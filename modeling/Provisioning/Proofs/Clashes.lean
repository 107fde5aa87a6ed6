import Mathlib.Data.List.Lex
import Mathlib.Data.Prod.Lex
import Mathlib.Order.Nat
import Mathlib.Algebra.Order.Ring.Unbundled.Rat
import Mathlib.Data.Char
import Provisioning.Value.Freeze

/-!
Which frozen values can be ordered. Two of them clash if, at the first place at which they differ,
they hold values of unlike kinds; then their comparison is refused, and in every other case it
answers. The answers are those of an order of all frozen values. How that order ranks the kinds is
free: turning their ranks around leaves each answer as it is and turns around every clash.
-/
namespace Provisioning.Value

inductive Kind
  | null
  | number
  | text
  | list
  | tuple
  | record
  deriving DecidableEq, Repr

def kind : Value → Kind
  | .null => .null
  | .bool _ | .int _ | .double _ => .number
  | .text _ => .text
  | .list _ => .list
  | .tuple _ => .tuple
  | .record _ => .record

/-- The values hold values of unlike kinds at the first place at which they differ. -/
inductive Clash : Value → Value → Prop
  | kinds {v w : Value} (unlike : v.kind ≠ w.kind) : Clash v w
  | items {front front' xs ys : List Value} {x y : Value} (alike : sameItems front front' = true)
      (clash : Clash x y) : Clash (.tuple (front ++ x :: xs)) (.tuple (front' ++ y :: ys))

section Unlike

variable {v w : Value}

theorem same_of_unlike (h : v.kind ≠ w.kind) : same v w = false := by
  cases v <;> cases w <;> first | exact absurd rfl h | rfl

theorem before_of_unlike (h : v.kind ≠ w.kind) :
    before v w = .error (.unordered v.typeName w.typeName) := by
  cases v <;> cases w <;> first | exact absurd rfl h | rfl

end Unlike

section Items

variable {front front' : List Value}

theorem sameItems_append (h : sameItems front front' = true) (xs ys : List Value) :
    sameItems (front ++ xs) (front' ++ ys) = sameItems xs ys := by
  induction front generalizing front' with
  | nil =>
    cases front' with
    | nil => rfl
    | cons y front' => simp [sameItems] at h
  | cons x front ih =>
    cases front' with
    | nil => simp [sameItems] at h
    | cons y front' =>
      obtain ⟨hxy, hrest⟩ := Bool.and_eq_true_iff.1 (by simpa only [sameItems] using h)
      rw [List.cons_append, List.cons_append, sameItems, hxy, Bool.true_and, ih hrest]

theorem beforeItems_append (h : sameItems front front' = true) (xs ys : List Value) :
    beforeItems (front ++ xs) (front' ++ ys) = beforeItems xs ys := by
  induction front generalizing front' with
  | nil =>
    cases front' with
    | nil => rfl
    | cons y front' => simp [sameItems] at h
  | cons x front ih =>
    cases front' with
    | nil => simp [sameItems] at h
    | cons y front' =>
      obtain ⟨hxy, hrest⟩ := Bool.and_eq_true_iff.1 (by simpa only [sameItems] using h)
      rw [List.cons_append, List.cons_append, beforeItems, if_pos hxy, ih hrest]

end Items

theorem Clash.differ {v w : Value} (h : Clash v w) : same v w = false := by
  induction h with
  | kinds unlike => exact same_of_unlike unlike
  | items alike _ ih => rw [same, sameItems_append alike, sameItems, ih, Bool.false_and]

theorem Clash.refused {v w : Value} (h : Clash v w) :
    ∃ cause, before v w = .error cause ∧ cause.kind = .type := by
  induction h with
  | kinds unlike => exact ⟨_, before_of_unlike unlike, rfl⟩
  | @items front front' xs ys x y alike clash ih =>
    obtain ⟨cause, hbefore, hkind⟩ := ih
    refine ⟨cause, ?_, hkind⟩
    rw [before, beforeItems_append alike, beforeItems, if_neg (by simp [clash.differ]), hbefore]

theorem Clash.of_heads {x y : Value} (h : Clash x y) {xs ys : List Value} :
    Clash (.tuple (x :: xs)) (.tuple (y :: ys)) :=
  @Clash.items [] [] xs ys x y rfl h

theorem Clash.behind {x y : Value} {xs ys : List Value} (h : Clash (.tuple xs) (.tuple ys))
    (heads : same x y = true) : Clash (.tuple (x :: xs)) (.tuple (y :: ys)) := by
  cases h with
  | kinds unlike => exact absurd rfl unlike
  | @items front front' xs ys x' y' alike clash =>
    exact @Clash.items (x :: front) (y :: front') xs ys x' y'
      (by rw [sameItems, heads, alike]; rfl) clash

theorem clash_cons_iff {x y : Value} {xs ys : List Value} :
    Clash (.tuple (x :: xs)) (.tuple (y :: ys)) ↔
      Clash x y ∨ same x y = true ∧ Clash (.tuple xs) (.tuple ys) := by
  constructor
  · intro h
    generalize hv : Value.tuple (x :: xs) = v at h
    generalize hw : Value.tuple (y :: ys) = w at h
    cases h with
    | kinds unlike =>
      subst hv hw
      exact absurd rfl unlike
    | @items front front' as bs a b alike clash =>
      cases front with
      | nil =>
        cases front' with
        | nil =>
          obtain ⟨rfl, rfl⟩ := List.cons.inj (Value.tuple.inj hv)
          obtain ⟨rfl, rfl⟩ := List.cons.inj (Value.tuple.inj hw)
          exact .inl clash
        | cons y' front' => cases alike
      | cons x' front =>
        cases front' with
        | nil => cases alike
        | cons y' front' =>
          obtain ⟨rfl, rfl⟩ := List.cons.inj (Value.tuple.inj hv)
          obtain ⟨rfl, rfl⟩ := List.cons.inj (Value.tuple.inj hw)
          obtain ⟨hxy, hrest⟩ := Bool.and_eq_true_iff.1 (by simpa only [sameItems] using alike)
          exact .inr ⟨hxy, .items hrest clash⟩
  · rintro (h | ⟨heads, h⟩)
    · exact h.of_heads
    · exact h.behind heads

theorem Clash.not_texts {s t : String} : ¬ Clash (.text s) (.text t) := by
  intro h
  cases h with
  | kinds unlike => exact unlike rfl

theorem Clash.not_empty : ¬ Clash (.tuple []) (.tuple []) := fun h =>
  Bool.false_ne_true (h.differ.symm.trans rfl)

def Kind.place : Kind → ℕ
  | .null => 0
  | .number => 1
  | .text => 2
  | .list => 3
  | .tuple => 4
  | .record => 5

theorem Kind.place_le (k : Kind) : k.place ≤ 5 := by
  cases k <;> decide

theorem Kind.place_injective {k k' : Kind} (h : k.place = k'.place) : k = k' := by
  cases k <;> cases k' <;> first | rfl | cases h

def Kind.rank (turned : Bool) (k : Kind) : ℕ := if turned then 6 - k.place else k.place + 1

theorem Kind.rank_pos (turned : Bool) (k : Kind) : 0 < k.rank turned := by
  have := k.place_le
  unfold rank
  split
  · omega
  · omega

abbrev Mark := ℕ ×ₗ (ℚ ×ₗ List Char)

def letters : Value → List Char
  | .text s => s.toList
  | _ => []

def headMark (turned : Bool) (v : Value) : Mark :=
  toLex (v.kind.rank turned, toLex (v.number?.getD 0, v.letters))

def endMark : Mark := toLex (0, toLex (0, []))

mutual

/-- A value written out mark by mark. The order of what is written is that of the values. -/
def marks (turned : Bool) : Value → List Mark
  | .tuple xs => headMark turned (.tuple xs) :: itemMarks turned xs
  | v => [headMark turned v]

def itemMarks (turned : Bool) : List Value → List Mark
  | [] => [endMark]
  | x :: xs => marks turned x ++ itemMarks turned xs

end

theorem marks_eq_cons (turned : Bool) (v : Value) :
    ∃ rest, marks turned v = headMark turned v :: rest := by
  cases v <;> exact ⟨_, rfl⟩

theorem endMark_lt (turned : Bool) (v : Value) : endMark < headMark turned v :=
  Prod.Lex.toLex_lt_toLex.2 (.inl (v.kind.rank_pos turned))

def Departs (less : Bool) (ms ns : List Mark) : Prop :=
  ∃ front m n ms' ns', ms = front ++ m :: ms' ∧ ns = front ++ n :: ns' ∧
    if less then m < n else n < m

section Departs

variable {less : Bool} {ms ns : List Mark}

theorem Departs.append (h : Departs less ms ns) (ms' ns' : List Mark) :
    Departs less (ms ++ ms') (ns ++ ns') := by
  obtain ⟨front, m, n, ms, ns, rfl, rfl, hless⟩ := h
  exact ⟨front, m, n, ms ++ ms', ns ++ ns', by simp, by simp, hless⟩

theorem Departs.behind (h : Departs less ms ns) (front : List Mark) :
    Departs less (front ++ ms) (front ++ ns) := by
  obtain ⟨more, m, n, ms, ns, rfl, rfl, hless⟩ := h
  exact ⟨front ++ more, m, n, ms, ns, by simp, by simp, hless⟩

theorem departs_head {m n : Mark} (h : if less then m < n else n < m) (ms ns : List Mark) :
    Departs less (m :: ms) (n :: ns) :=
  ⟨[], m, n, ms, ns, rfl, rfl, h⟩

theorem departs_of_lt {m n : Mark} (h : m < n) (ms ns : List Mark) :
    Departs true (m :: ms) (n :: ns) :=
  departs_head (by simpa using h) ms ns

theorem departs_of_gt {m n : Mark} (h : n < m) (ms ns : List Mark) :
    Departs false (m :: ms) (n :: ns) :=
  departs_head (by simpa using h) ms ns

theorem lt_of_departs (h : Departs true ms ns) : ms < ns := by
  obtain ⟨front, m, n, ms, ns, rfl, rfl, hless⟩ := h
  exact List.Lex.append_left (· < ·) (List.Lex.rel (by simpa using hless)) front

theorem gt_of_departs (h : Departs false ms ns) : ns < ms := by
  obtain ⟨front, m, n, ms, ns, rfl, rfl, hless⟩ := h
  exact List.Lex.append_left (· < ·) (List.Lex.rel (by simpa using hless)) front

theorem Departs.ne (h : Departs less ms ns) : ms ≠ ns := by
  cases less with
  | false => exact (gt_of_departs h).ne'
  | true => exact (lt_of_departs h).ne

theorem Departs.less_iff (h : Departs less ms ns) : less = true ↔ ms < ns := by
  cases less with
  | false => exact iff_of_false Bool.false_ne_true (lt_asymm (gt_of_departs h))
  | true => exact iff_of_true rfl (lt_of_departs h)

end Departs

/-- How two values, or two sequences of items, compare, beside their writings under both rankings:
they are the same, they are ordered as their writings are, or they clash and the turned ranking
turns the order of their writings around. -/
inductive Contrast (same : Bool) (answer : Except Refusal Bool) (clash : Prop)
    (m n : Bool → List Mark) : Prop
  | alike (h : same = true) (written : ∀ turned, m turned = n turned)
  | ordered (less : Bool) (h : same = false) (answers : answer = .ok less)
      (written : ∀ turned, Departs less (m turned) (n turned))
  | clashing (less : Bool) (h : same = false) (clash : clash)
      (written : ∀ turned, Departs (less ^^ turned) (m turned) (n turned))

theorem headMark_of_unlike {v w : Value} (h : v.kind ≠ w.kind) :
    ∃ less : Bool, ∀ turned, if less ^^ turned then headMark turned v < headMark turned w
      else headMark turned w < headMark turned v := by
  have hv := v.kind.place_le
  have hw := w.kind.place_le
  have hne : v.kind.place ≠ w.kind.place := fun he => h (Kind.place_injective he)
  refine ⟨decide (v.kind.place < w.kind.place), fun turned => ?_⟩
  have before_of_rank {v w : Value} (hr : v.kind.rank turned < w.kind.rank turned) :
      headMark turned v < headMark turned w := Prod.Lex.toLex_lt_toLex.2 (.inl hr)
  by_cases hlt : v.kind.place < w.kind.place
  · cases turned with
    | false => simpa [hlt] using before_of_rank (by simp [Kind.rank]; omega)
    | true => simpa [hlt] using before_of_rank (by simp [Kind.rank]; omega)
  · cases turned with
    | false => simpa [hlt] using before_of_rank (by simp [Kind.rank]; omega)
    | true => simpa [hlt] using before_of_rank (by simp [Kind.rank]; omega)

theorem contrast_of_unlike {v w : Value} (h : v.kind ≠ w.kind) :
    Contrast (same v w) (before v w) (Clash v w) (marks · v) (marks · w) := by
  obtain ⟨less, hless⟩ := headMark_of_unlike h
  refine .clashing less (same_of_unlike h) (.kinds h) fun turned => ?_
  obtain ⟨ms, hm⟩ := marks_eq_cons turned v
  obtain ⟨ns, hn⟩ := marks_eq_cons turned w
  rw [hm, hn]
  exact departs_head (hless turned) ms ns

theorem number?_of_kind {v : Value} (h : v.kind = .number) : ∃ m, v.number? = some m := by
  cases v <;> first | exact ⟨_, rfl⟩ | cases h

theorem same_of_numbers {v w : Value} {m n : ℚ} (hv : v.number? = some m)
    (hw : w.number? = some n) : same v w = (m == n) := by
  cases v <;> cases hv <;> cases w <;> cases hw <;> rfl

theorem before_of_numbers {v w : Value} {m n : ℚ} (hv : v.number? = some m)
    (hw : w.number? = some n) : before v w = .ok (m < n) := by
  cases v <;> cases hv <;> cases w <;> cases hw <;> rfl

theorem marks_of_number {v : Value} {m : ℚ} (h : v.number? = some m) (turned : Bool) :
    marks turned v = [toLex (Kind.number.rank turned, toLex (m, []))] := by
  cases v <;> cases h <;> rfl

theorem contrast_of_numbers {v w : Value} (hv : v.kind = .number) (hw : w.kind = .number) :
    Contrast (same v w) (before v w) (Clash v w) (marks · v) (marks · w) := by
  obtain ⟨m, hm⟩ := number?_of_kind hv
  obtain ⟨n, hn⟩ := number?_of_kind hw
  rw [same_of_numbers hm hn, before_of_numbers hm hn]
  have written {m n : ℚ} (h : m < n) (turned : Bool) :
      (toLex (Kind.number.rank turned, toLex (m, [])) : Mark) <
        toLex (Kind.number.rank turned, toLex (n, [])) :=
    Prod.Lex.toLex_lt_toLex.2 (.inr ⟨rfl, Prod.Lex.toLex_lt_toLex.2 (.inl h)⟩)
  simp only [marks_of_number hm, marks_of_number hn]
  rcases lt_trichotomy m n with h | rfl | h
  · refine .ordered true (by simp [h.ne]) (by simp [h]) fun turned => ?_
    exact departs_of_lt (written h turned) [] []
  · exact .alike (by simp) fun _ => rfl
  · refine .ordered false (by simp [h.ne']) (by simp [h.le]) fun turned => ?_
    exact departs_of_gt (written h turned) [] []

theorem contrast_of_texts (s t : String) :
    Contrast (same (.text s) (.text t)) (before (.text s) (.text t)) (Clash (.text s) (.text t))
      (marks · (.text s)) (marks · (.text t)) := by
  have written {s t : String} (h : s.toList < t.toList) (turned : Bool) :
      headMark turned (.text s) < headMark turned (.text t) :=
    Prod.Lex.toLex_lt_toLex.2 (.inr ⟨rfl, Prod.Lex.toLex_lt_toLex.2 (.inr ⟨rfl, h⟩)⟩)
  rcases lt_trichotomy s.toList t.toList with h | h | h
  · have hne : s ≠ t := fun he => lt_irrefl _ (he ▸ h)
    refine .ordered true (by simp [same, hne]) ?_ fun turned => ?_
    · exact congrArg Except.ok (decide_eq_true (show s < t from h))
    · exact departs_of_lt (written h turned) [] []
  · obtain rfl := String.toList_inj.1 h
    exact .alike (by simp [same]) fun _ => rfl
  · have hne : s ≠ t := fun he => lt_irrefl _ (he ▸ h)
    refine .ordered false (by simp [same, hne]) ?_ fun turned => ?_
    · exact congrArg Except.ok (decide_eq_false (show ¬ s < t from lt_asymm h))
    · exact departs_of_gt (written h turned) [] []

theorem contrast_of_tuples {xs ys : List Value}
    (h : Contrast (sameItems xs ys) (beforeItems xs ys) (Clash (.tuple xs) (.tuple ys))
      (itemMarks · xs) (itemMarks · ys)) :
    Contrast (same (.tuple xs) (.tuple ys)) (before (.tuple xs) (.tuple ys))
      (Clash (.tuple xs) (.tuple ys)) (marks · (.tuple xs)) (marks · (.tuple ys)) := by
  cases h with
  | alike h written => exact .alike h fun turned => congrArg (_ :: ·) (written turned)
  | ordered less h answers written =>
    exact .ordered less h answers fun turned =>
      (written turned).behind [headMark turned (.tuple xs)]
  | clashing less h clash written =>
    exact .clashing less h clash fun turned =>
      (written turned).behind [headMark turned (.tuple xs)]

theorem contrast_of_cons {x y : Value} {xs ys : List Value}
    (head : Contrast (same x y) (before x y) (Clash x y) (marks · x) (marks · y))
    (tail : Contrast (sameItems xs ys) (beforeItems xs ys) (Clash (.tuple xs) (.tuple ys))
      (itemMarks · xs) (itemMarks · ys)) :
    Contrast (sameItems (x :: xs) (y :: ys)) (beforeItems (x :: xs) (y :: ys))
      (Clash (.tuple (x :: xs)) (.tuple (y :: ys))) (itemMarks · (x :: xs))
      (itemMarks · (y :: ys)) := by
  cases head with
  | ordered less h answers written =>
    refine .ordered less ?_ ?_ fun turned => (written turned).append _ _
    · rw [sameItems, h, Bool.false_and]
    · rw [beforeItems, h, if_neg Bool.false_ne_true, answers]
  | clashing less h clash written =>
    refine .clashing less ?_ clash.of_heads fun turned => (written turned).append _ _
    rw [sameItems, h, Bool.false_and]
  | alike hxy heads =>
    have same_eq : sameItems (x :: xs) (y :: ys) = sameItems xs ys := by
      rw [sameItems, hxy, Bool.true_and]
    have before_eq : beforeItems (x :: xs) (y :: ys) = beforeItems xs ys := by
      rw [beforeItems, hxy, if_pos rfl]
    have written_eq (turned : Bool) : itemMarks turned (y :: ys) =
        marks turned x ++ itemMarks turned ys := congrArg (· ++ _) (heads turned).symm
    rw [same_eq, before_eq]
    cases tail with
    | alike h tails =>
      exact .alike h fun turned => (congrArg (_ ++ ·) (tails turned)).trans (written_eq turned).symm
    | ordered less h answers written =>
      refine .ordered less h answers fun turned => ?_
      rw [written_eq]
      exact (written turned).behind (marks turned x)
    | clashing less h clash written =>
      refine .clashing less h (clash.behind hxy) fun turned => ?_
      rw [written_eq]
      exact (written turned).behind (marks turned x)

theorem contrast_of_leaves {v w : Value} (leaf : v.kind ≠ .tuple ∨ w.kind ≠ .tuple)
    (hv : v.Frozen) (hw : w.Frozen) :
    Contrast (same v w) (before v w) (Clash v w) (marks · v) (marks · w) := by
  by_cases hkind : v.kind = w.kind
  · cases v with
    | null => cases w <;> first | exact .alike rfl fun _ => rfl | cases hkind
    | bool b => exact contrast_of_numbers rfl hkind.symm
    | int n => exact contrast_of_numbers rfl hkind.symm
    | double x => exact contrast_of_numbers rfl hkind.symm
    | text s => cases w <;> first | exact contrast_of_texts .. | cases hkind
    | list xs => exact hv.elim
    | tuple xs => exact absurd hkind.symm (leaf.resolve_left (absurd rfl))
    | record es => exact hv.elim
  · exact contrast_of_unlike hkind

mutual

theorem contrast : {v w : Value} → v.Frozen → w.Frozen →
    Contrast (same v w) (before v w) (Clash v w) (marks · v) (marks · w)
  | .tuple _, .tuple _, hv, hw => contrast_of_tuples (contrast_items hv hw)
  | .null, _, hv, hw | .bool _, _, hv, hw | .int _, _, hv, hw | .double _, _, hv, hw
  | .text _, _, hv, hw | .list _, _, hv, hw | .record _, _, hv, hw =>
    contrast_of_leaves (.inl nofun) hv hw
  | .tuple _, .null, hv, hw | .tuple _, .bool _, hv, hw | .tuple _, .int _, hv, hw
  | .tuple _, .double _, hv, hw | .tuple _, .text _, hv, hw | .tuple _, .list _, hv, hw
  | .tuple _, .record _, hv, hw => contrast_of_leaves (.inr nofun) hv hw

theorem contrast_items : {xs ys : List Value} → AllFrozen xs → AllFrozen ys →
    Contrast (sameItems xs ys) (beforeItems xs ys) (Clash (.tuple xs) (.tuple ys))
      (itemMarks · xs) (itemMarks · ys)
  | [], [], _, _ => .alike rfl fun _ => rfl
  | [], y :: ys, _, _ => .ordered true rfl rfl fun turned => by
    obtain ⟨ms, hm⟩ := marks_eq_cons turned y
    rw [itemMarks, itemMarks, hm]
    exact departs_of_lt (endMark_lt turned y) _ _
  | x :: xs, [], _, _ => .ordered false rfl rfl fun turned => by
    obtain ⟨ms, hm⟩ := marks_eq_cons turned x
    rw [itemMarks, itemMarks, hm]
    exact departs_of_gt (endMark_lt turned x) _ _
  | _ :: _, _ :: _, hxs, hys =>
    contrast_of_cons (contrast hxs.1 hys.1) (contrast_items hxs.2 hys.2)

end

end Provisioning.Value
