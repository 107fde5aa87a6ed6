import Provisioning.Sorting.Search

/-!
What a search under a test that may fail comes to. If the test answers by a property that the
elements of the list have until one does not have it, a search fails only as a test of one of them
does, and otherwise finds where the property ends.
-/
namespace Provisioning.Sorting

variable {α β γ ε : Type} {fails : ε → Prop}

def Meets (fails : ε → Prop) (x : Except ε β) (post : β → Prop) : Prop :=
  match x with
  | .ok r => post r
  | .error e => fails e

section Meets

variable {x : Except ε β} {post : β → Prop}

theorem meets_ok {r : β} (h : post r) : Meets fails (.ok r) post := h

theorem meets_error {e : ε} (h : fails e) : Meets fails (.error e) post := h

theorem Meets.of_ok {r : β} (h : Meets fails x post) (hx : x = .ok r) : post r := by
  rw [hx] at h
  exact h

theorem Meets.of_error {e : ε} (h : Meets fails x post) (hx : x = .error e) : fails e := by
  rw [hx] at h
  exact h

theorem Meets.bind {f : β → Except ε γ} {post' : γ → Prop} (hx : Meets fails x post)
    (hf : ∀ r, post r → Meets fails (f r) post') : Meets fails (x >>= f) post' := by
  cases x with
  | error e => exact hx
  | ok r => exact hf r hx

theorem Meets.map {f : β → γ} {post' : γ → Prop} (hx : Meets fails x post)
    (hf : ∀ r, post r → post' (f r)) : Meets fails (f <$> x) post' := by
  cases x with
  | error e => exact hx
  | ok r => exact hf r hx

theorem Meets.imp {post' : β → Prop} (hx : Meets fails x post) (h : ∀ r, post r → post' r) :
    Meets fails x post' := by
  cases x with
  | error e => exact hx
  | ok r => exact h r hx

end Meets

def Splits (p : α → Bool) (l : List α) (n : Nat) : Prop :=
  ∃ front back, l = front ++ back ∧ front.length = n ∧ (∀ x ∈ front, p x = true) ∧
    ∀ x ∈ back, p x = false

theorem splits_zero {p : α → Bool} {l : List α} (h : ∀ x ∈ l, p x = false) : Splits p l 0 :=
  ⟨[], l, rfl, rfl, by simp, h⟩

theorem Splits.past {p : α → Bool} {beyond : List α} {x : α} {n : Nat}
    (h : Splits p beyond n) (front : List α) (passed : ∀ y ∈ front ++ [x], p y = true) :
    Splits p (front ++ x :: beyond) (front.length + 1 + n) := by
  obtain ⟨more, back, rfl, rfl, hmore, hback⟩ := h
  have hlength : (front ++ x :: more).length = front.length + 1 + more.length := by
    simp only [List.length_append, List.length_cons]
    omega
  refine ⟨front ++ x :: more, back, by simp, hlength, ?_, hback⟩
  intro y hy
  rcases List.mem_append.1 (show y ∈ (front ++ [x]) ++ more by simpa using hy) with hy | hy
  · exact passed y hy
  · exact hmore y hy

theorem Splits.before {p : α → Bool} {front beyond : List α} {n : Nat} (h : Splits p front n)
    (failed : ∀ y ∈ beyond, p y = false) : Splits p (front ++ beyond) n := by
  obtain ⟨more, back, rfl, rfl, hmore, hback⟩ := h
  refine ⟨more, back ++ beyond, by simp, rfl, hmore, fun y hy => ?_⟩
  rcases List.mem_append.1 hy with hy | hy
  · exact hback y hy
  · exact failed y hy

theorem Splits.of_reverse {p : α → Bool} {l : List α} {n : Nat} (h : Splits p l.reverse n) :
    ∃ front back, l = front ++ back ∧ l.length - n = front.length ∧
      (∀ x ∈ front, p x = false) ∧ ∀ x ∈ back, p x = true := by
  obtain ⟨back, front, hparts, rfl, hback, hfront⟩ := h
  obtain rfl : l = front.reverse ++ back.reverse := by simpa using congrArg List.reverse hparts
  exact ⟨front.reverse, back.reverse, rfl, by simp,
    fun x hx => hfront x (List.mem_reverse.1 hx), fun x hx => hback x (List.mem_reverse.1 hx)⟩

/-- The test answers by the property, and no element without it stands in front of one that has
it. -/
structure Sieve (fails : ε → Prop) (test : α → Except ε Bool) (p : α → Bool) (l : List α) :
    Prop where
  answers : ∀ x ∈ l, Meets fails (test x) (· = p x)
  falling : l.Pairwise fun x y => p y = true → p x = true

section Sieve

variable {test : α → Except ε Bool} {p : α → Bool} {l beyond : List α} {x : α}

theorem Sieve.sublist (h : Sieve fails test p l) {part : List α} (sub : part.Sublist l) :
    Sieve fails test p part :=
  ⟨fun y hy => h.answers y (sub.subset hy), h.falling.sublist sub⟩

theorem Sieve.passed (front : List α) (h : Sieve fails test p (front ++ x :: beyond))
    (hx : test x = .ok true) :
    ∀ y ∈ front ++ [x], p y = true := by
  have hp : p x = true := ((h.answers x (by simp)).of_ok hx).symm
  intro y hy
  rcases List.mem_append.1 hy with hy | hy
  · exact (List.pairwise_append.1 h.falling).2.2 y hy x (by simp) hp
  · rwa [List.mem_singleton.1 hy]

theorem Sieve.failed (front : List α) (h : Sieve fails test p (front ++ x :: beyond))
    (hx : test x = .ok false) :
    ∀ y ∈ x :: beyond, p y = false := by
  have hp : p x = false := ((h.answers x (by simp)).of_ok hx).symm
  intro y hy
  rcases List.mem_cons.1 hy with rfl | hy
  · exact hp
  · have after := (List.pairwise_cons.1 (List.pairwise_append.1 h.falling).2.1).1 y hy
    cases hy : p y with
    | false => rfl
    | true => exact (hp.symm.trans (after hy)).symm

theorem halving_meets (side : Side) (h : Sieve fails test p l) :
    Meets fails (halving side test l) (Splits p l) := by
  fun_induction halving side test l with
  | case1 => exact splits_zero (by simp)
  | case2 l _ mid hm e hx => exact (h.answers _ (List.getElem_mem hm)).of_error hx
  | case3 l _ mid hm hx ih =>
    have parts : l.take mid ++ l[mid] :: l.drop (mid + 1) = l := by simp
    have hlength : (l.take mid).length = mid := List.length_take_of_le (Nat.le_of_lt hm)
    refine (ih (h.sublist (List.drop_sublist _ _))).map fun n hn => ?_
    have past := hn.past _ (Sieve.passed _ (parts ▸ h) hx)
    rwa [parts, hlength] at past
  | case4 l _ mid hm hx ih =>
    have parts : l.take mid ++ l[mid] :: l.drop (mid + 1) = l := by simp
    refine (ih (h.sublist (List.take_sublist _ _))).imp fun n hn => ?_
    have before := hn.before (Sieve.failed _ (parts ▸ h) hx)
    rwa [parts] at before

theorem climb_meets (side : Side) (skip : Nat) (h : Sieve fails test p l) :
    Meets fails (climb side test skip l) (Splits p l) := by
  fun_induction climb side test skip l with
  | case1 skip l _ => exact halving_meets side h
  | case2 skip l x beyond hdrop _ e hx =>
    exact (h.answers x (List.mem_of_mem_drop (hdrop ▸ List.mem_cons_self))).of_error hx
  | case3 skip l x beyond hdrop _ hx ih =>
    have parts : l.take skip ++ x :: beyond = l := by rw [← hdrop, List.take_append_drop]
    have hlength : (l.take skip).length = skip := by
      have hpos := congrArg List.length hdrop
      simp only [List.length_drop, List.length_cons] at hpos
      exact List.length_take_of_le (by omega)
    have rest : beyond.Sublist l := parts ▸ (List.sublist_cons_self x beyond).trans
      (List.sublist_append_right _ _)
    refine (ih (h.sublist rest)).map fun n hn => ?_
    have past := hn.past _ (Sieve.passed _ (parts ▸ h) hx)
    rwa [parts, hlength] at past
  | case4 skip l x beyond hdrop _ hx =>
    have parts : l.take skip ++ x :: beyond = l := by rw [← hdrop, List.take_append_drop]
    refine (halving_meets side (h.sublist (List.take_sublist _ _))).imp fun n hn => ?_
    have before := hn.before (Sieve.failed _ (parts ▸ h) hx)
    rwa [parts] at before

theorem striding_meets (side : Side) (h : Sieve fails test p l) :
    Meets fails (striding side test l) (Splits p l) := by
  cases l with
  | nil => exact splits_zero (by simp)
  | cons x l =>
    rw [striding]
    cases hx : test x with
    | error e => exact (h.answers x List.mem_cons_self).of_error hx
    | ok passes =>
      cases passes with
      | false => exact splits_zero (Sieve.failed [] h hx)
      | true =>
        refine (climb_meets side 0 (h.sublist (List.sublist_cons_self x l))).map fun n hn => ?_
        have past := hn.past [] (Sieve.passed [] h hx)
        simpa using past

end Sieve

end Provisioning.Sorting
