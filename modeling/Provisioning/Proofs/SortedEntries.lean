import Mathlib.Data.List.Forall2
import Mathlib.Data.List.Nodup
import Provisioning.Proofs.Arranging
import Provisioning.Proofs.Clashes

/-!
Sorting the entries of a record or of the data of a step. The entries are sorted exactly if no two
of them clash, whatever their order, and the sorted entries of two permutations of one list are the
same one by one. If the keys are texts and no key comes twice, nothing clashes, and permutations
sort to one and the same list.
-/
namespace Provisioning.Value

open Sorting

def entry (e : Value × Value) : Value := .tuple [e.1, e.2]

theorem entryBefore_eq (a b : Value × Value) : entryBefore a b = before (entry a) (entry b) := rfl

theorem frozen_entry {e : Value × Value} : (entry e).Frozen ↔ e.1.Frozen ∧ e.2.Frozen :=
  ⟨fun h => ⟨h.1, h.2.1⟩, fun h => ⟨h.1, h.2, trivial⟩⟩

theorem same_entry_iff {a b : Value × Value} :
    same (entry a) (entry b) = true ↔ same a.1 b.1 = true ∧ same a.2 b.2 = true := by
  simp only [entry, same, sameItems, Bool.and_true, Bool.and_eq_true]

section Written

variable {v w : Value}

theorem same_iff_marks (turned : Bool) (hv : v.Frozen) (hw : w.Frozen) :
    same v w = true ↔ marks turned v = marks turned w := by
  cases contrast hv hw with
  | alike h written => exact iff_of_true h (written turned)
  | ordered less h _ written =>
    exact iff_of_false (by simp [h]) (written turned).ne
  | clashing less h _ written =>
    exact iff_of_false (by simp [h]) (written turned).ne

theorem same_self (hv : v.Frozen) : same v v = true := (same_iff_marks false hv hv).2 rfl

theorem Clash.not_self (hv : v.Frozen) : ¬ Clash v v := fun h =>
  absurd (same_self hv) (by simp [h.differ])

theorem Clash.departs (h : Clash v w) (hv : v.Frozen) (hw : w.Frozen) :
    ∃ less : Bool, ∀ turned, Departs (less ^^ turned) (marks turned v) (marks turned w) := by
  cases contrast hv hw with
  | alike same _ => exact absurd same (by simp [h.differ])
  | ordered less _ answers _ =>
    obtain ⟨cause, refused, -⟩ := h.refused
    cases refused.symm.trans answers
  | clashing less _ _ written => exact ⟨less, written⟩

/-- One ranking writes the first of two clashing values behind the second, the other one in front
of it. -/
theorem Clash.turned (h : Clash v w) (hv : v.Frozen) (hw : w.Frozen) :
    ∃ turned, marks turned w < marks turned v ∧ marks (!turned) v < marks (!turned) w := by
  obtain ⟨less, departs⟩ := h.departs hv hw
  have behind := departs less
  have ahead := departs (!less)
  rw [Bool.xor_self] at behind
  rw [Bool.xor_not_self] at ahead
  exact ⟨less, gt_of_departs behind, lt_of_departs ahead⟩

end Written

def entryMarks (turned : Bool) (e : Value × Value) : List Mark := marks turned (entry e)

def Disordered (l : List (Value × Value)) (cause : Refusal) : Prop :=
  cause.kind = .type ∧ ∃ a ∈ l, ∃ b ∈ l, Clash (entry a) (entry b)

section Entries

variable {l l' r r' : List (Value × Value)}

theorem before_entry_of_same {a b : Value × Value} (h : same (entry a) (entry b) = true) :
    before (entry a) (entry b) = .ok false :=
  beforeItems_append (show sameItems [a.1, a.2] [b.1, b.2] = true from h) [] []

theorem compares_entries (turned : Bool) (frozen : ∀ e ∈ l, (entry e).Frozen) :
    Compares (Disordered l) (· ∈ l) entryBefore (entryMarks turned) := by
  intro a b ha hb
  rw [entryBefore_eq]
  cases contrast (frozen a ha) (frozen b hb) with
  | alike h written =>
    have hlt : ¬ entryMarks turned a < entryMarks turned b := (written turned).not_lt
    rw [before_entry_of_same h]
    exact meets_ok (iff_of_false Bool.false_ne_true hlt)
  | ordered less _ answers written =>
    rw [answers]
    exact meets_ok (written turned).less_iff
  | clashing _ _ clash _ =>
    obtain ⟨cause, refused, hkind⟩ := clash.refused
    rw [refused]
    exact meets_error ⟨hkind, a, ha, b, hb, clash⟩

theorem sortEntries_meets (turned : Bool) (frozen : ∀ e ∈ l, (entry e).Frozen) :
    Meets (Disordered l) (sortEntries l) (Arranges (Side.front.le (entryMarks turned)) l) :=
  sort_meets (compares_entries turned frozen) fun _ he => he

/-- The first entry is not written behind the second, under either ranking. -/
def Ascends (a b : Value × Value) : Prop := ∀ turned, entryMarks turned a ≤ entryMarks turned b

theorem ascends_of_sorted (frozen : ∀ e ∈ l, (entry e).Frozen) (h : sortEntries l = .ok r) :
    r.Pairwise Ascends := by
  have sorted (turned : Bool) := ((sortEntries_meets turned frozen).of_ok h).sorted
  refine ((sorted false).and (sorted true)).imp fun {a b} hab turned => ?_
  cases turned with
  | false => exact hab.1
  | true => exact hab.2

theorem ascends_or_ascends (sorted : r.Pairwise Ascends) :
    ∀ a ∈ r, ∀ b ∈ r, Ascends a b ∨ Ascends b a := by
  have comparable : r.Pairwise fun a b => Ascends a b ∨ Ascends b a := sorted.imp .inl
  exact fun a ha b hb => comparable.forall_of_forall_of_flip (fun _ _ => .inl fun _ => le_refl _)
    (sorted.imp .inr) ha hb

theorem not_clash_of_sorted (frozen : ∀ e ∈ l, (entry e).Frozen) (h : sortEntries l = .ok r) :
    ∀ a ∈ l, ∀ b ∈ l, ¬ Clash (entry a) (entry b) := by
  have perm : r.Perm l := ((sortEntries_meets false frozen).of_ok h).perm
  intro a ha b hb clash
  -- `r` has `a` and `b` in one of two orders, and each of the rankings forbids another one.
  obtain ⟨turned, behind, ahead⟩ := clash.turned (frozen a ha) (frozen b hb)
  rcases ascends_or_ascends (ascends_of_sorted frozen h) a (perm.mem_iff.2 ha) b
    (perm.mem_iff.2 hb) with hab | hba
  · exact absurd behind (hab turned).not_gt
  · exact absurd ahead (hba !turned).not_gt

theorem sortEntries_accepted_iff (frozen : ∀ e ∈ l, (entry e).Frozen) :
    (∃ r, sortEntries l = .ok r) ↔ ∀ a ∈ l, ∀ b ∈ l, ¬ Clash (entry a) (entry b) := by
  constructor
  · rintro ⟨r, h⟩
    exact not_clash_of_sorted frozen h
  · intro free
    cases h : sortEntries l with
    | ok r => exact ⟨r, rfl⟩
    | error cause =>
      obtain ⟨-, a, ha, b, hb, clash⟩ := (sortEntries_meets false frozen).of_error h
      exact absurd clash (free a ha b hb)

theorem sortEntries_refused (frozen : ∀ e ∈ l, (entry e).Frozen) {cause : Refusal}
    (h : sortEntries l = .error cause) : Disordered l cause :=
  (sortEntries_meets false frozen).of_error h

theorem perm_of_sorted (frozen : ∀ e ∈ l, (entry e).Frozen) (h : sortEntries l = .ok r) :
    r.Perm l :=
  ((sortEntries_meets false frozen).of_ok h).perm

theorem ascending_of_sorted (frozen : ∀ e ∈ l, (entry e).Frozen) (h : sortEntries l = .ok r) :
    r.Pairwise fun e f => entryBefore f e = .ok false := by
  have arranged := (sortEntries_meets false frozen).of_ok h
  refine arranged.sorted.imp_of_mem fun {e f} he hf hle => ?_
  have compared := compares_entries false frozen f e (arranged.perm.mem_iff.1 hf)
    (arranged.perm.mem_iff.1 he)
  cases hb : entryBefore f e with
  | error cause =>
    obtain ⟨-, a, ha, b, hb, clash⟩ := compared.of_error hb
    exact absurd clash (not_clash_of_sorted frozen h a ha b hb)
  | ok b =>
    rw [Bool.eq_false_iff.2 fun hb' => not_lt.2 hle ((compared.of_ok hb).1 hb')]

theorem same_of_written (frozen : ∀ e ∈ r, (entry e).Frozen) (frozen' : ∀ e ∈ r', (entry e).Frozen)
    (written : r.map (entryMarks false) = r'.map (entryMarks false)) :
    List.Forall₂ (fun a b => same (entry a) (entry b) = true) r r' := by
  induction r generalizing r' with
  | nil =>
    rw [List.map_eq_nil_iff.1 written.symm]
    exact .nil
  | cons e r ih =>
    cases r' with
    | nil => cases written
    | cons e' r' =>
      obtain ⟨head, tail⟩ := List.cons.inj written
      obtain ⟨he, hr⟩ := List.forall_mem_cons.1 frozen
      obtain ⟨he', hr'⟩ := List.forall_mem_cons.1 frozen'
      exact .cons ((same_iff_marks false he he').2 head) (ih hr hr' tail)

theorem same_of_permuted (frozen : ∀ e ∈ l, (entry e).Frozen) (perm : l.Perm l')
    (h : sortEntries l = .ok r) (h' : sortEntries l' = .ok r') :
    List.Forall₂ (fun a b => same (entry a) (entry b) = true) r r' := by
  have frozen' : ∀ e ∈ l', (entry e).Frozen := fun e he => frozen e (perm.mem_iff.2 he)
  have arranged := (sortEntries_meets false frozen).of_ok h
  have arranged' := (sortEntries_meets false frozen').of_ok h'
  have written : r.map (entryMarks false) = r'.map (entryMarks false) :=
    List.Perm.eq_of_pairwise (fun _ _ _ _ => le_antisymm)
      (List.pairwise_map.2 arranged.sorted) (List.pairwise_map.2 arranged'.sorted)
      ((arranged.perm.trans (perm.trans arranged'.perm.symm)).map _)
  exact same_of_written (fun e he => frozen e (arranged.perm.mem_iff.1 he))
    (fun e he => frozen' e (arranged'.perm.mem_iff.1 he)) written

end Entries

structure Named (l : List (Value × Value)) : Prop where
  texts : ∀ e ∈ l, ∃ key, e.1 = .text key
  distinct : (l.map Prod.fst).Nodup

section Keys

variable {l l' r : List (Value × Value)}

theorem same_text_iff {v : Value} {key : String} : same v (.text key) = true ↔ v = .text key := by
  cases v <;> simp [same, number?]

theorem clash_entry_iff {s t : String} {v w : Value} :
    Clash (entry (.text s, v)) (entry (.text t, w)) ↔ s = t ∧ Clash v w := by
  unfold entry
  rw [clash_cons_iff, clash_cons_iff, same_text_iff]
  simp only [Value.text.injEq, Clash.not_texts, Clash.not_empty, false_or, and_false, or_false]

theorem Named.eq_of_key (h : Named l) {a b : Value × Value} (ha : a ∈ l) (hb : b ∈ l)
    (key : a.1 = b.1) : a = b :=
  List.inj_on_of_nodup_map h.distinct ha hb key

theorem Named.not_clash (h : Named l) (frozen : ∀ e ∈ l, (entry e).Frozen) :
    ∀ a ∈ l, ∀ b ∈ l, ¬ Clash (entry a) (entry b) := by
  rintro ⟨k, v⟩ ha ⟨k', w⟩ hb clash
  obtain ⟨s, rfl⟩ := h.texts _ ha
  obtain ⟨t, rfl⟩ := h.texts _ hb
  obtain ⟨rfl, -⟩ := clash_entry_iff.1 clash
  obtain rfl : v = w := congrArg Prod.snd (h.eq_of_key ha hb rfl)
  exact Clash.not_self (frozen _ ha) clash

theorem Named.perm (h : Named l) (perm : l.Perm l') : Named l' where
  texts e he := h.texts e (perm.mem_iff.2 he)
  distinct := (perm.map Prod.fst).nodup_iff.1 h.distinct

theorem Named.sorted (h : Named l) (frozen : ∀ e ∈ l, (entry e).Frozen) :
    ∃ r, sortEntries l = .ok r :=
  (sortEntries_accepted_iff frozen).2 (h.not_clash frozen)

theorem Named.sorted_permuted (h : Named l) (frozen : ∀ e ∈ l, (entry e).Frozen)
    (perm : l.Perm l') : sortEntries l = sortEntries l' := by
  have frozen' : ∀ e ∈ l', (entry e).Frozen := fun e he => frozen e (perm.mem_iff.2 he)
  obtain ⟨r, hr⟩ := h.sorted frozen
  obtain ⟨r', hr'⟩ := (h.perm perm).sorted frozen'
  have arranged := (sortEntries_meets false frozen).of_ok hr
  have arranged' := (sortEntries_meets false frozen').of_ok hr'
  rw [hr, hr']
  refine congrArg Except.ok (List.Perm.eq_of_pairwise ?_ arranged.sorted arranged'.sorted
    (arranged.perm.trans (perm.trans arranged'.perm.symm)))
  intro a b ha hb hab hba
  have ha : a ∈ l := arranged.perm.mem_iff.1 ha
  have hb : b ∈ l := perm.mem_iff.2 (arranged'.perm.mem_iff.1 hb)
  have written : same (entry a) (entry b) = true :=
    (same_iff_marks false (frozen a ha) (frozen b hb)).2 (le_antisymm hab hba)
  obtain ⟨key, hkey⟩ := h.texts b hb
  have keys : same a.1 (.text key) = true := hkey ▸ (same_entry_iff.1 written).1
  exact h.eq_of_key ha hb ((same_text_iff.1 keys).trans hkey.symm)

end Keys

end Provisioning.Value
