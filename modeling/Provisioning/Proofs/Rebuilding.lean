import Provisioning.Proofs.Recipes

/-!
Steps that are made again of their own fields. What a step keeps as its data is frozen and in order;
freezing and sorting it once more changes nothing, so the step that comes out is the same, however
often it is made again.
-/
namespace Provisioning

namespace Sorting

variable {α ε : Type} {before : α → α → Except ε Bool}

theorem continueRun_of_ascending {a : α} {l : List α}
    (h : List.IsChain (fun x y => before y x = .ok false) (a :: l)) :
    continueRun before false a l = .ok (l, []) := by
  induction l generalizing a with
  | nil => rfl
  | cons b l ih =>
    obtain ⟨hab, hrest⟩ := List.isChain_cons_cons.1 h
    simp only [continueRun, hab, ih hrest, if_true]

theorem firstRun_of_ascending {a : α} {l : List α}
    (h : List.IsChain (fun x y => before y x = .ok false) (a :: l)) :
    firstRun before a l = .ok (a :: l, []) := by
  cases l with
  | nil => rfl
  | cons b l =>
    obtain ⟨hab, hrest⟩ := List.isChain_cons_cons.1 h
    simp only [firstRun, hab, continueRun_of_ascending hrest, Bool.false_eq_true, if_false]

theorem sort_of_ascending {l : List α}
    (h : List.IsChain (fun x y => before y x = .ok false) l) : sort before l = .ok l := by
  cases l with
  | nil => simp [sort, cut, Pending.collapse, bind, Except.bind]
  | cons a l =>
    have first := firstRun_of_ascending h
    unfold sort
    rw [cut]
    split
    · rename_i e failed
      cases first.symm.trans failed
    · rename_i run rest first'
      obtain ⟨rfl, rfl⟩ := Prod.mk.inj (Except.ok.inj (first.symm.trans first'))
      simp [Pending.add, Pending.collapse, cut, bind, Except.bind, pure, Except.pure]

end Sorting

namespace Value

theorem allFrozen_iff {xs : List Value} : AllFrozen xs ↔ ∀ x ∈ xs, x.Frozen := by
  induction xs with
  | nil => simp [AllFrozen]
  | cons x xs ih => rw [AllFrozen, ih, List.forall_mem_cons]

mutual

theorem freeze_of_frozen : {v : Value} → v.Frozen → v.freeze = .ok v
  | .null, _ | .bool _, _ | .int _, _ | .double _, _ | .text _, _ => rfl
  | .list _, h | .record _, h => h.elim
  | .tuple xs, h => by
    rw [freeze, freezeItems_of_frozen h]
    rfl

theorem freezeItems_of_frozen : {xs : List Value} → AllFrozen xs → freezeItems xs = .ok xs
  | [], _ => rfl
  | x :: xs, h => by
    rw [freezeItems, freeze_of_frozen h.1, freezeItems_of_frozen h.2]
    rfl

end

end Value

namespace Step

def rebuild (s : Step) : Except Refusal Step :=
  make s.name (.tuple s.run) s.privilege s.cwd s.kind
    (.tuple (s.data.map fun e => .tuple [e.1, e.2]))

def rebuilt (s : Step) : Nat → Except Refusal Step
  | 0 => .ok s
  | n + 1 => s.rebuilt n >>= rebuild

structure Settled (s : Step) : Prop where
  frozen : ∀ e ∈ s.data, e.2.Frozen
  ascending : s.data.IsChain fun e f => Value.entryBefore f e = .ok false

theorem entriesOf_pairs (data : Config) :
    entriesOf (.tuple (data.map fun e => .tuple [e.1, e.2])) = .ok data := by
  have paired : (data.map fun e => Value.tuple [e.1, e.2]).mapM Value.pair = .ok data := by
    apply Refusable.mapM_eq_ok.2
    apply List.forall₂_map_left_iff.2
    apply List.forall₂_same.2
    intro e _
    rfl
  cases data with
  | nil => rfl
  | cons e data => exact paired

theorem mapM_freezeEntry {data : Config} (frozen : ∀ e ∈ data, e.2.Frozen) :
    data.mapM freezeEntry = .ok data := by
  apply Refusable.mapM_eq_ok.2
  apply List.forall₂_same.2
  intro e he
  rw [freezeEntry, Value.freeze_of_frozen (frozen e he)]
  rfl

theorem rebuild_of_settled {s : Step} (h : s.Settled) : s.rebuild = .ok s :=
  make_accepted rfl (entriesOf_pairs s.data) (mapM_freezeEntry h.frozen)
    (Sorting.sort_of_ascending h.ascending)

theorem rebuilt_of_settled {s : Step} (h : s.Settled) (n : Nat) : s.rebuilt n = .ok s := by
  induction n with
  | zero => rfl
  | succ n ih =>
    rw [rebuilt, ih]
    exact rebuild_of_settled h

end Step
end Provisioning
