import Mathlib.Data.List.Perm.Basic
import Provisioning.Proofs.Rebuilding
import Provisioning.Proofs.SortedEntries

/-!
Freezing as a canonical form. A value in which no record holds a key twice is always frozen; what it
is frozen to holds no list and no record, so that it can be a key, and is frozen to itself. Values
that differ in the order of the entries of their records, at any depth, are frozen to one and the
same value.
-/
namespace Provisioning.Value

open Refusable

mutual

/-- No record at any depth holds a key twice. -/
def DistinctKeys : Value → Prop
  | .list xs | .tuple xs => AllDistinctKeys xs
  | .record es => (es.map Prod.fst).Nodup ∧ EntriesDistinctKeys es
  | _ => True

def AllDistinctKeys : List Value → Prop
  | [] => True
  | x :: xs => DistinctKeys x ∧ AllDistinctKeys xs

def EntriesDistinctKeys : List (String × Value) → Prop
  | [] => True
  | (_, v) :: es => DistinctKeys v ∧ EntriesDistinctKeys es

end

theorem allDistinctKeys_iff {xs : List Value} : AllDistinctKeys xs ↔ ∀ x ∈ xs, x.DistinctKeys := by
  induction xs with
  | nil => simp [AllDistinctKeys]
  | cons x xs ih => rw [AllDistinctKeys, ih, List.forall_mem_cons]

theorem entriesDistinctKeys_iff {es : List (String × Value)} :
    EntriesDistinctKeys es ↔ ∀ e ∈ es, e.2.DistinctKeys := by
  induction es with
  | nil => simp [EntriesDistinctKeys]
  | cons e es ih => rw [EntriesDistinctKeys, ih, List.forall_mem_cons]

theorem lookup_eq_some_iff_mem {es : List (String × Value)} (distinct : (es.map Prod.fst).Nodup)
    {key : String} {v : Value} : es.lookup key = some v ↔ (key, v) ∈ es := by
  rw [List.lookup_eq_some_iff]
  constructor
  · rintro ⟨front, back, rfl, -⟩
    exact List.mem_append_right front List.mem_cons_self
  · intro h
    obtain ⟨front, back, rfl⟩ := List.append_of_mem h
    refine ⟨front, back, rfl, fun e he => bne_iff_ne.2 fun hkey => ?_⟩
    rw [List.map_append, List.map_cons] at distinct
    exact (List.nodup_append.1 distinct).2.2 e.1 (List.mem_map_of_mem he) key
      List.mem_cons_self hkey.symm

mutual

/-- A value is the same as itself; of a record, because each of its keys leads to one value only. -/
theorem same_refl : {v : Value} → v.DistinctKeys → same v v = true
  | .null, _ => rfl
  | .bool _, _ | .int _, _ | .double _, _ | .text _, _ => by simp [same, number?]
  | .list _, h | .tuple _, h => sameItems_refl h
  | .record es, h => by
    have found : ∀ e ∈ es, es.lookup e.1 = some e.2 := fun _ he =>
      (lookup_eq_some_iff_mem h.1).2 he
    rw [same, sameEntries_refl h.2 found, beq_self_eq_true, Bool.true_and]

theorem sameItems_refl : {xs : List Value} → AllDistinctKeys xs → sameItems xs xs = true
  | [], _ => rfl
  | _ :: _, h => by rw [sameItems, same_refl h.1, sameItems_refl h.2, Bool.true_and]

theorem sameEntries_refl : {es fs : List (String × Value)} → EntriesDistinctKeys es →
    (∀ e ∈ es, fs.lookup e.1 = some e.2) → sameEntries es fs = true
  | [], _, _, _ => by rw [sameEntries]
  | (_, _) :: _, _, h, found => by
    obtain ⟨head, tail⟩ := List.forall_mem_cons.1 found
    rw [sameEntries, head, sameEntries_refl h.2 tail, Bool.and_true]
    exact same_refl h.1

end

mutual

theorem unfrozen?_of_frozen : {v : Value} → v.Frozen → v.unfrozen? = none
  | .null, _ | .bool _, _ | .int _, _ | .double _, _ | .text _, _ => rfl
  | .list _, h | .record _, h => h.elim
  | .tuple _, h => unfrozenAmong?_of_frozen h

theorem unfrozenAmong?_of_frozen : {xs : List Value} → AllFrozen xs → unfrozenAmong? xs = none
  | [], _ => rfl
  | _ :: _, h => by
    rw [unfrozenAmong?, unfrozen?_of_frozen h.1, unfrozenAmong?_of_frozen h.2, Option.none_or]

end

theorem requireKey_of_frozen {v : Value} (h : v.Frozen) : v.requireKey = .ok () := by
  rw [requireKey, unfrozen?_of_frozen h]

section Entries

variable {es fs : List (String × Value)} {l : List (Value × Value)}

def Froze (e : String × Value) (f : Value × Value) : Prop :=
  f.1 = .text e.1 ∧ e.2.freeze = .ok f.2

theorem freezeEntry_eq_ok {e : String × Value} {f : Value × Value} :
    Step.freezeEntry (.text e.1, e.2) = .ok f ↔ Froze e f := by
  unfold Step.freezeEntry
  rw [bind_eq_ok]
  constructor
  · rintro ⟨w, hw, h⟩
    obtain rfl := Except.ok.inj h
    exact ⟨rfl, hw⟩
  · rintro ⟨hkey, hw⟩
    exact ⟨f.2, hw, congrArg Except.ok (Prod.ext hkey.symm rfl)⟩

theorem freezeEntries_eq (es : List (String × Value)) :
    freezeEntries es = (Config.ofRecord es).mapM Step.freezeEntry := by
  induction es with
  | nil => rfl
  | cons e es ih =>
    obtain ⟨key, v⟩ := e
    have listed : Config.ofRecord ((key, v) :: es) = (.text key, v) :: Config.ofRecord es := rfl
    rw [freezeEntries, ih, listed, List.mapM_cons, Step.freezeEntry]
    cases v.freeze with
    | error cause => rfl
    | ok w => rfl

theorem freezeEntries_eq_ok : freezeEntries es = .ok l ↔ List.Forall₂ Froze es l := by
  rw [freezeEntries_eq, mapM_eq_ok, Config.ofRecord, List.forall₂_map_left_iff]
  simp only [freezeEntry_eq_ok]

theorem keys_of_froze (h : List.Forall₂ Froze es l) :
    l.map Prod.fst = (es.map Prod.fst).map .text := by
  induction h with
  | nil => rfl
  | cons head _ ih => rw [List.map_cons, head.1, ih, List.map_cons, List.map_cons]

theorem named_of_froze (h : List.Forall₂ Froze es l) (distinct : (es.map Prod.fst).Nodup) :
    Named l where
  texts e he := by
    have mem : e.1 ∈ (es.map Prod.fst).map .text :=
      keys_of_froze h ▸ List.mem_map_of_mem he
    obtain ⟨key, -, hkey⟩ := List.mem_map.1 mem
    exact ⟨key, hkey.symm⟩
  distinct := by
    rw [keys_of_froze h]
    exact distinct.map fun _ _ => Value.text.inj

theorem froze_of_perm (perm : es.Perm fs) (h : List.Forall₂ Froze es l) :
    ∃ l', List.Forall₂ Froze fs l' ∧ l.Perm l' := by
  obtain ⟨l', hl', moved⟩ := List.perm_comp_forall₂ perm.symm h
  exact ⟨l', hl', moved.symm⟩

end Entries

theorem freeze_record {es : List (String × Value)} {l r : List (Value × Value)}
    (frozen : freezeEntries es = .ok l) (sorted : sortEntries l = .ok r) :
    (Value.record es).freeze = .ok (.tuple (r.map entry)) :=
  bind_eq_ok.2 ⟨l, frozen, bind_eq_ok.2 ⟨r, sorted, rfl⟩⟩

mutual

theorem freeze_accepted : {v : Value} → v.DistinctKeys → ∃ w, v.freeze = .ok w ∧ w.Frozen
  | .null, _ | .bool _, _ | .int _, _ | .double _, _ | .text _, _ => ⟨_, rfl, trivial⟩
  | .list xs, h | .tuple xs, h => by
    obtain ⟨ys, hys, frozen⟩ := freezeItems_accepted h
    exact ⟨.tuple ys, bind_eq_ok.2 ⟨ys, hys, rfl⟩, frozen⟩
  | .record es, h => by
    obtain ⟨l, hl, frozen⟩ := freezeEntries_accepted h.2
    obtain ⟨r, hr⟩ := (named_of_froze (freezeEntries_eq_ok.1 hl) h.1).sorted frozen
    refine ⟨.tuple (r.map entry), freeze_record hl hr, allFrozen_iff.2 ?_⟩
    rw [List.forall_mem_map]
    exact fun e he => frozen e ((perm_of_sorted frozen hr).mem_iff.1 he)

theorem freezeItems_accepted : {xs : List Value} → AllDistinctKeys xs →
    ∃ ys, freezeItems xs = .ok ys ∧ AllFrozen ys
  | [], _ => ⟨[], rfl, trivial⟩
  | x :: xs, h => by
    obtain ⟨y, hy, head⟩ := freeze_accepted h.1
    obtain ⟨ys, hys, tail⟩ := freezeItems_accepted h.2
    exact ⟨y :: ys, bind_eq_ok.2 ⟨y, hy, bind_eq_ok.2 ⟨ys, hys, rfl⟩⟩, head, tail⟩

theorem freezeEntries_accepted : {es : List (String × Value)} → EntriesDistinctKeys es →
    ∃ l, freezeEntries es = .ok l ∧ ∀ e ∈ l, (entry e).Frozen
  | [], _ => ⟨[], rfl, by simp⟩
  | (key, v) :: es, h => by
    obtain ⟨w, hw, head⟩ := freeze_accepted h.1
    obtain ⟨l, hl, tail⟩ := freezeEntries_accepted h.2
    refine ⟨(.text key, w) :: l, bind_eq_ok.2 ⟨w, hw, bind_eq_ok.2 ⟨l, hl, rfl⟩⟩, ?_⟩
    exact List.forall_mem_cons.2 ⟨frozen_entry.2 ⟨trivial, head⟩, tail⟩

end

mutual

/-- The second value is the first one with the entries of records, at any depth, in another
order. -/
inductive Reordered : Value → Value → Prop
  | refl (v : Value) : Reordered v v
  | list {xs ys : List Value} (items : ItemsReordered xs ys) : Reordered (.list xs) (.list ys)
  | tuple {xs ys : List Value} (items : ItemsReordered xs ys) : Reordered (.tuple xs) (.tuple ys)
  | record {es gs fs : List (String × Value)} (values : EntriesReordered es gs)
      (moved : gs.Perm fs) : Reordered (.record es) (.record fs)

inductive ItemsReordered : List Value → List Value → Prop
  | nil : ItemsReordered [] []
  | cons {x y : Value} {xs ys : List Value} (head : Reordered x y) (tail : ItemsReordered xs ys) :
      ItemsReordered (x :: xs) (y :: ys)

inductive EntriesReordered : List (String × Value) → List (String × Value) → Prop
  | nil : EntriesReordered [] []
  | cons {key : String} {v w : Value} {es fs : List (String × Value)} (head : Reordered v w)
      (tail : EntriesReordered es fs) : EntriesReordered ((key, v) :: es) ((key, w) :: fs)

end

theorem freeze_of_moved {es gs fs : List (String × Value)}
    (values : freezeEntries es = freezeEntries gs) (moved : gs.Perm fs)
    (h : (Value.record es).DistinctKeys) :
    (Value.record es).freeze = (Value.record fs).freeze := by
  obtain ⟨l, hl, frozen⟩ := freezeEntries_accepted h.2
  have named : Named l := named_of_froze (freezeEntries_eq_ok.1 hl) h.1
  obtain ⟨l', hl', perm⟩ := froze_of_perm moved (freezeEntries_eq_ok.1 (values ▸ hl))
  obtain ⟨r, hr⟩ := named.sorted frozen
  rw [freeze_record hl hr, freeze_record (freezeEntries_eq_ok.2 hl')
    (named.sorted_permuted frozen perm ▸ hr)]

mutual

theorem freeze_of_reordered : {v w : Value} → v.Reordered w → v.DistinctKeys →
    v.freeze = w.freeze
  | _, _, .refl _, _ => rfl
  | _, _, .list items, h | _, _, .tuple items, h => by
    rw [freeze, freeze, freezeItems_of_reordered items h]
  | _, _, .record values moved, h =>
    freeze_of_moved (freezeEntries_of_reordered values h.2) moved h

theorem freezeItems_of_reordered : {xs ys : List Value} → ItemsReordered xs ys →
    AllDistinctKeys xs → freezeItems xs = freezeItems ys
  | _, _, .nil, _ => rfl
  | _, _, .cons head tail, h => by
    rw [freezeItems, freezeItems, freeze_of_reordered head h.1, freezeItems_of_reordered tail h.2]

theorem freezeEntries_of_reordered : {es fs : List (String × Value)} → EntriesReordered es fs →
    EntriesDistinctKeys es → freezeEntries es = freezeEntries fs
  | _, _, .nil, _ => rfl
  | _, _, .cons head tail, h => by
    rw [freezeEntries, freezeEntries, freeze_of_reordered head h.1,
      freezeEntries_of_reordered tail h.2]

end

end Provisioning.Value
