/-!
Values by key in the order in which the keys came. Setting a key that is there changes its value
and leaves its place.
-/
namespace Provisioning.Keyed

variable {α : Type}

def set (key : String) (value : α) : List (String × α) → List (String × α)
  | [] => [(key, value)]
  | e :: es => if e.1 = key then (key, value) :: es else e :: set key value es

def update (entries changes : List (String × α)) : List (String × α) :=
  changes.foldl (fun es e => set e.1 e.2 es) entries

def ofPairs (pairs : List (String × α)) : List (String × α) := update [] pairs

theorem lookup_set_self (key : String) (value : α) (es : List (String × α)) :
    (set key value es).lookup key = some value := by
  induction es with
  | nil => simp [set]
  | cons e es ih =>
    rcases e with ⟨k, v⟩
    by_cases h : k = key
    · simp [set, h]
    · simp [set, h, List.lookup_cons, beq_eq_false_iff_ne.2 (Ne.symm h), ih]

theorem lookup_set_ne {key other : String} (h : other ≠ key) (value : α)
    (es : List (String × α)) : (set key value es).lookup other = es.lookup other := by
  induction es with
  | nil => simp [set, List.lookup_cons, beq_eq_false_iff_ne.2 h]
  | cons e es ih =>
    rcases e with ⟨k, v⟩
    by_cases hk : k = key
    · simp [set, hk, List.lookup_cons, beq_eq_false_iff_ne.2 h]
    · simp [set, hk, List.lookup_cons, ih]

end Provisioning.Keyed
