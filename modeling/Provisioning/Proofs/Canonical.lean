import Provisioning.Proofs.StepData

/-!
The frozen form of a value is canonical. Every value without repeated keys has one; it can be a key,
it is its own frozen form, and it is the same for every order of the entries of records. So what a
step keeps as its data can be a key, and its own fields make the step again.
-/
namespace Provisioning.Step

open Refusable

section Kept

variable {name kind : String} {run data : Value} {p : Privilege} {cwd : Option String}
  {entries : Config} {s : Step}

theorem parts_of_make (made : make name run p cwd kind data = .ok s) :
    ∃ lines entries l sorted, run.items = .ok lines ∧ entriesOf data = .ok entries ∧
      entries.mapM freezeEntry = .ok l ∧ Value.sortEntries l = .ok sorted ∧
      s = ⟨name, lines, p, cwd, kind, sorted⟩ := by
  obtain ⟨lines, hlines, made⟩ := bind_eq_ok.1 made
  obtain ⟨entries, hentries, made⟩ := bind_eq_ok.1 made
  obtain ⟨l, hl, made⟩ := bind_eq_ok.1 made
  obtain ⟨sorted, hsorted, made⟩ := bind_eq_ok.1 made
  exact ⟨lines, entries, l, sorted, hlines, hentries, hl, hsorted, (Except.ok.inj made).symm⟩

theorem Pairs.sorted_of_make (h : Pairs data entries)
    (made : make name run p cwd kind data = .ok s) :
    ∃ l, entries.mapM freezeEntry = .ok l ∧ (∀ f ∈ l, (Value.entry f).Frozen) ∧
      Value.sortEntries l = .ok s.data := by
  obtain ⟨l, hl, frozen⟩ := freezeEntries_accepted h.keys h.values
  obtain ⟨lines, entries', l', sorted, -, listed, hl', hsorted, rfl⟩ := parts_of_make made
  obtain rfl := Except.ok.inj (h.listed.symm.trans listed)
  obtain rfl := Except.ok.inj (hl.symm.trans hl')
  exact ⟨l, hl, frozen, hsorted⟩

theorem Pairs.frozen_of_make (h : Pairs data entries)
    (made : make name run p cwd kind data = .ok s) :
    ∀ e ∈ s.data, (Value.entry e).Frozen := by
  obtain ⟨l, -, frozen, sorted⟩ := h.sorted_of_make made
  exact fun e he => frozen e ((Value.perm_of_sorted frozen sorted).mem_iff.1 he)

theorem Pairs.settled_of_make (h : Pairs data entries)
    (made : make name run p cwd kind data = .ok s) : s.Settled where
  frozen e he := (Value.frozen_entry.1 (h.frozen_of_make made e he)).2
  ascending := by
    obtain ⟨l, -, frozen, sorted⟩ := h.sorted_of_make made
    exact (Value.ascending_of_sorted frozen sorted).isChain

theorem requireKey_of_frozen_data (frozen : ∀ e ∈ s.data, (Value.entry e).Frozen) :
    (Value.tuple (s.data.map Value.entry)).requireKey = .ok () :=
  Value.requireKey_of_frozen (Value.allFrozen_iff.2 (List.forall_mem_map.2 frozen))

theorem same_self (plain : ∀ x ∈ s.run, x.DistinctKeys)
    (frozen : ∀ e ∈ s.data, (Value.entry e).Frozen) : s.same s = true :=
  same_with_data plain (List.forall₂_same.2 fun e he => Value.same_self (frozen e he))

end Kept

/-- Freezing settles every value on one form, whatever the order of its records. A step made of
entries whose keys can be looked up keeps data that can be looked up, and makes itself again. -/
theorem freezing_canonical :
    (∀ v : Value, v.DistinctKeys →
      ∃ w, v.freeze = .ok w ∧ w.Frozen ∧ w.requireKey = .ok () ∧ w.freeze = .ok w ∧
        ∀ u, v.Reordered u → u.freeze = .ok w) ∧
    ∀ (name kind : String) (run data : Value) (p : Privilege) (cwd : Option String)
      (entries : Config) (s : Step), Pairs data entries → (∀ x ∈ s.run, x.DistinctKeys) →
      make name run p cwd kind data = .ok s →
      (Value.tuple (s.data.map Value.entry)).requireKey = .ok () ∧
        s.rebuild = .ok s ∧ s.same s = true := by
  constructor
  · intro v h
    obtain ⟨w, hw, frozen⟩ := Value.freeze_accepted h
    refine ⟨w, hw, frozen, Value.requireKey_of_frozen frozen, Value.freeze_of_frozen frozen,
      fun u reordered => ?_⟩
    rw [← Value.freeze_of_reordered reordered h, hw]
  · intro name kind run data p cwd entries s given plain made
    have frozen := given.frozen_of_make made
    exact ⟨requireKey_of_frozen_data frozen, rebuild_of_settled (given.settled_of_make made),
      same_self plain frozen⟩

theorem freezing_canonical_of_site :
    ∃ w, (Value.record [("url", .null), ("args", .list [.int 1])]).freeze = .ok w ∧
      (Value.record [("args", .list [.int 1]), ("url", .null)]).freeze = .ok w ∧
      w.freeze = .ok w ∧
      ∃ s, make "site" (.list []) .unprivileged none "sh"
          (.record [("url", .null), ("args", .list [.int 1])]) = .ok s ∧
        s.rebuild = .ok s ∧ s.same s = true := by
  have h : (Value.record [("url", .null), ("args", .list [.int 1])]).DistinctKeys := by
    simp [Value.DistinctKeys, Value.EntriesDistinctKeys, Value.AllDistinctKeys]
  obtain ⟨canonical, rebuilds⟩ := freezing_canonical
  obtain ⟨w, frozen, -, -, again, moved⟩ := canonical _ h
  refine ⟨w, frozen, moved _ (.record (.cons (.refl _) (.cons (.refl _) .nil)) (.swap _ _ [])),
    again, ?_⟩
  have first : Sorting.firstRun Value.entryBefore (.text "url", .null)
      [(.text "args", .tuple [.int 1])] =
        .ok ([(.text "args", .tuple [.int 1]), (.text "url", .null)], []) := by
    rw [Sorting.firstRun, Value.entryBefore_of_lt (by decide : "args" < "url")]
    rfl
  have made : make "site" (.list []) .unprivileged none "sh"
      (.record [("url", .null), ("args", .list [.int 1])]) =
        .ok ⟨"site", [], .unprivileged, none, "sh",
          [(.text "args", .tuple [.int 1]), (.text "url", .null)]⟩ :=
    make_accepted rfl rfl rfl (Sorting.sort_of_short (by simp) first rfl)
  exact ⟨_, made, (rebuilds _ _ _ _ _ _ _ _ (pairs_record h) (by simp) made).2⟩

end Provisioning.Step
