import Provisioning.Proofs.Freezing

/-!
The data of a step. The order in which the pairs are written makes no difference: in any order they
are refused, or in every order they make the same step. They are refused exactly if two pairs with
one key have frozen values that clash, so never if the keys are distinct; then the data map each key
to its frozen value.
-/
namespace Provisioning
namespace Step

open Refusable

/-- The data go through as these entries, whose keys can be looked up and whose records hold no key
twice. -/
structure Pairs (data : Value) (entries : Config) : Prop where
  listed : entriesOf data = .ok entries
  keys : ∀ e ∈ entries, e.1.Frozen
  values : ∀ e ∈ entries, e.2.DistinctKeys

theorem pairs_list {es : List (String × Value)} (h : ∀ e ∈ es, e.2.DistinctKeys) :
    Pairs (.list (es.map fun e => .list [.text e.1, e.2])) (Config.ofRecord es) where
  listed := by
    have paired : (es.map fun e => Value.list [.text e.1, e.2]).mapM Value.pair =
        .ok (Config.ofRecord es) := by
      apply mapM_eq_ok.2
      apply List.forall₂_map_left_iff.2
      apply List.forall₂_map_right_iff.2
      apply List.forall₂_same.2
      intro e _
      rfl
    cases es with
    | nil => rfl
    | cons e es => exact paired
  keys := List.forall_mem_map.2 fun _ _ => trivial
  values := List.forall_mem_map.2 h

theorem pairs_record {es : List (String × Value)} (h : (Value.record es).DistinctKeys) :
    Pairs (.record es) (Config.ofRecord es) where
  listed := rfl
  keys := List.forall_mem_map.2 fun _ _ => trivial
  values := List.forall_mem_map.2 (Value.entriesDistinctKeys_iff.1 h.2)

section Make

variable {name kind : String} {run data : Value} {p : Privilege} {cwd : Option String}
  {lines : List Value} {entries l : Config} {s : Step}

theorem make_eq_map (instructions : run.items = .ok lines) (listed : entriesOf data = .ok entries)
    (frozen : entries.mapM freezeEntry = .ok l) :
    make name run p cwd kind data =
      (fun sorted => ⟨name, lines, p, cwd, kind, sorted⟩) <$> Value.sortEntries l := by
  unfold make
  rw [instructions, listed]
  change (entries.mapM freezeEntry >>= fun frozen => Value.sortEntries frozen >>= _) = _
  rw [frozen]
  rfl

theorem freezeEntry_accepted {e : Value × Value} (key : e.1.Frozen) (value : e.2.DistinctKeys) :
    ∃ f, freezeEntry e = .ok f ∧ (Value.entry f).Frozen := by
  obtain ⟨w, hw, frozen⟩ := Value.freeze_accepted value
  exact ⟨(e.1, w), bind_eq_ok.2 ⟨w, hw, rfl⟩, Value.frozen_entry.2 ⟨key, frozen⟩⟩

theorem freezeEntries_accepted (keys : ∀ e ∈ entries, e.1.Frozen)
    (values : ∀ e ∈ entries, e.2.DistinctKeys) :
    ∃ l, entries.mapM freezeEntry = .ok l ∧ ∀ f ∈ l, (Value.entry f).Frozen := by
  induction entries with
  | nil => exact ⟨[], rfl, by simp⟩
  | cons e entries ih =>
    obtain ⟨key, keys⟩ := List.forall_mem_cons.1 keys
    obtain ⟨value, values⟩ := List.forall_mem_cons.1 values
    obtain ⟨f, hf, head⟩ := freezeEntry_accepted key value
    obtain ⟨l, hl, tail⟩ := ih keys values
    refine ⟨f :: l, ?_, List.forall_mem_cons.2 ⟨head, tail⟩⟩
    rw [List.mapM_cons, hf, hl]
    rfl

end Make

section Same

variable {s : Step} {d : Config}

theorem same_with_data (plain : ∀ x ∈ s.run, x.DistinctKeys)
    (alike : List.Forall₂ (fun a b => (Value.entry a).same (Value.entry b) = true) s.data d) :
    s.same { s with data := d } = true := by
  have lines : Value.sameItems s.run s.run = true :=
    Value.sameItems_refl (Value.allDistinctKeys_iff.2 plain)
  have pairs : ((s.data.zip d).all fun p => p.1.1.same p.2.1 && p.1.2.same p.2.2) = true := by
    rw [List.all_eq_true]
    rintro ⟨a, b⟩ hab
    exact Bool.and_eq_true_iff.2 (Value.same_entry_iff.1 (List.forall₂_zip alike hab))
  simp [same, lines, pairs, alike.length_eq]

end Same

end Step

namespace Config

open Value

variable {c : Config} {key : String} {v : Value}

theorem requireKeys_of_frozen (h : ∀ e ∈ c, e.1.Frozen) : c.requireKeys = .ok () := by
  unfold requireKeys
  induction c with
  | nil => rfl
  | cons e c ih =>
    obtain ⟨head, tail⟩ := List.forall_mem_cons.1 h
    change (e.1.requireKey >>= fun _ => c.forM fun f => f.1.requireKey) = _
    rw [requireKey_of_frozen head]
    exact ih tail

theorem distinct_of_named (h : Named c) : c.distinct = c := by
  induction c with
  | nil => rfl
  | cons e c ih =>
    obtain ⟨fresh, distinct⟩ := List.nodup_cons.1 h.distinct
    have tail : Named c := ⟨fun f hf => h.texts f (List.mem_cons_of_mem e hf), distinct⟩
    have new : c.find? (fun f => f.1.same e.1) = none := by
      rw [List.find?_eq_none]
      intro f hf alike
      obtain ⟨key, hkey⟩ := h.texts e List.mem_cons_self
      rw [hkey, same_text_iff, ← hkey] at alike
      exact fresh (alike ▸ List.mem_map_of_mem hf)
    simp only [Config.distinct, ih tail, new]

theorem get?_eq_find? (c : Config) (key : String) :
    c.get? key = (c.reverse.find? fun e => e.1.same (.text key)).map (·.2) := by
  rw [get?, List.findRev?_eq_findRev?TR]
  rfl

theorem get?_eq_some_iff (h : Named c) : c.get? key = some v ↔ (.text key, v) ∈ c := by
  have same_key {e : Value × Value}
      (found : c.reverse.find? (fun e => e.1.same (.text key)) = some e) :
      e ∈ c ∧ e.1 = .text key :=
    ⟨List.mem_reverse.1 (List.mem_of_find?_eq_some found),
      same_text_iff.1 (by simpa using List.find?_some found)⟩
  rw [get?_eq_find?, Option.map_eq_some_iff]
  constructor
  · rintro ⟨e, found, rfl⟩
    obtain ⟨mem, hkey⟩ := same_key found
    exact hkey ▸ mem
  · intro mem
    cases found : c.reverse.find? (fun e => e.1.same (.text key)) with
    | none =>
      have other := List.find?_eq_none.1 found (.text key, v) (List.mem_reverse.2 mem)
      exact absurd (same_text_iff.2 rfl) other
    | some e =>
      obtain ⟨he, hkey⟩ := same_key found
      exact ⟨e, rfl, congrArg Prod.snd (h.eq_of_key he mem hkey)⟩

/-- The keys lead to the values they are given with, frozen, and there are no other keys. -/
structure Holds (c : Config) (es : List (String × Value)) : Prop where
  given : ∀ e ∈ es, ∃ w, e.2.freeze = .ok w ∧ c.get? e.1 = some w
  only : ∀ key ∉ es.map Prod.fst, c.get? key = none

end Config

namespace Step

open Refusable

theorem config_of_named {s : Step} (h : Value.Named s.data) : s.config = .ok s.data := by
  have keys : ∀ e ∈ s.data, e.1.Frozen := fun e he => by
    obtain ⟨key, hkey⟩ := h.texts e he
    rw [hkey]
    trivial
  unfold config
  rw [Config.requireKeys_of_frozen keys, Config.distinct_of_named h]
  rfl

section Permuted

open Value

variable {es fs : List (String × Value)} {l : List (Value × Value)}

theorem exists_rel_of_mem {α β : Type} {R : α → β → Prop} {xs : List α} {ys : List β}
    (h : List.Forall₂ R xs ys) {x : α} (hx : x ∈ xs) : ∃ y ∈ ys, R x y := by
  induction h with
  | nil => cases hx
  | @cons x' y xs ys head _ ih =>
    rcases List.mem_cons.1 hx with rfl | hx
    · exact ⟨y, List.mem_cons_self, head⟩
    · obtain ⟨y', hy', related⟩ := ih hx
      exact ⟨y', List.mem_cons_of_mem y hy', related⟩

theorem exists_frozen_of_mem (h : List.Forall₂ Froze es l) {e : String × Value} (he : e ∈ es) :
    ∃ f ∈ l, Froze e f :=
  exists_rel_of_mem h he

theorem exists_of_mem_frozen (h : List.Forall₂ Froze es l) {f : Value × Value} (hf : f ∈ l) :
    ∃ e ∈ es, Froze e f :=
  exists_rel_of_mem h.flip hf

theorem clash_iff_of_froze {e f : String × Value} {a b : Value × Value} (ha : Froze e a)
    (hb : Froze f b) : Clash (entry a) (entry b) ↔ e.1 = f.1 ∧ Clash a.2 b.2 := by
  obtain ⟨key, v⟩ := a
  obtain ⟨key', w⟩ := b
  obtain ⟨rfl, -⟩ := ha
  obtain ⟨rfl, -⟩ := hb
  exact clash_entry_iff

/-- Two of the pairs have one key, and their values clash once they are frozen. -/
def Conflict (es : List (String × Value)) : Prop :=
  ∃ e ∈ es, ∃ f ∈ es, e.1 = f.1 ∧
    ∃ v w, e.2.freeze = .ok v ∧ f.2.freeze = .ok w ∧ Clash v w

theorem conflict_iff (h : List.Forall₂ Froze es l) :
    Conflict es ↔ ∃ a ∈ l, ∃ b ∈ l, Clash (entry a) (entry b) := by
  constructor
  · rintro ⟨e, he, f, hf, hkey, v, w, hv, hw, clash⟩
    obtain ⟨a, ha, hea⟩ := exists_frozen_of_mem h he
    obtain ⟨b, hb, hfb⟩ := exists_frozen_of_mem h hf
    obtain rfl := Except.ok.inj (hv.symm.trans hea.2)
    obtain rfl := Except.ok.inj (hw.symm.trans hfb.2)
    exact ⟨a, ha, b, hb, (clash_iff_of_froze hea hfb).2 ⟨hkey, clash⟩⟩
  · rintro ⟨a, ha, b, hb, clash⟩
    obtain ⟨e, he, hea⟩ := exists_of_mem_frozen h ha
    obtain ⟨f, hf, hfb⟩ := exists_of_mem_frozen h hb
    obtain ⟨hkey, clash⟩ := (clash_iff_of_froze hea hfb).1 clash
    exact ⟨e, he, f, hf, hkey, a.2, b.2, hea.2, hfb.2, clash⟩

variable {name kind : String} {run data data' : Value} {p : Privilege} {cwd : Option String}
  {lines : List Value}

theorem Pairs.froze (h : Pairs data (Config.ofRecord es)) :
    ∃ l, List.Forall₂ Froze es l ∧ ∀ f ∈ l, (entry f).Frozen := by
  obtain ⟨l, hl, frozen⟩ := freezeEntries_accepted h.keys h.values
  exact ⟨l, freezeEntries_eq_ok.1 ((freezeEntries_eq es).trans hl), frozen⟩

theorem make_of_froze (instructions : run.items = .ok lines)
    (given : Pairs data (Config.ofRecord es)) (h : List.Forall₂ Froze es l) :
    make name run p cwd kind data =
      (fun sorted => ⟨name, lines, p, cwd, kind, sorted⟩) <$> sortEntries l :=
  make_eq_map instructions given.listed
    ((freezeEntries_eq es).symm.trans (freezeEntries_eq_ok.2 h))

theorem Conflict.perm (h : Conflict es) (perm : es.Perm fs) : Conflict fs := by
  obtain ⟨e, he, f, hf, clash⟩ := h
  exact ⟨e, perm.mem_iff.1 he, f, perm.mem_iff.1 hf, clash⟩

theorem Conflict.refused (instructions : run.items = .ok lines)
    (given : Pairs data (Config.ofRecord es)) (h : Conflict es) :
    ∃ cause, make name run p cwd kind data = .error cause ∧ cause.kind = .type := by
  obtain ⟨l, froze, frozen⟩ := given.froze
  obtain ⟨a, ha, b, hb, clash⟩ := (conflict_iff froze).1 h
  rw [make_of_froze instructions given froze]
  cases hsort : sortEntries l with
  | error cause => exact ⟨cause, rfl, (sortEntries_refused frozen hsort).1⟩
  | ok r => exact absurd clash (not_clash_of_sorted frozen hsort a ha b hb)

theorem made_of_no_conflict (instructions : run.items = .ok lines)
    (given : Pairs data (Config.ofRecord es)) (h : ¬ Conflict es) :
    ∃ s, make name run p cwd kind data = .ok s := by
  obtain ⟨l, froze, frozen⟩ := given.froze
  have free : ∀ a ∈ l, ∀ b ∈ l, ¬ Clash (entry a) (entry b) := fun a ha b hb clash =>
    h ((conflict_iff froze).2 ⟨a, ha, b, hb, clash⟩)
  obtain ⟨r, hsort⟩ := (sortEntries_accepted_iff frozen).2 free
  exact ⟨⟨name, lines, p, cwd, kind, r⟩,
    by rw [make_of_froze instructions given froze, hsort]; rfl⟩

theorem refused_iff_conflict (instructions : run.items = .ok lines)
    (given : Pairs data (Config.ofRecord es)) :
    (∃ cause, make name run p cwd kind data = .error cause) ↔ Conflict es := by
  constructor
  · rintro ⟨cause, refused⟩
    by_contra free
    obtain ⟨s, made⟩ := made_of_no_conflict instructions given free
    cases refused.symm.trans made
  · intro conflict
    obtain ⟨cause, refused, -⟩ := conflict.refused instructions given
    exact ⟨cause, refused⟩

theorem same_of_permuted_pairs {s t : Step} (instructions : run.items = .ok lines)
    (plain : ∀ x ∈ lines, x.DistinctKeys) (given : Pairs data (Config.ofRecord es))
    (given' : Pairs data' (Config.ofRecord fs)) (perm : es.Perm fs)
    (made : make name run p cwd kind data = .ok s)
    (made' : make name run p cwd kind data' = .ok t) : s.same t = true := by
  obtain ⟨l, froze, frozen⟩ := given.froze
  obtain ⟨l', froze', moved⟩ := froze_of_perm perm froze
  rw [make_of_froze instructions given froze] at made
  rw [make_of_froze instructions given' froze'] at made'
  obtain ⟨r, hsort, rfl⟩ := map_eq_ok.1 made
  obtain ⟨r', hsort', rfl⟩ := map_eq_ok.1 made'
  exact @same_with_data ⟨name, lines, p, cwd, kind, r⟩ r' plain
    (same_of_permuted frozen moved hsort hsort')

theorem holds_of_froze {c : Config} (froze : List.Forall₂ Froze es l) (named : Named c)
    (moved : c.Perm l) : Config.Holds c es where
  given e he := by
    obtain ⟨f, hf, hkey, hvalue⟩ := exists_frozen_of_mem froze he
    refine ⟨f.2, hvalue, (Config.get?_eq_some_iff named).2 (moved.mem_iff.2 ?_)⟩
    rw [← hkey]
    exact hf
  only key absent := by
    by_contra found
    obtain ⟨v, hv⟩ := Option.ne_none_iff_exists'.1 found
    have mem : (.text key, v) ∈ l := moved.mem_iff.1 ((Config.get?_eq_some_iff named).1 hv)
    obtain ⟨e, he, hkey, -⟩ := exists_of_mem_frozen froze mem
    rw [Value.text.inj hkey] at absent
    exact absent (List.mem_map_of_mem he)

theorem config_of_distinct (instructions : run.items = .ok lines)
    (given : Pairs data (Config.ofRecord es)) (distinct : (es.map Prod.fst).Nodup) :
    ∃ s c, make name run p cwd kind data = .ok s ∧ s.config = .ok c ∧ Config.Holds c es := by
  obtain ⟨l, froze, frozen⟩ := given.froze
  have named : Named l := named_of_froze froze distinct
  obtain ⟨r, hsort⟩ := named.sorted frozen
  have moved : r.Perm l := perm_of_sorted frozen hsort
  refine ⟨⟨name, lines, p, cwd, kind, r⟩, r, ?_, config_of_named (named.perm moved.symm),
    holds_of_froze froze (named.perm moved.symm) moved⟩
  rw [make_of_froze instructions given froze, hsort]
  rfl

theorem distinct_of_record (given : Pairs data (Config.ofRecord es))
    (fields : List (String × Value)) (hdata : data = .record fields) (h : data.DistinctKeys) :
    (es.map Prod.fst).Nodup := by
  subst hdata
  have listed : Config.ofRecord fields = Config.ofRecord es := Except.ok.inj given.listed
  have entries_inj : Function.Injective fun e : String × Value => (Value.text e.1, e.2) :=
    fun _ _ heq => Prod.ext (Value.text.inj (congrArg Prod.fst heq))
      (congrArg (fun e : Value × Value => e.2) heq)
  rw [← List.map_injective_iff.2 entries_inj listed]
  exact h.1

/-- Two orders of the same pairs are both refused, or make the same step. They are refused exactly
if they are in conflict. If no key comes twice, as in a record, they are not, and each key leads to
its value, frozen. -/
theorem make_of_permuted_pairs (instructions : run.items = .ok lines)
    (plain : ∀ x ∈ lines, x.DistinctKeys) (given : Pairs data (Config.ofRecord es))
    (given' : Pairs data' (Config.ofRecord fs)) (perm : es.Perm fs) :
    ((∃ cause cause', make name run p cwd kind data = .error cause ∧ cause.kind = .type ∧
        make name run p cwd kind data' = .error cause' ∧ cause'.kind = .type) ∨
      ∃ s t, make name run p cwd kind data = .ok s ∧ make name run p cwd kind data' = .ok t ∧
        s.same t = true) ∧
    ((∃ cause, make name run p cwd kind data = .error cause) ↔ Conflict es) ∧
    ((es.map Prod.fst).Nodup ∨ (∃ fields, data = .record fields ∧ data.DistinctKeys) →
      ∃ s c, make name run p cwd kind data = .ok s ∧ s.config = .ok c ∧ c.Holds es) := by
  refine ⟨?_, refused_iff_conflict instructions given, ?_⟩
  · by_cases conflict : Conflict es
    · obtain ⟨cause, refused, hkind⟩ := conflict.refused instructions given
      obtain ⟨cause', refused', hkind'⟩ := (conflict.perm perm).refused instructions given'
      exact .inl ⟨cause, cause', refused, hkind, refused', hkind'⟩
    · obtain ⟨s, made⟩ := made_of_no_conflict instructions given conflict
      obtain ⟨t, made'⟩ := made_of_no_conflict instructions given' fun h =>
        conflict (h.perm perm.symm)
      exact .inr ⟨s, t, made, made',
        same_of_permuted_pairs instructions plain given given' perm made made'⟩
  · rintro (distinct | ⟨fields, hdata, h⟩)
    · exact config_of_distinct instructions given distinct
    · exact config_of_distinct instructions given (distinct_of_record given fields hdata h)

theorem make_of_pairs_at_odds :
    ∃ cause cause',
      make "web" (.list []) .unprivileged none "sh"
        (.list [.list [.text "port", .list [.int 1, .null]],
          .list [.text "port", .list [.bool true, .text "http"]]]) = .error cause ∧
      cause.kind = .type ∧
      make "web" (.list []) .unprivileged none "sh"
        (.list [.list [.text "port", .list [.bool true, .text "http"]],
          .list [.text "port", .list [.int 1, .null]]]) = .error cause' ∧
      cause'.kind = .type := by
  let e : String × Value := ("port", .list [.int 1, .null])
  let f : String × Value := ("port", .list [.bool true, .text "http"])
  have conflict : Conflict [e, f] :=
    ⟨e, by simp, f, by simp, rfl, .tuple [.int 1, .null], .tuple [.bool true, .text "http"],
      rfl, rfl, clash_cons_iff.2 (.inr ⟨rfl, clash_cons_iff.2 (.inl (.kinds (by decide)))⟩)⟩
  have plain : ∀ g ∈ [e, f], g.2.DistinctKeys := by
    simp [e, f, DistinctKeys, AllDistinctKeys]
  have plain' : ∀ g ∈ [f, e], g.2.DistinctKeys := by
    simp [e, f, DistinctKeys, AllDistinctKeys]
  obtain ⟨refused | ⟨s, -, made, -⟩, accepts, -⟩ :=
    @make_of_permuted_pairs [e, f] [f, e] "web" "sh" (.list []) _ _ .unprivileged none [] rfl
      (by simp) (pairs_list plain) (pairs_list plain') (.swap f e [])
  · exact refused
  · obtain ⟨cause, h⟩ := accepts.2 conflict
    cases h.symm.trans made

end Permuted

end Step
end Provisioning
