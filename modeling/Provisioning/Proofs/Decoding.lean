import Provisioning.Stage
import Provisioning.Proofs.Refusable

/-!
What the decoders of step data accept. A value is taken apart into two exactly if it yields two
items, and becomes a shell word exactly if it is text or does not count as given. The substeps of a
stage are those of its data, each made a tuple of its own items, and there is at least one of them.
-/
namespace Provisioning

open Refusable

namespace Value

theorem pair_eq_ok {v a b : Value} : v.pair = .ok (a, b) ↔ v.items = .ok [a, b] := by
  unfold pair
  cases v.items with
  | error cause => simp
  | ok xs =>
    match xs with
    | [] => simp
    | [_] => simp
    | [_, _] => simp
    | _ :: _ :: _ :: _ => simp

def Quotable (v : Value) : Prop := v.truthy = false ∨ ∃ s, v = .text s

theorem quotable_text (s : String) : (Value.text s).Quotable := .inr ⟨s, rfl⟩

theorem quotable_iff {v : Value} : v.Quotable ↔ ∃ word, Shell.quoteValue v = .ok word := by
  unfold Quotable Shell.quoteValue
  cases hv : v.truthy with
  | false => simp
  | true => cases v <;> simp

theorem quotable_orElse {v : Value} (s : String) : (v.orElse (.text s)).Quotable ↔ v.Quotable := by
  unfold orElse
  cases hv : v.truthy with
  | false => simp [Quotable, hv]
  | true => simp

def Yields (v w : Value) : Prop := ∃ xs, v.items = .ok xs ∧ w.items = .ok xs

theorem Yields.pair {v w a b : Value} (h : v.Yields w) (hv : v.pair = .ok (a, b)) :
    w.pair = .ok (a, b) := by
  obtain ⟨xs, hx, hw⟩ := h
  rw [pair_eq_ok] at hv ⊢
  rw [hw, ← hx, hv]

def IsPair (v : Value) : Prop := ∃ a b, v.pair = .ok (a, b)

theorem Yields.symm {v w : Value} (h : v.Yields w) : w.Yields v := by
  obtain ⟨xs, hv, hw⟩ := h
  exact ⟨xs, hw, hv⟩

theorem Yields.isPair {v w : Value} (h : v.Yields w) (hv : v.IsPair) : w.IsPair := by
  obtain ⟨a, b, hab⟩ := hv
  exact ⟨a, b, h.pair hab⟩

theorem Yields.isPair_iff {v w : Value} (h : v.Yields w) : v.IsPair ↔ w.IsPair :=
  ⟨h.isPair, h.symm.isPair⟩

theorem forall_isPair_iff {xs ys : List Value} (h : List.Forall₂ Yields xs ys) :
    (∀ x ∈ xs, x.IsPair) ↔ ∀ y ∈ ys, y.IsPair := by
  induction h with
  | nil => simp
  | cons hxy _ ih => simp only [List.forall_mem_cons, hxy.isPair_iff, ih]

end Value

namespace Stage

theorem substepsOf_of_ne_null {v : Value} (hv : v ≠ .null) : substepsOf v = v.items := by
  cases v with
  | null => exact absurd rfl hv
  | _ => rfl

theorem tuple_items_eq_ok (x y : Value) :
    (Value.tuple <$> x.items) = .ok y ↔ ∃ zs, x.items = .ok zs ∧ y = .tuple zs := by
  rw [map_eq_ok]
  exact exists_congr fun zs => and_congr_right fun _ => eq_comm

theorem tupled_eq_ok {v w : Value} (hv : v ≠ .null) :
    tupled v = .ok w ↔ ∃ xs ys, v.items = .ok xs ∧ w = .list ys ∧
      List.Forall₂ (fun x y => ∃ zs, x.items = .ok zs ∧ y = .tuple zs) xs ys := by
  have shape : tupled v =
      (do return .list (← (← v.items).mapM fun s => Value.tuple <$> s.items)) := by
    cases v with
    | null => exact absurd rfl hv
    | _ => rfl
  rw [shape, bind_eq_ok]
  constructor
  · intro h
    obtain ⟨xs, hx, h⟩ := h
    obtain ⟨ys, hy, h⟩ := bind_eq_ok.1 h
    exact ⟨xs, ys, hx, (Except.ok.inj h).symm,
      (mapM_eq_ok.1 hy).imp fun x y => (tuple_items_eq_ok x y).1⟩
  · intro h
    obtain ⟨xs, ys, hx, rfl, hy⟩ := h
    exact ⟨xs, hx, bind_eq_ok.2 ⟨ys, mapM_eq_ok.2 (hy.imp fun x y => (tuple_items_eq_ok x y).2),
      rfl⟩⟩

theorem make_eq_ok {substeps envFile : Value} {p : Privilege} {s : Stage} :
    make substeps envFile p = .ok s ↔
      ∃ xs, substepsOf substeps = .ok xs ∧ xs ≠ [] ∧ s = ⟨xs, envFile, p⟩ := by
  unfold make
  rw [bind_eq_ok]
  refine exists_congr fun xs => and_congr_right fun _ => ?_
  cases xs with
  | nil => simp
  | cons x xs =>
    simp only [List.isEmpty_cons, Bool.false_eq_true, if_false, ne_eq, reduceCtorEq,
      not_false_eq_true, true_and]
    exact ⟨fun h => (Except.ok.inj h).symm, fun h => h ▸ rfl⟩

theorem yields_of_ofConfig {data : Config} {p : Privilege} {s : Stage}
    (h : ofConfig data p = .ok s) :
    s.envFile = data.getD "env_file" defaultEnvFile ∧ s.privilege = p ∧
      ∃ xs, substepsOf (data.getD "substeps" .null) = .ok xs ∧ xs ≠ [] ∧
        List.Forall₂ Value.Yields xs s.substeps := by
  obtain ⟨v, hv, h⟩ := bind_eq_ok.1 h
  obtain ⟨ys, hy, hne, rfl⟩ := make_eq_ok.1 h
  refine ⟨rfl, rfl, ?_⟩
  by_cases hn : data.getD "substeps" .null = .null
  · rw [hn] at hv ⊢
    obtain rfl := Except.ok.inj hv
    refine ⟨ys, hy, hne, List.forall₂_same.2 fun x hx => ?_⟩
    obtain rfl := Except.ok.inj hy
    obtain ⟨e, -, rfl⟩ := List.mem_map.1 hx
    exact ⟨_, rfl, rfl⟩
  · obtain ⟨xs, zs, hx, rfl, hz⟩ := (tupled_eq_ok hn).1 hv
    obtain rfl := Except.ok.inj hy
    refine ⟨xs, ?_, ?_, hz.imp fun x y ⟨ws, hw, he⟩ => ⟨ws, hw, he ▸ rfl⟩⟩
    · rw [substepsOf_of_ne_null hn, hx]
    · intro hempty
      rw [hempty] at hz
      exact hne (List.forall₂_nil_left_iff.1 hz)

theorem ofConfig_accepted {data : Config} (p : Privilege) {xs : List Value}
    (hx : substepsOf (data.getD "substeps" .null) = .ok xs) (hne : xs ≠ [])
    (iterable : ∀ x ∈ xs, ∃ zs, x.items = .ok zs) : ∃ s, ofConfig data p = .ok s := by
  unfold ofConfig
  by_cases hn : data.getD "substeps" .null = .null
  · rw [hn] at hx ⊢
    exact ⟨_, bind_eq_ok.2 ⟨.null, rfl, make_eq_ok.2 ⟨xs, hx, hne, rfl⟩⟩⟩
  · rw [substepsOf_of_ne_null hn] at hx
    obtain ⟨ys, hy⟩ := mapM_accepted (f := fun x : Value => Value.tuple <$> x.items) fun x hm => by
      obtain ⟨zs, hz⟩ := iterable x hm
      exact ⟨.tuple zs, map_eq_ok.2 ⟨zs, hz, rfl⟩⟩
    have hf := (mapM_eq_ok.1 hy).imp fun x y h => (tuple_items_eq_ok x y).1 h
    have hys : ys ≠ [] := by
      intro hempty
      rw [hempty] at hf
      exact hne (List.forall₂_nil_right_iff.1 hf)
    exact ⟨_, bind_eq_ok.2 ⟨.list ys, (tupled_eq_ok hn).2 ⟨xs, ys, hx, rfl, hf⟩,
      make_eq_ok.2 ⟨ys, rfl, hys, rfl⟩⟩⟩

end Stage

namespace Step

def field (s : Step) (key : String) (fallback : Value) : Value := s.data.distinct.getD key fallback

def substeps (s : Step) : Except Refusal (List Value) :=
  Stage.substepsOf (s.field "substeps" .null)

/-- Whether the commands of a step can be read off its data: the tool and the address of an
installer that is wanted, and the name and the command of each substep. -/
def Legible (s : Step) : Prop :=
  match StepKind.ofWord? s.kind with
  | some .toolchain =>
    (s.field "noop" .null).truthy = true ∨
      (s.field "tool" (.text "cargo")).Quotable ∧ (s.field "url" .null).Quotable
  | some .buildTest => ∃ xs, s.substeps = .ok xs ∧ ∀ x ∈ xs, x.IsPair
  | _ => True

theorem config_eq (s : Step) :
    s.config = .ok s.data.distinct ∨ ∃ cause, s.config = .error cause := by
  unfold config
  cases s.data.requireKeys with
  | ok u => exact .inl rfl
  | error cause => exact .inr ⟨cause, rfl⟩

theorem eq_of_config {s : Step} {data : Config} (h : s.config = .ok data) :
    data = s.data.distinct := by
  rcases s.config_eq with hc | ⟨cause, hc⟩
  · exact Except.ok.inj (h.symm.trans hc)
  · cases h.symm.trans hc

end Step
end Provisioning
