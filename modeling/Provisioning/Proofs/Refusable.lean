import Mathlib.Data.List.Forall2
import Provisioning.Refusal

/-!
Computations that may be refused, one after the other and over a list. A sequence is accepted
exactly if each of its parts is.
-/
namespace Provisioning.Refusable

variable {α β : Type}

theorem bind_eq_ok {x : Except Refusal α} {f : α → Except Refusal β} {b : β} :
    (x >>= f) = .ok b ↔ ∃ a, x = .ok a ∧ f a = .ok b := by
  constructor
  · intro h
    cases x with
    | error e => cases h
    | ok a => exact ⟨a, rfl, h⟩
  · intro h
    obtain ⟨a, rfl, h⟩ := h
    exact h

theorem bind_eq_error {x : Except Refusal α} {f : α → Except Refusal β} {cause : Refusal} :
    (x >>= f) = .error cause ↔ x = .error cause ∨ ∃ a, x = .ok a ∧ f a = .error cause := by
  cases x with
  | error e => simp [bind, Except.bind]
  | ok a => simp [bind, Except.bind]

theorem exists_error {x : Except Refusal α} (h : ¬ ∃ a, x = .ok a) : ∃ cause, x = .error cause := by
  cases x with
  | ok a => exact absurd ⟨a, rfl⟩ h
  | error cause => exact ⟨cause, rfl⟩

theorem bind_of_error {x : Except Refusal α} {cause : Refusal} (h : x = .error cause)
    (f : α → Except Refusal β) : (x >>= f) = .error cause := h ▸ rfl

theorem map_eq_ok {x : Except Refusal α} {f : α → β} {b : β} :
    (f <$> x) = .ok b ↔ ∃ a, x = .ok a ∧ f a = b := by
  constructor
  · intro h
    cases x with
    | error e => cases h
    | ok a => exact ⟨a, rfl, Except.ok.inj h⟩
  · intro h
    obtain ⟨a, rfl, rfl⟩ := h
    rfl

theorem mapM_eq_ok {f : α → Except Refusal β} {xs : List α} {ys : List β} :
    xs.mapM f = .ok ys ↔ List.Forall₂ (fun x y => f x = .ok y) xs ys := by
  induction xs generalizing ys with
  | nil =>
    rw [List.mapM_nil, List.forall₂_nil_left_iff]
    exact ⟨fun h => (Except.ok.inj h).symm, fun h => h ▸ rfl⟩
  | cons x xs ih =>
    rw [List.mapM_cons, bind_eq_ok, List.forall₂_cons_left_iff]
    constructor
    · intro h
      obtain ⟨y, hy, h⟩ := h
      obtain ⟨zs, hz, h⟩ := bind_eq_ok.1 h
      exact ⟨y, zs, hy, ih.1 hz, (Except.ok.inj h).symm⟩
    · intro h
      obtain ⟨y, zs, hy, hz, rfl⟩ := h
      exact ⟨y, hy, bind_eq_ok.2 ⟨zs, ih.2 hz, rfl⟩⟩

theorem mapM_accepted {f : α → Except Refusal β} {xs : List α} (h : ∀ x ∈ xs, ∃ y, f x = .ok y) :
    ∃ ys, xs.mapM f = .ok ys := by
  induction xs with
  | nil => exact ⟨[], rfl⟩
  | cons x xs ih =>
    obtain ⟨y, hy⟩ := h x List.mem_cons_self
    obtain ⟨ys, hys⟩ := ih fun z hz => h z (List.mem_cons_of_mem _ hz)
    exact ⟨y :: ys, mapM_eq_ok.2 (.cons hy (mapM_eq_ok.1 hys))⟩

end Provisioning.Refusable
