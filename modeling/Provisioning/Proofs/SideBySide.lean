import Provisioning.Proofs.Activity

/-!
Two activities side by side. They are related if from related states they come to the same answer
and to related states again, and leave traces that are related. If traces stay related when related
ones are put behind them, activities that are put together alike from related parts are related.
-/
namespace Provisioning.Activity

variable {ε δ σ σ' α β : Type}

class Composes (T : List ε → List δ → Prop) : Prop where
  nil : T [] []
  append {a b : List ε} {a' b' : List δ} : T a a' → T b b' → T (a ++ b) (a' ++ b')

instance : Composes (Eq : List ε → List ε → Prop) where
  nil := rfl
  append h h' := by rw [h, h']

def Relates (T : List ε → List δ → Prop) (R : σ → σ' → Prop) (x : Activity ε σ α)
    (x' : Activity δ σ' α) : Prop :=
  ∀ s s', R s s' → T (x s).trace (x' s').trace ∧ (x s).answer = (x' s').answer ∧
    R (x s).after (x' s').after

section Rules

variable {T : List ε → List δ → Prop} {R : σ → σ' → Prop} {x : Activity ε σ α}
  {x' : Activity δ σ' α}

theorem relates_refl {T : List ε → List ε → Prop} {x : Activity ε σ α}
    (h : x.Leaves fun tr _ => T tr tr) : Relates T Eq x x := by
  rintro s _ rfl
  exact ⟨h s, rfl, rfl⟩

theorem relates_record {a : List ε} {a' : List δ} (h : T a a') :
    Relates T R (record a) (record a') :=
  fun _ _ related => ⟨h, rfl, related⟩

theorem Relates.attempt (hx : Relates T R x x') : Relates T R x.attempt x'.attempt := by
  intro s s' related
  obtain ⟨htrace, hanswer, hafter⟩ := hx s s' related
  exact ⟨htrace, congrArg Except.ok hanswer, hafter⟩

theorem relates_ite {b : Prop} [Decidable b] {y : Activity ε σ α} {y' : Activity δ σ' α}
    (holds : b → Relates T R x x') (fails : ¬ b → Relates T R y y') :
    Relates T R (if b then x else y) (if b then x' else y') := by
  by_cases h : b
  · rw [if_pos h, if_pos h]
    exact holds h
  · rw [if_neg h, if_neg h]
    exact fails h

variable [Composes T]

theorem relates_pure (a : α) :
    Relates T R (pure a : Activity ε σ α) (pure a : Activity δ σ' α) :=
  fun _ _ related => ⟨Composes.nil, rfl, related⟩

theorem relates_fail (f : Fault) :
    Relates T R (fail f : Activity ε σ α) (fail f : Activity δ σ' α) :=
  fun _ _ related => ⟨Composes.nil, rfl, related⟩

theorem Relates.bind {f : α → Activity ε σ β} {f' : α → Activity δ σ' β} (hx : Relates T R x x')
    (hf : ∀ a s, (x s).answer = .ok a → Relates T R (f a) (f' a)) :
    Relates T R (x >>= f) (x' >>= f') := by
  intro s s' related
  obtain ⟨htrace, hanswer, hafter⟩ := hx s s' related
  cases answer : (x s).answer with
  | error e =>
    rw [bind_of_error answer, bind_of_error (hanswer ▸ answer)]
    exact ⟨htrace, rfl, hafter⟩
  | ok a =>
    obtain ⟨htrace', hanswer', hafter'⟩ := hf a s answer _ _ hafter
    rw [bind_of_ok answer, bind_of_ok (hanswer ▸ answer)]
    exact ⟨Composes.append htrace htrace', hanswer', hafter'⟩

theorem Relates.settle {f : Except Fault α → Activity ε σ β}
    {f' : Except Fault α → Activity δ σ' β} (hx : Relates T R x x')
    (ok : ∀ a, Relates T R (f (.ok a)) (f' (.ok a)))
    (error : ∀ e s, (x s).answer = .error e → Relates T R (f (.error e)) (f' (.error e))) :
    Relates T R (x.attempt >>= f) (x'.attempt >>= f') := by
  refine hx.attempt.bind fun ended s h => ?_
  have hended : (x s).answer = ended := Except.ok.inj h
  cases ended with
  | ok a => exact ok a
  | error e => exact error e s hended

theorem relates_require {r : Except Refusal α} {f : α → Activity ε σ β}
    {f' : α → Activity δ σ' β} (hf : ∀ a, r = .ok a → Relates T R (f a) (f' a)) :
    Relates T R (require r >>= f) (require r >>= f') := by
  cases r with
  | error cause => exact relates_fail _
  | ok a => exact hf a rfl

theorem relates_conclude {r : Except Fault α} {f : α → Activity ε σ β}
    {f' : α → Activity δ σ' β} (hf : ∀ a, Relates T R (f a) (f' a)) :
    Relates T R (conclude r >>= f) (conclude r >>= f') := by
  cases r with
  | error e => exact relates_fail _
  | ok a => exact hf a

theorem relates_after {a : List ε} {a' : List δ} {f : Unit → Activity ε σ β}
    {f' : Unit → Activity δ σ' β} (h : T a a') (hf : Relates T R (f ()) (f' ())) :
    Relates T R (record a >>= f) (record a' >>= f') :=
  (relates_record h).bind fun _ _ _ => hf

end Rules

end Provisioning.Activity
