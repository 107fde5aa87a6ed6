import Provisioning.Activity

/-!
How activities run. A sequence leaves the trace of its first part and behind it that of its second,
up to the first fault. What every run of an activity leaves behind is stated by `Leaves`, whose
rules follow the way activities are put together.
-/
namespace Provisioning.Activity

variable {ε δ σ α β : Type}

@[simp] theorem pure_apply (a : α) (w : σ) : (pure a : Activity ε σ α) w = ⟨[], .ok a, w⟩ := rfl

@[simp] theorem fail_apply (f : Fault) (w : σ) :
    (fail f : Activity ε σ α) w = ⟨[], .error f, w⟩ := rfl

@[simp] theorem record_apply (entries : List ε) (w : σ) :
    (record entries : Activity ε σ Unit) w = ⟨entries, .ok (), w⟩ := rfl

@[simp] theorem attempt_apply (x : Activity ε σ α) (w : σ) :
    x.attempt w = ⟨(x w).trace, .ok (x w).answer, (x w).after⟩ := rfl

@[simp] theorem rename_apply (g : ε → δ) (x : Activity ε σ α) (w : σ) :
    x.rename g w = ⟨(x w).trace.map g, (x w).answer, (x w).after⟩ := rfl

@[simp] theorem pure_bind_eq (a : α) (f : α → Activity ε σ β) : (pure a >>= f) = f a := rfl

@[simp] theorem fail_bind_eq (e : Fault) (f : α → Activity ε σ β) : (fail e >>= f) = fail e := rfl

theorem require_bind_of_ok {r : Except Refusal α} {a : α} (h : r = .ok a)
    (f : α → Activity ε σ β) : (require r >>= f) = f a := h ▸ rfl

theorem require_bind_of_error {r : Except Refusal α} {cause : Refusal} (h : r = .error cause)
    (f : α → Activity ε σ β) : (require r >>= f) = fail (.refused cause) := h ▸ rfl

@[simp] theorem conclude_ok (a : α) : (conclude (.ok a) : Activity ε σ α) = pure a := rfl

@[simp] theorem conclude_error (f : Fault) :
    (conclude (.error f) : Activity ε σ α) = fail f := rfl

theorem record_bind_apply (entries : List ε) (f : Unit → Activity ε σ β) (w : σ) :
    (record entries >>= f) w = ⟨entries ++ (f () w).trace, (f () w).answer, (f () w).after⟩ := rfl

theorem attempt_bind_apply (x : Activity ε σ α) (f : Except Fault α → Activity ε σ β) (w : σ) :
    (x.attempt >>= f) w =
      ⟨(x w).trace ++ (f (x w).answer (x w).after).trace, (f (x w).answer (x w).after).answer,
        (f (x w).answer (x w).after).after⟩ := rfl

theorem bind_assoc {γ : Type} (x : Activity ε σ α) (f : α → Activity ε σ β)
    (g : β → Activity ε σ γ) : (x >>= f >>= g) = x >>= fun a => f a >>= g := by
  funext w
  cases hx : (x w).answer with
  | error e =>
    have hf : ((x >>= f) w).answer = .error e := by rw [bind_of_error hx]
    rw [bind_of_error hf, bind_of_error hx, bind_of_error hx]
  | ok a =>
    have hf := bind_of_ok (f := f) hx
    rw [bind_of_ok hx]
    cases hb : (f a (x w).after).answer with
    | error e =>
      have hxf : ((x >>= f) w).answer = .error e := by rw [hf, hb]
      rw [bind_of_error hxf, hf, bind_of_error hb]
    | ok b =>
      have hxf : ((x >>= f) w).answer = .ok b := by rw [hf, hb]
      rw [bind_of_ok hxf, hf, bind_of_ok hb]
      simp

theorem trace_bind_of_silent {x : Activity ε σ α} {f : α → Activity ε σ β}
    (silent : ∀ a w, (f a w).trace = []) (w : σ) : ((x >>= f) w).trace = (x w).trace := by
  cases answer : (x w).answer with
  | error e => rw [bind_of_error answer]
  | ok a =>
    rw [bind_of_ok answer]
    simp [silent]

theorem answer_attempt_record (x : Activity ε σ α) (entries : Except Fault α → List ε) (w : σ) :
    ((do
        let answer ← x.attempt
        record (entries answer)
        conclude answer : Activity ε σ α) w).answer = (x w).answer := by
  rw [attempt_bind_apply]
  cases (x w).answer <;> rfl

/-- What every run of an activity leaves behind, whatever the outside world is like. -/
def Leaves (x : Activity ε σ α) (P : List ε → Except Fault α → Prop) : Prop :=
  ∀ w, P (x w).trace (x w).answer

theorem Leaves.imp {x : Activity ε σ α} {P Q : List ε → Except Fault α → Prop}
    (hx : x.Leaves P) (h : ∀ tr ans, P tr ans → Q tr ans) : x.Leaves Q :=
  fun w => h _ _ (hx w)

theorem Leaves.bind {x : Activity ε σ α} {f : α → Activity ε σ β}
    {P : List ε → Except Fault α → Prop} {Q : α → List ε → Except Fault β → Prop}
    {R : List ε → Except Fault β → Prop} (hx : x.Leaves P) (hf : ∀ a, (f a).Leaves (Q a))
    (stopped : ∀ tr e, P tr (.error e) → R tr (.error e))
    (passed : ∀ tr a tr' ans, P tr (.ok a) → Q a tr' ans → R (tr ++ tr') ans) :
    (x >>= f).Leaves R := by
  intro w
  have hw := hx w
  cases he : (x w).answer with
  | error e =>
    rw [bind_of_error he]
    rw [he] at hw
    exact stopped _ _ hw
  | ok a =>
    rw [bind_of_ok he]
    rw [he] at hw
    exact passed _ _ _ _ hw (hf a _)

theorem leaves_require {r : Except Refusal α} {f : α → Activity ε σ β}
    {P : List ε → Except Fault β → Prop} (accepted : ∀ a, r = .ok a → (f a).Leaves P)
    (refused : ∀ cause, r = .error cause → P [] (.error (.refused cause))) :
    (require r >>= f).Leaves P := by
  cases r with
  | error cause => exact fun _ => refused cause rfl
  | ok a => exact accepted a rfl

theorem leaves_conclude {r : Except Fault α} {f : α → Activity ε σ β}
    {P : List ε → Except Fault β → Prop} (answered : ∀ a, r = .ok a → (f a).Leaves P)
    (raised : ∀ e, r = .error e → P [] (.error e)) : (conclude r >>= f).Leaves P := by
  cases r with
  | error e => exact fun _ => raised e rfl
  | ok a => exact answered a rfl

/-- Every run ends with an answer of the one kind or with a fault of the other. -/
def Ensures (x : Activity ε σ α) (Q : α → Prop) (P : Fault → Prop) : Prop :=
  x.Leaves fun _ ans => match ans with
    | .ok a => Q a
    | .error f => P f

section Ensures

variable {x : Activity ε σ α} {f : α → Activity ε σ β} {Q : α → Prop} {R : β → Prop}
  {P : Fault → Prop}

theorem ensures_pure {a : α} (h : Q a) : (pure a : Activity ε σ α).Ensures Q P := fun _ => h

theorem ensures_fail {e : Fault} (h : P e) : (fail e : Activity ε σ α).Ensures Q P := fun _ => h

theorem ensures_record (entries : List ε) :
    (record entries : Activity ε σ Unit).Ensures (fun _ => True) P := fun _ => trivial

theorem ensures_trivial (x : Activity ε σ α) : x.Ensures (fun _ => True) fun _ => True := by
  intro w
  cases (x w).answer <;> trivial

theorem Ensures.imp {Q' : α → Prop} {P' : Fault → Prop} (hx : x.Ensures Q P)
    (hQ : ∀ a, Q a → Q' a) (hP : ∀ e, P e → P' e) : x.Ensures Q' P' :=
  Leaves.imp hx fun _ ans => match ans with
    | .ok a => hQ a
    | .error e => hP e

theorem Ensures.bind (hx : x.Ensures Q P) (hf : ∀ a, Q a → (f a).Ensures R P) :
    (x >>= f).Ensures R P :=
  Leaves.bind (Q := fun a _ ans => Q a → match ans with
    | .ok b => R b
    | .error e => P e) hx (fun a w ha => hf a ha w) (fun _ _ h => h) fun _ _ _ _ ha h => h ha

theorem Ensures.attempt {P' : Fault → Prop} (hx : x.Ensures Q P) :
    x.attempt.Ensures (fun ended => ∀ e, ended = .error e → P e) P' := by
  intro w e failed
  have hw := hx w
  rw [failed] at hw
  exact hw

theorem Ensures.of_answer {δ : Type} {y : Activity δ σ α} (hx : x.Ensures Q P)
    (h : ∀ w, (y w).answer = (x w).answer) : y.Ensures Q P := by
  intro w
  have hw := hx w
  simp only [h]
  exact hw

theorem Ensures.of_ok (hx : x.Ensures Q P) {w : σ} {a : α} (h : (x w).answer = .ok a) : Q a := by
  have hw := hx w
  rw [h] at hw
  exact hw

theorem Ensures.of_error (hx : x.Ensures Q P) {w : σ} {e : Fault}
    (h : (x w).answer = .error e) : P e := by
  have hw := hx w
  rw [h] at hw
  exact hw

end Ensures

end Provisioning.Activity
