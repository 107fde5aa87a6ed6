import Provisioning.Fault

/-!
An activity works against an outside world whose state it threads, leaves a trace of entries in
order, and ends with an answer or a fault. The trace of a sequence of activities is the traces of
its parts, one after the other, up to the first fault.
-/
namespace Provisioning

structure Report (ε σ α : Type) where
  trace : List ε
  answer : Except Fault α
  after : σ

def Activity (ε σ α : Type) : Type := σ → Report ε σ α

namespace Activity

variable {ε δ σ α β : Type}

def give (a : α) : Activity ε σ α := fun s => ⟨[], .ok a, s⟩

def fail (f : Fault) : Activity ε σ α := fun s => ⟨[], .error f, s⟩

def followedBy (x : Activity ε σ α) (f : α → Activity ε σ β) : Activity ε σ β := fun s =>
  let r := x s
  match r.answer with
  | .error e => ⟨r.trace, .error e, r.after⟩
  | .ok a =>
    let q := f a r.after
    ⟨r.trace ++ q.trace, q.answer, q.after⟩

instance : Monad (Activity ε σ) where
  pure := give
  bind := followedBy

def record (entries : List ε) : Activity ε σ Unit := fun s => ⟨entries, .ok (), s⟩

def ask (question : σ → α × σ) : Activity ε σ α := fun s =>
  let r := question s
  ⟨[], .ok r.1, r.2⟩

/-- Runs an activity to its end and gives what it ended with, fault or not. -/
def attempt (x : Activity ε σ α) : Activity ε σ (Except Fault α) := fun s =>
  let r := x s
  ⟨r.trace, .ok r.answer, r.after⟩

def conclude : Except Fault α → Activity ε σ α
  | .ok a => give a
  | .error f => fail f

def require : Except Refusal α → Activity ε σ α
  | .ok a => give a
  | .error cause => fail (.refused cause)

def rename (g : ε → δ) (x : Activity ε σ α) : Activity δ σ α := fun s =>
  let r := x s
  ⟨r.trace.map g, r.answer, r.after⟩

theorem bind_of_ok {x : Activity ε σ α} {f : α → Activity ε σ β} {s : σ} {a : α}
    (h : (x s).answer = .ok a) :
    (x >>= f) s = ⟨(x s).trace ++ (f a (x s).after).trace, (f a (x s).after).answer,
      (f a (x s).after).after⟩ := by
  change followedBy x f s = _
  simp only [followedBy, h]

theorem bind_of_error {x : Activity ε σ α} {f : α → Activity ε σ β} {s : σ} {e : Fault}
    (h : (x s).answer = .error e) :
    (x >>= f) s = ⟨(x s).trace, .error e, (x s).after⟩ := by
  change followedBy x f s = _
  simp only [followedBy, h]

end Activity
end Provisioning
