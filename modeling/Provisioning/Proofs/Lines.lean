import Provisioning.Console
import Provisioning.Proofs.Activity

/-!
The lines that a trace hands over to a target. An activity follows a plan if the lines of each of
its runs are a beginning of the plan, and the whole of it unless the run ends with a fault; two
activities one after the other follow their plans one after the other.
-/
namespace Provisioning

section Append

variable {α : Type} {xs ys before after : List α} {e : α}

theorem split_append (h : xs ++ ys = before ++ e :: after) :
    (∃ mid, xs = before ++ e :: mid ∧ after = mid ++ ys) ∨
      ∃ mid, before = xs ++ mid ∧ ys = mid ++ e :: after := by
  rcases List.append_eq_append_iff.1 h with ⟨mid, hbefore, hys⟩ | ⟨mid, hxs, hafter⟩
  · exact .inr ⟨mid, hbefore, hys⟩
  · cases mid with
    | nil =>
      rw [List.append_nil] at hxs
      exact .inr ⟨[], by rw [hxs, List.append_nil], hafter.symm⟩
    | cons e' mid =>
      obtain ⟨rfl, hmid⟩ := List.cons.inj hafter
      exact .inl ⟨mid, hxs, hmid⟩

theorem split_append_of_not_mem (other : e ∉ xs) (h : xs ++ ys = before ++ e :: after) :
    ∃ mid, before = xs ++ mid ∧ ys = mid ++ e :: after := by
  rcases split_append h with ⟨mid, hxs, -⟩ | hys
  · exact absurd (by simp [hxs]) other
  · exact hys

end Append

def Event.line? : Event → Option String
  | .ran line _ => some line
  | _ => none

def lines (trace : List Event) : List String := trace.filterMap Event.line?

@[simp] theorem lines_nil : lines [] = [] := rfl

@[simp] theorem lines_append (a b : List Event) : lines (a ++ b) = lines a ++ lines b :=
  List.filterMap_append

@[simp] theorem lines_ran (line : String) (answer : Except Fault Int) :
    lines [.ran line answer] = [line] := rfl

@[simp] theorem lines_asked (answer : Except Fault Bool) : lines [.asked answer] = [] := rfl

@[simp] theorem lines_exchanged (es : List Exchange) : lines (es.map Event.exchanged) = [] := by
  simp [lines, List.filterMap_map, Function.comp_def, Event.line?]

@[simp] theorem lines_stepHeader (name privilege : String) :
    lines (Console.stepHeader name privilege) = [] := rfl

@[simp] theorem lines_substep (name command : String) :
    lines (Console.substep name command) = [] := rfl

@[simp] theorem lines_success : lines Console.success = [] := rfl

@[simp] theorem lines_info (message : String) : lines (Console.info message) = [] := rfl

@[simp] theorem lines_debugLine (c : Console) (message : String) :
    lines (c.debugLine message) = [] := by
  unfold Console.debugLine
  split <;> rfl

@[simp] theorem lines_failure (c : Console) (name reason : String) (status : Option Int)
    (hint : Option String) : lines (c.failure name reason status hint) = [] := by
  unfold Console.failure
  simp only [lines_append]
  split <;> split <;> rfl

@[simp] theorem lines_fault (c : Console) (handled : Option Fault) (f : Fault) :
    lines (c.fault handled f) = [] := by
  unfold Console.fault
  split <;> rfl

@[simp] theorem lines_error (title message : String) (details : List String)
    (suggestion : Option String) :
    lines (Console.error title message details suggestion) = [] := by
  have hdetails (ds : List String) :
      lines (ds.map fun d => Event.errLine ("  " ++ d)) = [] := by
    simp [lines, List.filterMap_map, Function.comp_def, Event.errLine, Event.line?]
  unfold Console.error
  rw [lines_append, lines_append, hdetails]
  split <;> rfl

@[simp] theorem lines_results (o : Pipeline.Outcome) : lines (Console.results o) = [] := by
  have hentries (names : List String) :
      lines (names.map (Console.resultLine o.error)) = [] := by
    simp [lines, List.filterMap_map, Function.comp_def, Console.resultLine, Event.outLine,
      Event.line?]
  unfold Console.results
  rw [lines_append, lines_append, hentries]
  split <;> rfl

namespace Activity

variable {σ α β : Type} {x : Activity Event σ α} {f : α → Activity Event σ β}
  {plan rest : List String}

/-- The lines of every run are a beginning of the plan, and all of it unless the run ends with a
fault. -/
def Follows (x : Activity Event σ α) (plan : List String) : Prop :=
  x.Leaves fun tr ans => lines tr <+: plan ∧ ∀ a, ans = .ok a → lines tr = plan

theorem follows_pure (a : α) : Follows (pure a : Activity Event σ α) [] :=
  fun _ => ⟨List.prefix_rfl, fun _ _ => rfl⟩

theorem follows_fail (e : Fault) (plan : List String) :
    Follows (fail e : Activity Event σ α) plan :=
  fun _ => ⟨List.nil_prefix, fun _ h => nomatch h⟩

theorem follows_record {entries : List Event} (h : lines entries = plan) :
    Follows (record entries : Activity Event σ Unit) plan :=
  fun _ => ⟨h ▸ List.prefix_rfl, fun _ _ => h⟩

theorem follows_conclude (r : Except Fault α) :
    Follows (conclude r : Activity Event σ α) [] := by
  cases r with
  | ok a => exact follows_pure a
  | error e => exact follows_fail e []

theorem follows_exchanges (x : Activity Exchange σ α) : Follows (x.rename Event.exchanged) [] :=
  fun w => ⟨by simp, fun _ _ => by simp⟩

theorem Follows.attempt (hx : Follows x []) : Follows x.attempt [] := fun w => by
  have h := List.prefix_nil.1 (hx w).1
  exact ⟨h ▸ List.prefix_rfl, fun _ _ => h⟩

theorem Follows.bind (hx : Follows x plan) (hf : ∀ a, Follows (f a) rest) :
    Follows (x >>= f) (plan ++ rest) := by
  refine Leaves.bind hx hf ?_ ?_
  · intro tr e h
    exact ⟨h.1.trans (List.prefix_append _ _), fun _ he => nomatch he⟩
  · intro tr a tr' ans h h'
    rw [lines_append, h.2 a rfl]
    exact ⟨(List.prefix_append_right_inj _).2 h'.1, fun b hb => by rw [h'.2 b hb]⟩

theorem Follows.bind_quiet (hx : Follows x []) (hf : ∀ a, Follows (f a) plan) :
    Follows (x >>= f) plan :=
  hx.bind hf

theorem Follows.quiet_bind (hx : Follows x plan) (hf : ∀ a, Follows (f a) []) :
    Follows (x >>= f) plan := by
  simpa using hx.bind hf

theorem Follows.guarded {p : Prop} [Decidable p] (hx : Follows x plan) (e : Fault) :
    Follows (if p then x else fail e) plan := by
  split
  · exact hx
  · exact follows_fail e plan

theorem lines_attempt_bind {g : Except Fault α → Activity Event σ β}
    (hg : ∀ answer, Follows (g answer) []) (w : σ) :
    lines ((x.attempt >>= g) w).trace = lines (x w).trace := by
  rw [attempt_bind_apply, lines_append, List.prefix_nil.1 (hg _ _).1, List.append_nil]

end Activity
end Provisioning
