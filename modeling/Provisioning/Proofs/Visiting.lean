import Provisioning.Proofs.Ending
import Provisioning.Proofs.Plan

/-!
The lines of an activity that carries out pipelines are those of the visits that it makes: nothing
else that it does hands over a line.
-/
namespace Provisioning

open Activity

variable {σ : Type}

theorem Visit.lines_trace (c : Console) (v : Visit σ) :
    lines (v.trace c) = lines v.report.trace := by
  unfold Visit.trace Visit.closing
  simp only [lines_append, lines_stepHeader, List.nil_append]
  split
  · simp
  · split <;> simp

theorem lines_checkAvailable (t : Target σ) (w : σ) : lines (t.checkAvailable w).trace = [] :=
  List.prefix_nil.1 (follows_checkAvailable t w).1

namespace Activity

variable {α β : Type} {x : Activity Event σ α} {Q : Visit σ → Prop}

/-- The lines of every run are those of some visits, one after the other, each of the given kind. -/
def Visiting (x : Activity Event σ α) (Q : Visit σ → Prop) : Prop :=
  x.Leaves fun tr _ => ∃ vs : List (Visit σ), (∀ v ∈ vs, Q v) ∧
    lines tr = vs.flatMap fun v => lines v.report.trace

theorem Follows.visits_nothing (hx : Follows x []) : x.Visiting Q :=
  fun w => ⟨[], by simp, List.prefix_nil.1 (hx w).1⟩

theorem Visiting.bind {A : α → Prop} {f : α → Activity Event σ β} (hx : x.Visiting Q)
    (ha : x.Ensures A fun _ => True) (hf : ∀ a, A a → (f a).Visiting Q) :
    (x >>= f).Visiting Q := by
  intro w
  obtain ⟨vs, hvs, hlines⟩ := hx w
  cases he : (x w).answer with
  | error e =>
    rw [bind_of_error he]
    exact ⟨vs, hvs, hlines⟩
  | ok a =>
    rw [bind_of_ok he]
    obtain ⟨us, hus, hlines'⟩ := hf a (ha.of_ok he) (x w).after
    refine ⟨vs ++ us, ?_, by rw [lines_append, hlines, hlines', List.flatMap_append]⟩
    intro v hv
    rcases List.mem_append.1 hv with hv | hv
    · exact hvs v hv
    · exact hus v hv

theorem Visiting.of_lines {y : Activity Event σ β} (hx : x.Visiting Q)
    (h : ∀ w, lines (y w).trace = lines (x w).trace) : y.Visiting Q := by
  intro w
  rw [h w]
  exact hx w

end Activity

theorem Pipeline.lines_visitedTrace (settings : Settings) (c : Console) (t : Target σ)
    (steps : List Step) (w : σ) :
    lines (visitedTrace settings c t steps w) =
      (executedVisits settings c t steps w).flatMap fun v => lines v.report.trace := by
  rw [visitedTrace, lines_append, lines_checkAvailable, List.nil_append]
  induction executedVisits settings c t steps w with
  | nil => rfl
  | cons v vs ih => rw [List.flatMap_cons, lines_append, Visit.lines_trace, ih, List.flatMap_cons]

theorem Pipeline.visiting_execute (settings : Settings) (c : Console) (t : Target σ)
    (p : Pipeline) :
    (p.execute settings c t).Visiting fun v =>
      v.step ∈ p.steps ∧ ∃ w, v.report = v.step.perform settings c t w := by
  intro w
  obtain ⟨q, ended, -, hending⟩ := execute_ending settings c t p w
  generalize (p.execute settings c t w).trace = tr at hending ⊢
  cases hending with
  | repeated => exact ⟨[], by simp, rfl⟩
  | unavailable | unanswered => exact ⟨[], by simp, lines_checkAvailable t w⟩
  | succeeded | failed | escaped =>
    exact ⟨_, fun v hv => mem_visits hv, lines_visitedTrace settings c t p.steps w⟩

end Provisioning
