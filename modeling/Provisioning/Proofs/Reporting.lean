import Provisioning.CommandLine.Commands
import Provisioning.Proofs.Ending
import Provisioning.Proofs.Lines
import Provisioning.Proofs.Validation

/-!
What a command writes around the execution of a pipeline: its target and its steps ahead of it, and
behind it the terminal report, unless a fault escapes.
-/
namespace Provisioning.CommandLine

open Activity

variable {σ : Type}

def announcement (t : Target σ) (p : Pipeline) (name : String) (printPlan : Bool) : List Event :=
  Console.runStarted t.name name p.steps.length ++ (if printPlan then planLines p.steps else [])

def terminalReport : Except Fault Pipeline.Outcome → List Event
  | .ok o => Console.results o
  | .error _ => []

@[simp] theorem lines_planLines (steps : List Step) : lines (planLines steps) = [] := by
  unfold planLines
  generalize steps.zipIdx = numbered
  induction numbered with
  | nil => rfl
  | cons x xs ih =>
    rw [List.map_cons, List.flatten_cons, lines_append, ih]
    rfl

@[simp] theorem lines_announcement (t : Target σ) (p : Pipeline) (name : String)
    (printPlan : Bool) : lines (announcement t p name printPlan) = [] := by
  cases printPlan with
  | true =>
    rw [announcement, lines_append, if_pos rfl, lines_planLines]
    rfl
  | false => rfl

@[simp] theorem lines_terminalReport (ended : Except Fault Pipeline.Outcome) :
    lines (terminalReport ended) = [] := by
  cases ended with
  | ok o => exact lines_results o
  | error f => rfl

section ExecuteSteps

variable {u : Surroundings} {c : Console} {t : Target σ} {steps : List Step} {p q : Pipeline}
  {ended : Except Fault Pipeline.Outcome} {w : σ}

theorem executeSteps_of_ended (made : Pipeline.make (steps.map .step) = .ok p)
    (h : (p.execute u.settings c t w).answer = .ok (q, ended)) (name : String)
    (printPlan : Bool) :
    executeSteps u c t steps name printPlan w =
      ⟨announcement t p name printPlan ++ (p.execute u.settings c t w).trace ++
          terminalReport ended,
        ended.map Pipeline.Outcome.exitCode, (p.execute u.settings c t w).after⟩ := by
  unfold executeSteps announcement
  rw [require_bind_of_ok made, record_bind_apply]
  cases ended with
  | ok o =>
    cases printPlan <;> simp [record_bind_apply, bind_of_ok h, terminalReport, Except.map]
  | error f =>
    cases printPlan <;> simp [record_bind_apply, bind_of_ok h, terminalReport, Except.map]

theorem lines_executeSteps (made : Pipeline.make (steps.map .step) = .ok p) (name : String)
    (printPlan : Bool) (w : σ) :
    lines (executeSteps u c t steps name printPlan w).trace =
      lines (p.execute u.settings c t w).trace := by
  obtain ⟨q, ended, h, -⟩ := Pipeline.execute_ending u.settings c t p w
  rw [executeSteps_of_ended made h]
  simp

end ExecuteSteps
end Provisioning.CommandLine
