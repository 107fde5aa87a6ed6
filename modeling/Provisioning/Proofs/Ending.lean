import Provisioning.Proofs.Visits

/-!
The six ways in which an execution can end: the pipeline has run before; the first question finds
the target unavailable, or raises another fault; every step completes; a step ends with a fault of
provisioning, or with any other one. Laws about executions go through these cases.
-/
namespace Provisioning.Pipeline

variable {σ : Type}

def unavailableOutcome (f : Fault) : Outcome where
  state := .failed
  error := some (.pipelineFailed none f [])

def succeededOutcome (steps : List Step) : Outcome where
  state := .succeeded
  executed := steps.map Step.name

def failedOutcome (steps : List Step) (x : Stop) : Outcome where
  state := .failed
  executed := (steps.take (x.index + 1)).map Step.name
  failedIndex := some x.index
  error := some (.pipelineFailed (some x.step.name) x.fault (failureDetails x.index x.step))

section EndedAt

variable {p : Pipeline} {steps : List Step} {x : Stop}

theorem endedAt_none :
    p.endedAt 0 [] steps none =
      ({ p with
          current := if steps.isEmpty then p.current else some (steps.length - 1)
          : Pipeline }.finish (succeededOutcome steps), .ok (succeededOutcome steps)) := by
  simp [endedAt, succeededOutcome]

theorem endedAt_of_provisioning (h : x.fault.isProvisioning = true) :
    p.endedAt 0 [] steps (some x) =
      ({ p with current := some x.index : Pipeline }.finish (failedOutcome steps x),
        .ok (failedOutcome steps x)) := by
  simp [endedAt, failedOutcome, h]

theorem endedAt_of_foreign (h : x.fault.isProvisioning = false) :
    p.endedAt 0 [] steps (some x) = ({ p with current := some x.index }, .error x.fault) := by
  simp [endedAt, h]

end EndedAt

section

variable (settings : Settings) (c : Console) (t : Target σ) (p : Pipeline) (w : σ)

/-- How an execution ends: the pipeline afterwards, the result or the fault that escapes, and the
trace. -/
inductive Ending : Pipeline → Except Fault Outcome → List Event → Prop
  | repeated (started : p.state ≠ .notStarted) :
      Ending p (.error (.refused (.alreadyRun p.state))) []
  | unavailable {target reason : String} (fresh : p.state = .notStarted)
      (question : (t.checkAvailable w).answer = .error (.unavailable target reason)) :
      Ending (p.finish (unavailableOutcome (.unavailable target reason)))
        (.ok (unavailableOutcome (.unavailable target reason))) (t.checkAvailable w).trace
  | unanswered {f : Fault} (fresh : p.state = .notStarted)
      (question : (t.checkAvailable w).answer = .error f)
      (other : ∀ target reason, f ≠ .unavailable target reason) :
      Ending p (.error f) (t.checkAvailable w).trace
  | succeeded (fresh : p.state = .notStarted) (question : (t.checkAvailable w).answer = .ok ())
      (completed : Visit.stop? (executedVisits settings c t p.steps w) = none) :
      Ending ({ p with
          current := if p.steps.isEmpty then p.current else some (p.steps.length - 1)
          : Pipeline }.finish (succeededOutcome p.steps))
        (.ok (succeededOutcome p.steps)) (visitedTrace settings c t p.steps w)
  | failed {x : Stop} (fresh : p.state = .notStarted)
      (question : (t.checkAvailable w).answer = .ok ())
      (stopped : Visit.stop? (executedVisits settings c t p.steps w) = some x)
      (provisioning : x.fault.isProvisioning = true) :
      Ending ({ p with current := some x.index : Pipeline }.finish (failedOutcome p.steps x))
        (.ok (failedOutcome p.steps x)) (visitedTrace settings c t p.steps w)
  | escaped {x : Stop} (fresh : p.state = .notStarted)
      (question : (t.checkAvailable w).answer = .ok ())
      (stopped : Visit.stop? (executedVisits settings c t p.steps w) = some x)
      (foreign : x.fault.isProvisioning = false) :
      Ending { p with state := .running, current := some x.index } (.error x.fault)
        (visitedTrace settings c t p.steps w)

theorem execute_ending :
    ∃ q ended, (p.execute settings c t w).answer = .ok (q, ended) ∧
      Ending settings c t p w q ended (p.execute settings c t w).trace := by
  by_cases fresh : p.state = .notStarted
  case neg =>
    rw [execute_of_started settings c t fresh w]
    exact ⟨_, _, rfl, .repeated fresh⟩
  cases question : (t.checkAvailable w).answer with
  | error f =>
    rw [execute_of_withheld settings c t fresh question]
    by_cases hf : ∃ target reason, f = .unavailable target reason
    · obtain ⟨target, reason, rfl⟩ := hf
      exact ⟨_, _, rfl, .unavailable fresh question⟩
    · have other : ∀ target reason, f ≠ .unavailable target reason :=
        fun target reason h => hf ⟨target, reason, h⟩
      have hw : p.withheld f = (p, .error f) := by
        unfold withheld
        split
        · exact absurd rfl (other _ _)
        · rfl
      rw [hw]
      exact ⟨_, _, rfl, .unanswered fresh question other⟩
  | ok u =>
    obtain ⟨htrace, hanswer⟩ := execute_of_available settings c t fresh question
    rw [htrace, hanswer]
    cases stopped : Visit.stop? (executedVisits settings c t p.steps w) with
    | none =>
      rw [endedAt_none]
      exact ⟨_, _, rfl, .succeeded fresh question stopped⟩
    | some x =>
      cases hf : x.fault.isProvisioning with
      | true =>
        rw [endedAt_of_provisioning hf]
        exact ⟨_, _, rfl, .failed fresh question stopped hf⟩
      | false =>
        rw [endedAt_of_foreign hf]
        exact ⟨_, _, rfl, .escaped fresh question stopped hf⟩

variable {settings c t p w} in
theorem ending_of_execute {q : Pipeline} {ended : Except Fault Outcome}
    (h : (p.execute settings c t w).answer = .ok (q, ended)) :
    Ending settings c t p w q ended (p.execute settings c t w).trace := by
  obtain ⟨q', ended', ha, he⟩ := execute_ending settings c t p w
  rw [ha] at h
  obtain ⟨rfl, rfl⟩ := Prod.mk.inj (Except.ok.inj h)
  exact he

end
end Provisioning.Pipeline
