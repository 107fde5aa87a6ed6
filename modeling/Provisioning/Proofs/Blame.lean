import Provisioning.Proofs.FailFast
import Provisioning.Proofs.FailurePoints

/-!
What an execution that fails at a step is blamed on. The cause tells the point at which the step
failed, and the point decides the cause; without such a point the target is to blame. Which it was
can be read off the lines that were handed over and their answers: the last line that was answered
with a status other than 0 is the point, unless it only asked for a tool.
-/
namespace Provisioning

open Activity

variable {σ : Type}

namespace Step

/-- How the cause that a step failed with and the lines that it handed over go together. -/
structure Blame (settings : Settings) (t : Target σ) (s : Step) (ran : List Answered)
    (cause : Fault) : Prop where
  point (point : FailurePoint) : cause = point.cause s.name ↔ point.At settings t s ran
  target : (∃ name reason, cause = .unavailable name reason) ↔
    ∀ point : FailurePoint, ¬ point.At settings t s ran
  zero : cause.status? = some 0 ↔
    ∃ url tool, (FailurePoint.confirmation url tool).At settings t s ran

end Step

section Steps

variable {settings : Settings} {t : Target σ} {s : Step} {ran : List Answered} {f : Fault}
  {point : FailurePoint}

theorem Target.Candid.tellsOfTarget (candid : t.Candid) (raised : t.Raises f) :
    f.TellsOfTarget := by
  rcases raised with ⟨w, asked⟩ | ⟨line, w, handed⟩
  · exact candid.question.of_error asked
  · exact (candid.line line).of_error handed

theorem FailurePoint.At.status_cause (h : point.At settings t s ran) :
    (point.cause s.name).status? = some 0 ↔
      ∃ url tool, point = .confirmation url tool := by
  cases point with
  | instruction command status =>
    obtain ⟨-, failed, -⟩ := h
    simp [cause, Fault.status?, failed]
  | substep | fetch | script =>
    obtain ⟨failed, -⟩ := h
    simp [cause, Fault.status?, failed]
  | confirmation url tool => simp [cause, Fault.status?]

theorem FailurePoint.cause_ne_unavailable (step name reason : String) :
    point.cause step ≠ .unavailable name reason := by
  cases point <;> exact Fault.noConfusion

theorem Step.blame_of_at
    (course : Errand.Course t s.privilege s.directory (s.errands settings) ran (.error f))
    (h : point.At settings t s ran) : s.Blame settings t ran f := by
  have hcause {other : FailurePoint} (h : other.At settings t s ran) : f = other.cause s.name :=
    Except.error.inj (h.ended_eq course)
  obtain rfl := hcause h
  constructor
  case point =>
    intro other
    refine ⟨fun hother => ?_, hcause⟩
    rwa [← FailurePoint.cause_injective s.name hother]
  case target =>
    constructor
    · intro unavailable
      obtain ⟨name, reason, unavailable⟩ := unavailable
      exact absurd unavailable (FailurePoint.cause_ne_unavailable _ _ _)
    · intro hnone
      exact absurd h (hnone point)
  case zero =>
    rw [h.status_cause]
    constructor
    · intro hpoint
      obtain ⟨url, tool, rfl⟩ := hpoint
      exact ⟨url, tool, h⟩
    · intro confirmation
      obtain ⟨url, tool, confirmation⟩ := confirmation
      exact ⟨url, tool, FailurePoint.cause_injective s.name (hcause confirmation)⟩

theorem Step.blame_of_unavailable (name reason : String)
    (hnone : ∀ point : FailurePoint, ¬ point.At settings t s ran) :
    s.Blame settings t ran (.unavailable name reason) := by
  constructor
  case point =>
    intro point
    refine ⟨fun h => ?_, fun h => absurd h (hnone point)⟩
    exact absurd h.symm (FailurePoint.cause_ne_unavailable _ _ _)
  case target => exact ⟨fun _ => hnone, fun _ => ⟨name, reason, rfl⟩⟩
  case zero =>
    constructor
    · intro h
      cases h
    · intro confirmation
      obtain ⟨url, tool, confirmation⟩ := confirmation
      exact absurd confirmation (hnone _)

theorem Step.blame_of_course (candid : t.Candid) (known : StepKind.ofWord? s.kind ≠ none)
    (provisioning : f.isProvisioning = true)
    (course : Errand.Course t s.privilege s.directory (s.errands settings) ran (.error f)) :
    s.Blame settings t ran f := by
  by_cases failed : ∃ point : FailurePoint, point.At settings t s ran
  · obtain ⟨point, hpoint⟩ := failed
    exact blame_of_at course hpoint
  · have hnone (point : FailurePoint) : ¬ point.At settings t s ran :=
      fun hpoint => failed ⟨point, hpoint⟩
    rcases exists_of_course known provisioning course with ⟨point, hpoint, -⟩ | rfl | raised
    · exact absurd hpoint (hnone point)
    · exact blame_of_unavailable _ _ hnone
    · obtain ⟨name, reason, rfl⟩ := candid.tellsOfTarget raised provisioning
      exact blame_of_unavailable _ _ hnone

theorem last_of_completed {line : String} {status : Int}
    (known : StepKind.ofWord? s.kind ≠ none)
    (course : Errand.Course t s.privilege s.directory (s.errands settings) ran (.ok ()))
    (last : ran.getLast? = some (line, .ok status)) : status = 0 := by
  by_contra failed
  rcases at_of_failed_line known course last failed with ⟨point, hpoint⟩ | asked
  · cases hpoint.ended_eq course
  · obtain ⟨i, probe, probed, hi, -, rfl⟩ := asked
    have hlength := course.length_eq
    rw [Step.errands_of_installs hi] at hlength
    cases hlength

end Steps

namespace Pipeline

variable {settings : Settings} {c : Console} {t : Target σ} {steps : List Step} {w : σ}
  {done : List (Visit σ)} {v : Visit σ} {line : String} {status : Int} {p : Pipeline}

theorem course_of_visited (hv : v ∈ visited settings c t steps w) :
    Errand.Course t v.step.privilege v.step.directory (v.step.errands settings)
      (answered v.report.trace) v.report.answer := by
  obtain ⟨w', hw'⟩ := report_of_mem_visited hv
  rw [hw']
  exact v.step.course_perform settings c t w'

theorem failed_line (known : ∀ s ∈ steps, StepKind.ofWord? s.kind ≠ none)
    (hvisited : visited settings c t steps w = done ++ [v]) (completed : ∀ u ∈ done, u.Completed)
    (last : ((visited settings c t steps w).flatMap fun u => answered u.report.trace).getLast? =
      some (line, .ok status))
    (failed : status ≠ 0) :
    (∃ point : FailurePoint, point.At settings t v.step (answered v.report.trace)) ∨
      v.step.AskedFirst settings t (answered v.report.trace) := by
  have hsteps : (visited settings c t steps w).map Visit.step ⊆ steps :=
    List.IsPrefix.subset steps_visited_prefix
  have hknown {u : Visit σ} (hu : u ∈ visited settings c t steps w) :
      StepKind.ofWord? u.step.kind ≠ none :=
    known _ (hsteps (List.mem_map_of_mem hu))
  rw [List.getLast?_flatMap] at last
  obtain ⟨u, hu, hlast⟩ := List.exists_of_findSome?_eq_some last
  have hmem : u ∈ visited settings c t steps w := List.mem_reverse.1 hu
  have course := course_of_visited hmem
  have hsplit : u ∈ done ++ [v] := hvisited ▸ hmem
  rcases List.mem_append.1 hsplit with hdone | hend
  · rw [completed u hdone] at course
    exact absurd (last_of_completed (hknown hmem) course hlast) failed
  · obtain rfl := List.mem_singleton.1 hend
    exact at_of_failed_line (hknown hmem) course hlast failed

theorem visited_of_failedIndex {q : Pipeline} {o : Outcome} {i : Int}
    (ended : (p.execute settings c t w).answer = .ok (q, .ok o)) (failed : o.failedIndex = some i) :
    ∃ done v cause, visited settings c t p.steps w = done ++ [v] ∧ i = done.length ∧
      p.steps[done.length]? = some v.step ∧ (∀ u ∈ done, u.Completed) ∧
      v.report.answer = .error cause ∧ cause.isProvisioning = true ∧
      o.error = some (.pipelineFailed (some v.step.name) cause
        (failureDetails done.length v.step)) := by
  cases cameTo_of_execute ended with
  | unavailable | succeeded => cases failed
  | @failed done v cause split located _ completed answer provisioning =>
    exact ⟨done, v, cause, split, (Option.some.inj failed).symm, located, completed, answer,
      provisioning, rfl⟩

theorem failed_of_visited {cause : Fault} (fresh : p.state = .notStarted)
    (hv : v ∈ visited settings c t p.steps w) (answer : v.report.answer = .error cause)
    (provisioning : cause.isProvisioning = true) :
    ∃ q done, (p.execute settings c t w).answer =
        .ok (q, .ok (failedOutcome p.steps ⟨done.length, v.step, cause⟩)) ∧
      visited settings c t p.steps w = done ++ [v] := by
  have incomplete : ¬ v.Completed := fun completed => by cases completed.symm.trans answer
  have last {x : Stop} (question : (t.checkAvailable w).answer = .ok ())
      (stopped : Visit.stop? (executedVisits settings c t p.steps w) = some x) :
      ∃ done, visited settings c t p.steps w = done ++ [v] ∧
        x = ⟨done.length, v.step, cause⟩ := by
    obtain ⟨done, u, hvisited, hlength, -, completed, failed, hstep⟩ :=
      visited_of_stopped question stopped
    rw [hvisited] at hv
    rcases List.mem_append.1 hv with hdone | hlast
    · exact absurd (completed v hdone) incomplete
    · obtain rfl := List.mem_singleton.1 hlast
      obtain rfl := Except.error.inj (failed.symm.trans answer)
      exact ⟨done, hvisited, by rw [hlength, hstep]⟩
  obtain ⟨q, ended, hanswer, ending⟩ := execute_ending settings c t p w
  rw [hanswer]
  generalize (p.execute settings c t w).trace = trace at ending
  cases ending with
  | repeated started => exact absurd fresh started
  | unavailable _ question | unanswered _ question =>
    rw [visited_of_withheld question] at hv
    cases hv
  | succeeded _ question completed =>
    exact absurd ((completesAll_of_completed question completed).2 v hv) incomplete
  | failed _ question stopped =>
    obtain ⟨done, hvisited, rfl⟩ := last question stopped
    exact ⟨_, done, rfl, hvisited⟩
  | escaped _ question stopped foreign =>
    obtain ⟨done, -, rfl⟩ := last question stopped
    cases provisioning.symm.trans foreign

/-- When an execution fails at a step, the cause is that of the point at which the step failed, and
of no other; it is that the target was unavailable exactly if there is no such point; and only a
tool that was not found behind its installer has 0 for its status. Any status other than 0 that the
last line of the execution was answered with is such a point, or only told that a tool was not there
before. -/
theorem blame_of_failed (settings : Settings) (c : Console) (t : Target σ) (w : σ)
    {entries : List Entry} {p q : Pipeline} {o : Outcome} {i : Int} (candid : t.Candid)
    (made : make entries = .ok p)
    (ended : (p.execute settings c t w).answer = .ok (q, .ok o)) (failed : o.failedIndex = some i) :
    ∃ done v cause, visited settings c t p.steps w = done ++ [v] ∧ i = done.length ∧
      p.steps[done.length]? = some v.step ∧ v.report.answer = .error cause ∧
      o.error = some (.pipelineFailed (some v.step.name) cause
        (failureDetails done.length v.step)) ∧
      answered (p.execute settings c t w).trace =
        done.flatMap (fun u => answered u.report.trace) ++ answered v.report.trace ∧
      v.step.Blame settings t (answered v.report.trace) cause ∧
      ∀ line status, (answered (p.execute settings c t w).trace).getLast? =
        some (line, .ok status) → status ≠ 0 →
        (∃ point : FailurePoint, point.At settings t v.step (answered v.report.trace)) ∨
          v.step.AskedFirst settings t (answered v.report.trace) := by
  have fresh := fresh_of_make made
  have known (s : Step) (hs : s ∈ p.steps) : StepKind.ofWord? s.kind ≠ none :=
    known_of_checkStep ((distinct_of_make made).1 s hs)
  obtain ⟨done, v, cause, hvisited, hi, hv, completed, answer, provisioning, error⟩ :=
    visited_of_failedIndex ended failed
  have hlines := answered_visited fresh ended
  have course : Errand.Course t v.step.privilege v.step.directory (v.step.errands settings)
      (answered v.report.trace) (.error cause) := by
    rw [← answer]
    exact course_of_visited (hvisited ▸ List.mem_append_right done List.mem_cons_self)
  refine ⟨done, v, cause, hvisited, hi, hv, answer, error, ?_, ?_, ?_⟩
  · rw [hlines, hvisited, List.flatMap_append, List.flatMap_singleton]
  · exact Step.blame_of_course candid (known _ (List.mem_of_getElem? hv)) provisioning course
  · intro line status last
    rw [hlines] at last
    exact failed_line known hvisited completed last

theorem blame_failedFetch :
    fetchingHost.Candid ∧ make (fetchingSteps.map .step) = .ok { steps := fetchingSteps } ∧
      ∃ q o, failedFetch.answer = .ok (q, .ok o) ∧ o.failedIndex = some 1 ∧
        ∃ s ran, fetchingSteps[1]? = some s ∧
          (FailurePoint.fetch "https://example.invalid/rust.sh" 22).At (.ofEnviron []) fetchingHost
            s ran := by
  have candid : fetchingHost.Candid := Target.candid_host _ _ _ _ _
  have made : make (fetchingSteps.map .step) = .ok { steps := fetchingSteps } := rfl
  refine ⟨candid, made, _, _, rfl, rfl, ?_⟩
  obtain ⟨done, v, cause, -, hi, hv, -, herror, -, hblame, -⟩ :=
    blame_of_failed (.ofEnviron []) {} fetchingHost [.exited 0 "", .exited 1 "", .exited 22 ""]
      candid made rfl rfl
  have hlength : done.length = 1 := (Int.ofNat.inj hi).symm
  rw [hlength] at hv
  have hcause := Fault.pipelineFailed.inj (Option.some.inj herror)
  exact ⟨v.step, _, hv, (hblame.point _).1 hcause.2.1.symm⟩

end Pipeline
end Provisioning
