import Provisioning.Proofs.Blame
import Provisioning.Proofs.SubstepOrder
import Provisioning.Proofs.Utterances

/-!
The trace of a run as a sequence of blocks, one for each step that was executed: the header of the
step, what its body leaves, and one report that closes it. Ahead of the blocks lies only the first
question to the target. So every line is handed over between the header of a step and its report,
and it is an instruction of that step.
-/
namespace Provisioning

open Activity

variable {σ : Type}

theorem Written.ran_not_mem {a : List Event} (h : Written a) (line : String)
    (answer : Except Fault Int) : .ran line answer ∉ a :=
  fun hmem => Bool.false_ne_true (h _ hmem)

namespace Visit

def header (v : Visit σ) : List Event := Console.stepHeader v.step.name v.step.privilege.word

/-- A line lies in the body of one visit, with the header and the report of that visit around
it. -/
theorem split_of_ran {c : Console} {vs : List (Visit σ)} {before after : List Event}
    {line : String} {answer : Except Fault Int}
    (split : vs.flatMap (trace c) = before ++ .ran line answer :: after) :
    ∃ done v rest front back, vs = done ++ v :: rest ∧
      v.report.trace = front ++ .ran line answer :: back ∧
      before = done.flatMap (trace c) ++ v.header ++ front ∧
      after = back ++ v.closing c ++ rest.flatMap (trace c) := by
  induction vs generalizing before with
  | nil => simp at split
  | cons v vs ih =>
    -- In the first block only the body hands over lines; the induction deals with the others.
    rw [List.flatMap_cons] at split
    rcases split_append split with ⟨mid, hblock, rfl⟩ | ⟨mid, rfl, hrest⟩
    · rcases split_append hblock with ⟨back, hopened, rfl⟩ | ⟨mid', -, hclosing⟩
      · have headless := (Console.written_stepHeader v.step.name v.step.privilege.word).ran_not_mem
          line answer
        obtain ⟨front, hbefore, hbody⟩ := split_append_of_not_mem headless hopened
        exact ⟨[], v, vs, front, back, rfl, hbody, hbefore, rfl⟩
      · have hmem : .ran line answer ∈ v.closing c := by simp [hclosing]
        exact absurd hmem ((v.written_closing c).ran_not_mem line answer)
    · obtain ⟨done, u, rest, front, back, rfl, hbody, rfl, hafter⟩ := ih hrest
      refine ⟨v :: done, u, rest, front, back, rfl, hbody, ?_, hafter⟩
      simp only [List.flatMap_cons, List.append_assoc]

/-- What lies between the header of a step and the report on it: what its own body leaves, which is
no header and no report, and hands over nothing but instructions of that step, those of a stage
each behind its announcement. -/
structure Bracketed (settings : Settings) (c : Console) (t : Target σ) (v : Visit σ) : Prop where
  own : ∃ w, v.report = v.step.perform settings c t w
  headless : ∀ e ∈ v.report.trace, ∀ name privilege, e ∉ Console.stepHeader name privilege
  unreported : ∀ e ∈ v.report.trace, e ∉ Console.success ∧ (e.OpensReport → e.TellsOfTool)
  instructed : ∀ line ∈ lines v.report.trace,
    t.WrapsOne (v.step.Instructs settings) v.step.privilege v.step.directory line
  announced : ∀ stage, v.step.Stages stage → ∀ front line answer back,
    v.report.trace = front ++ .ran line answer :: back →
      Stage.AnnouncedAt (stage.line t (firstDirectory v.step.cwd t.workdir)) stage.substeps front
        line

theorem bracketed {settings : Settings} {c : Console} {t : Target σ} {v : Visit σ} {w : σ}
    (own : v.report = v.step.perform settings c t w) : v.Bracketed settings c t := by
  have inner : ∀ e ∈ v.report.trace, e.Inner := by
    rw [own]
    exact Step.indoors_perform settings c t v.step w
  refine ⟨⟨w, own⟩, fun e he => (inner e he).not_mem_stepHeader, fun e he =>
    ⟨(inner e he).not_mem_success, (inner e he).tellsOfTool⟩, ?_, ?_⟩
  · rw [own]
    exact Step.hands_instructions settings c t v.step w
  · intro stage hstage front line answer back split
    have orderly := Step.orderly_perform settings c t hstage w
    rw [← own] at orderly
    exact orderly.announced split

/-- How the block of step number `k` is closed, which the visits `rest` follow. -/
inductive Closed (c : Console) (o : Pipeline.Outcome) (k : Nat) (v : Visit σ)
    (rest : List (Visit σ)) : Prop
  | success (passed : o.failedIndex ≠ some (k : Int)) (closing : v.closing c = Console.success)
  | failure {cause : Fault} (failed : o.failedIndex = some (k : Int)) (last : rest = [])
      (error : o.error =
        some (.pipelineFailed (some v.step.name) cause (Pipeline.failureDetails k v.step)))
      (closing : v.closing c = c.failure v.step.name cause.message cause.status? none)

theorem closing_of_completed (c : Console) {v : Visit σ} (h : v.Completed) :
    v.closing c = Console.success := by
  rw [Completed] at h
  simp only [closing, h]

theorem closing_of_error (c : Console) {v : Visit σ} {f : Fault} (h : v.report.answer = .error f)
    (provisioning : f.isProvisioning = true) :
    v.closing c = c.failure v.step.name f.message f.status? none := by
  simp only [closing, h, provisioning, if_true]

end Visit

namespace Pipeline

variable {settings : Settings} {c : Console} {t : Target σ} {p q : Pipeline} {w : σ} {o : Outcome}

/-- A step that was visited is reported to have succeeded, unless it is the one that failed; then it
is the last, and its report tells the cause of the failure. -/
theorem closed_of_visited {done rest : List (Visit σ)} {v : Visit σ}
    (ended : (p.execute settings c t w).answer = .ok (q, .ok o))
    (hv : visited settings c t p.steps w = done ++ v :: rest) : v.Closed c o done.length rest := by
  cases index : o.failedIndex with
  | none =>
    have completed := (cameTo_of_execute ended).completed_of_unfailed index v (by simp [hv])
    exact .success (by simp [index]) (v.closing_of_completed c completed)
  | some i =>
    obtain ⟨done', u, cause, hvisited, hi, -, completed, answer, provisioning, error⟩ :=
      visited_of_failedIndex ended index
    rw [hvisited] at hv
    rcases split_append hv with ⟨mid, hdone, -⟩ | ⟨mid, hdone, hlast⟩
    · have hlt : done.length < done'.length := by simp [hdone]
      refine .success ?_ (v.closing_of_completed c (completed v (by simp [hdone])))
      rw [index, hi]
      intro h
      have heq := Option.some.inj h
      omega
    · cases mid with
      | nil =>
        obtain ⟨rfl, rfl⟩ := List.cons.inj hlast
        rw [List.append_nil] at hdone
        rw [hdone]
        exact .failure (index.trans (congrArg some hi)) rfl error
          (u.closing_of_error c answer provisioning)
      | cons x mid => simp at hlast

/-- The trace of an execution that comes to a result is the first question to the target and then
the blocks of the steps that were executed; and every line is handed over inside one of these. -/
theorem bracketed_of_execute (settings : Settings) (c : Console) (t : Target σ) (w : σ)
    {entries : List Entry} (made : make entries = .ok p)
    (ended : (p.execute settings c t w).answer = .ok (q, .ok o)) :
    let vs := visited settings c t p.steps w
    let question := (t.available w).trace.map Event.exchanged ++ [.asked (t.available w).answer]
    let trace := (p.execute settings c t w).trace
    (o.executed = vs.map (fun v => v.step.name) ∧ vs.map Visit.step <+: p.steps) ∧
    trace = question ++ vs.flatMap (fun v => v.header ++ v.report.trace ++ v.closing c) ∧
    (∀ done v rest, vs = done ++ v :: rest →
      v.Bracketed settings c t ∧ v.Closed c o done.length rest) ∧
    (∀ before line answer after, trace = before ++ .ran line answer :: after →
      ∃ done v rest front back, vs = done ++ v :: rest ∧
        v.report.trace = front ++ .ran line answer :: back ∧
        before = question ++ done.flatMap (Visit.trace c) ++ v.header ++ front ∧
        after = back ++ v.closing c ++ rest.flatMap (Visit.trace c)) := by
  intro vs question trace
  have ending := ending_of_execute ended
  have fresh := fresh_of_make made
  have htrace : trace = question ++ vs.flatMap (Visit.trace c) := by
    have hquestion : (t.checkAvailable w).trace = question := t.trace_checkAvailable w
    rw [← hquestion]
    exact ending.trace_eq fresh
  refine ⟨⟨ending.cameTo.executed_eq, steps_visited_prefix⟩, htrace, ?_, ?_⟩
  · intro done v rest hv
    have hmem : v ∈ vs := by simp [hv]
    obtain ⟨w', own⟩ := report_of_mem_visited hmem
    exact ⟨Visit.bracketed own, closed_of_visited ended hv⟩
  · intro before line answer after split
    have unasked : .ran line answer ∉ question := by simp [question]
    obtain ⟨mid, rfl, hblocks⟩ := split_append_of_not_mem unasked (htrace.symm.trans split)
    obtain ⟨done, v, rest, front, back, hv, hbody, rfl, hafter⟩ := Visit.split_of_ran hblocks
    refine ⟨done, v, rest, front, back, hv, hbody, ?_, hafter⟩
    simp only [List.append_assoc]

theorem bracketed_failedFetch :
    make (fetchingSteps.map .step) = .ok { steps := fetchingSteps } ∧
    ∃ q o, failedFetch.answer = .ok (q, .ok o) ∧ o.executed = ["packages", "rust"] ∧
      lines failedFetch.trace ≠ [] ∧
      ∀ before line answer after, failedFetch.trace = before ++ .ran line answer :: after →
        ∃ v : Visit (List Reply), v.Bracketed (.ofEnviron []) {} fetchingHost ∧
          line ∈ lines v.report.trace := by
  have made : make (fetchingSteps.map .step) = .ok { steps := fetchingSteps } := rfl
  refine ⟨made, _, _, rfl, rfl, ?_, ?_⟩
  · nofun
  · obtain ⟨-, -, blocks, inside⟩ := bracketed_of_execute (.ofEnviron []) {} fetchingHost
      [.exited 0 "", .exited 1 "", .exited 22 ""] made rfl
    intro before line answer after split
    obtain ⟨done, v, rest, front, back, hv, hbody, -⟩ := inside before line answer after split
    refine ⟨v, (blocks done v rest hv).1, ?_⟩
    rw [hbody, lines_append]
    exact List.mem_append_right _ List.mem_cons_self

end Pipeline
end Provisioning
