import Provisioning.Proofs.FailFast
import Provisioning.Proofs.Verdict

/-!
The report at the end of a run: a heading, an entry for each step that was executed, and a line
that closes it. The failed step is told from the others by its name alone, which suffices because
no two steps of a pipeline have the same name. An entry that tells of a failure can be told from
every other line by how it begins and ends.
-/
namespace Provisioning

def Event.isFailedEntry : Event → Bool
  | .out text => "  ".toList.isPrefixOf text.toList && ": FAILED\n".toList.isSuffixOf text.toList
  | _ => false

namespace Console

open Event (outLine)

def resultsHeading : List Event := [outLine ("\n" ++ rule), outLine "RESULTS", outLine rule]

def resultEntry (name : String) (failed : Bool) : Event :=
  outLine ("  " ++ name ++ ": " ++ (if failed then "FAILED" else "SUCCESS"))

def report (entries : List Event) (closing : String) : List Event :=
  resultsHeading ++ entries ++ [outLine closing]

section Entries

variable {error : Option Fault} {names : List String} {name : String}

theorem resultLine_of_eq (h : error.bind Fault.failedStep? = some name) :
    resultLine error name = resultEntry name true := by
  simp [resultLine, resultEntry, h]

theorem resultLine_of_ne (h : error.bind Fault.failedStep? ≠ some name) :
    resultLine error name = resultEntry name false := by
  simp [resultLine, resultEntry, h]

theorem map_resultLine_of_forall_ne
    (h : ∀ name ∈ names, error.bind Fault.failedStep? ≠ some name) :
    names.map (resultLine error) =
      List.zipWith resultEntry names (List.replicate names.length false) := by
  induction names with
  | nil => rfl
  | cons name rest ih =>
    have hname := h name List.mem_cons_self
    have hrest := ih fun name' hmem => h name' (List.mem_cons_of_mem _ hmem)
    rw [List.map_cons, resultLine_of_ne hname, hrest]
    rfl

theorem map_resultLine_append (failed : error.bind Fault.failedStep? = some name)
    (new : name ∉ names) :
    (names ++ [name]).map (resultLine error) =
      List.zipWith resultEntry (names ++ [name])
        (List.replicate names.length false ++ [true]) := by
  have hother : ∀ name' ∈ names, error.bind Fault.failedStep? ≠ some name' := by
    intro name' hmem h
    exact new (Option.some.inj (failed.symm.trans h) ▸ hmem)
  rw [List.map_append, map_resultLine_of_forall_ne hother,
    List.zipWith_append (List.length_replicate ..).symm, List.map_singleton,
    resultLine_of_eq failed]
  rfl

end Entries

theorem isFailedEntry_worded (name word : String) :
    (outLine ("  " ++ name ++ ": " ++ word)).isFailedEntry =
      ": FAILED\n".toList.reverse.isPrefixOf
        ((": " ++ word ++ "\n").toList.reverse ++ (name.toList.reverse ++ [' ', ' '])) := by
  have htext : ("  " ++ name ++ ": " ++ word ++ "\n").toList =
      "  ".toList ++ (name.toList ++ (": " ++ word ++ "\n").toList) := by
    simp only [String.toList_append, List.append_assoc]
  simp only [Event.isFailedEntry, outLine, htext, List.isSuffixOf, List.reverse_append,
    List.append_assoc]
  rfl

theorem isFailedEntry_resultEntry (name : String) (failed : Bool) :
    (resultEntry name failed).isFailedEntry = failed := by
  cases failed with
  | false => exact isFailedEntry_worded name "SUCCESS"
  | true => exact isFailedEntry_worded name "FAILED"

theorem isFailedEntry_of_newline (text : String) :
    (outLine ("\n" ++ text)).isFailedEntry = false := by
  change (List.isPrefixOf _ ("\n" ++ text ++ "\n").toList && _) = false
  rw [String.toList_append, String.toList_append, Bool.and_eq_false_iff]
  exact .inl rfl

theorem countP_zipWith_resultEntry {names : List String} {marks : List Bool}
    (h : marks.length = names.length) :
    (List.zipWith resultEntry names marks).countP Event.isFailedEntry = marks.count true := by
  induction names generalizing marks with
  | nil =>
    obtain rfl := List.length_eq_zero_iff.1 h
    rfl
  | cons name rest ih =>
    cases marks with
    | nil => cases h
    | cons mark marks =>
      have hrest := ih (Nat.succ.inj h)
      rw [List.zipWith_cons_cons, List.countP_cons, List.count_cons, hrest,
        isFailedEntry_resultEntry]
      simp

theorem countP_report (entries : List Event) (closing : String) :
    (report entries ("\n" ++ closing)).countP Event.isFailedEntry =
      entries.countP Event.isFailedEntry := by
  have hheading : resultsHeading.countP Event.isFailedEntry = 0 := by decide
  rw [report, List.countP_append, List.countP_append, hheading, List.countP_singleton,
    isFailedEntry_of_newline]
  simp

end Console

namespace Pipeline

open Console

/-- What the report of a result tells: which of the executed steps it marks as failed, and the line
that closes it. -/
inductive Outcome.Tells (steps : List Step) (o : Outcome) : List Bool → String → Prop
  | succeeded (state : o.state = .succeeded) (unfailed : o.failedIndex = none)
      (executed : o.executed = steps.map Step.name) :
      Tells steps o (List.replicate steps.length false) "\nPipeline succeeded"
  | failed {i : Nat} {f : Fault} (state : o.state = .failed)
      (index : o.failedIndex = some (i : Int)) (error : o.error = some f) (lt : i < steps.length)
      (executed : o.executed = (steps.take (i + 1)).map Step.name) :
      Tells steps o (List.replicate i false ++ [true]) ("\nPipeline failed: " ++ f.message)
  | unavailable {f : Fault} (state : o.state = .failed) (unfailed : o.failedIndex = none)
      (error : o.error = some f) (executed : o.executed = []) :
      Tells steps o [] ("\nPipeline failed: " ++ f.message)

section Tells

variable {steps : List Step} {o : Outcome} {marks : List Bool} {closing : String}

theorem Outcome.Tells.length_eq (h : o.Tells steps marks closing) :
    marks.length = o.executed.length := by
  cases h with
  | succeeded _ _ executed => simp [executed]
  | failed _ _ _ lt executed =>
    rw [executed, List.length_map, List.length_take, List.length_append, List.length_replicate,
      List.length_singleton]
    omega
  | unavailable _ _ _ executed => simp [executed]

theorem Outcome.Tells.count_eq_one_iff (h : o.Tells steps marks closing) :
    marks.count true = 1 ↔ o.failedIndex ≠ none := by
  cases h with
  | succeeded _ unfailed => simp [unfailed, List.count_replicate]
  | failed _ index => simp [index, List.count_replicate]
  | unavailable _ unfailed => simp [unfailed]

theorem Outcome.Tells.closing_eq (h : o.Tells steps marks closing) :
    ∃ text, closing = "\n" ++ text := by
  have hfailed (f : Fault) :
      "\nPipeline failed: " ++ f.message = "\n" ++ ("Pipeline failed: " ++ f.message) := by
    rw [← String.append_assoc]
    rfl
  cases h with
  | succeeded => exact ⟨"Pipeline succeeded", rfl⟩
  | failed | unavailable => exact ⟨_, hfailed _⟩

end Tells

theorem results_succeededOutcome (steps : List Step) :
    results (succeededOutcome steps) =
      report (List.zipWith resultEntry (steps.map Step.name) (List.replicate steps.length false))
        "\nPipeline succeeded" := by
  have hentries : (steps.map Step.name).map (resultLine none) =
      List.zipWith resultEntry (steps.map Step.name) (List.replicate steps.length false) := by
    rw [map_resultLine_of_forall_ne (by simp), List.length_map]
  rw [← hentries]
  rfl

theorem results_unavailableOutcome (f : Fault) :
    results (unavailableOutcome f) =
      report [] ("\nPipeline failed: " ++ (Fault.pipelineFailed none f []).message) := rfl

theorem results_failedOutcome {steps : List Step} {x : Stop}
    (distinct : (steps.map Step.name).Nodup) (stopped : steps[x.index]? = some x.step) :
    results (failedOutcome steps x) =
      report
        (List.zipWith resultEntry ((steps.take (x.index + 1)).map Step.name)
          (List.replicate x.index false ++ [true]))
        ("\nPipeline failed: " ++ (Fault.pipelineFailed (some x.step.name) x.fault
          (failureDetails x.index x.step)).message) := by
  have hsteps : (steps.take (x.index + 1)).map Step.name =
      (steps.take x.index).map Step.name ++ [x.step.name] := by
    rw [List.take_add_one, stopped, List.map_append]
    rfl
  have hlength : ((steps.take x.index).map Step.name).length = x.index := by
    have hlt := (List.getElem?_eq_some_iff.1 stopped).1
    rw [List.length_map, List.length_take]
    omega
  -- The step is told from those before it because no two have the same name.
  have new : x.step.name ∉ (steps.take x.index).map Step.name := by
    have hbegins := (List.take_prefix (x.index + 1) steps).map Step.name
    have hnodup := hbegins.sublist.nodup distinct
    rw [hsteps] at hnodup
    intro hmem
    exact (List.nodup_append.1 hnodup).2.2 _ hmem _ List.mem_cons_self rfl
  have failed : (failedOutcome steps x).error.bind Fault.failedStep? = some x.step.name := rfl
  have hentries := map_resultLine_append failed new
  rw [hlength, ← hsteps] at hentries
  rw [← hentries]
  rfl

section Execution

variable {σ : Type} {settings : Settings} {c : Console} {t : Target σ} {p q : Pipeline} {w : σ}
  {o : Outcome}

theorem CameTo.results_eq (h : CameTo settings c t p.steps w o)
    (distinct : (p.steps.map Step.name).Nodup) :
    ∃ marks closing, o.Tells p.steps marks closing ∧
      results o = report (List.zipWith resultEntry o.executed marks) closing := by
  cases h with
  | unavailable => exact ⟨_, _, .unavailable rfl rfl rfl rfl, results_unavailableOutcome _⟩
  | succeeded => exact ⟨_, _, .succeeded rfl rfl rfl, results_succeededOutcome p.steps⟩
  | failed _ located =>
    have lt := (List.getElem?_eq_some_iff.1 located).1
    exact ⟨_, _, .failed rfl rfl rfl lt rfl, results_failedOutcome distinct located⟩

/-- The report of a run has one entry for each step that was executed, in this order. All of them
tell of success but that of the failed step, which is the last one. -/
theorem results_of_execute (settings : Settings) (c : Console) (t : Target σ) (w : σ)
    {entries : List Entry} (made : make entries = .ok p)
    (ended : (p.execute settings c t w).answer = .ok (q, .ok o)) :
    o.executed = (visited settings c t p.steps w).map (fun v => v.step.name) ∧
    (∃ marks closing, o.Tells p.steps marks closing ∧ marks.length = o.executed.length ∧
      results o = report (List.zipWith resultEntry o.executed marks) closing) ∧
    ((results o).countP Event.isFailedEntry = 1 ↔ o.failedIndex ≠ none) := by
  have cameTo := cameTo_of_execute ended
  obtain ⟨marks, closing, tells, hresults⟩ := cameTo.results_eq (distinct_of_make made).2
  refine ⟨cameTo.executed_eq, ⟨marks, closing, tells, tells.length_eq, hresults⟩, ?_⟩
  obtain ⟨text, rfl⟩ := tells.closing_eq
  rw [hresults, countP_report, countP_zipWith_resultEntry tells.length_eq]
  exact tells.count_eq_one_iff

theorem results_failedFetch :
    make (fetchingSteps.map .step) = .ok { steps := fetchingSteps } ∧
    ∃ q o, failedFetch.answer = .ok (q, .ok o) ∧ o.failedIndex = some 1 ∧
      o.executed = ["packages", "rust"] ∧ (results o).countP Event.isFailedEntry = 1 := by
  have made : make (fetchingSteps.map .step) = .ok { steps := fetchingSteps } := rfl
  obtain ⟨-, -, counted⟩ := results_of_execute (.ofEnviron []) {} fetchingHost
    [.exited 0 "", .exited 1 "", .exited 22 ""] made rfl
  exact ⟨made, _, _, rfl, rfl, rfl, counted.2 nofun⟩

end Execution
end Pipeline
end Provisioning
