import Provisioning.Proofs.ExitCodes
import Provisioning.Proofs.Loading

/-!
What becomes of a fault that a pipeline file raises while it is run or its function called, or that
is found with what it gives. No line is handed over in any case, and what the file gives is judged
with faults that `run` and `plan` both report, with exit code 1. Faults of the file's own are
reported by `run` if they are faults of provisioning or of a missing file, a type or a value, by
`plan` if they are of the latter; all others escape. Of an unavailable target `run` exits with 3.
-/
namespace Provisioning.CommandLine

open Activity

variable {σ : Type}

/-- The fault with which the file at a path does not make a pipeline. -/
inductive LoadFails (u : Surroundings) (path : Path) : Fault → Prop
  | loading {f : Fault} (raised : PipelineFile.loadPath u.files u.place path = .error f) :
      LoadFails u path f
  | validating {steps : List Step} {cause : Refusal}
      (loaded : PipelineFile.loadPath u.files u.place path = .ok steps)
      (refused : Pipeline.make (steps.map .step) = .error cause) : LoadFails u path (.refused cause)

def RunsFile (u : Surroundings) (w : World σ) (arguments : List String) (c : Console) (path : Path)
    (s : σ) : Prop :=
  ∃ g t, Invokes (runCommand u.settings).options "run" arguments c g ∧
    Selects u g builtinOnly (some path) ∧
    (prepareTarget u w (.ofGiven u.settings g) s).answer = .ok t

def PlansFile (u : Surroundings) (arguments : List String) (c : Console) (path : Path) : Prop :=
  ∃ g, Invokes (planCommand u.settings).options "plan" arguments c g ∧
    Selects u g ["--install-example"] (some path)

/-- The command exits with 1, the report of the fault is the last that it prints, and no line was
handed over before. -/
structure ReportsFault (c : Console) (f : Fault) (r : Report Event σ Int) : Prop where
  answer : r.answer = .ok 1
  reported : ∃ before, lines before = [] ∧ r.trace = before ++ c.fault (some f) f

section LoadFails

variable {u : Surroundings} {path : Path} {f : Fault}

theorem isLoadFault_of_kind {cause : Refusal} (h : cause.kind = .type ∨ cause.kind = .value) :
    isLoadFault (.refused cause) = true := by
  have hkind : (Fault.refused cause).kind? = some cause.kind := rfl
  unfold isLoadFault
  rw [hkind]
  rcases h with h | h <;> rw [h]

theorem LoadFails.isLoadFault_of_gives {content : PipelineFile} {v : Option Supply}
    (h : LoadFails u path f)
    (located : PipelineFile.contentAt u.files u.place path = .ok content)
    (gives : FileGives content v) : isLoadFault f = true := by
  have hload : PipelineFile.loadPath u.files u.place path = content.load := by
    rw [PipelineFile.loadPath, located]
  cases h with
  | loading raised =>
    rw [hload, load_of_gives gives] at raised
    cases hsteps : PipelineFile.stepsOf v with
    | ok steps =>
      rw [hsteps] at raised
      cases raised
    | error cause =>
      rw [hsteps] at raised
      obtain rfl := Except.error.inj raised
      rw [PipelineFile.notStepList_of_stepsOf hsteps]
      exact isLoadFault_of_kind (.inl rfl)
  | validating _ refused => exact isLoadFault_of_kind (Pipeline.kind_of_make refused)

theorem LoadFails.pipeline_ofRun {t : Target σ} (h : LoadFails u path f) (g : Given) :
    (Undertaking.ofRun u g (some path)).pipeline t = .error f := by
  cases h with
  | loading raised =>
    simp only [Undertaking.pipeline, Undertaking.ofRun, supplied, raised, Except.map]
  | validating loaded refused =>
    simp only [Undertaking.pipeline, Undertaking.ofRun, supplied, loaded, Except.map, refused]

end LoadFails

structure EndsWith (expected : Bool) (c : Console) (f : Fault) (r : Report Event σ Int) : Prop where
  trace : ∃ before, lines before = [] ∧
    r.trace = before ++ if expected then handledReport c f else []
  answer : r.answer = if expected then .ok (handledCode f) else .error f

section EndsWith

variable {expected : Bool} {c : Console} {f : Fault} {r : Report Event σ Int}

theorem EndsWith.lines_eq (h : EndsWith expected c f r) : lines r.trace = [] := by
  obtain ⟨before, quiet, htrace⟩ := h.trace
  rw [htrace, lines_append, quiet, List.nil_append]
  split
  · exact (written_handledReport c f).lines_eq
  · rfl

theorem EndsWith.reportsFault_iff (h : EndsWith expected c f r) :
    ReportsFault c f r ↔ expected = true ∧ ∀ target reason, f ≠ .unavailable target reason := by
  constructor
  · intro reports
    have hanswer := h.answer.symm.trans reports.answer
    split at hanswer
    · refine ⟨‹_›, ?_⟩
      rintro target reason rfl
      cases hanswer
    · cases hanswer
  · rintro ⟨rfl, available⟩
    have hhandled : handledReport c f = c.fault (some f) f ∧ handledCode f = 1 := by
      cases f with
      | unavailable target reason => exact absurd rfl (available target reason)
      | _ => exact ⟨rfl, rfl⟩
    obtain ⟨before, quiet, htrace⟩ := h.trace
    rw [if_pos rfl, hhandled.1] at htrace
    exact ⟨by rw [h.answer, if_pos rfl, hhandled.2], before, quiet, htrace⟩

theorem EndsWith.answer_of_unavailable {target reason : String}
    (h : EndsWith true c (.unavailable target reason) r) : r.answer = .ok 3 := h.answer

theorem EndsWith.answer_of_unexpected (h : EndsWith false c f r) : r.answer = .error f := h.answer

theorem not_provisioning_of_isLoadFault (h : isLoadFault f = true) : f.isProvisioning = false := by
  cases f with
  | refused | raised | interrupted | exiting => rfl
  | _ => cases h

theorem ne_unavailable_of_isLoadFault (h : isLoadFault f = true) :
    ∀ target reason, f ≠ .unavailable target reason := by
  rintro target reason rfl
  cases h

end EndsWith

section Commands

variable {u : Surroundings} {w : World σ} {arguments : List String} {c : Console} {path : Path}
  {f : Fault} {s : σ}

theorem endsWith_of_runsFile (fails : LoadFails u path f) (exception : f.isException = true)
    (runs : RunsFile u w arguments c path s) :
    EndsWith (f.isProvisioning || isLoadFault f) c f (execute u w arguments s) := by
  obtain ⟨g, t, invokes, selects, prepared⟩ := runs
  let x : Undertaking σ := .ofRun u g (some path)
  have uninterrupted := Fault.not_interrupt_of_exception exception
  have hremarks : remarks c x.expects (.error f : Except Fault Int) =
      if x.expects f then handledReport c f else [] := by
    simp only [remarks, uninterrupted, Bool.false_eq_true, if_false]
  have hresolved : resolved x.expects (.error f) =
      if x.expects f then .ok (handledCode f) else .error f := by
    simp only [resolved, uninterrupted, Bool.false_eq_true, if_false]
  rw [execute_of_commences (.run invokes selects),
    x.body_of_refused u w c s prepared (fails.pipeline_ofRun g), epilogue, hremarks, hresolved]
  change EndsWith (x.expects f) c f _
  refine ⟨⟨(x.preparation u w s).trace, Undertaking.lines_preparation, ?_⟩, ?_⟩
  · cases x.expects f with
    | true => simp [farewell]
    | false => simp [farewell_of_exception exception]
  · cases x.expects f with
    | true => rfl
    | false => exact concluded_of_exception exception

theorem endsWith_of_plansFile (fails : LoadFails u path f) (exception : f.isException = true)
    (plans : PlansFile u arguments c path) :
    EndsWith (isLoadFault f) c f (execute u w arguments s) := by
  obtain ⟨g, invokes, selects⟩ := plans
  have hfails : plan u c g =
      (if isLoadFault f then handle c f else fail f : Activity Event σ Int) := by
    unfold plan
    rw [withPipelineFile_of_selects selects]
    simp only [stepsAndName_eq, supplied]
    cases fails with
    | loading raised =>
      simp only [raised, Except.map, conclude_error, fail_bind_eq]
      rfl
    | validating loaded refused =>
      simp only [loaded, Except.map, conclude_ok, pure_bind_eq, require_bind_of_error refused]
      rfl
  have hdispatch : dispatch u w arguments = plan u c g := dispatch_of_invokes rfl invokes
  rw [hfails] at hdispatch
  have hends : EndsWith (isLoadFault f) c f (dispatch u w arguments s) := by
    rw [hdispatch]
    cases isLoadFault f with
    | true =>
      rw [if_pos rfl, handle_apply]
      exact ⟨⟨[], rfl, rfl⟩, rfl⟩
    | false => exact ⟨⟨[], rfl, rfl⟩, rfl⟩
  rw [execute_of_exception]
  · exact hends
  · intro f' failed
    rw [hends.answer] at failed
    split at failed
    · cases failed
    · obtain rfl := Except.error.inj failed
      exact exception

end Commands

/-- A fault with which the selected file does not make a pipeline, and no interrupt or exit. No line
is handed over because of it, and it is reported with exit code 1 wherever the file was run and gave
something that is no valid list of steps. A fault that the file raises is reported by `plan` if it
is of a missing file, a type or a value, and by `run` also if it is of provisioning, save that a
target is unavailable, for which `run` exits with 3. All others escape. -/
theorem load_faults_of_run_and_plan (u : Surroundings) (w : World σ) {path : Path} {f : Fault}
    (fails : LoadFails u path f) (exception : f.isException = true) :
    (∀ arguments c s, RunsFile u w arguments c path s →
      let r := execute u w arguments s
      lines r.trace = [] ∧
      (ReportsFault c f r ↔ isLoadFault f = true ∨
        f.isProvisioning = true ∧ ∀ target reason, f ≠ .unavailable target reason) ∧
      ((∃ target reason, f = .unavailable target reason) → r.answer = .ok 3) ∧
      (isLoadFault f = false ∧ f.isProvisioning = false → r.answer = .error f)) ∧
    (∀ arguments c s, PlansFile u arguments c path →
      let r := execute u w arguments s
      lines r.trace = [] ∧ (ReportsFault c f r ↔ isLoadFault f = true) ∧
      (isLoadFault f = false → r.answer = .error f)) ∧
    (∀ arguments c s arguments' c' s', RunsFile u w arguments c path s →
      PlansFile u arguments' c' path →
      ((execute u w arguments s).answer = (execute u w arguments' s').answer ↔
        f.isProvisioning = false)) ∧
    ∀ content v, PipelineFile.contentAt u.files u.place path = .ok content → FileGives content v →
      isLoadFault f = true := by
  refine ⟨?_, ?_, ?_, fun content v located gives => fails.isLoadFault_of_gives located gives⟩
  · intro arguments c s runs r
    have ends := endsWith_of_runsFile fails exception runs
    refine ⟨ends.lines_eq, ?_, ?_, ?_⟩
    · rw [ends.reportsFault_iff, Bool.or_eq_true, or_and_right, or_comm]
      exact or_congr_left (and_iff_left_of_imp ne_unavailable_of_isLoadFault)
    · rintro ⟨target, reason, rfl⟩
      exact ends.answer_of_unavailable
    · rintro ⟨load, provisioning⟩
      rw [load, provisioning] at ends
      exact ends.answer_of_unexpected
  · intro arguments c s plans r
    have ends := endsWith_of_plansFile (w := w) (s := s) fails exception plans
    refine ⟨ends.lines_eq, ?_, fun load => ?_⟩
    · rw [ends.reportsFault_iff]
      exact and_iff_left_of_imp ne_unavailable_of_isLoadFault
    · rw [load] at ends
      exact ends.answer_of_unexpected
  · intro arguments c s arguments' c' s' runs plans
    rw [(endsWith_of_runsFile fails exception runs).answer,
      (endsWith_of_plansFile (w := w) (s := s') fails exception plans).answer]
    constructor
    · intro same
      by_contra provisioning
      rw [Bool.not_eq_false] at provisioning
      have load : isLoadFault f = false := by
        by_contra load
        rw [Bool.not_eq_false] at load
        rw [not_provisioning_of_isLoadFault load] at provisioning
        cases provisioning
      rw [provisioning, load] at same
      cases same
    · intro provisioning
      rw [provisioning, Bool.false_or]

theorem invokes_plan (s : Settings) : Invokes (planCommand s).options "plan" ["plan"] {} [] :=
  invokes_of_plain (by cbv) rfl

theorem runsFile_lone (f : PipelineFile) (w : World σ) (s : σ) :
    RunsFile (lone f) w ["run"] {} lonePath s := by
  refine ⟨[], loneMachine.target w, invokes_run _, selects_lone f, ?_⟩
  rw [prepareTarget_lone]
  rfl

theorem plansFile_lone (f : PipelineFile) : PlansFile (lone f) ["plan"] {} lonePath :=
  ⟨[], invokes_plan _, finds_lone f rfl, .inr rfl⟩

theorem loadFails_lone (f : Fault) : LoadFails (lone (raisingFile f)) lonePath f :=
  .loading (loadPath_lone (raisingFile f))

theorem load_faults_value :
    let f := Fault.raised .value "bad"
    LoadFails (lone (raisingFile f)) lonePath f ∧ f.isException = true ∧
      ReportsFault {} f (execute (lone (raisingFile f)) .replies ["run"] []) ∧
      ReportsFault {} f (execute (lone (raisingFile f)) .replies ["plan"] []) := by
  intro f
  have law := load_faults_of_run_and_plan (lone (raisingFile f)) .replies (loadFails_lone f) rfl
  refine ⟨loadFails_lone f, rfl, ?_, ?_⟩
  · exact ((law.1 _ _ _ (runsFile_lone _ _ [])).2.1).2 (.inl rfl)
  · exact ((law.2.1 _ _ [] (plansFile_lone _)).2.1).2 rfl

/-- Three files that only raise a fault, each of which the commands do not both report: one of
another class, one of provisioning, and one that tells of an unavailable target. -/
theorem load_faults_unreported :
    (RunsFile (lone (raisingFile (.raised .runtime "boom"))) .replies ["run"] {} lonePath [] ∧
      PlansFile (lone (raisingFile (.raised .runtime "boom"))) ["plan"] {} lonePath ∧
      (execute (lone (raisingFile (.raised .runtime "boom"))) .replies ["run"] []).answer =
        .error (.raised .runtime "boom") ∧
      (execute (lone (raisingFile (.raised .runtime "boom"))) .replies ["plan"] []).answer =
        .error (.raised .runtime "boom")) ∧
    ((execute (lone (raisingFile (.general "boom"))) .replies ["run"] []).answer = .ok 1 ∧
      (execute (lone (raisingFile (.general "boom"))) .replies ["plan"] []).answer =
        .error (.general "boom")) ∧
    (execute (lone (raisingFile (.unavailable "vm" "gone"))) .replies ["run"] []).answer =
      .ok 3 := by
  have runs (f : Fault) (exception : f.isException = true) :=
    endsWith_of_runsFile (loadFails_lone f) exception
      (runsFile_lone (raisingFile f) World.replies [])
  have plans (f : Fault) (exception : f.isException = true) :=
    endsWith_of_plansFile (w := World.replies) (s := []) (loadFails_lone f) exception
      (plansFile_lone (raisingFile f))
  refine ⟨⟨runsFile_lone _ _ _, plansFile_lone _, ?_, ?_⟩, ⟨?_, ?_⟩, ?_⟩
  · exact (runs _ rfl).answer
  · exact (plans _ rfl).answer
  · exact (runs _ rfl).answer
  · exact (plans _ rfl).answer
  · exact (runs _ rfl).answer

end Provisioning.CommandLine
