import Provisioning.Proofs.Commencing
import Provisioning.World.Replies

/-!
What the exit code of `run` and `install-toolchain` tells. As long as no child process is
interrupted, 0 tells that every step completed, and a code of 10 or more which step failed, unless
the pipeline file was interrupted while it was loaded or asked for an exit with that status. Codes 2
and 3 tell that no step was started.
-/
namespace Provisioning.CommandLine

open Activity

variable {σ : Type}

section

variable (u : Surroundings) (w : World σ) (arguments : List String) (c : Console) (s : σ)

/-- The pipeline that comes to be executed, the target in which it is, and the state of the outside
world from then on. -/
inductive Executes : Target σ → Pipeline → σ → Prop
  | intro {x : Undertaking σ} {t : Target σ} {p : Pipeline} {name : String}
      (commences : Commences u arguments c x) (reached : x.Reaches u w s t p name) :
      Executes t p (x.preparation u w s).after

def StepsComplete : Prop :=
  ∃ t p after, Executes u w arguments c s t p after ∧
    Pipeline.CompletesAll u.settings c t p.steps after

/-- The step of number `i`, counted from 0, fails with a fault of provisioning. -/
def StepFails (i : Nat) : Prop :=
  ∃ t p after f, Executes u w arguments c s t p after ∧
    Pipeline.FailsAt u.settings c t p.steps after i f ∧ f.isProvisioning = true

/-- The pipeline file that is selected raises the fault while it is loaded. -/
def LoadRaises (f : Fault) : Prop :=
  ∃ g path t, Invokes (runCommand u.settings).options "run" arguments c g ∧
    Selects u g builtinOnly (some path) ∧
    (prepareTarget u w (.ofGiven u.settings g) s).answer = .ok t ∧
    PipelineFile.loadPath u.files u.place path = .error f

def LoadInterrupted : Prop := ∃ message, LoadRaises u w arguments c s (.interrupted message)

end

/-- No pipeline file is found, and the built-in pipeline is not to be used either. -/
def Undiscovered (u : Surroundings) (arguments : List String) : Prop :=
  ∃ c g, Invokes (runCommand u.settings).options "run" arguments c g ∧ ∀ path, ¬ Finds u g path

section Supply

variable {u : Surroundings} {w : World σ} {arguments : List String} {c : Console} {s : σ}
  {x : Undertaking σ} {f : Fault}

namespace Undertaking

theorem unrefused_pipeline_iff {t : Target σ} (unrefused : ∀ cause, f ≠ .refused cause) :
    x.pipeline t = .error f ↔ x.supply t = .error f := by
  unfold pipeline
  cases x.supply t with
  | error f' => simp
  | ok supply =>
    refine iff_of_false ?_ (by simp)
    dsimp only
    split
    · exact fun h => unrefused _ (Except.error.inj h).symm
    · simp

theorem supply_ofInstall {g : Given} {t : Target σ} (unrefused : ∀ cause, f ≠ .refused cause) :
    (ofInstall u g).supply t ≠ .error f := by
  unfold ofInstall
  dsimp only
  split
  · simp
  · exact fun h => unrefused _ (Except.error.inj h).symm

theorem supply_ofRun_iff {g : Given} {t : Target σ} {path : Option Path}
    (unrefused : ∀ cause, f ≠ .refused cause) :
    (ofRun u g path).supply t = .error f ↔
      ∃ p, path = some p ∧ PipelineFile.loadPath u.files u.place p = .error f := by
  change CommandLine.supplied u path (builtinOptions u g t) = _ ↔ _
  unfold CommandLine.supplied
  cases path with
  | none =>
    refine iff_of_false ?_ (by simp)
    dsimp only
    split
    · simp
    · exact fun h => unrefused _ (Except.error.inj h).symm
  | some p => cases loaded : PipelineFile.loadPath u.files u.place p <;> simp [Except.map, loaded]

end Undertaking

theorem loadRaises_iff (unrefused : ∀ cause, f ≠ .refused cause) :
    LoadRaises u w arguments c s f ↔
      ∃ (x : Undertaking σ) (t : Target σ), Commences u arguments c x ∧
        (x.preparation u w s).answer = .ok t ∧ x.pipeline t = .error f := by
  constructor
  · rintro ⟨g, path, t, invokes, selects, prepared, loaded⟩
    have supplied :=
      (Undertaking.supply_ofRun_iff (g := g) (t := t) unrefused).2 ⟨path, rfl, loaded⟩
    exact ⟨_, t, .run invokes selects, prepared,
      (Undertaking.unrefused_pipeline_iff unrefused).2 supplied⟩
  · rintro ⟨x, t, commences, prepared, failed⟩
    have supplied := (Undertaking.unrefused_pipeline_iff unrefused).1 failed
    cases commences with
    | install => exact absurd supplied (Undertaking.supply_ofInstall unrefused)
    | run invokes selects =>
      obtain ⟨path, rfl, loaded⟩ := (Undertaking.supply_ofRun_iff unrefused).1 supplied
      exact ⟨_, path, t, invokes, selects, prepared, loaded⟩

theorem endsInterrupted_iff {α : Type} {ended : Except Fault α} :
    EndsInterrupted ended ↔ ∃ message, ended = .error (.interrupted message) := by
  rcases ended with f | a
  · cases f <;> simp [EndsInterrupted, Fault.isInterrupt]
  · simp [EndsInterrupted]

theorem loadInterrupted_iff :
    LoadInterrupted u w arguments c s ↔
      ∃ x, Commences u arguments c x ∧ x.SupplyInterrupted u w s := by
  constructor
  · rintro ⟨message, raises⟩
    obtain ⟨x, t, commences, prepared, failed⟩ :=
      (loadRaises_iff fun _ => Fault.noConfusion).1 raises
    exact ⟨x, commences, t, prepared, endsInterrupted_iff.2 ⟨message, failed⟩⟩
  · rintro ⟨x, commences, t, prepared, interrupted⟩
    obtain ⟨message, failed⟩ := endsInterrupted_iff.1 interrupted
    exact ⟨message,
      (loadRaises_iff fun _ => Fault.noConfusion).2 ⟨x, t, commences, prepared, failed⟩⟩

end Supply

section Resolved

variable {expects : Fault → Bool} {ended : Except Fault Int} {code : Int}

theorem handledCode_cases (f : Fault) :
    handledCode f = 1 ∨ handledCode f = 3 ∧ ∃ target reason, f = .unavailable target reason := by
  unfold handledCode
  split
  · exact .inr ⟨rfl, _, _, rfl⟩
  · exact .inl rfl

/-- An exit code is that of the body, of an interrupt, of a fault that was expected, or of an
exit. -/
theorem concluded_cases (h : concluded (resolved expects ended) = .ok code) :
    ended = .ok code ∨ EndsInterrupted ended ∧ code = 130 ∨
      (∃ f, ended = .error f ∧ code = handledCode f) ∨
      ∃ request, ended = .error (.exiting request) ∧ code = request.status := by
  cases ended with
  | ok code' => exact .inl h
  | error f =>
    unfold resolved at h
    dsimp only at h
    split at h
    · rename_i hi
      exact .inr (.inl ⟨hi, (Except.ok.inj h).symm⟩)
    · rename_i hi
      split at h
      · exact .inr (.inr (.inl ⟨f, rfl, (Except.ok.inj h).symm⟩))
      · cases f with
        | interrupted => exact absurd rfl hi
        | exiting request => exact .inr (.inr (.inr ⟨request, rfl, (Except.ok.inj h).symm⟩))
        | _ => cases h

theorem concluded_of_interrupted (h : EndsInterrupted ended) :
    concluded (resolved expects ended) = .ok 130 := by
  cases ended with
  | ok code => exact h.elim
  | error f =>
    have hresolved : resolved expects (.error f) = .ok 130 := if_pos h
    rw [hresolved]
    rfl

theorem concluded_of_exiting {request : ExitRequest}
    (unexpected : expects (.exiting request) = false) :
    concluded (resolved expects (.error (.exiting request))) = .ok request.status := by
  have hresolved : resolved expects (.error (.exiting request)) = .error (.exiting request) := by
    simp [resolved, Fault.isInterrupt, unexpected]
  rw [hresolved]
  rfl

end Resolved

section Commences

variable {u : Surroundings} {w : World σ} {arguments : List String} {c : Console} {s : σ}
  {x : Undertaking σ} {t : Target σ} {p : Pipeline} {after : σ} {i : Nat} {f : Fault}

theorem answer_of_commences (h : Commences u arguments c x) :
    (execute u w arguments s).answer =
      concluded (resolved x.expects (x.body u w c s).answer) := by
  rw [execute_of_commences h]

theorem lines_of_commences (h : Commences u arguments c x) :
    lines (execute u w arguments s).trace = lines (x.body u w c s).trace := by
  rw [execute_of_commences h, lines_append, (written_epilogue c _ _).lines_eq, List.append_nil]

theorem exchanges_of_commences (h : Commences u arguments c x) :
    exchanges (execute u w arguments s).trace = exchanges (x.body u w c s).trace := by
  rw [execute_of_commences h, exchanges_append, (written_epilogue c _ _).exchanges_eq,
    List.append_nil]

/-- The trace of a command that comes to execute a pipeline: the first question and the visits, and
apart from what prepares the target nothing but text. -/
theorem visits_of_reaches {name : String} (commences : Commences u arguments c x)
    (reached : x.Reaches u w s t p name) :
    ∃ ahead behind, Written ahead ∧ Written behind ∧
      (execute u w arguments s).trace = (x.preparation u w s).trace ++ ahead ++
        ((t.checkAvailable (x.preparation u w s).after).trace ++
          (Pipeline.visited u.settings c t p.steps (x.preparation u w s).after).flatMap
            (Visit.trace c)) ++ behind := by
  obtain ⟨q, ended, trace, ending, body, -⟩ := Undertaking.course_of_reaches (c := c) reached
  refine ⟨_, _, written_announcement t p name x.printPlan,
    (written_terminalReport ended).append (written_epilogue c x.expects (x.body u w c s).answer),
    ?_⟩
  rw [execute_of_commences commences, body, ending.trace_eq reached.fresh]
  simp only [List.append_assoc]

theorem executes_of_ok {code : Int} (commences : Commences u arguments c x)
    (h : (x.body u w c s).answer = .ok code) :
    ∃ t p after, Executes u w arguments c s t p after ∧
      Pipeline.Verdict u.settings c t p.steps after (.ok code) := by
  have hcourse := x.course u w c s
  generalize (x.body u w c s).trace = tr, hended : (x.body u w c s).answer = ended at hcourse
  cases hcourse with
  | unprepared | unsupplied => cases h.symm.trans hended
  | @executed t p _ _ _ _ reached =>
    have hverdict := reached.verdict c
    rw [h] at hverdict
    exact ⟨t, p, _, .intro commences reached, hverdict⟩

theorem lines_of_unavailable {target reason : String} (commences : Commences u arguments c x)
    (h : (x.body u w c s).answer = .error (.unavailable target reason)) :
    lines (execute u w arguments s).trace = [] := by
  rw [lines_of_commences commences]
  have hcourse := x.course u w c s
  generalize htrace : (x.body u w c s).trace = tr, (x.body u w c s).answer = ended at hcourse
  cases hcourse with
  | unprepared | unsupplied => exact Undertaking.lines_preparation
  | executed reached =>
    have hverdict := reached.verdict c
    rw [h] at hverdict
    rw [← htrace, reached.lines_body c, hverdict.unvisited_of_unavailable]
    rfl

theorem steps_ne_nil_of_executes (h : Executes u w arguments c s t p after) : p.steps ≠ [] := by
  obtain ⟨commences, reached⟩ := h
  obtain ⟨steps, -, made⟩ := Undertaking.made_of_supplied _ reached.supplied
  exact (Pipeline.entries_of_make made).2

theorem not_loadRaises_of_executes (h : Executes u w arguments c s t p after)
    (unrefused : ∀ cause, f ≠ .refused cause) : ¬ LoadRaises u w arguments c s f := by
  intro raises
  obtain ⟨y, t', commences', prepared, failed⟩ := (loadRaises_iff unrefused).1 raises
  obtain ⟨commences, reached⟩ := h
  obtain rfl := commences.unique commences'
  obtain rfl := Except.ok.inj (reached.prepared.symm.trans prepared)
  cases reached.supplied.symm.trans failed

theorem not_loadInterrupted_of_executes (h : Executes u w arguments c s t p after) :
    ¬ LoadInterrupted u w arguments c s :=
  fun ⟨_, raises⟩ => not_loadRaises_of_executes h (fun _ => Fault.noConfusion) raises

theorem lines_of_executes (h : Executes u w arguments c s t p after) :
    lines (execute u w arguments s).trace =
      (Pipeline.visited u.settings c t p.steps after).flatMap fun v => lines v.report.trace := by
  obtain ⟨commences, reached⟩ := h
  rw [lines_of_commences commences]
  exact reached.lines_body c

theorem answer_of_completesAll (h : Executes u w arguments c s t p after)
    (all : Pipeline.CompletesAll u.settings c t p.steps after) :
    (execute u w arguments s).answer = .ok 0 := by
  have nonempty := steps_ne_nil_of_executes h
  obtain ⟨commences, reached⟩ := h
  rw [answer_of_commences commences, (reached.verdict c).eq_of_completesAll nonempty all]
  rfl

theorem answer_of_failsAt (h : Executes u w arguments c s t p after)
    (fails : Pipeline.FailsAt u.settings c t p.steps after i f)
    (provisioning : f.isProvisioning = true) :
    (execute u w arguments s).answer = .ok (min (10 + i) 255) := by
  obtain ⟨commences, reached⟩ := h
  rw [answer_of_commences commences, (reached.verdict c).eq_of_failsAt fails, if_pos provisioning]
  rfl

theorem heeded_of_commences (commences : Commences u arguments c x)
    (loads : ¬ LoadInterrupted u w arguments c s) :
    Heeded (exchanges (execute u w arguments s).trace) (x.body u w c s).answer := by
  rw [exchanges_of_commences commences]
  exact Undertaking.heeded_body fun interrupted =>
    loads (loadInterrupted_iff.2 ⟨x, commences, interrupted⟩)

theorem interrupted_iff_of_failsAt (h : Executes u w arguments c s t p after)
    (fails : Pipeline.FailsAt u.settings c t p.steps after i f) :
    Interrupted (exchanges (execute u w arguments s).trace) ↔ f.isInterrupt = true := by
  have loads := not_loadInterrupted_of_executes h
  obtain ⟨commences, reached⟩ := h
  have heeded := heeded_of_commences commences loads
  rw [(reached.verdict c).eq_of_failsAt fails] at heeded
  rw [heeded.iff]
  split
  · rename_i provisioning
    exact iff_of_false id (Fault.not_interrupt_of_provisioning provisioning)
  · rfl

theorem execute_of_loadInterrupted (h : LoadInterrupted u w arguments c s) :
    (execute u w arguments s).answer = .ok 130 ∧ lines (execute u w arguments s).trace = [] ∧
      Heeded (exchanges (execute u w arguments s).trace) (.ok () : Except Fault Unit) := by
  obtain ⟨x, commences, interrupted⟩ := loadInterrupted_iff.1 h
  obtain ⟨heeded, ends, quiet⟩ := Undertaking.body_of_supplyInterrupted (c := c) interrupted
  rw [answer_of_commences commences, lines_of_commences commences,
    exchanges_of_commences commences]
  exact ⟨concluded_of_interrupted ends, quiet, heeded⟩

/-- An exit of the pipeline file has its own exit code; no child process was interrupted before and
no line handed over. -/
theorem execute_of_loadExits {request : ExitRequest}
    (h : LoadRaises u w arguments c s (.exiting request)) :
    (execute u w arguments s).answer = .ok request.status ∧
      lines (execute u w arguments s).trace = [] ∧
      Heeded (exchanges (execute u w arguments s).trace) (.ok () : Except Fault Unit) := by
  obtain ⟨x, t, commences, prepared, exits⟩ := (loadRaises_iff fun _ => Fault.noConfusion).1 h
  have heeded : Heeded (exchanges (x.preparation u w s).trace) (x.preparation u w s).answer :=
    heeds_prepareTarget u w x.choice s
  rw [prepared] at heeded
  rw [answer_of_commences commences, lines_of_commences commences,
    exchanges_of_commences commences, x.body_of_refused u w c s prepared exits]
  exact ⟨concluded_of_exiting (commences.unexpected request), Undertaking.lines_preparation,
    heeded.of_iff .rfl⟩

theorem idles_of_undiscovered (h : Undiscovered u arguments) (w : World σ) (s : σ) :
    Idles [1, 2] (execute u w arguments s) := by
  obtain ⟨c, g, invokes, undiscovered⟩ := h
  rcases selects_or_idles_of_invokes invokes w s with ⟨path, selects⟩ | idles
  · exact absurd selects.found (undiscovered path)
  · exact idles

end Commences

/-- What an exit code can be owed to. -/
inductive Exit (u : Surroundings) (w : World σ) (arguments : List String) (c : Console) (s : σ)
    (code : Int) : Prop
  | executed {t : Target σ} {p : Pipeline} {after : σ}
      (executes : Executes u w arguments c s t p after)
      (verdict : Pipeline.Verdict u.settings c t p.steps after (.ok code))
  | interrupted (eq : code = 130)
      (source : Interrupted (exchanges (execute u w arguments s).trace) ∨
        LoadInterrupted u w arguments c s)
  | exited {request : ExitRequest} (eq : code = request.status)
      (raises : LoadRaises u w arguments c s (.exiting request))
  | refused (eq : code = 1)
  | withheld (eq : code = 2 ∨ code = 3) (quiet : lines (execute u w arguments s).trace = [])

theorem exit_of_answer {u : Surroundings} {w : World σ} {arguments : List String} {c : Console}
    {s : σ} {code : Int} (provisions : Provisions u arguments c)
    (answer : (execute u w arguments s).answer = .ok code) : Exit u w arguments c s code := by
  rcases commences_or_idles provisions w s with ⟨x, commences⟩ | idles
  · rcases concluded_cases ((answer_of_commences commences).symm.trans answer) with
      body | ⟨interrupt, eq⟩ | ⟨f, body, eq⟩ | ⟨request, body, eq⟩
    · obtain ⟨t, p, after, executes, verdict⟩ := executes_of_ok commences body
      exact .executed executes verdict
    · by_cases loads : LoadInterrupted u w arguments c s
      · exact .interrupted eq (.inr loads)
      · exact .interrupted eq (.inl ((heeded_of_commences commences loads).iff.2 interrupt))
    · rcases handledCode_cases f with one | ⟨three, target, reason, rfl⟩
      · exact .refused (eq.trans one)
      · exact .withheld (.inr (eq.trans three)) (lines_of_unavailable commences body)
    · obtain ⟨t, prepared, exits⟩ := Undertaking.supply_of_exiting body
      refine .exited eq ((loadRaises_iff fun _ => Fault.noConfusion).2 ?_)
      exact ⟨x, t, commences, prepared, exits⟩
  · have hmem := idles.mem_of_ok answer
    simp only [List.mem_cons, List.not_mem_nil, or_false] at hmem
    rcases hmem with one | two
    · exact .refused one
    · exact .withheld (.inl two) idles.written.lines_eq

theorem lines_of_exit {u : Surroundings} {w : World σ} {arguments : List String} {c : Console}
    {s : σ} {code : Int} (h : Exit u w arguments c s code) (lt : 1 < code) (gt : code < 10) :
    lines (execute u w arguments s).trace = [] := by
  cases h with
  | executed executes verdict =>
    rw [lines_of_executes executes, verdict.unvisited_of_lt (by omega) gt]
    rfl
  | interrupted | refused => omega
  | exited _ raises => exact (execute_of_loadExits raises).2.1
  | withheld _ quiet => exact quiet

/-- As long as no child process is interrupted, `run` and `install-toolchain` exit with 0 exactly if
every step completes, and with 10 or more exactly if one fails or the pipeline file was interrupted,
unless the pipeline file asked for an exit with that status. The code is that of the one step that
failed: those before it completed and no line of a later one was handed over. No line is handed over
by a run whose file was interrupted or asked for an exit, or that exits with 2 or 3 or finds no
pipeline. -/
theorem exit_code_of_provisions (u : Surroundings) (w : World σ) {arguments : List String}
    {c : Console} (provisions : Provisions u arguments c) (s : σ)
    (calm : ¬ Interrupted (exchanges (execute u w arguments s).trace)) :
    let r := execute u w arguments s
    (r.answer = .ok 0 ↔ StepsComplete u w arguments c s ∨
      ∃ request, LoadRaises u w arguments c s (.exiting request) ∧ request.status = 0) ∧
    ((∃ code, 10 ≤ code ∧ r.answer = .ok code) ↔
      (∃ i, StepFails u w arguments c s i) ∨ LoadInterrupted u w arguments c s ∨
      ∃ request, LoadRaises u w arguments c s (.exiting request) ∧ 10 ≤ request.status) ∧
    (∀ t p after i f, Executes u w arguments c s t p after →
      Pipeline.FailsAt u.settings c t p.steps after i f → f.isProvisioning = true →
      r.answer = .ok (min (10 + i) 255) ∧
      ∃ done v, Pipeline.visited u.settings c t p.steps after = done ++ [v] ∧
        (done ++ [v]).map Visit.step = p.steps.take (i + 1) ∧ done.length = i ∧
        (∀ v' ∈ done, v'.Completed) ∧ v.report.answer = .error f ∧
        lines r.trace = (done ++ [v]).flatMap fun v' => lines v'.report.trace) ∧
    (LoadInterrupted u w arguments c s → r.answer = .ok 130 ∧ lines r.trace = []) ∧
    (∀ request, LoadRaises u w arguments c s (.exiting request) →
      r.answer = .ok request.status ∧ lines r.trace = []) ∧
    (r.answer = .ok 3 ∨ r.answer = .ok 2 ∨ Undiscovered u arguments → lines r.trace = []) := by
  intro r
  refine ⟨⟨?_, ?_⟩, ⟨?_, ?_⟩, ?_, ?_, ?_, ?_⟩
  · intro answer
    cases exit_of_answer provisions answer with
    | executed executes verdict => exact .inl ⟨_, _, _, executes, verdict.completesAll_of_zero⟩
    | exited eq raises => exact .inr ⟨_, raises, eq.symm⟩
    | interrupted eq | refused eq | withheld eq => omega
  · rintro (⟨t, p, after, executes, all⟩ | ⟨request, raises, zero⟩)
    · exact answer_of_completesAll executes all
    · rw [← zero]
      exact (execute_of_loadExits raises).1
  · rintro ⟨code, le, answer⟩
    cases exit_of_answer provisions answer with
    | executed executes verdict =>
      obtain ⟨i, f, fails, provisioning, -⟩ := verdict.failsAt_of_ten_le le
      exact .inl ⟨i, _, _, _, f, executes, fails, provisioning⟩
    | interrupted _ source => exact .inr (.inl (source.resolve_left calm))
    | exited eq raises => exact .inr (.inr ⟨_, raises, eq ▸ le⟩)
    | refused eq | withheld eq => omega
  · rintro (⟨i, t, p, after, f, executes, fails, provisioning⟩ | loads | ⟨request, raises, le⟩)
    · exact ⟨min (10 + i) 255, by omega, answer_of_failsAt executes fails provisioning⟩
    · exact ⟨130, by omega, (execute_of_loadInterrupted loads).1⟩
    · exact ⟨request.status, le, (execute_of_loadExits raises).1⟩
  · intro t p after i f executes fails provisioning
    obtain ⟨done, v, hsplit, hlength, hsteps, completed, fault⟩ := fails.split
    refine ⟨answer_of_failsAt executes fails provisioning, done, v, hsplit, ?_, hlength, completed,
      fault, ?_⟩
    · rw [← hsplit, hsteps]
    · rw [← hsplit]
      exact lines_of_executes executes
  · intro loads
    obtain ⟨answer, quiet, -⟩ := execute_of_loadInterrupted loads
    exact ⟨answer, quiet⟩
  · intro request raises
    obtain ⟨answer, quiet, -⟩ := execute_of_loadExits raises
    exact ⟨answer, quiet⟩
  · rintro (answer | answer | undiscovered)
    · exact lines_of_exit (exit_of_answer provisions answer) (by omega) (by omega)
    · exact lines_of_exit (exit_of_answer provisions answer) (by omega) (by omega)
    · exact (idles_of_undiscovered undiscovered w s).written.lines_eq

theorem invokes_run (s : Settings) : Invokes (runCommand s).options "run" ["run"] {} [] := by
  have hrun : Argument.classify "run" = .plain "run" := by cbv
  refine invokes_of_plain hrun ?_
  simp [readCommand, parse, runCommand, targetOptions, pipelineFileOption, installerUrlOption,
    Given.has, badChoice?, Given.text?, Given.last?]

theorem selects_lone (f : PipelineFile) : Selects (lone f) [] builtinOnly (some lonePath) where
  found := finds_lone f rfl
  apt := .inr rfl

def loneMachine : Machine := ⟨"/", "default", some "/project"⟩

theorem prepareTarget_lone (f : PipelineFile) (w : World σ) :
    prepareTarget (lone f) w (.ofGiven (lone f).settings []) = pure (loneMachine.target w) := by
  have directory : machineDirectory ⟨[], []⟩ "." = .ok "/" := rfl
  have chosen : chooseTarget (lone f) w (.ofGiven (lone f).settings []) =
      .ok ⟨loneMachine.target w, some loneMachine⟩ := by
    unfold chooseTarget
    exact (if_pos rfl).trans (Refusable.bind_eq_ok.2 ⟨_, directory, rfl⟩)
  exact prepareTarget_of_unbooted chosen rfl

theorem executes_lone {f : PipelineFile} {steps : List Step} {p : Pipeline}
    (loaded : f.load = .ok steps) (made : Pipeline.make (steps.map .step) = .ok p) (w : World σ)
    (s : σ) : Executes (lone f) w ["run"] {} s (loneMachine.target w) p s := by
  have hprepared : (Undertaking.ofRun (lone f) [] (some lonePath)).preparation (lone f) w =
      pure (loneMachine.target w) := prepareTarget_lone f w
  have hpipeline : (Undertaking.ofRun (lone f) [] (some lonePath)).pipeline (loneMachine.target w) =
      .ok (p, lonePath.name) := by
    simp only [Undertaking.pipeline, Undertaking.ofRun, supplied, loadPath_lone, loaded, Except.map,
      made]
  have hreached : Undertaking.Reaches (lone f) w (.ofRun (lone f) [] (some lonePath)) s
      (loneMachine.target w) p lonePath.name := ⟨by rw [hprepared]; rfl, hpipeline⟩
  have hexecutes := Executes.intro (.run (invokes_run _) (selects_lone f)) hreached
  rw [hprepared] at hexecutes
  exact hexecutes

def failingStep : Step := ⟨"check", [.text "false"], .unprivileged, none, "sh", []⟩

def failingFile : PipelineFile where
  pipeline := some (.returning (.ok (.list [.step failingStep])))

def failingReplies : List Reply :=
  let up := Reply.exited 0 "1700000000,default,state,running\n"
  [up, up, .exited 1 ""]

theorem exit_code_failingFile :
    Provisions (lone failingFile) ["run"] {} ∧
      ¬ Interrupted (exchanges
        (execute (lone failingFile) .replies ["run"] failingReplies).trace) ∧
      (execute (lone failingFile) .replies ["run"] failingReplies).answer = .ok 10 := by
  have executes := executes_lone (f := failingFile) rfl rfl .replies failingReplies
  have fails : Pipeline.FailsAt (lone failingFile).settings {} (loneMachine.target .replies)
      [failingStep] failingReplies 0 (.stepFailed "check" (.text "false") 1) := ⟨_, rfl, rfl⟩
  have provisions : Provisions (lone failingFile) ["run"] {} := .inl ⟨[], invokes_run _⟩
  have calm : ¬ Interrupted (exchanges
      (execute (lone failingFile) .replies ["run"] failingReplies).trace) :=
    fun h => Bool.false_ne_true ((interrupted_iff_of_failsAt executes fails).1 h)
  have law := exit_code_of_provisions (lone failingFile) .replies provisions failingReplies calm
  exact ⟨provisions, calm, (law.2.2.1 _ _ _ 0 _ executes fails rfl).1⟩

def raisingFile (f : Fault) : PipelineFile where
  raises := some f

def interruptedFile : PipelineFile := raisingFile (.interrupted "")

theorem loadRaises_lone (f : Fault) (w : World σ) (s : σ) :
    LoadRaises (lone (raisingFile f)) w ["run"] {} s f := by
  refine ⟨[], lonePath, loneMachine.target w, invokes_run _, selects_lone _, ?_, ?_⟩
  · rw [prepareTarget_lone]
    rfl
  · rw [loadPath_lone]
    rfl

def exitingFile (n : Int) : PipelineFile := raisingFile (.exiting (.code n))

/-- The code is above 10, though no step fails and no child process is interrupted; or it is 0,
though no step is completed. -/
theorem interruptedFile_exits :
    (Provisions (lone interruptedFile) ["run"] {} ∧
      ¬ Interrupted (exchanges (execute (lone interruptedFile) .replies ["run"] []).trace) ∧
      (execute (lone interruptedFile) .replies ["run"] []).answer = .ok 130 ∧
      ∀ i, ¬ StepFails (lone interruptedFile) .replies ["run"] {} [] i) ∧
    Provisions (lone (exitingFile 0)) ["run"] {} ∧
      ¬ Interrupted (exchanges (execute (lone (exitingFile 0)) .replies ["run"] []).trace) ∧
      (execute (lone (exitingFile 0)) .replies ["run"] []).answer = .ok 0 ∧
      ¬ StepsComplete (lone (exitingFile 0)) .replies ["run"] {} [] := by
  have interrupted := loadRaises_lone (.interrupted "") .replies []
  have exits := loadRaises_lone (.exiting (.code 0)) .replies []
  obtain ⟨answer, -, heeded⟩ := execute_of_loadInterrupted ⟨_, interrupted⟩
  obtain ⟨answer', -, heeded'⟩ := execute_of_loadExits exits
  refine ⟨⟨.inl ⟨[], invokes_run _⟩, heeded.not_interrupted id, answer, ?_⟩,
    .inl ⟨[], invokes_run _⟩, heeded'.not_interrupted id, answer', ?_⟩
  · rintro i ⟨t, p, after, f, executes, -, -⟩
    exact not_loadRaises_of_executes executes (fun _ => Fault.noConfusion) interrupted
  · rintro ⟨t, p, after, executes, -⟩
    exact not_loadRaises_of_executes executes (fun _ => Fault.noConfusion) exits

end Provisioning.CommandLine
