import Provisioning.Proofs.ExitCodes

/-!
What an interrupt does to a command. After a child process that was interrupted none is started, by
any command. The exit code 130 of `run` and `install-toolchain` tells of an interrupt, be it of a
child process or of the pipeline file, or else of a failure of step number 120 or of an exit that
the pipeline file asks for, whose codes can be the same.
-/
namespace Provisioning.CommandLine

open Activity

variable {σ : Type}

section Build

variable (u : Surroundings) (w : World σ) (c : Console) (g : Given)

theorem heeds_build : Heeds (build u w c g) := by
  unfold build
  refine leaves_require (fun path _ => ?_) fun _ _ => .nil Bool.false_ne_true
  refine leaves_require (fun stage _ => ?_) fun _ _ => .nil Bool.false_ne_true
  have ht := Target.heedsInterrupts_host w u.environ [] u.superuser (some path.toString)
  have hstage : Heeds (stage.run c (Target.host w u.environ [] u.superuser (some path.toString))
      (some path.toString)) := stage.run_composed (ht.composed c) _
  refine hstage.attempt_bind (fun ended s => ?_) fun ended s => ?_
  · cases ended with
    | ok _ => rfl
    | error f =>
      dsimp only
      split
      · rw [record_bind_apply, exchanges_append, (c.written_failure _ _ _ _).exchanges_eq]
        rfl
      · rfl
  · cases ended with
    | ok _ => rfl
    | error f =>
      dsimp only
      split
      · rename_i provisioning
        exact iff_of_false (Fault.not_interrupt_of_provisioning provisioning) id
      · rfl

theorem ensures_build :
    (build u w c g).Ensures (fun code => code = 0 ∨ code = 1) Fault.Stays := by
  have refused (cause : Refusal) : (Fault.refused cause).Stays := Fault.stays_of_exception rfl
  unfold build
  refine leaves_require (fun path _ => ?_) fun _ _ => refused _
  refine leaves_require (fun stage _ => ?_) fun _ _ => refused _
  have plain := Target.plain_host w u.environ [] u.superuser (some path.toString)
  have hstage := stage.run_composed
    (plain.confines.composed (fun _ => Fault.stays_of_exception) c) (some path.toString)
  refine hstage.attempt.bind fun ended stays => ?_
  cases ended with
  | ok _ => exact (ensures_record _).bind fun _ _ => ensures_pure (.inl rfl)
  | error f =>
    dsimp only
    split
    · exact (ensures_record _).bind fun _ _ => ensures_pure (.inr rfl)
    · exact ensures_fail (stays f rfl)

end Build

section

variable (u : Surroundings) (w : World σ) (arguments : List String) (s : σ)

/-- No child process is started after one that was interrupted. -/
def StopsAtInterrupt : Prop :=
  (exchanges (execute u w arguments s).trace).Pairwise fun earlier _ => earlier.reply ≠ .interrupted

/-- A child process is interrupted, or the pipeline file, or step number 120 fails, or the pipeline
file asks for an exit with the status of an interrupt. -/
def LooksInterrupted : Prop :=
  Interrupted (exchanges (execute u w arguments s).trace) ∨
    ∃ c, LoadInterrupted u w arguments c s ∨ StepFails u w arguments c s 120 ∨
      ∃ request, LoadRaises u w arguments c s (.exiting request) ∧ request.status = 130

end

section Commands

variable {u : Surroundings} {w : World σ} {arguments : List String} {c : Console} {s : σ}

theorem exchanges_execute : exchanges (execute u w arguments s).trace =
    exchanges (dispatch u w arguments s).trace := by
  rw [execute_apply, exchanges_append, (written_farewell _).exchanges_eq, List.append_nil]

theorem Idles.stopsAtInterrupt {codes : List Int} (h : Idles codes (execute u w arguments s)) :
    StopsAtInterrupt u w arguments s := by
  rw [StopsAtInterrupt, h.written.exchanges_eq]
  exact .nil

theorem stopsAtInterrupt_of_commences {x : Undertaking σ} (commences : Commences u arguments c x) :
    StopsAtInterrupt u w arguments s := by
  by_cases loads : LoadInterrupted u w arguments c s
  · exact (execute_of_loadInterrupted loads).2.2.last
  · exact (heeded_of_commences commences loads).last

theorem dispatch_of_build {g : Given}
    (invokes : Invokes buildCommand.options "build" arguments c g) :
    dispatch u w arguments = build u w c g := by
  have known : command? u w c "build" = some (buildCommand, build u w c) := rfl
  exact dispatch_of_invokes known invokes

theorem stopsAtInterrupt_of_build {g : Given}
    (invokes : Invokes buildCommand.options "build" arguments c g) :
    StopsAtInterrupt u w arguments s := by
  rw [StopsAtInterrupt, exchanges_execute, dispatch_of_build invokes]
  exact (heeds_build u w c g s).last

theorem not_130_of_build {g : Given}
    (invokes : Invokes buildCommand.options "build" arguments c g) :
    (execute u w arguments s).answer ≠ .ok 130 := by
  rw [execute_apply, dispatch_of_build invokes]
  intro answer
  cases hended : (build u w c g s).answer with
  | ok code =>
    have hcode := (ensures_build u w c g).of_ok hended
    rw [hended] at answer
    obtain rfl := Except.ok.inj answer
    omega
  | error f =>
    have stays := (ensures_build u w c g).of_error hended
    rw [hended] at answer
    cases f with
    | interrupted => cases answer
    | exiting request => exact stays request rfl
    | _ => cases answer

theorem looksInterrupted_of_answer (provisions : Provisions u arguments c)
    (answer : (execute u w arguments s).answer = .ok 130) : LooksInterrupted u w arguments s := by
  cases exit_of_answer provisions answer with
  | @executed t p after executes verdict =>
    obtain ⟨i, f, fails, provisioning, eq⟩ := verdict.failsAt_of_ten_le (by omega)
    obtain rfl : i = 120 := by omega
    exact .inr ⟨c, .inr (.inl ⟨t, p, after, f, executes, fails, provisioning⟩)⟩
  | interrupted _ source =>
    rcases source with child | loads
    · exact .inl child
    · exact .inr ⟨c, .inl loads⟩
  | exited eq raises => exact .inr ⟨c, .inr (.inr ⟨_, raises, eq.symm⟩)⟩
  | refused eq | withheld eq => omega

theorem answer_of_child {x : Undertaking σ} (commences : Commences u arguments c x)
    (child : Interrupted (exchanges (execute u w arguments s).trace)) :
    (execute u w arguments s).answer = .ok 130 := by
  by_cases loads : LoadInterrupted u w arguments c s
  · exact (execute_of_loadInterrupted loads).1
  · rw [answer_of_commences commences]
    exact concluded_of_interrupted ((heeded_of_commences commences loads).iff.1 child)

theorem answer_of_fileOrStep
    (h : LoadInterrupted u w arguments c s ∨ StepFails u w arguments c s 120 ∨
      ∃ request, LoadRaises u w arguments c s (.exiting request) ∧ request.status = 130) :
    (execute u w arguments s).answer = .ok 130 := by
  rcases h with loads | ⟨t, p, after, f, executes, fails, provisioning⟩ | ⟨request, raises, eq⟩
  · exact (execute_of_loadInterrupted loads).1
  · exact answer_of_failsAt executes fails provisioning
  · rw [← eq]
    exact (execute_of_loadExits raises).1

end Commands

/-- None of the three commands that start child processes starts one after an interrupted one. The
code 130 tells that a child process was interrupted or the pipeline file, that step number 120
failed, or that the pipeline file asked for an exit with it; and where a pipeline is carried out,
each of these gives it. -/
theorem interrupts_of_calls (u : Surroundings) (w : World σ) {name : String}
    {arguments : List String} (starts : name ∈ ["run", "install-toolchain", "build"])
    (calls : Calls name arguments) (s : σ) :
    StopsAtInterrupt u w arguments s ∧
      ((execute u w arguments s).answer = .ok 130 → LooksInterrupted u w arguments s) ∧
      (name ≠ "build" → LooksInterrupted u w arguments s →
        (execute u w arguments s).answer = .ok 130) := by
  by_cases building : name = "build"
  · subst building
    rcases invokes_or_idles (u := u) (w := w) buildCommand (fun c => rfl) calls s with
      ⟨c, g, invokes⟩ | idles
    · refine ⟨stopsAtInterrupt_of_build invokes, fun answer => ?_, fun h => absurd rfl h⟩
      exact absurd answer (not_130_of_build invokes)
    · refine ⟨idles.stopsAtInterrupt, fun answer => ?_, fun h => absurd rfl h⟩
      exact absurd (idles.mem_of_ok answer) (by simp)
  · have carries : Calls "run" arguments ∨ Calls "install-toolchain" arguments := by
      simp only [List.mem_cons, List.not_mem_nil, or_false, building] at starts
      rcases starts with rfl | rfl
      · exact .inl calls
      · exact .inr calls
    rcases commences_or_idles_of_calls (u := u) carries w s with ⟨c, x, commences⟩ | idles
    · refine ⟨stopsAtInterrupt_of_commences commences, ?_, ?_⟩
      · exact looksInterrupted_of_answer commences.provisions
      · rintro - (child | ⟨c', h⟩)
        · exact answer_of_child commences child
        · exact answer_of_fileOrStep h
    · refine ⟨idles.stopsAtInterrupt, fun answer => ?_, ?_⟩
      · exact absurd (idles.mem_of_ok answer) (by simp)
      · rintro - (child | ⟨c', h⟩)
        · rw [idles.written.exchanges_eq] at child
          exact absurd child not_interrupted_nil
        · exact answer_of_fileOrStep h

def interruptedReplies : List Reply :=
  let up := Reply.exited 0 "1700000000,default,state,running\n"
  [up, up, .interrupted]

theorem calls_run : Calls "run" ["run"] := calls_of_invokes (invokes_run (.ofEnviron []))

theorem interrupts_failingFile :
    "run" ∈ ["run", "install-toolchain", "build"] ∧ Calls "run" ["run"] ∧
      Interrupted (exchanges
        (execute (lone failingFile) .replies ["run"] interruptedReplies).trace) ∧
      (execute (lone failingFile) .replies ["run"] interruptedReplies).answer = .ok 130 := by
  have executes := executes_lone (f := failingFile) rfl rfl .replies interruptedReplies
  have fails : Pipeline.FailsAt (lone failingFile).settings {} (loneMachine.target .replies)
      [failingStep] interruptedReplies 0 (.interrupted "") := ⟨_, rfl, rfl⟩
  have child := (interrupted_iff_of_failsAt executes fails).2 rfl
  have law := interrupts_of_calls (lone failingFile) .replies (by simp) calls_run interruptedReplies
  exact ⟨by simp, calls_run, child, law.2.2 (by decide) (.inl child)⟩

def idleStep (i : Nat) : Step where
  name := String.ofList (List.replicate (i + 1) 'i')
  run := []
  privilege := .unprivileged
  cwd := none
  kind := "toolchain"
  data := [(.text "noop", .bool true)]

def lateSteps (n : Nat) : List Step := (List.range n).map idleStep ++ [failingStep]

def lateFile (n : Nat) : PipelineFile where
  pipeline := some (.returning (.ok (.list ((lateSteps n).map .step))))

theorem load_of_steps (steps : List Step) :
    PipelineFile.load { pipeline := some (.returning (.ok (.list (steps.map .step)))) } =
      .ok steps := by
  have hsteps : (steps.map Pipeline.Entry.step).mapM Pipeline.Entry.step? = some steps := by
    induction steps with
    | nil => rfl
    | cons s rest ih => simp [List.mapM_cons, ih, Pipeline.Entry.step?]
  have accepted : PipelineFile.stepsOf (some (.list (steps.map .step))) = .ok steps := by
    unfold PipelineFile.stepsOf
    dsimp only
    rw [hsteps]
  rw [load_of_gives ⟨_, rfl, rfl⟩, accepted]
  rfl

theorem names_lateSteps_nodup (n : Nat) : ((lateSteps n).map Step.name).Nodup := by
  have hname (i : Nat) : (idleStep i).name.toList = List.replicate (i + 1) 'i' :=
    String.toList_ofList
  rw [lateSteps, List.map_append, List.map_map, List.nodup_append]
  refine ⟨List.Pairwise.map _ (fun i j hne => ?_) List.nodup_range,
    List.pairwise_singleton _ _, ?_⟩
  · intro (h : (idleStep i).name = (idleStep j).name)
    have hlength := congrArg (fun name => name.toList.length) h
    simp only [hname, List.length_replicate] at hlength
    omega
  · intro a ha b hb hab
    obtain ⟨i, -, rfl⟩ := List.mem_map.1 ha
    obtain rfl := List.mem_singleton.1 hb
    have hchars : List.replicate (i + 1) 'i' = failingStep.name.toList := by
      rw [← hname i]
      exact congrArg String.toList hab
    cases hchars

theorem make_lateSteps (n : Nat) :
    Pipeline.make ((lateSteps n).map .step) = .ok { steps := lateSteps n } := by
  refine Pipeline.make_of_distinct (by simp [lateSteps]) ?_ (names_lateSteps_nodup n)
  intro s hs
  rcases List.mem_append.1 hs with hs | hs
  · obtain ⟨i, -, rfl⟩ := List.mem_map.1 hs
    rfl
  · obtain rfl := List.mem_singleton.1 hs
    rfl

theorem failsAt_lateSteps (settings : Settings) (n : Nat) :
    Pipeline.FailsAt settings {} (loneMachine.target .replies) (lateSteps n)
      failingReplies n (.stepFailed "check" (.text "false") 1) := by
  have fails : Pipeline.FailsAt settings {} (loneMachine.target .replies)
      ((List.range n).map idleStep ++ [failingStep]) failingReplies
      ((List.range n).map idleStep).length (.stepFailed "check" (.text "false") 1) := by
    refine Pipeline.failsAt_append_of_idle rfl (fun s hs => ?_) rfl
    obtain ⟨i, -, rfl⟩ := List.mem_map.1 hs
    exact ⟨rfl, rfl⟩
  rw [List.length_map, List.length_range] at fails
  exact fails

theorem invokes_build : Invokes buildCommand.options "build" ["build"] {} [] :=
  invokes_of_plain (by cbv) rfl

/-- The code 130 does not tell of an interrupted child process if step number 120 fails or the
pipeline file is interrupted or asks for it, and an interrupted build exits with another code. -/
theorem codes_without_interrupts :
    (Calls "run" ["run"] ∧
      (execute (lone (lateFile 120)) .replies ["run"] failingReplies).answer = .ok 130 ∧
      ¬ Interrupted (exchanges
        (execute (lone (lateFile 120)) .replies ["run"] failingReplies).trace)) ∧
    ((execute (lone interruptedFile) .replies ["run"] []).answer = .ok 130 ∧
      ¬ Interrupted (exchanges (execute (lone interruptedFile) .replies ["run"] []).trace)) ∧
    ((execute (lone (exitingFile 130)) .replies ["run"] []).answer = .ok 130 ∧
      ¬ Interrupted (exchanges (execute (lone (exitingFile 130)) .replies ["run"] []).trace)) ∧
    (Calls "build" ["build"] ∧
      (execute (lone interruptedFile) .replies ["build"] [.interrupted]).answer = .ok 1 ∧
      Interrupted (exchanges
        (execute (lone interruptedFile) .replies ["build"] [.interrupted]).trace)) := by
  refine ⟨⟨calls_run, ?_⟩, ?_, ?_, ?_⟩
  · have executes := executes_lone (load_of_steps _) (make_lateSteps 120) .replies failingReplies
    have fails := failsAt_lateSteps (lone (lateFile 120)).settings 120
    refine ⟨answer_of_failsAt executes fails rfl, fun child => ?_⟩
    exact Bool.false_ne_true ((interrupted_iff_of_failsAt executes fails).1 child)
  · obtain ⟨answer, -, heeded⟩ :=
      execute_of_loadInterrupted ⟨_, loadRaises_lone (.interrupted "") .replies []⟩
    exact ⟨answer, heeded.not_interrupted id⟩
  · obtain ⟨answer, -, heeded⟩ :=
      execute_of_loadExits (loadRaises_lone (.exiting (.code 130)) .replies [])
    exact ⟨answer, heeded.not_interrupted id⟩
  · have hdispatch : dispatch (lone interruptedFile) .replies ["build"] =
        build (lone interruptedFile) .replies {} [] := dispatch_of_build invokes_build
    have ends : EndsInterrupted
        (build (lone interruptedFile) .replies {} [] [.interrupted]).answer := rfl
    have child := (heeds_build (lone interruptedFile) .replies {} [] [.interrupted]).iff.2 ends
    refine ⟨calls_of_invokes invokes_build, ?_, ?_⟩
    · rw [execute_apply, hdispatch]
      rfl
    · rw [exchanges_execute, hdispatch]
      exact child

end Provisioning.CommandLine
