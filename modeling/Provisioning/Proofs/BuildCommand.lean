import Provisioning.Proofs.Echoing
import Provisioning.Proofs.InterruptedCommands
import Provisioning.Proofs.Paths
import Provisioning.Proofs.ProjectDirectory
import Provisioning.Proofs.RecipeDecoding

/-!
The command that only builds, and the step that builds. Three ways lead to the stage that builds and
tests a project: the command `build`, a pipeline of the one step that the recipe makes, and
`install-toolchain` when it builds as well. On this host all three start the same child processes in
the same order.
-/
namespace Provisioning

open Activity

variable {σ σ' : Type}

theorem defaultSubsteps_ne_nil : defaultSubsteps ≠ [] := List.cons_ne_nil _ _

def Stage.standard : Stage := .plain defaultSubsteps .unprivileged

theorem Stage.make_standard : make .null defaultEnvFile .unprivileged = .ok standard := rfl

theorem Stage.sameDeeds_run_workdir (c : Console) (t : Target σ) (stage : Stage) :
    (stage.run c t t.workdir).SameDeeds
      (Errand.carryOut t stage.privilege t.workdir stage.errands) := by
  have h := stage.sameDeeds_run c t t.workdir
  rw [firstDirectory_self] at h
  exact h

namespace Recipe

def standardStep (settings : Settings) (project : String) : Step :=
  stageStep settings buildTestName (some project) defaultSubsteps

theorem buildTest_standard (settings : Settings) (project : String) :
    buildTest settings buildTestName (some project) .null =
      .ok (standardStep settings project) :=
  buildTest_substeps settings buildTestName (some project) defaultSubsteps_ne_nil

theorem standardStep_perform (settings : Settings) {project : String} (given : project ≠ "")
    (c : Console) {t : Target σ} (workdir : t.workdir = some project) :
    (standardStep settings project).perform settings c t = Stage.standard.run c t t.workdir := by
  have hcwd : (standardStep settings project).cwd = t.workdir := by
    rw [workdir, standardStep, stageStep, firstGiven_of_ne_empty given]
  have performed : (standardStep settings project).perform settings c t =
      Stage.standard.run c t (firstDirectory (standardStep settings project).cwd t.workdir) :=
    stageStep_perform settings buildTestName (some project) defaultSubsteps_ne_nil c t
  rw [performed, hcwd, firstDirectory_self]

end Recipe

theorem visits_singleton (settings : Settings) (c : Console) (t : Target σ) (s : Step) (w : σ) :
    visits settings c t [s] w = [⟨s, s.perform settings c t w⟩] := by
  cases answer : (s.perform settings c t w).answer with
  | ok u => exact visits_of_ok answer
  | error f => exact visits_of_error answer

def Pipeline.Succeeds (settings : Settings) (c : Console) (t : Target σ) (p : Pipeline) (w : σ) :
    Prop :=
  ∃ q o, (p.execute settings c t w).answer = .ok (q, .ok o) ∧ o.state = .succeeded

theorem Pipeline.succeeds_iff {settings : Settings} {c : Console} {t : Target σ} {p : Pipeline}
    {w : σ} (fresh : p.state = .notStarted) (nonempty : p.steps ≠ []) :
    p.Succeeds settings c t w ↔ CompletesAll settings c t p.steps w := by
  obtain ⟨q, ended, answer, ending⟩ := execute_ending settings c t p w
  have hsucceeds : p.Succeeds settings c t w ↔ ∃ o, ended = .ok o ∧ o.state = .succeeded := by
    simp [Succeeds, answer]
  rw [hsucceeds]
  generalize (p.execute settings c t w).trace = trace at ending
  cases ending with
  | repeated started => exact absurd fresh started
  | unavailable _ question | unanswered _ question =>
    have unvisited : visited settings c t p.steps w = [] := visited_of_withheld question
    refine iff_of_false ?_ fun all => all.visited_ne_nil nonempty unvisited
    simp [unavailableOutcome]
  | succeeded _ question completed =>
    exact iff_of_true ⟨_, rfl, rfl⟩ (completesAll_of_completed question completed)
  | failed _ question stopped | escaped _ question stopped =>
    refine iff_of_false ?_ (failsAt_of_stopped question stopped).not_completesAll
    simp [failedOutcome]

theorem Pipeline.visited_pair {settings : Settings} {c : Console} {t : Target σ}
    {first second : Step} {w : σ} {v : Visit σ} {rest : List (Visit σ)}
    (hvisited : visited settings c t [first, second] w = v :: rest) (completed : v.Completed) :
    v.step = first ∧ rest = [⟨second, second.perform settings c t v.report.after⟩] := by
  cases question : (t.checkAvailable w).answer with
  | error f =>
    rw [visited_of_withheld question] at hvisited
    cases hvisited
  | ok u =>
    rw [visited_of_available question, executedVisits] at hvisited
    cases answer : (first.perform settings c t (t.checkAvailable w).after).answer with
    | error f =>
      rw [visits_of_error answer] at hvisited
      obtain ⟨rfl, -⟩ := List.cons.inj hvisited
      cases answer.symm.trans completed
    | ok u =>
      rw [visits_of_ok answer, visits_singleton] at hvisited
      obtain ⟨rfl, rfl⟩ := List.cons.inj hvisited
      exact ⟨rfl, rfl⟩

section Standard

variable {t : Target σ} {s : σ}

def Target.Quiet (t : Target σ) : Prop :=
  ∀ s, (t.available s).trace = [] ∧ (t.available s).after = s

theorem Errand.carryOut_of_withheld {p : Privilege} {d : Option String} {f : Fault} (e : Errand)
    (rest : List (Except Refusal Errand)) (question : (t.checkAvailable s).answer = .error f) :
    carryOut t p d (.ok e :: rest) s =
      ⟨(t.checkAvailable s).trace, .error f, (t.checkAvailable s).after⟩ :=
  bind_of_error question

theorem Stage.run_of_withheld (c : Console) {f : Fault}
    (question : (t.checkAvailable s).answer = .error f) :
    exchanges (standard.run c t t.workdir s).trace = exchanges (t.checkAvailable s).trace ∧
      (standard.run c t t.workdir s).answer = .error f := by
  have did := standard.sameDeeds_run_workdir c t
  have withheld : Errand.carryOut t standard.privilege t.workdir standard.errands s = _ :=
    Errand.carryOut_of_withheld _ _ question
  rw [did.exchanges_eq, (did s s rfl).2.1, withheld]
  exact ⟨rfl, rfl⟩

/-- A pipeline of the one step does what the stage does, and succeeds exactly if the stage ends
well. -/
theorem Pipeline.execute_standardStep (settings : Settings) {project : String}
    (given : project ≠ "") (workdir : t.workdir = some project) (quiet : t.Quiet)
    (c c' : Console) (s : σ) :
    let p : Pipeline := { steps := [Recipe.standardStep settings project] }
    exchanges (p.execute settings c t s).trace =
        exchanges (Stage.standard.run c' t t.workdir s).trace ∧
      (p.Succeeds settings c t s ↔ (Stage.standard.run c' t t.workdir s).answer = .ok ()) := by
  intro p
  have fresh : p.state = .notStarted := rfl
  obtain ⟨htrace, hafter⟩ := quiet s
  have did := Stage.standard.sameDeeds_run_workdir c t
  have did' := Stage.standard.sameDeeds_run_workdir c' t
  rw [succeeds_iff fresh (List.cons_ne_nil _ _), did'.exchanges_eq, (did' s s rfl).2.1,
    ← did.exchanges_eq, ← (did s s rfl).2.1]
  cases question : (t.checkAvailable s).answer with
  | error f =>
    obtain ⟨hcalls, failed⟩ := Stage.run_of_withheld c question
    rw [execute_of_withheld settings c t fresh question, hcalls, failed]
    refine ⟨rfl, iff_of_false (fun all => ?_) (by simp)⟩
    exact all.visited_ne_nil (List.cons_ne_nil _ _) (visited_of_withheld question)
  | ok u =>
    have unchanged : (t.checkAvailable s).after = s := by
      rw [t.checkAvailable_apply]
      exact hafter
    have hvisits : executedVisits settings c t p.steps s =
        [⟨Recipe.standardStep settings project, Stage.standard.run c t t.workdir s⟩] := by
      rw [executedVisits, unchanged, visits_singleton,
        Recipe.standardStep_perform settings given c workdir]
    obtain ⟨executed, -⟩ := execute_of_available settings c t fresh question
    rw [executed, visitedTrace, CompletesAll, visited_of_available question, hvisits,
      exchanges_append, Target.exchanges_checkAvailable, htrace]
    simp [Visit.exchanges_trace, Visit.Completed, p]

end Standard

namespace CommandLine

/-- The status that the program exits with; a fault that no command handles ends it with 1. -/
def exitStatus : Except Fault Int → Int
  | .ok code => code
  | .error _ => 1

section Build

variable {u : Surroundings} {w : World σ} {arguments : List String} {c : Console} {g : Given}
  {path : Path} {s : σ}

theorem exitStatus_execute (invokes : Invokes buildCommand.options "build" arguments c g) :
    exitStatus (execute u w arguments s).answer = exitStatus (build u w c g s).answer := by
  rw [execute_apply, dispatch_of_build invokes]
  cases answer : (build u w c g s).answer with
  | ok code => rfl
  | error f =>
    cases f with
    | exiting request => exact absurd rfl ((ensures_build u w c g).of_error answer request)
    | _ => rfl

variable (u w) in
def projectHost (project : String) : Target σ :=
  .host w u.environ [] u.superuser (some project)

theorem quiet_projectHost (project : String) : (projectHost u w project).Quiet :=
  Target.quiet_question_host w u.environ [] u.superuser (some project)

def reported (c : Console) : Except Fault Unit → Activity Event σ Int
  | .ok () => do
    record (Console.info "Build and tests passed")
    return 0
  | .error f =>
    if f.isProvisioning then do
      record (c.failure Recipe.buildTestName f.message f.status? none)
      return 1
    else fail f

theorem exchanges_reported (c : Console) (ended : Except Fault Unit) (s : σ) :
    exchanges (reported c ended s).trace = [] := by
  cases ended with
  | ok u => rfl
  | error f =>
    unfold reported
    dsimp only
    split
    · rw [record_bind_apply, exchanges_append, (c.written_failure _ _ _ _).exchanges_eq]
      rfl
    · rfl

theorem exitStatus_reported (c : Console) (ended : Except Fault Unit) (s : σ) :
    exitStatus (reported c ended s).answer = 0 ↔ ended = .ok () := by
  cases ended with
  | ok u => exact iff_of_true rfl rfl
  | error f =>
    refine iff_of_false ?_ (by simp)
    unfold reported
    dsimp only
    split <;> simp [exitStatus, record_bind_apply]

theorem build_of_resolved
    (resolved : (Path.ofString ((g.text? "--project-path").getD ".")).resolve u.place = .ok path) :
    let t := projectHost u w path.toString
    build u w c g = (Stage.standard.run c t t.workdir).attempt >>= reported c := by
  unfold build
  rw [require_bind_of_ok resolved, require_bind_of_ok Stage.make_standard]
  rfl

/-- The command starts what the stage starts, and exits with 0 exactly if the stage ends well. -/
theorem execute_build (invokes : Invokes buildCommand.options "build" arguments c g)
    (resolved : (Path.ofString ((g.text? "--project-path").getD ".")).resolve u.place = .ok path)
    (s : σ) :
    let t := projectHost u w path.toString
    let r := Stage.standard.run c t t.workdir s
    exchanges (execute u w arguments s).trace = exchanges r.trace ∧
      (exitStatus (execute u w arguments s).answer = 0 ↔ r.answer = .ok ()) := by
  have hbuild := build_of_resolved (w := w) (c := c) resolved
  dsimp only at hbuild ⊢
  rw [exitStatus_execute invokes, exchanges_execute, dispatch_of_build invokes, hbuild,
    attempt_bind_apply, exchanges_append, exchanges_reported, exitStatus_reported, List.append_nil]
  exact ⟨rfl, .rfl⟩

theorem exitStatus_build (invokes : Invokes buildCommand.options "build" arguments c g) :
    exitStatus (execute u w arguments s).answer = 0 ∨
      exitStatus (execute u w arguments s).answer = 1 := by
  rw [exitStatus_execute invokes]
  cases answer : (build u w c g s).answer with
  | ok code => exact (ensures_build u w c g).of_ok answer
  | error f => exact .inr rfl

end Build

section Install

variable {u : Surroundings} {w : World σ} {arguments : List String} {c : Console} {g : Given}
  {project : String} {s : σ}

structure InstallsAndBuilds (u : Surroundings) (arguments : List String) (c : Console) (g : Given)
    (project : String) : Prop where
  invokes : Invokes (installCommand u.settings).options "install-toolchain" arguments c g
  target : g.text? "--target" = some "local"
  path : g.text? "--guest-path" = some project
  andBuild : g.on "--and-build" false = true

def installingSteps (u : Surroundings) (g : Given) (project : String) : List Step :=
  [Recipe.installerStep u.settings Recipe.toolchainName
      (some ((g.text? "--installer-url").getD u.settings.installerUrl)) "-y" "cargo" false,
    Recipe.standardStep u.settings project]

theorem prepareTarget_of_host {o : TargetChoice} {chosen : Chosen σ}
    (hchosen : chooseTarget u w o = .ok chosen) (unmachined : chosen.machine = none) :
    prepareTarget u w o = pure chosen.target := by
  unfold prepareTarget
  rw [require_bind_of_ok hchosen, unmachined]

theorem chooseTarget_of_local (h : InstallsAndBuilds u arguments c g project)
    (given : project ≠ "") (workdir : Target.hostWorkdir u.place project = .ok project) :
    chooseTarget u w (.ofGiven u.settings g) = .ok ⟨projectHost u w project, none⟩ := by
  have target : (TargetChoice.ofGiven u.settings g).target = "local" := by
    rw [TargetChoice.ofGiven, h.target]
    rfl
  have path : firstGiven (TargetChoice.ofGiven u.settings g).guestPath u.cwdText = project := by
    rw [TargetChoice.ofGiven, h.path, firstGiven_of_ne_empty given]
  unfold chooseTarget
  rw [target, if_neg (by decide), path]
  exact Refusable.bind_eq_ok.2 ⟨project, workdir, rfl⟩

theorem installSteps_eq (h : InstallsAndBuilds u arguments c g project) :
    installSteps u g (some project) = .ok (installingSteps u g project) := by
  have install := Recipe.toolchain_texts u.settings Recipe.toolchainName
    (some ((g.text? "--installer-url").getD u.settings.installerUrl)) "-y" "cargo" false
  have test := Recipe.buildTest_standard u.settings project
  refine Refusable.bind_eq_ok.2 ⟨_, install, ?_⟩
  rw [if_pos h.andBuild]
  exact Refusable.bind_eq_ok.2 ⟨_, test, rfl⟩

theorem make_installingSteps :
    Pipeline.make ((installingSteps u g project).map .step) =
      .ok { steps := installingSteps u g project } := by
  apply Pipeline.make_of_distinct (List.cons_ne_nil _ _)
  · intro s hs
    rcases List.mem_cons.1 hs with rfl | hs
    · rfl
    · obtain rfl := List.mem_singleton.1 hs
      rfl
  · change [Recipe.toolchainName, Recipe.buildTestName].Nodup
    decide

theorem preparation_of_local (h : InstallsAndBuilds u arguments c g project)
    (given : project ≠ "") (workdir : Target.hostWorkdir u.place project = .ok project) :
    (Undertaking.ofInstall u g).preparation u w = pure (projectHost u w project) :=
  prepareTarget_of_host (chooseTarget_of_local h given workdir) rfl

theorem reaches_installingSteps (h : InstallsAndBuilds u arguments c g project)
    (prepared : (Undertaking.ofInstall u g).preparation u w = pure (projectHost u w project)) :
    Undertaking.Reaches u w (.ofInstall u g) s (projectHost u w project)
      { steps := installingSteps u g project } "install-toolchain" where
  prepared := by
    rw [prepared]
    rfl
  supplied := by
    have steps : installSteps u g (projectHost u w project).workdir = _ := installSteps_eq h
    simp only [Undertaking.pipeline, Undertaking.ofInstall, steps, make_installingSteps]

theorem exchanges_of_reaches {x : Undertaking σ} {t : Target σ} {p : Pipeline} {name : String}
    (commences : Commences u arguments c x) (reached : x.Reaches u w s t p name) :
    exchanges (execute u w arguments s).trace =
      exchanges (x.preparation u w s).trace ++
        (exchanges (t.checkAvailable (x.preparation u w s).after).trace ++
          (Pipeline.visited u.settings c t p.steps (x.preparation u w s).after).flatMap
            fun v => exchanges v.report.trace) := by
  obtain ⟨ahead, behind, hahead, hbehind, htrace⟩ := visits_of_reaches commences reached
  have hvisits (vs : List (Visit σ)) : exchanges (vs.flatMap (Visit.trace c)) =
      vs.flatMap fun v => exchanges v.report.trace := by
    induction vs with
    | nil => rfl
    | cons v vs ih =>
      rw [List.flatMap_cons, List.flatMap_cons, exchanges_append, v.exchanges_trace, ih]
  rw [htrace]
  simp only [exchanges_append, hahead.exchanges_eq, hbehind.exchanges_eq, hvisits, List.append_nil]

theorem executes_installingSteps (h : InstallsAndBuilds u arguments c g project)
    (given : project ≠ "") (workdir : Target.hostWorkdir u.place project = .ok project) (s : σ) :
    let t := projectHost u w project
    Executes u w arguments c s t { steps := installingSteps u g project } s ∧
      exchanges (execute u w arguments s).trace =
        (Pipeline.visited u.settings c t (installingSteps u g project) s).flatMap
          fun v => exchanges v.report.trace := by
  have prepared := preparation_of_local (w := w) h given workdir
  have reached := reaches_installingSteps (s := s) h prepared
  have executes := Executes.intro (.install h.invokes) reached
  have calls := exchanges_of_reaches (.install h.invokes) reached
  rw [prepared] at executes calls
  refine ⟨executes, calls.trans ?_⟩
  rw [pure_apply, Target.exchanges_checkAvailable, (quiet_projectHost project s).1]
  rfl

theorem exchanges_second {σ' : Type} {w' : World σ'} {R : σ → σ' → Prop} (agrees : w.Agrees w' R)
    {path : Path} (invokes : Invokes buildCommand.options "build" arguments c g)
    (resolved : (Path.ofString ((g.text? "--project-path").getD ".")).resolve u.place = .ok path)
    (given : path.toString ≠ "") (c' : Console) {s' : σ'} (related : R s s') :
    exchanges ((Recipe.standardStep u.settings path.toString).perform u.settings c'
        (projectHost u w' path.toString) s').trace =
      exchanges (execute u w arguments s).trace := by
  have echoed : (projectHost u w path.toString).Echoed (projectHost u w' path.toString) R :=
    agrees.host u.environ [] u.superuser _
  have did := Stage.standard.sameDeeds_run_workdir c (projectHost u w path.toString)
  have did' := Stage.standard.sameDeeds_run_workdir c' (projectHost u w' path.toString)
  obtain ⟨carried, -⟩ := echoed.carryOut Stage.standard.privilege (some path.toString)
    Stage.standard.errands s s' related
  obtain ⟨built, -⟩ := execute_build (w := w) invokes resolved s
  rw [Recipe.standardStep_perform u.settings given c' rfl, did'.exchanges_eq, built,
    did.exchanges_eq]
  exact congrArg exchanges carried.symm

end Install

/-- To build a project with the command is to execute, on this host and working in that project, the
pipeline of the one step that the recipe makes for it: the same child processes are started, and the
command exits with 0 if the execution succeeds and with 1 otherwise. An installation that is to
build the project as well goes on to that step once its installer has completed; and the step starts
what the command starts from any state of a world that answers alike. -/
theorem same_calls_of_build (u : Surroundings) (w : World σ) {arguments : List String}
    {c : Console} {g : Given} {path : Path} (names : ∀ n ∈ u.place.cwd, Path.IsName n)
    (invokes : Invokes buildCommand.options "build" arguments c g)
    (resolved : (Path.ofString ((g.text? "--project-path").getD ".")).resolve u.place = .ok path) :
    let project := path.toString
    ∃ step, Target.hostWorkdir u.place project = .ok project ∧
      Recipe.buildTest u.settings Recipe.buildTestName (some project) .null = .ok step ∧
      Pipeline.make [.step step] = .ok { steps := [step] } ∧
      (∀ c' s,
        let t := projectHost u w project
        let p : Pipeline := { steps := [step] }
        let r := execute u w arguments s
        exchanges r.trace = exchanges (p.execute u.settings c' t s).trace ∧
          (exitStatus r.answer = 0 ↔ p.Succeeds u.settings c' t s) ∧
          (¬ p.Succeeds u.settings c' t s → exitStatus r.answer = 1)) ∧
      ∀ (σ' : Type) (w' : World σ') (R : σ → σ' → Prop), w.Agrees w' R →
        ∀ arguments' c' g' s', InstallsAndBuilds u arguments' c' g' project →
          ∃ install, installSteps u g' (some project) = .ok [install, step] ∧
            let t := projectHost u w' project
            let vs := Pipeline.visited u.settings c' t [install, step] s'
            Executes u w' arguments' c' s' t { steps := [install, step] } s' ∧
            exchanges (execute u w' arguments' s').trace =
              vs.flatMap (fun v => exchanges v.report.trace) ∧
            ∀ first rest, vs = first :: rest → first.Completed →
              ∃ second, rest = [second] ∧ second.step = step ∧
                ∀ s, R s first.report.after →
                  exchanges second.report.trace = exchanges (execute u w arguments s).trace := by
  intro project
  have given : project ≠ "" := Path.toString_ne_empty (Path.isAbsolute_of_resolve resolved)
  have workdir := Path.hostWorkdir_resolved names resolved
  refine ⟨Recipe.standardStep u.settings project, workdir, Recipe.buildTest_standard _ _, rfl, ?_,
    ?_⟩
  · intro c' s t p r
    obtain ⟨built, ends⟩ := execute_build (w := w) invokes resolved s
    obtain ⟨executed, succeeds⟩ := Pipeline.execute_standardStep u.settings given rfl
      (quiet_projectHost (u := u) (w := w) project) c' c s
    refine ⟨built.trans executed.symm, ends.trans succeeds.symm, fun failed => ?_⟩
    have status : exitStatus r.answer = 0 ∨ exitStatus r.answer = 1 := exitStatus_build invokes
    exact status.resolve_left fun zero => failed (succeeds.2 (ends.1 zero))
  · intro σ' w' R agrees arguments' c' g' s' h
    obtain ⟨executes, calls⟩ := executes_installingSteps (w := w') h given workdir s'
    refine ⟨_, installSteps_eq h, executes, calls, fun first rest hvisited completed => ?_⟩
    obtain ⟨-, rfl⟩ := Pipeline.visited_pair hvisited completed
    refine ⟨_, rfl, rfl, fun s related => ?_⟩
    exact exchanges_second agrees invokes resolved given c' related

end CommandLine

def World.obliging : World Unit where
  start _ s := (.exited 0 "", s)
  isDirectory _ _ := .ok true

namespace CommandLine

def hereArguments : List String :=
  ["install-toolchain", "--target", "local", "--guest-path", "/", "--and-build"]

def hereGiven : Given :=
  [("--target", .text "local"), ("--guest-path", .text "/"), ("--and-build", .on true)]

theorem installsAndBuilds_here (u : Surroundings) :
    InstallsAndBuilds u hereArguments {} hereGiven "/" where
  invokes := by
    have hinstall : Argument.classify "install-toolchain" = .plain "install-toolchain" := by cbv
    have htarget : Argument.classify "--target" = .option "--target" none := by cbv
    have hpath : Argument.classify "--guest-path" = .option "--guest-path" none := by cbv
    have hbuild : Argument.classify "--and-build" = .option "--and-build" none := by cbv
    have parsed : parse ((installCommand u.settings).options ++ [helpOption]) true
        ["--target", "local", "--guest-path", "/", "--and-build"] = .ok ⟨hereGiven, []⟩ := by
      simp [parse, htarget, hpath, hbuild, findOption, installCommand,
        targetOptions, installerUrlOption, Shape.takesValue, Parsed.withSetting, hereGiven]
    refine invokes_of_plain hinstall ?_
    rw [readCommand, parsed]
    rfl
  target := rfl
  path := rfl
  andBuild := rfl

theorem same_calls_here :
    let u := lone failingFile
    (∀ n ∈ u.place.cwd, Path.IsName n) ∧ Invokes buildCommand.options "build" ["build"] {} [] ∧
      (Path.ofString ".").resolve u.place = .ok ⟨"/", []⟩ ∧
      World.obliging.Agrees .obliging Eq ∧
      exitStatus (execute u .obliging ["build"] ()).answer = 0 ∧
      ∃ first second,
        exchanges (execute u .obliging hereArguments ()).trace = first ++ second ∧
        second.length = 3 ∧ second = exchanges (execute u .obliging ["build"] ()).trace := by
  intro u
  have names : ∀ n ∈ u.place.cwd, Path.IsName n := nofun
  have resolved : (Path.ofString ".").resolve u.place = .ok ⟨"/", []⟩ := rfl
  have agrees := World.obliging.agrees_self
  obtain ⟨step, -, made, -, alone, behind⟩ :=
    same_calls_of_build u .obliging names invokes_build resolved
  obtain rfl := Except.ok.inj (made.symm.trans (Recipe.buildTest_standard _ _))
  obtain ⟨install, steps, -, calls, second⟩ := behind _ .obliging Eq agrees hereArguments {}
    hereGiven () (installsAndBuilds_here u)
  obtain ⟨rfl, -⟩ := List.cons.inj (Except.ok.inj (steps.symm.trans
    (installSteps_eq (installsAndBuilds_here u))))
  have succeeds : Pipeline.Succeeds u.settings {} (projectHost u .obliging "/")
      { steps := [Recipe.standardStep u.settings "/"] } () := ⟨_, _, rfl, rfl⟩
  obtain ⟨first, rest, hvisited, completed⟩ : ∃ first rest,
      Pipeline.visited u.settings {} (projectHost u .obliging "/")
        (installingSteps u hereGiven "/") () = first :: rest ∧ first.Completed :=
    ⟨_, _, rfl, rfl⟩
  obtain ⟨v, rfl, -, same⟩ := second first rest hvisited completed
  have hcalls : exchanges (execute u .obliging hereArguments ()).trace =
      (Pipeline.visited u.settings {} (projectHost u .obliging "/")
        (installingSteps u hereGiven "/") ()).flatMap fun v => exchanges v.report.trace := calls
  have three : (exchanges (execute u .obliging ["build"] ()).trace).length = 3 := by
    rw [(alone {} ()).1]
    rfl
  refine ⟨names, invokes_build, resolved, agrees, (alone {} ()).2.1.2 succeeds,
    exchanges first.report.trace, exchanges v.report.trace, ?_, ?_, same () rfl⟩
  · rw [hcalls, hvisited]
    simp
  · rw [same () rfl, three]

end CommandLine
end Provisioning
