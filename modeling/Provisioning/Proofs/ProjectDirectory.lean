import Provisioning.Proofs.Directories
import Provisioning.Proofs.Invocation
import Provisioning.Proofs.Recipes
import Provisioning.World.Replies

/-!
In which directory a project is built. A run is told where the project is, makes that directory the
working directory of its target, and has it mounted there when it boots a machine. Steps made
without a directory of their own are in another one all the same: the one of the settings.
-/
namespace Provisioning

open Activity

variable {σ : Type}

theorem firstGiven_of_ne_empty {s : String} (h : s ≠ "") (fallback : String) :
    firstGiven (some s) fallback = s := by
  unfold firstGiven
  split
  · rename_i he
    cases he
  · rename_i he
    exact absurd (Option.some.inj he) h
  · rename_i he
    exact (Option.some.inj he).symm

theorem firstGiven_self (s : String) : firstGiven (some s) s = s := by
  by_cases empty : s = ""
  · rw [empty]
    rfl
  · exact firstGiven_of_ne_empty empty s

theorem firstGiven_getD (given : Option String) (fallback : String) :
    firstGiven (some (given.getD fallback)) fallback = firstGiven given fallback := by
  cases given with
  | none => exact firstGiven_self fallback
  | some s => rfl

theorem firstGiven_firstGiven (given : Option String) (fallback : String) :
    firstGiven (some (firstGiven given fallback)) fallback = firstGiven given fallback := by
  by_cases kept : ∃ s, given = some s ∧ s ≠ ""
  · obtain ⟨s, rfl, nonempty⟩ := kept
    rw [firstGiven_of_ne_empty nonempty, firstGiven_of_ne_empty nonempty]
  · have replaced : firstGiven given fallback = fallback := by
      cases given with
      | none => rfl
      | some s =>
        have empty : s = "" := by simpa using kept
        rw [empty]
        rfl
    rw [replaced, firstGiven_self]

theorem Step.fields_of_make {name kind : String} {run data : Value} {p : Privilege}
    {cwd : Option String} {s : Step} (made : Step.make name run p cwd kind data = .ok s) :
    s.privilege = p ∧ s.cwd = cwd ∧ s.kind = kind := by
  obtain ⟨_, _, made⟩ := Refusable.bind_eq_ok.1 made
  obtain ⟨_, _, made⟩ := Refusable.bind_eq_ok.1 made
  obtain ⟨_, _, made⟩ := Refusable.bind_eq_ok.1 made
  obtain ⟨_, _, made⟩ := Refusable.bind_eq_ok.1 made
  obtain rfl := Except.ok.inj made
  exact ⟨rfl, rfl, rfl⟩

/-- The build-and-test steps and the installing steps that are made without a project path. -/
inductive Unplaced (settings : Settings) : Step → Prop
  | buildTest {name : String} {substeps : Value} {s : Step}
      (made : Recipe.buildTest settings name none substeps = .ok s) : Unplaced settings s
  | installExample {name : String} {s : Step}
      (made : Recipe.installExample settings name none = .ok s) : Unplaced settings s

theorem Unplaced.directory_eq {settings : Settings} {s : Step} (h : Unplaced settings s) :
    s.directory = some settings.guestPath := by
  cases h with
  | buildTest made =>
    obtain ⟨_, _, made⟩ := Refusable.bind_eq_ok.1 made
    obtain ⟨_, _, made⟩ := Refusable.bind_eq_ok.1 made
    obtain ⟨-, hcwd, hkind⟩ := Step.fields_of_make made
    rw [Step.directory, hkind, hcwd]
    rfl
  | installExample made =>
    obtain ⟨-, hcwd, hkind⟩ := Step.fields_of_make made
    rw [Step.directory, hkind, hcwd]
    rfl

namespace CommandLine

/-- The working directory of the target is the one that is asked for: on a machine the very path,
which is also where the machine is told to mount the project, and on this host the path expanded. -/
def Chosen.WorksIn (u : Surroundings) (chosen : Chosen σ) (path : String) : Prop :=
  match chosen.machine with
  | some m => chosen.target.workdir = some path ∧ ∀ box, ∃ environ,
      (m.bootCall u.environ box).environ = some environ ∧
      environ.lookup "VMBUILD_GUEST_PATH" = some (some path)
  | none => ∃ d, Target.hostWorkdir u.place path = .ok d ∧ chosen.target.workdir = some d

theorem worksIn_of_chooseTarget {u : Surroundings} {w : World σ} {o : TargetChoice} {path : String}
    (given : o.guestPath = some path) (nonempty : path ≠ "") {chosen : Chosen σ}
    (hchosen : chooseTarget u w o = .ok chosen) : chosen.WorksIn u path := by
  have hpath (fallback : String) : firstGiven o.guestPath fallback = path := by
    rw [given, firstGiven_of_ne_empty nonempty]
  unfold chooseTarget at hchosen
  split at hchosen
  · obtain ⟨directory, _, hchosen⟩ := Refusable.bind_eq_ok.1 hchosen
    obtain rfl := Except.ok.inj hchosen
    refine ⟨congrArg some (hpath _), fun box => ⟨_, rfl, ?_⟩⟩
    rw [Keyed.lookup_set_self, hpath]
  · obtain ⟨workdir, hworkdir, hchosen⟩ := Refusable.bind_eq_ok.1 hchosen
    obtain rfl := Except.ok.inj hchosen
    rw [hpath] at hworkdir
    exact ⟨workdir, hworkdir, rfl⟩

/-- In a run that is told where the project is, every line of a build, test or install step that was
made without a project path enters the directory of the settings. That is the working directory of
the target, which is the one that the run was told, only if the settings say the same or nothing. -/
theorem unplaced_lines_of_run (u : Surroundings) (w : World σ) {c : Console}
    {arguments : List String} {g : Given} {path : String}
    (invokes : Invokes (runCommand u.settings).options "run" arguments c g)
    (given : g.text? "--guest-path" = some path) (nonempty : path ≠ "") (s : σ) :
    ∃ vs : List (Visit σ),
      lines (execute u w arguments s).trace = vs.flatMap (fun v => lines v.report.trace) ∧
      ∀ v ∈ vs, ∃ chosen, VisitsSupplied u w c g chosen v ∧ chosen.WorksIn u path ∧
        (Unplaced u.settings v.step → ∀ line ∈ lines v.report.trace, ∃ x,
          line = chosen.target.wrap x v.step.privilege (some u.settings.guestPath) ∧
          (line = chosen.target.wrap x v.step.privilege none ↔
            u.settings.guestPath = "" ∨ chosen.target.workdir = some u.settings.guestPath)) := by
  obtain ⟨vs, hvs, hlines⟩ := visiting_run u w c g s
  refine ⟨vs, (lines_execute_of_invokes rfl invokes s).trans hlines, fun v hv => ?_⟩
  obtain ⟨chosen, hchosen, supplied⟩ := hvs v hv
  refine ⟨chosen, ⟨hchosen, supplied⟩, worksIn_of_chooseTarget given nonempty hchosen, ?_⟩
  intro unplaced line hline
  obtain ⟨_, _, _, _, _, s', hreport⟩ := supplied
  rw [hreport] at hline
  obtain ⟨x, rfl⟩ := v.step.hands_perform u.settings c chosen.target s' line hline
  rw [unplaced.directory_eq]
  exact ⟨x, rfl, chosen.target.wrap_eq_iff x v.step.privilege u.settings.guestPath⟩

def installStep : Step where
  name := "install-nss-loopback"
  run := [.text ("install -m 0644 target/debug/examples/libnss_loopback.so " ++
      "/usr/lib/libnss_loopback.so.2"), .text "ldconfig"]
  privilege := .elevated
  cwd := some "/project"
  kind := "sh"
  data := []

theorem installStep_made :
    Recipe.installExample (.ofEnviron []) "install-nss-loopback" none = .ok installStep :=
  Recipe.shell_accepted (List.cons_ne_nil _ _) _ _ _

def installingFile : PipelineFile where
  pipeline := some (.returning (.ok (.list [.step installStep])))

def installingPlace : Surroundings where
  environ := []
  place := ⟨[], []⟩
  files := ⟨[([Discovery.defaultFile], .file installingFile)], by simp, by simp [Node.Loose]⟩
  superuser := some false

def workMachine : Machine := ⟨"/", "default", some "/work"⟩

def workGiven : Given := [("--guest-path", .text "/work")]

theorem invokes_work (s : Settings) :
    Invokes (runCommand s).options "run" ["run", "--guest-path", "/work"] {} workGiven := by
  have hrun : Argument.classify "run" = .plain "run" := by cbv
  have hoption : Argument.classify "--guest-path" = .option "--guest-path" none := by cbv
  refine invokes_of_plain hrun ?_
  simp [readCommand, parse, hoption, findOption, runCommand, targetOptions, pipelineFileOption,
    installerUrlOption, helpOption, Shape.takesValue, Parsed.withSetting, Given.has, badChoice?,
    Given.text?, Given.last?, workGiven]

theorem finds_installing :
    Finds installingPlace workGiven (some ⟨"", [Discovery.defaultFile]⟩) :=
  finds_lone installingFile rfl

def runningReplies : List Reply :=
  let up := Reply.exited 0 "1700000000,default,state,running\n"
  [up, up, .exited 0 "", up, .exited 0 ""]

theorem unplaced_lines_work :
    Invokes (runCommand installingPlace.settings).options "run" ["run", "--guest-path", "/work"] {}
        workGiven ∧
      workGiven.text? "--guest-path" = some "/work" ∧ "/work" ≠ "" ∧
      ∃ vs : List (Visit (List Reply)),
        lines (execute installingPlace .replies ["run", "--guest-path", "/work"]
          runningReplies).trace = vs.flatMap (fun v => lines v.report.trace) ∧
        ∀ v ∈ vs, ∃ chosen : Chosen (List Reply), chosen.WorksIn installingPlace "/work" ∧
          (Unplaced installingPlace.settings v.step → ∀ line ∈ lines v.report.trace, ∃ x,
            line = chosen.target.wrap x v.step.privilege (some "/project")) := by
  refine ⟨invokes_work _, rfl, by decide, ?_⟩
  obtain ⟨vs, hlines, hvs⟩ := unplaced_lines_of_run installingPlace .replies
    (invokes_work installingPlace.settings) rfl (by decide) runningReplies
  refine ⟨vs, hlines, fun v hv => ?_⟩
  obtain ⟨chosen, -, works, unplaced⟩ := hvs v hv
  refine ⟨chosen, works, fun h line hline => ?_⟩
  obtain ⟨x, hx, -⟩ := unplaced h line hline
  exact ⟨x, hx⟩

/-- The run is told `/work`, and the installation enters `/project`. -/
theorem installs_elsewhere :
    let t := workMachine.target World.replies
    t.workdir = some "/work" ∧ Unplaced installingPlace.settings installStep ∧
      lines (execute installingPlace .replies ["run", "--guest-path", "/work"]
        runningReplies).trace =
        installStep.run.map (fun x => t.wrap x.display .elevated (some "/project")) ∧
      ∀ x, t.wrap x .elevated (some "/project") ≠ t.wrap x .elevated none := by
  refine ⟨rfl, .installExample installStep_made, ?_, fun x => ?_⟩
  · have chosen :
        chooseTarget installingPlace .replies (.ofGiven installingPlace.settings workGiven) =
          .ok ⟨workMachine.target .replies, some workMachine⟩ := rfl
    have loaded : PipelineFile.loadPath installingPlace.files installingPlace.place
        ⟨"", [Discovery.defaultFile]⟩ = .ok [installStep] := rfl
    have made : Pipeline.make ([installStep].map .step) = .ok { steps := [installStep] } := rfl
    rw [lines_execute_of_invokes rfl (invokes_work _),
      run_of_loaded finds_installing rfl chosen rfl loaded, lines_guarded, lines_executeSteps made]
    rfl
  · rw [Ne, Target.wrap_eq_iff]
    decide

end CommandLine
end Provisioning
