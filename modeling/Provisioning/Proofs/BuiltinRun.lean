import Provisioning.Proofs.BuildCommand
import Provisioning.Proofs.FailurePoints
import Provisioning.Proofs.ShellWords
import Provisioning.Proofs.SmoothRuns

/-!
The run that finds no pipeline file. Its steps are the built-in ones, which are always accepted, and
its target works in the directory that is asked for or else in that of the settings or the current
one. If the run meets no trouble, the settings and the arguments alone tell the lines that it hands
over.
-/
namespace Provisioning

open Activity

variable {σ : Type}

namespace Recipe

def envFilePrefix : String := "if [ -f \"$HOME/.cargo/env\" ]; then . \"$HOME/.cargo/env\"; fi; "

def probeInstruction : String := envFilePrefix ++ "command -v cargo >/dev/null 2>&1"

def wantedPackages (environ : Environ) : String :=
  let listed :=
    (environ.lookup "VMBUILD_SYSTEM_PACKAGES").getD "build-essential curl ca-certificates"
  let words := (listed.toList.splitOnP Text.isBlank).filter fun word => !word.isEmpty
  String.intercalate " " (words.map String.ofList)

def packageInstructions (wanted : String) : List String :=
  ["apt-get update -qq", "DEBIAN_FRONTEND=noninteractive apt-get install -y -qq " ++ wanted]

def installerScript : String := "/tmp/vmbuild-toolchain-installer.sh"

def scriptInstructions (url : String) : List String := [
  probeInstruction,
  "curl -sSf " ++ Shell.quote url ++ " -o " ++ installerScript,
  "sh " ++ installerScript ++ " -y",
  probeInstruction]

def buildInstructions : List String :=
  ["cargo build", "cargo build --examples", "cargo test"].map (envFilePrefix ++ ·)

def exampleInstructions : List String := [
  "install -m 0644 target/debug/examples/libnss_loopback.so /usr/lib/libnss_loopback.so.2",
  "ldconfig"]

/-- The lines of the built-in pipeline in order, from how an instruction becomes a line of the login
user and of the superuser. -/
def builtinLines (own elevated : String → String) (wanted url : String) (skip withExample : Bool) :
    List String :=
  (packageInstructions wanted).map elevated ++
    (if skip then [] else (scriptInstructions url).map (Shell.enter "/")) ++
    buildInstructions.map own ++
    if withExample then exampleInstructions.map elevated else []

def exampleStep (settings : Settings) (project : String) : Step where
  name := installExampleName
  run := exampleInstructions.map .text
  privilege := .elevated
  cwd := some (firstGiven (some project) settings.guestPath)
  kind := "sh"
  data := []

def builtinPlan (settings : Settings) (project url : String) (skip withExample : Bool) :
    List (Step × List String) :=
  [(packagesStep "system-packages" settings.packages,
      packageInstructions (String.intercalate " " settings.packages)),
    (installerStep settings toolchainName (some url) "-y" "cargo" skip,
      if skip then [] else scriptInstructions (firstGiven (some url) settings.installerUrl)),
    (standardStep settings project, buildInstructions)] ++
    if withExample then [(exampleStep settings project, exampleInstructions)] else []

end Recipe

section Comprises

variable (settings : Settings)

theorem Step.comprise_of_shell {s : Step} (kind : s.kind = "sh") :
    Errand.Comprise (s.errands settings) (s.run.map Value.display) := by
  have shell : StepKind.ofWord? s.kind = some .shell := by
    rw [kind]
    rfl
  rw [Errand.Comprise, Step.errands_of_shell shell, List.map_map, List.map_map]
  rfl

namespace Recipe

theorem intercalate_packages (environ : Environ) :
    String.intercalate " " (Settings.ofEnviron environ).packages = wantedPackages environ := by
  unfold wantedPackages
  dsimp only
  rw [← Text.words_eq_splitOnP]
  rfl

theorem quote_installerScript : Shell.quote installerScript = installerScript :=
  Shell.quote_of_safe (by decide) (by decide)

def plainInstaller (url : String) (p : Privilege) : ScriptInstaller :=
  { url := .text url, privilege := p }

theorem probe_plainInstaller (url : String) (p : Privilege) :
    (plainInstaller url p).probe = .ok probeInstruction := by
  have word : Shell.quoteValue (.text "cargo") = .ok "cargo" := by
    rw [Shell.quoteValue_text, Shell.quote_of_safe (by decide) (by decide)]
  refine Refusable.bind_eq_ok.2 ⟨_, word, ?_⟩
  rfl

theorem fetchCommand_plainInstaller (url : String) (p : Privilege) :
    (plainInstaller url p).fetchCommand =
      .ok ("curl -sSf " ++ Shell.quote url ++ " -o " ++ installerScript) := by
  refine Refusable.bind_eq_ok.2 ⟨_, Shell.quoteValue_text _, Refusable.bind_eq_ok.2
    ⟨_, Shell.quoteValue_text _, ?_⟩⟩
  rw [← installerScript, quote_installerScript]
  rfl

theorem runCommand_plainInstaller (url : String) (p : Privilege) :
    (plainInstaller url p).runCommand = .ok ("sh " ++ installerScript ++ " -y") := by
  have trimmed : String.ofList (Text.trim ("sh " ++ installerScript ++ " " ++ "-y").toList) =
      "sh " ++ installerScript ++ " -y" := by
    decide
  refine Refusable.bind_eq_ok.2 ⟨_, Shell.quoteValue_text installerScript, ?_⟩
  rw [quote_installerScript]
  exact congrArg _ trimmed

theorem comprise_plainInstaller (url : String) (p : Privilege) :
    Errand.Comprise (plainInstaller url p).errands (scriptInstructions url) := by
  rw [ScriptInstaller.errands, probe_plainInstaller, fetchCommand_plainInstaller,
    runCommand_plainInstaller]
  rfl

theorem comprise_installerStep (name url : String) (skip : Bool) :
    Errand.Comprise ((installerStep settings name (some url) "-y" "cargo" skip).errands settings)
      (if skip then [] else scriptInstructions (firstGiven (some url) settings.installerUrl)) := by
  cases skip with
  | true => rfl
  | false =>
    have installs : (installerStep settings name (some url) "-y" "cargo" false).Installs settings
        (plainInstaller (firstGiven (some url) settings.installerUrl) .unprivileged) :=
      ⟨rfl, _, rfl, installerStep_ofConfig settings name (some url) "-y" "cargo" false _⟩
    rw [Step.errands_of_installs installs]
    exact comprise_plainInstaller _ .unprivileged

theorem comprise_standardStep (project : String) :
    Errand.Comprise ((standardStep settings project).errands settings) buildInstructions := by
  have stages : (standardStep settings project).Stages Stage.standard :=
    ⟨rfl, _, rfl, Stage.ofConfig_substeps defaultSubsteps_ne_nil .unprivileged⟩
  rw [Step.errands_of_stages stages]
  rfl

theorem comprise_of_mem_builtinPlan {project url : String} {skip withExample : Bool}
    {x : Step × List String} (h : x ∈ builtinPlan settings project url skip withExample) :
    Errand.Comprise (x.1.errands settings) x.2 := by
  rcases List.mem_append.1 h with h | h
  · simp only [List.mem_cons, List.not_mem_nil, or_false] at h
    rcases h with rfl | rfl | rfl
    · exact Step.comprise_of_shell settings rfl
    · exact comprise_installerStep settings toolchainName url skip
    · exact comprise_standardStep settings project
  · cases withExample with
    | false => cases h
    | true =>
      obtain rfl := List.mem_singleton.1 h
      exact Step.comprise_of_shell settings rfl

theorem builtin_texts (project : Option String) (url : String) (skip withExample : Bool) :
    builtin settings ⟨project, .text url, .null, .bool skip, .bool withExample⟩ =
      .ok ((builtinPlan settings (firstGiven project settings.guestPath) url skip
        withExample).map Prod.fst) := by
  have packages := packages_texts "system-packages" settings.packages
  have install := toolchain_texts settings toolchainName (some url) "-y" "cargo" skip
  have test := buildTest_standard settings (firstGiven project settings.guestPath)
  have copy : installExample settings installExampleName
      (some (firstGiven project settings.guestPath)) =
        .ok (exampleStep settings (firstGiven project settings.guestPath)) :=
    shell_accepted (List.cons_ne_nil _ _) _ _ _
  refine Refusable.bind_eq_ok.2 ⟨_, packages, Refusable.bind_eq_ok.2 ⟨_, install,
    Refusable.bind_eq_ok.2 ⟨_, test, ?_⟩⟩⟩
  cases withExample with
  | false => rfl
  | true => exact Refusable.bind_eq_ok.2 ⟨_, copy, rfl⟩

end Recipe
end Comprises

namespace CommandLine

/-- The target is the one that is asked for and works in `d`: on a machine this is the directory
that is asked for, or else that of the settings, and on this host what is asked for, expanded, or
else the current directory. -/
inductive Serves (u : Surroundings) (w : World σ) (o : TargetChoice) : Target σ → String → Prop
  | machine {m : Machine} {d : String} (asked : o.target = "vagrant")
      (directory : machineDirectory u.place o.machineDir = .ok m.directory)
      (name : m.name = o.machine) (workdir : m.workdir = some d)
      (given : d = firstGiven o.guestPath u.settings.guestPath) : Serves u w o (m.target w) d
  | host {d : String} (asked : o.target ≠ "vagrant")
      (given : Target.hostWorkdir u.place (firstGiven o.guestPath u.cwdText) = .ok d) :
      Serves u w o (projectHost u w d) d

section Serves

variable {u : Surroundings} {w : World σ} {o : TargetChoice} {t : Target σ} {d : String}

theorem serves_of_prepared {s : σ} (h : (prepareTarget u w o s).answer = .ok t) :
    ∃ d, Serves u w o t d := by
  obtain ⟨chosen, hchosen, rfl⟩ := (ensures_prepareTarget u w o).of_ok h
  unfold chooseTarget at hchosen
  by_cases vagrant : o.target = "vagrant"
  · rw [if_pos vagrant] at hchosen
    obtain ⟨directory, hdirectory, hchosen⟩ := Refusable.bind_eq_ok.1 hchosen
    obtain rfl := Except.ok.inj hchosen
    exact ⟨_, .machine vagrant hdirectory rfl rfl rfl⟩
  · rw [if_neg vagrant] at hchosen
    obtain ⟨workdir, hworkdir, hchosen⟩ := Refusable.bind_eq_ok.1 hchosen
    obtain rfl := Except.ok.inj hchosen
    exact ⟨workdir, .host vagrant hworkdir⟩

theorem Serves.workdir_eq (h : Serves u w o t d) : t.workdir = some d := by
  cases h with
  | machine asked directory name workdir => exact workdir
  | host => rfl

theorem Serves.project_eq (h : Serves u w o t d) :
    firstGiven (some d) u.settings.guestPath = d := by
  cases h with
  | machine asked directory name workdir given => rw [given, firstGiven_firstGiven]
  | host asked given => exact firstGiven_of_ne_empty (Path.hostWorkdir_ne_empty given) _

end Serves

section Lines

variable {settings : Settings} {t : Target σ} {d : String}

def ownLine (d x : String) : String := Shell.entered (some d) x

def elevatedLine (t : Target σ) (d x : String) : String :=
  if t.isRoot then ownLine d x else Shell.elevate (ownLine d x)

theorem ownLine_eq_self_iff (d x : String) : ownLine d x = x ↔ d = "" := by
  constructor
  · intro same
    by_contra given
    rw [ownLine, Shell.entered_of_ne_empty given] at same
    exact Shell.enter_ne d x same
  · rintro rfl
    rfl

theorem wrap_ownLine (workdir : t.workdir = some d) (x : String) :
    t.wrap x .unprivileged none = ownLine d x := by
  rw [ownLine, ← workdir]
  rfl

theorem wrap_elevatedLine (workdir : t.workdir = some d) (x : String) :
    t.wrap x .elevated none = elevatedLine t d x := by
  unfold elevatedLine
  cases root : t.isRoot with
  | false => rw [t.wrap_elevated root, wrap_ownLine workdir, if_neg (by decide)]
  | true => rw [t.wrap_elevated_of_root root, wrap_ownLine workdir, if_pos rfl]

theorem agenda_builtinPlan (workdir : t.workdir = some d)
    (project : firstGiven (some d) settings.guestPath = d) (url : String)
    (skip withExample : Bool) :
    agenda t (Recipe.builtinPlan settings d url skip withExample) =
      Recipe.builtinLines (ownLine d) (elevatedLine t d) (String.intercalate " " settings.packages)
        (firstGiven (some url) settings.installerUrl) skip withExample := by
  have own (x : String) : t.wrap x .unprivileged (some d) = ownLine d x :=
    ((t.wrap_eq_iff x .unprivileged d).2 (.inr workdir)).trans (wrap_ownLine workdir x)
  have elevated (x : String) : t.wrap x .elevated (some d) = elevatedLine t d x :=
    ((t.wrap_eq_iff x .elevated d).2 (.inr workdir)).trans (wrap_elevatedLine workdir x)
  have root (x : String) : t.wrap x .unprivileged (some "/") = Shell.enter "/" x :=
    t.wrap_unprivileged (by decide) x
  have standard : (Recipe.standardStep settings d).directory = some d := congrArg some project
  have copying : (Recipe.exampleStep settings d).directory = some d := congrArg some project
  unfold agenda Recipe.builtinPlan Recipe.builtinLines
  simp only [List.flatMap_append, List.flatMap_cons, List.flatMap_nil, standard, List.append_nil,
    List.append_assoc]
  refine congrArg₂ (· ++ ·) ?_ (congrArg₂ (· ++ ·) ?_ (congrArg₂ (· ++ ·) ?_ ?_))
  · exact List.map_congr_left fun x _ => wrap_elevatedLine workdir x
  · cases skip with
    | true => rfl
    | false => exact List.map_congr_left fun x _ => root x
  · exact List.map_congr_left fun x _ => own x
  · cases withExample with
    | false => rfl
    | true =>
      simp only [if_true, List.flatMap_cons, List.flatMap_nil, List.append_nil, copying]
      exact List.map_congr_left fun x _ => elevated x

end Lines

section Run

variable {u : Surroundings} {w : World σ} {arguments : List String} {c : Console} {g : Given}
  {t : Target σ} {s : σ} {d : String}

variable (u g d) in
def givenPlan : List (Step × List String) :=
  Recipe.builtinPlan u.settings d ((g.text? "--installer-url").getD u.settings.installerUrl)
    (g.on "--skip-toolchain" false) (g.on "--install-example" false)

theorem builtin_of_serves (serves : Serves u w (.ofGiven u.settings g) t d) :
    Recipe.builtin u.settings (builtinOptions u g t) = .ok ((givenPlan u g d).map Prod.fst) := by
  have made := Recipe.builtin_texts u.settings (some d)
    ((g.text? "--installer-url").getD u.settings.installerUrl) (g.on "--skip-toolchain" false)
    (g.on "--install-example" false)
  rw [serves.project_eq, ← serves.workdir_eq] at made
  exact made

theorem make_givenPlan (serves : Serves u w (.ofGiven u.settings g) t d) :
    Pipeline.make (((givenPlan u g d).map Prod.fst).map .step) =
      .ok { steps := (givenPlan u g d).map Prod.fst } := by
  have plain : (builtinOptions u g t).Plain := ⟨rfl, .inr ⟨_, rfl⟩, _, rfl⟩
  obtain ⟨steps, made, -, accepted⟩ := Recipe.builtin_accepted u.settings plain
  obtain rfl := Except.ok.inj (made.symm.trans (builtin_of_serves serves))
  exact accepted

theorem reaches_givenPlan (prepared : (prepareTarget u w (.ofGiven u.settings g) s).answer = .ok t)
    (serves : Serves u w (.ofGiven u.settings g) t d) :
    (Undertaking.ofRun u g none).Reaches u w s t { steps := (givenPlan u g d).map Prod.fst }
      "(built-in)" where
  prepared := prepared
  supplied := by
    simp only [Undertaking.pipeline, Undertaking.ofRun, supplied, builtin_of_serves serves,
      make_givenPlan serves]

end Run

/-- A run without a pipeline file works in the directory that is asked for, or else in that of the
settings or the current one, and always executes the built-in pipeline. If it meets no trouble it
exits with 0, and what it hands over is the packages of the environment, the installer from the
address that is given or else from that of the settings, the build and its tests, and the
installation of the example, the installer and the example only if they are wanted. All but the
installer enters the directory of the target, unless that is empty. -/
theorem lines_of_builtin (u : Surroundings) (w : World σ) {arguments : List String} {c : Console}
    {g : Given} {t : Target σ} {s : σ}
    (invokes : Invokes (runCommand u.settings).options "run" arguments c g)
    (unfiled : Finds u g none)
    (prepared : (prepareTarget u w (.ofGiven u.settings g) s).answer = .ok t) :
    ∃ d steps after, Serves u w (.ofGiven u.settings g) t d ∧ t.workdir = some d ∧
      Recipe.builtin u.settings (builtinOptions u g t) = .ok steps ∧
      Pipeline.make (steps.map .step) = .ok { steps } ∧
      Executes u w arguments c s t { steps } after ∧
      (∀ x, (ownLine d x = x ↔ d = "") ∧ (d ≠ "" → ownLine d x = Shell.enter d x)) ∧
      (Smooth (execute u w arguments s).trace →
        (execute u w arguments s).answer = .ok 0 ∧
        lines (execute u w arguments s).trace =
          Recipe.builtinLines (ownLine d) (elevatedLine t d) (Recipe.wantedPackages u.environ)
            (firstGiven (g.text? "--installer-url") u.settings.installerUrl)
            (g.on "--skip-toolchain" false) (g.on "--install-example" false)) := by
  obtain ⟨d, serves⟩ := serves_of_prepared prepared
  have executes : Executes u w arguments c s t _ _ :=
    .intro (.run invokes ⟨unfiled, .inl rfl⟩) (reaches_givenPlan prepared serves)
  refine ⟨d, _, _, serves, serves.workdir_eq, builtin_of_serves serves, make_givenPlan serves,
    executes, fun x => ⟨ownLine_eq_self_iff d x, fun given => Shell.entered_of_ne_empty given x⟩,
    fun smooth => ?_⟩
  obtain ⟨answer, handed⟩ := execute_of_smooth executes
    (fun x => Recipe.comprise_of_mem_builtinPlan u.settings) smooth
  refine ⟨answer, handed.trans ?_⟩
  rw [givenPlan, agenda_builtinPlan serves.workdir_eq serves.project_eq, firstGiven_getD,
    ← Recipe.intercalate_packages]
  rfl

def unfiledSurroundings : Surroundings where
  environ := [("VMBUILD_SYSTEM_PACKAGES", " curl  git ")]
  place := ⟨["work"], []⟩
  files := .empty
  superuser := some false

def unfiledArguments : List String :=
  ["run", "--target", "local", "--installer-url", "", "--install-example"]

def unfiledGiven : Given :=
  [("--target", .text "local"), ("--installer-url", .text ""), ("--install-example", .on true)]

theorem invokes_unfiled (s : Settings) :
    Invokes (runCommand s).options "run" unfiledArguments {} unfiledGiven := by
  have hrun : Argument.classify "run" = .plain "run" := by cbv
  have htarget : Argument.classify "--target" = .option "--target" none := by cbv
  have hurl : Argument.classify "--installer-url" = .option "--installer-url" none := by cbv
  have hexample : Argument.classify "--install-example" = .option "--install-example" none := by
    cbv
  have parsed : parse ((runCommand s).options ++ [helpOption]) true
      ["--target", "local", "--installer-url", "", "--install-example"] =
        .ok ⟨unfiledGiven, []⟩ := by
    simp [parse, htarget, hurl, hexample, findOption, runCommand,
      targetOptions, pipelineFileOption, installerUrlOption, Shape.takesValue,
      Parsed.withSetting, unfiledGiven]
  refine invokes_of_plain hrun ?_
  rw [readCommand, parsed]
  rfl

theorem finds_unfiled : Finds unfiledSurroundings unfiledGiven none := by
  have absent : unfiledSurroundings.files.contains unfiledSurroundings.place
      (Path.ofString Discovery.defaultFile) = .ok false := rfl
  have candidates : Discovery.candidates unfiledSurroundings.files unfiledSurroundings.place =
      .ok [] := by
    have unnamed : (unfiledSurroundings.files.names unfiledSurroundings.place.cwd).filter
        (fun n => Discovery.isCandidate n && n != Discovery.defaultFile) = [] := rfl
    refine Refusable.bind_eq_ok.2 ⟨false, absent, ?_⟩
    simp only [unnamed, Bool.false_eq_true, if_false, List.append_nil, List.mergeSort_nil]
    rfl
  exact Refusable.bind_eq_ok.2 ⟨_, candidates, rfl⟩

theorem prepareTarget_unfiled (w : World σ) :
    prepareTarget unfiledSurroundings w (.ofGiven unfiledSurroundings.settings unfiledGiven) =
      pure (projectHost unfiledSurroundings w "/work") := by
  have workdir : Target.hostWorkdir unfiledSurroundings.place "/work" = .ok "/work" := rfl
  have chosen : chooseTarget unfiledSurroundings w
      (.ofGiven unfiledSurroundings.settings unfiledGiven) =
        .ok ⟨projectHost unfiledSurroundings w "/work", none⟩ := by
    unfold chooseTarget
    exact (if_neg (by decide)).trans (Refusable.bind_eq_ok.2 ⟨_, workdir, rfl⟩)
  exact prepareTarget_of_host chosen rfl

theorem smooth_unfiled :
    Smooth (execute unfiledSurroundings .obliging unfiledArguments ()).trace := by
  have obeys : (projectHost unfiledSurroundings .obliging "/work").Obeys Smooth :=
    Target.obeys_smooth (fun _ => rfl) fun _ _ => rfl
  have hprepare := prepareTarget_unfiled .obliging
  have prepared := congrArg (fun x => (x ()).answer) hprepare
  obtain ⟨d, serves⟩ := serves_of_prepared prepared
  have unheard : Smooth (prepareTarget unfiledSurroundings .obliging
      (.ofGiven unfiledSurroundings.settings unfiledGiven) ()).trace := by
    rw [hprepare]
    exact Smooth.lawful.nil
  exact smooth_of_reaches (.run (invokes_unfiled _) ⟨finds_unfiled, .inl rfl⟩)
    (reaches_givenPlan prepared serves) obeys unheard

theorem lines_of_builtin_unfiled :
    let u := unfiledSurroundings
    let r := execute u .obliging unfiledArguments ()
    Invokes (runCommand u.settings).options "run" unfiledArguments {} unfiledGiven ∧
      Finds u unfiledGiven none ∧
      (prepareTarget u .obliging (.ofGiven u.settings unfiledGiven) ()).answer =
        .ok (projectHost u .obliging "/work") ∧
      Smooth r.trace ∧ r.answer = .ok 0 ∧
      lines r.trace =
        Recipe.builtinLines (Shell.enter "/work") (fun x => Shell.elevate (Shell.enter "/work" x))
          "curl git" "https://sh.rustup.rs" false true := by
  intro u r
  have invokes := invokes_unfiled u.settings
  have prepared : (prepareTarget u .obliging (.ofGiven u.settings unfiledGiven) ()).answer =
      .ok (projectHost u .obliging "/work") := by
    rw [prepareTarget_unfiled]
    rfl
  obtain ⟨d, steps, after, -, workdir, -, -, -, own, run⟩ :=
    lines_of_builtin u .obliging invokes finds_unfiled prepared
  obtain rfl : "/work" = d := Option.some.inj workdir
  obtain ⟨answer, handed⟩ := run smooth_unfiled
  have owned : ownLine "/work" = Shell.enter "/work" := funext fun x => (own x).2 (by decide)
  have wanted : Recipe.wantedPackages u.environ = "curl git" := by decide
  refine ⟨invokes, finds_unfiled, prepared, smooth_unfiled, answer, handed.trans ?_⟩
  have elevated : elevatedLine (projectHost u .obliging "/work") "/work" =
      fun x => Shell.elevate (Shell.enter "/work" x) := by
    funext x
    rw [elevatedLine, owned]
    rfl
  rw [owned, elevated, wanted]
  rfl

end CommandLine
end Provisioning
