import Provisioning.CommandLine.Failure
import Provisioning.CommandLine.Surroundings
import Provisioning.Pipeline

/-!
The four commands: `run` and `install-toolchain` carry out a pipeline, `plan` only lists one, and
`build` carries out the build-and-test stage on this host. Their answer is the exit code.
-/
namespace Provisioning.CommandLine

variable {σ : Type}

def planLines (steps : List Step) : List Event :=
  (steps.zipIdx.map fun (s, i) => Console.planStep (i + 1) s.name s.privilege.word s.kind).flatten

def executeSteps (u : Surroundings) (c : Console) (t : Target σ) (steps : List Step)
    (pipelineName : String) (printPlan : Bool) : Activity Event σ Int := do
  let pipeline ← Activity.require (Pipeline.make (steps.map .step))
  Activity.record (Console.runStarted t.name pipelineName pipeline.steps.length)
  if printPlan then Activity.record (planLines pipeline.steps)
  let (_, outcome) ← pipeline.execute u.settings c t
  let o ← Activity.conclude outcome
  Activity.record (Console.results o)
  return o.exitCode

def builtinOnlyGiven (g : Given) (options : List String) : List String :=
  options.filter g.has

/-- Finds the pipeline file and goes on with it, unless there is none to go on with or an option
was given that a pipeline file makes pointless. -/
def withPipelineFile (u : Surroundings) (command : CommandSpec) (g : Given)
    (builtinOnly : List String) (proceed : Option Path → Activity Event σ Int) :
    Activity Event σ Int := do
  match ← Activity.require (Discovery.find u.files u.place (g.text? "--pipeline")) with
  | .missing asked => do
    Activity.record (fileMissing asked)
    return 1
  | .ambiguous paths => do
    Activity.record (filesAmbiguous paths)
    return 1
  | .builtin => proceed none
  | .file p =>
    match builtinOnlyGiven g builtinOnly with
    | [] => proceed (some p)
    | options => usageError command.usage command.path (.builtinOnly options p.toString)

def stepsAndName (u : Surroundings) (path : Option Path) (o : Recipe.PipelineOptions) :
    Activity Event σ (List Step × String) := do
  match path with
  | some p => return (← Activity.conclude (PipelineFile.loadPath u.files u.place p), p.name)
  | none => return (← Activity.require (Recipe.builtin u.settings o), "(built-in)")

def run (u : Surroundings) (w : World σ) (c : Console) (g : Given) : Activity Event σ Int :=
  withPipelineFile u (runCommand u.settings) g
      ["--installer-url", "--skip-toolchain", "--install-example"] fun path =>
    guarded c (fun f => f.isProvisioning || isLoadFault f) do
      let target ← prepareTarget u w (TargetChoice.ofGiven u.settings g)
      let (steps, name) ← stepsAndName u path {
        projectPath := target.workdir
        installerUrl := .text ((g.text? "--installer-url").getD u.settings.installerUrl)
        skipToolchain := .bool (g.on "--skip-toolchain" false)
        withExample := .bool (g.on "--install-example" false) }
      executeSteps u c target steps name (g.on "--print-plan" true)

def plan (u : Surroundings) (c : Console) (g : Given) : Activity Event σ Int :=
  withPipelineFile u (planCommand u.settings) g ["--install-example"] fun path => do
    let planned : Activity Event σ (List Step × String) := do
      let (steps, name) ← stepsAndName u path {
        projectPath := some ((g.text? "--guest-path").getD u.settings.guestPath)
        withExample := .bool (g.on "--install-example" false) }
      let pipeline ← Activity.require (Pipeline.make (steps.map .step))
      return (pipeline.steps, name)
    match ← planned.attempt with
    | .ok (steps, name) => do
      Activity.record (Console.header ("PLAN: " ++ name) ++ planLines steps)
      return 0
    | .error f => if isLoadFault f then handle c f else Activity.fail f

def build (u : Surroundings) (w : World σ) (c : Console) (g : Given) : Activity Event σ Int := do
  let given := Path.ofString ((g.text? "--project-path").getD ".")
  let path := (← Activity.require (given.resolve u.place)).toString
  let stage ← Activity.require (Stage.make .null defaultEnvFile .unprivileged)
  let target := Target.host w u.environ [] u.superuser (some path)
  match ← (stage.run c target (some path)).attempt with
  | .ok () => do
    Activity.record (Console.info "Build and tests passed")
    return 0
  | .error f =>
    if f.isProvisioning then do
      Activity.record (c.failure Recipe.buildTestName f.message f.status? none)
      return 1
    else Activity.fail f

def installToolchain (u : Surroundings) (w : World σ) (c : Console) (g : Given) :
    Activity Event σ Int :=
  guarded c Fault.isProvisioning do
    let target ← prepareTarget u w (TargetChoice.ofGiven u.settings g)
    let url := (g.text? "--installer-url").getD u.settings.installerUrl
    let install ← Activity.require
      (Recipe.toolchain u.settings Recipe.toolchainName { url := .text url })
    let steps ←
      if g.on "--and-build" false then do
        let test ← Activity.require
          (Recipe.buildTest u.settings Recipe.buildTestName target.workdir .null)
        pure [install, test]
      else pure [install]
    executeSteps u c target steps "install-toolchain" false

end Provisioning.CommandLine
