import Provisioning.Settings
import Provisioning.Step

/-!
Ready-made steps, and the two pipelines made of them. Whatever a recipe is not given, or is given
empty, comes from the settings.
-/
namespace Provisioning

def firstGiven (given : Option String) (fallback : String) : String :=
  match given with
  | none | some "" => fallback
  | some s => s

def defaultSubsteps : List (String × String) :=
  [("build", "cargo build"), ("build-examples", "cargo build --examples"), ("test", "cargo test")]

namespace Recipe

def shell (name : String) (commands : List Value) (cwd : Option String)
    (privilege : Privilege) : Except Refusal Step :=
  if commands.isEmpty then .error (.noCommands name)
  else Step.make name (.tuple commands) privilege cwd StepKind.shell.word (.tuple [])

def elevated (name : String) (commands : List Value) (cwd : Option String) :
    Except Refusal Step :=
  shell name commands cwd .elevated

def packages (name : String) (wanted : Value) : Except Refusal Step := do
  let listed ← wanted.spaced
  elevated name
    [.text "apt-get update -qq",
      .text ("DEBIAN_FRONTEND=noninteractive apt-get install -y -qq " ++ listed)]
    none

structure ToolchainOptions where
  url : Value := .null
  args : Value := .text "-y"
  tool : Value := .text "cargo"
  noop : Value := .bool false

def toolchain (settings : Settings) (name : String) (o : ToolchainOptions) :
    Except Refusal Step :=
  Step.make name (.tuple []) .unprivileged none StepKind.toolchain.word
    (.record [("url", o.url.orElse (.text settings.installerUrl)), ("args", o.args),
      ("tool", o.tool), ("noop", o.noop)])

def substepValues (substeps : List (String × String)) : Value :=
  .list (substeps.map fun s => .tuple [.text s.1, .text s.2])

def buildTest (settings : Settings) (name : String) (projectPath : Option String)
    (substeps : Value) : Except Refusal Step := do
  let chosen ← (substeps.orElse (substepValues defaultSubsteps)).items
  let listed ← chosen.mapM fun s => Value.list <$> s.items
  Step.make name (.tuple []) .unprivileged (some (firstGiven projectPath settings.guestPath))
    StepKind.buildTest.word (.record [("substeps", .list listed)])

def installExample (settings : Settings) (name : String) (projectPath : Option String) :
    Except Refusal Step :=
  elevated name
    [.text ("install -m 0644 target/debug/examples/libnss_loopback.so " ++
        "/usr/lib/libnss_loopback.so.2"),
      .text "ldconfig"]
    (some (firstGiven projectPath settings.guestPath))

def toolchainName : String := "install-toolchain"
def buildTestName : String := "build-and-test"
def installExampleName : String := "install-example"

structure PipelineOptions where
  projectPath : Option String := none
  installerUrl : Value := .null
  packages : Value := .null
  skipToolchain : Value := .bool false
  withExample : Value := .bool false

def builtin (settings : Settings) (o : PipelineOptions) : Except Refusal (List Step) := do
  let project := firstGiven o.projectPath settings.guestPath
  let wanted := o.packages.orElse (.list (settings.packages.map .text))
  let steps := [
    ← packages "system-packages" wanted,
    ← toolchain settings toolchainName { url := o.installerUrl, noop := o.skipToolchain },
    ← buildTest settings buildTestName (some project) .null]
  if o.withExample.truthy then
    return steps ++ [← installExample settings installExampleName (some project)]
  else
    return steps

def sample (settings : Settings) : Except Refusal (List Step) := do
  return [
    ← packages "system-packages"
      (.list [.text "build-essential", .text "curl", .text "ca-certificates"]),
    ← toolchain settings "install-rust" { url := .text "https://sh.rustup.rs" },
    ← buildTest settings buildTestName none .null,
    ← installExample settings "install-nss-loopback" none]

end Recipe
end Provisioning
