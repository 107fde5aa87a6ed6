import Provisioning.Instruction
import Provisioning.Settings
import Provisioning.Text.Blank

/-!
Installers put a toolchain into a target and can be run again at any time. A script installer asks
for the tool, fetches the script, runs it, and asks again; only the last question decides, the
first one is for the reader.
-/
namespace Provisioning

def defaultEnvFile : Value := .text "$HOME/.cargo/env"

structure ScriptInstaller where
  url : Value
  args : Value := .text "-y"
  tool : Value := .text "cargo"
  envFile : Value := defaultEnvFile
  scriptPath : Value := .text "/tmp/vmbuild-toolchain-installer.sh"
  privilege : Privilege := .unprivileged

namespace ScriptInstaller

variable {σ : Type}

def isInstalled (t : Target σ) (i : ScriptInstaller) : Activity Event σ Bool :=
  t.hasTool i.tool i.envFile i.privilege

def fetchCommand (i : ScriptInstaller) : Except Refusal String := do
  let script ← Shell.quoteValue i.scriptPath
  return "curl -sSf " ++ (← Shell.quoteValue i.url) ++ " -o " ++ script

def runCommand (i : ScriptInstaller) : Except Refusal String := do
  let line := "sh " ++ (← Shell.quoteValue i.scriptPath) ++ " " ++ i.args.display
  return String.ofList (Text.trim line.toList)

def announce (t : Target σ) (i : ScriptInstaller) : List Event :=
  Console.info (i.tool.display ++ " already present in " ++ t.name ++
    "; re-running installer to update")

def fetch (c : Console) (t : Target σ) (i : ScriptInstaller) : Activity Event σ Unit := do
  let command ← Activity.require i.fetchCommand
  let status ← runInstruction c t command i.privilege (some "/")
  if status = 0 then return () else Activity.fail (.fetchFailed i.url.display status)

def runScript (c : Console) (t : Target σ) (i : ScriptInstaller) : Activity Event σ Unit := do
  let command ← Activity.require i.runCommand
  let status ← runInstruction c t command i.privilege (some "/")
  if status = 0 then return () else Activity.fail (.scriptFailed i.url.display status "")

def confirm (t : Target σ) (i : ScriptInstaller) : Activity Event σ Unit := do
  let found ← i.isInstalled t
  if found then return ()
  else Activity.fail (.scriptFailed i.url.display 0 (i.tool.display ++ " not found after install"))

def install (c : Console) (t : Target σ) (i : ScriptInstaller) : Activity Event σ Unit := do
  let present ← i.isInstalled t
  Activity.record (if present then i.announce t else [])
  i.fetch c t
  i.runScript c t
  i.confirm t

end ScriptInstaller

inductive Installer
  | script (i : ScriptInstaller)
  | noop
  | unspecified

namespace Installer

variable {σ : Type}

def className : Installer → String
  | .script _ => "ScriptInstaller"
  | .noop => "NoopInstaller"
  | .unspecified => "ToolchainInstaller"

def isInstalled (t : Target σ) : Installer → Activity Event σ Bool
  | .script i => i.isInstalled t
  | i => Activity.fail (.refused (.lacks i.className "is_installed"))

def install (c : Console) (t : Target σ) : Installer → Activity Event σ Unit
  | .script i => i.install c t
  | .noop => Activity.record (c.debugLine "toolchain install skipped (noop installer)")
  | .unspecified => Activity.fail (.refused .unsupported)

def ofConfig (settings : Settings) (data : Config) (p : Privilege) : Installer :=
  if (data.getD "noop" .null).truthy then .noop
  else .script {
    url := (data.getD "url" .null).orElse (.text settings.installerUrl)
    args := data.getD "args" (.text "-y")
    tool := data.getD "tool" (.text "cargo")
    envFile := data.getD "env_file" defaultEnvFile
    privilege := p }

end Installer
end Provisioning
