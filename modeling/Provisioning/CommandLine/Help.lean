import Provisioning.CommandLine.Layout
import Provisioning.CommandLine.Options
import Provisioning.Discovery
import Provisioning.Settings

/-!
The commands with their options, and the help that is made from them.
-/
namespace Provisioning.CommandLine

structure CommandSpec where
  name : String
  doc : String
  summary : String
  options : List OptionSpec

def program : String := "vmbuild"

def pipelineFileOption (help : String) : OptionSpec :=
  { long := "--pipeline", shape := .text, help }

def shownText (default : String) : Option String :=
  some (if default = "" then "\"\"" else default)

def debugOption : OptionSpec :=
  { long := "--debug", shape := .flag
    help := "Enable debug mode (show stack traces and every executed command)" }

def targetOptions (s : Settings) : List OptionSpec := [
  { long := "--target", shape := .choice ["vagrant", "local"]
    help := "Run steps inside the Vagrant VM or on this host", shown := some "vagrant" },
  { long := "--vagrant-dir", shape := .text, help := "Directory holding the Vagrantfile"
    shown := shownText s.machineDir },
  { long := "--machine", shape := .text, help := "Vagrant machine name"
    shown := some "default" },
  { long := "--boot", shape := .toggle "--no-boot"
    help := "Run `vagrant up` before the first step" },
  { long := "--box", shape := .text, help := "Base box used when booting a new VM"
    shown := shownText s.baseBox },
  { long := "--guest-path", shape := .text
    help := "Project path inside the target (VM default: " ++ s.guestPath ++
      ", local default: cwd)" }]

def installerUrlOption (s : Settings) : OptionSpec :=
  { long := "--installer-url", shape := .text, help := "Toolchain installer script URL"
    shown := shownText s.installerUrl }

def runCommand (s : Settings) : CommandSpec where
  name := "run"
  doc := "Run the provisioning pipeline."
  summary := "Run the provisioning pipeline."
  options :=
    [pipelineFileOption ("Pipeline file path (defaults to " ++ Discovery.defaultFile ++
      " if present, else the built-in pipeline)")] ++ targetOptions s ++ [
    installerUrlOption s,
    { long := "--skip-toolchain", shape := .flag
      help := "Built-in pipeline: don't run the toolchain installer" },
    { long := "--install-example", shape := .flag
      help := "Built-in pipeline: install the example library after testing" },
    { long := "--print-plan", shape := .toggle "--no-print-plan"
      help := "Print steps before running", shown := some "print-plan" }]

def planCommand (s : Settings) : CommandSpec where
  name := "plan"
  doc := "Print the ordered steps without running anything."
  summary := "Print the ordered steps without running anything."
  options := [
    pipelineFileOption "Pipeline file path",
    { long := "--guest-path", shape := .text, help := "Project path inside the target"
      shown := shownText s.guestPath },
    { long := "--install-example", shape := .flag
      help := "Built-in pipeline: include the example install" }]

def buildCommand : CommandSpec where
  name := "build"
  doc := "Build, build examples and test a checkout on this host."
  summary := "Build, build examples and test a checkout on this host."
  options := [
    { long := "--project-path", shape := .text, help := "Project checkout to build and test"
      shown := some "." }]

def installCommand (s : Settings) : CommandSpec where
  name := "install-toolchain"
  doc := "Install the toolchain (safe to repeat), optionally followed by build and test."
  summary := "Install the toolchain (safe to repeat), optionally..."
  options := targetOptions s ++ [
    installerUrlOption s,
    { long := "--and-build", shape := .flag
      help := "Build and test the project after installing" }]

def commands (s : Settings) : List CommandSpec :=
  [buildCommand, installCommand s, planCommand s, runCommand s]

def OptionSpec.term (o : OptionSpec) : String :=
  match o.shape with
  | .text => o.long ++ " TEXT"
  | .choice allowed => o.long ++ " [" ++ String.intercalate "|" allowed ++ "]"
  | .flag => o.long
  | .toggle off => o.long ++ " / " ++ off

def OptionSpec.description (o : OptionSpec) : String :=
  match o.shown with
  | none => Layout.dedent o.help
  | some d => Layout.dedent o.help ++ "  [default: " ++ d ++ "]"

def optionTable (options : List OptionSpec) : List String :=
  Layout.table ((options ++ [helpOption]).map fun o => (o.term, o.description))

def docLines (doc : String) : List String :=
  (Layout.fillParagraphs (Layout.totalWidth - 2) doc).map ("  " ++ ·)

def groupUsage : String := "Usage: " ++ program ++ " [OPTIONS] COMMAND [ARGS]..."

def CommandSpec.path (c : CommandSpec) : String := program ++ " " ++ c.name

def CommandSpec.usage (c : CommandSpec) : String := "Usage: " ++ c.path ++ " [OPTIONS]"

def text (lines : List String) : String :=
  String.ofList (Text.visible (String.join (lines.map (· ++ "\n"))).toList)

def CommandSpec.helpText (c : CommandSpec) : String :=
  text ([c.usage, ""] ++ docLines c.doc ++ ["", "Options:"] ++ optionTable c.options)

def groupHelp (s : Settings) : String :=
  text ([groupUsage, ""] ++
    docLines "vmbuild: provision a VM, install a toolchain, build and test a checkout." ++
    ["", "Options:"] ++ optionTable [debugOption] ++ ["", "Commands:"] ++
    Layout.table ((commands s).map fun c => (c.name, c.summary)))

def complaint (usage path : String) (e : UsageError) : String :=
  (if e.showsUsage then
    text [usage, "Try '" ++ path ++ " --help' for help.", ""] else "") ++
    text ["Error: " ++ e.message]

end Provisioning.CommandLine
