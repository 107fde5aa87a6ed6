import Provisioning.CommandLine
import Provisioning.World.Replies

/-!
The program. It decides what is to be run and reports on it, and starts nothing itself: each child
process is shown on the error stream, and what became of it is read from standard input, one line
for each. Without pipeline files, the built-in pipeline is used.
-/
namespace Provisioning

def knownVariables : List String :=
  ["HOME", "PWD", "VMBUILD_INSTALLER_URL", "VMBUILD_GUEST_PATH", "VMBUILD_BASE_BOX",
    "VMBUILD_VAGRANT_DIR", "VMBUILD_SYSTEM_PACKAGES"]

def readVariables : IO Environ :=
  knownVariables.filterMapM fun name => do
    return (← IO.getEnv name).map fun value => (name, value)

partial def readReplies (input : IO.FS.Stream) : IO (List Reply) := do
  let line ← input.getLine
  if line.isEmpty then return []
  let text := String.ofList (line.toList.takeWhile (· ≠ '\n'))
  return World.replyOfLine text :: (← readReplies input)

def showEvent (out err : IO.FS.Stream) : Event → IO Unit
  | .out text => out.putStr text
  | .err text => err.putStr text
  | .traceback handled =>
    err.putStrLn ((handled.map fun f => f.label ++ ": " ++ f.message).getD "no fault")
  | .exchanged e => err.putStrLn ("+ " ++ e.call.command.text)
  | .asked _ | .ran .. => pure ()

def surroundings (environ : Environ) : CommandLine.Surroundings where
  environ := environ
  place := {
    cwd := (Path.ofString ((environ.lookup "PWD").getD "/")).parts
    homes := ((environ.lookup "HOME").map fun home => ("", home)).toList }
  files := FileTree.empty
  superuser := some false

end Provisioning

open Provisioning in
def main (arguments : List String) : IO UInt32 := do
  let environ ← readVariables
  let replies ← readReplies (← IO.getStdin)
  let r := CommandLine.execute (surroundings environ) World.replies arguments replies
  let out ← IO.getStdout
  let err ← IO.getStderr
  for e in r.trace do showEvent out err e
  match r.answer with
  | .ok code => return code.toNat.toUInt32
  | .error f =>
    err.putStrLn (f.label ++ ": " ++ f.message)
    return 1
