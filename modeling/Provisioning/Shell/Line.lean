import Provisioning.Shell.Quote
import Provisioning.Value

/-!
The shell lines that carry an instruction into a directory, to the superuser, or behind an
environment file. The change of directory stands on a line of its own, so that no part of the
instruction can run anywhere else.
-/
namespace Provisioning.Shell

def enter (directory instruction : String) : String :=
  "cd " ++ quote directory ++ " || exit 1\n" ++ instruction

def elevate (line : String) : String := "sudo -H sh -c " ++ quote line

def sourced (envFile : Value) (command : String) : String :=
  if envFile.truthy then
    "if [ -f \"" ++ envFile.display ++ "\" ]; then . \"" ++ envFile.display ++ "\"; fi; " ++
      command
  else command

/-- The shell word for a value: whatever does not count as given is the empty word, and only text
can be quoted. -/
def quoteValue (v : Value) : Except Refusal String :=
  if v.truthy then
    match v with
    | .text s => .ok (quote s)
    | v => .error (.notText v.typeName)
  else .ok (quote "")

end Provisioning.Shell
