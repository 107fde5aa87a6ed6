import Provisioning.FileTree
import Provisioning.Target
import Provisioning.Text.Search

/-!
A world that answers from a script. The first rule whose text occurs in a command and that is not
used up answers it; without such a rule a command succeeds silently. The files stay as they are.
-/
namespace Provisioning

structure Rule where
  occurring : String := ""
  status : Int := 0
  output : String := ""
  uses : Option Nat := none
  interrupts : Bool := false
  missing : Bool := false
  available : Option Bool := none
  deriving Repr

structure Script (α : Type) where
  rules : List Rule
  available : Bool
  place : Place
  files : FileTree α

namespace Script

variable {α : Type}

def Rule.answers (text : String) (r : Rule) : Bool :=
  r.uses != some 0 && Text.occursIn r.occurring.toList text.toList

def pick (text : String) : List Rule → Option Rule × List Rule
  | [] => (none, [])
  | r :: rs =>
    if Rule.answers text r then (some r, { r with uses := r.uses.map (· - 1) } :: rs)
    else
      let (found, rest) := pick text rs
      (found, r :: rest)

def take (text : String) (s : Script α) : Rule × Script α :=
  let (found, rest) := pick text s.rules
  (found.getD {}, { s with rules := rest })

def start (call : Call) (s : Script α) : Reply × Script α :=
  let (r, s) := s.take call.command.text
  if r.interrupts then (.interrupted, s)
  else if r.missing then (.missing, s)
  else (.exited r.status r.output, s)

def world : World (Script α) where
  start := start
  isDirectory := fun s d => s.files.isDirectory s.place (Path.ofString d)

def target (name : String) (workdir : Option String) (isRoot : Bool) : Target (Script α) where
  name := name
  workdir := workdir
  isRoot := isRoot
  available := Activity.ask fun s => (s.available, s)
  perform := fun line => do
    let r ← Activity.ask fun s => s.take line
    if r.interrupts then Activity.fail (.interrupted "")
    Activity.ask fun s => (r.status, { s with available := r.available.getD s.available })

end Script
end Provisioning
