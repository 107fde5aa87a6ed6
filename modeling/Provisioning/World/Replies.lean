import Provisioning.World

/-!
A world that answers child processes from a list of replies, in order. Once the list is used up no
program can be found, and every directory exists.
-/
namespace Provisioning.World

def replies : World (List Reply) where
  start := fun _ rs =>
    match rs with
    | [] => (.missing, [])
    | r :: rest => (r, rest)
  isDirectory := fun _ _ => .ok true

def replyOfLine (line : String) : Reply :=
  let cs := line.toList
  let status := String.ofList (cs.takeWhile (· ≠ ' '))
  let printed := String.ofList ((cs.dropWhile (· ≠ ' ')).drop 1)
  match status.toInt? with
  | some n => .exited n (printed ++ "\n")
  | none => if status = "interrupt" then .interrupted else .missing

end Provisioning.World
