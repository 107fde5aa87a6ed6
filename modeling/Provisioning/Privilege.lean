/-!
Who an instruction runs as inside a target.
-/
namespace Provisioning

inductive Privilege
  | elevated
  | unprivileged
  deriving DecidableEq, Repr

def Privilege.word : Privilege → String
  | .elevated => "elevated"
  | .unprivileged => "unprivileged"

def Privilege.ofWord? : String → Option Privilege
  | "elevated" => some .elevated
  | "unprivileged" => some .unprivileged
  | _ => none

theorem Privilege.ofWord?_word (p : Privilege) : Privilege.ofWord? p.word = some p := by
  cases p <;> rfl

end Provisioning
