import Provisioning.Refusal
import Provisioning.Text.Lines

/-!
Paths as text names them. A path is a root and its components: empty components and single dots
are dropped, and two leading slashes, but not three, are a root of their own. Expanding replaces a
leading home mark; resolving makes a path absolute and removes double dots by dropping the
component before each.
-/
namespace Provisioning

structure Path where
  root : String
  parts : List String
  deriving DecidableEq, Repr

/-- What paths are relative to: the current directory, from the root down, and the home directory
of each account; the empty name is the own account. -/
structure Place where
  cwd : List String
  homes : List (String × String)

namespace Path

def rootOf : List Char → String
  | '/' :: '/' :: '/' :: _ => "/"
  | '/' :: '/' :: _ => "//"
  | '/' :: _ => "/"
  | _ => ""

def ofString (s : String) : Path where
  root := rootOf s.toList
  parts := ((Text.fields '/' s.toList).map String.ofList).filter fun p => p != "" && p != "."

def toString (p : Path) : String :=
  if p.root = "" && p.parts.isEmpty then "."
  else p.root ++ String.intercalate "/" p.parts

def isAbsolute (p : Path) : Bool := p.root != ""

def name (p : Path) : String := p.parts.getLast?.getD ""

/-- The last dot of a name and what follows, unless the dot is its first or its last character. -/
def suffixOf (name : List Char) : List Char :=
  let after := (name.reverse.takeWhile (· ≠ '.')).reverse
  let stem := name.length - after.length - 1
  if after.isEmpty || stem = 0 || after.length = name.length then [] else '.' :: after

def suffix (p : Path) : String := String.ofList (suffixOf p.name.toList)

def hasNul (p : Path) : Bool := p.parts.any fun c => c.toList.contains '\x00'

def expand (place : Place) (p : Path) : Except Refusal Path :=
  match p.root, p.parts with
  | "", first :: rest =>
    match first.toList with
    | '~' :: account =>
      if account.contains '\x00' then .error .nulInPath
      else match place.homes.lookup (String.ofList account) with
      | none => .error .noHome
      | some home =>
        let h := ofString home
        .ok { h with parts := h.parts ++ rest }
    | _ => .ok p
  | _, _ => .ok p

def absoluteParts (place : Place) (p : Path) : List String :=
  if p.isAbsolute then p.parts else place.cwd ++ p.parts

def collapse (parts : List String) : List String :=
  parts.foldl (fun done p => if p = ".." then done.dropLast else done ++ [p]) []

/-- The absolute path without double dots. The null character is refused in every component, also in
one that a double dot drops. -/
def resolve (place : Place) (p : Path) : Except Refusal Path :=
  if p.hasNul then .error .nulInPath
  else .ok { root := "/", parts := collapse (p.absoluteParts place) }

theorem isAbsolute_of_resolve {place : Place} {p q : Path} (h : p.resolve place = .ok q) :
    q.isAbsolute = true := by
  unfold resolve at h
  split at h
  · simp at h
  · obtain rfl := Except.ok.inj h
    simp [isAbsolute]

end Path
end Provisioning
