import Provisioning.CommandLine.Layout.Pieces
import Provisioning.Text.Blank
import Provisioning.Text.ControlSequence

/-!
Filling lines to a width with the pieces of a text. Only what is visible counts against the width. A
piece that fits no line is cut, and every line takes at least one character, however narrow it is.
Blanks at a line break are dropped; those that the text begins with are kept.
-/
namespace Provisioning.CommandLine.Layout

open Text (visibleLength visibleSplit)

def fitting : Int → List (List Char) → List (List Char) × List (List Char)
  | _, [] => ([], [])
  | width, p :: ps =>
    if visibleLength p ≤ width then
      let (line, rest) := fitting (width - visibleLength p) ps
      (p :: line, rest)
    else ([], p :: ps)

theorem append_fitting (width : Int) (ps : List (List Char)) :
    (fitting width ps).1 ++ (fitting width ps).2 = ps := by
  induction ps generalizing width with
  | nil => rfl
  | cons p ps ih =>
    rw [fitting]
    split
    · exact congrArg (p :: ·) (ih _)
    · rfl

def isBlankPiece (p : List Char) : Bool := p.all Text.isBlank

def dropLastBlank (line : List (List Char)) : List (List Char) :=
  match line.getLast? with
  | some p => if isBlankPiece p then line.dropLast else line
  | none => line

def takeLine (width : Int) (ps : List (List Char)) : List (List Char) × List (List Char) :=
  let (line, rest) := fitting width ps
  match rest with
  | [] => (line, [])
  | p :: ps =>
    if width < visibleLength p then
      let used : Int := (line.flatMap Text.visible).length
      let (first, others) := visibleSplit (max (width - used) 1).toNat p
      (line ++ [first], others :: ps)
    else (line, p :: ps)

def fillWithin (width : Int) : Nat → Bool → List (List Char) → List (List Char)
  | 0, _, _ => []
  | _, _, [] => []
  | n + 1, started, p :: ps =>
    let (taken, rest) := takeLine width (if started && isBlankPiece p then ps else p :: ps)
    let line := dropLastBlank taken
    if line.isEmpty then fillWithin width n started rest
    else line.flatten :: fillWithin width n true rest

def fill (width : Int) (cs : List Char) : List (List Char) :=
  fillWithin width (2 * cs.length + 2) false (pieces cs)

end Provisioning.CommandLine.Layout
