import Provisioning.CommandLine.Layout.Fill
import Provisioning.Text.Lines

/-!
Text as paragraphs, parted by empty lines. A paragraph keeps the indent of its first line; it is
filled, or, behind a line that holds nothing but a backspace character, its lines stay as they are.
-/
namespace Provisioning.CommandLine.Layout

open Text (visibleLength)

/-- Every tab as the blanks up to the next column that is a multiple of eight; the first argument is
the column that the text starts at. -/
def expandTabs : Nat → List Char → List Char
  | _, [] => []
  | column, c :: cs =>
    if c = '\t' then
      List.replicate (8 - column % 8) ' ' ++ expandTabs (column + (8 - column % 8)) cs
    else if c = '\n' || c = '\r' then c :: expandTabs 0 cs
    else c :: expandTabs (column + 1) cs

def margin (lines : List (List Char)) : Nat :=
  let indents := (lines.filter fun l => !isBlankPiece l).map fun l =>
    (l.takeWhile Text.isBlank).length
  indents.min?.getD 0

def dropEmptyEnds (lines : List (List Char)) : List (List Char) :=
  ((lines.dropWhile List.isEmpty).reverse.dropWhile List.isEmpty).reverse

/-- Text without the indentation that its lines share, which the first one need not have, and
without empty lines at either end. -/
def dedent (text : String) : String :=
  match Text.fields '\n' (expandTabs 0 text.toList) with
  | [] => ""
  | first :: others =>
    let lines := first.dropWhile Text.isBlank :: others.map (List.drop (margin others))
    String.ofList (List.intercalate ['\n'] (dropEmptyEnds lines))

structure Paragraph where
  indent : Nat
  first : List Char
  others : List (List Char)

namespace Paragraph

def ofLine (line : List Char) (others : List (List Char)) : Paragraph :=
  let first := line.dropWhile Text.isBlank
  { indent := visibleLength line - visibleLength first, first, others }

def ofLines : List (List Char) → List Paragraph
  | [] => []
  | [] :: ls => ofLines ls
  | l :: ls =>
    ofLine l (ls.takeWhile fun l => !l.isEmpty) :: ofLines (ls.dropWhile fun l => !l.isEmpty)
termination_by ls => ls.length
decreasing_by
  · simp
  · have := (List.dropWhile_sublist (l := ls) fun l => !l.isEmpty).length_le
    simp only [List.length_cons]
    omega

def lines (width : Nat) (p : Paragraph) : List (List Char) :=
  let shown :=
    if Text.trim p.first = ['\x08'] then p.others
    else fill ((width : Int) - p.indent) (List.intercalate [' '] (p.first :: p.others))
  shown.map fun l => List.replicate p.indent ' ' ++ l

end Paragraph

def fillParagraphs (width : Nat) (text : String) : List String :=
  let shown := (Paragraph.ofLines (Text.lines (expandTabs 0 text.toList))).map fun p =>
    List.intercalate ['\n'] (p.lines width)
  (Text.lines (List.intercalate ['\n', '\n'] shown)).map String.ofList

end Provisioning.CommandLine.Layout
