import Provisioning.CommandLine.Layout.Paragraph

/-!
Tables of terms with their descriptions. A description starts beside its term unless the term is too
long for its column.
-/
namespace Provisioning.CommandLine.Layout

def indent (n : Nat) : String := String.ofList (List.replicate n ' ')

def totalWidth : Nat := 78

/-- The rows of a table, indented by two. The first column is as wide as its longest term, but at
most 30, and two blanks part it from the second. -/
def table (rows : List (String × String)) : List String :=
  let longest := (rows.map (·.1.length)).foldl max 0
  let column := min longest 30 + 2
  let width := max (totalWidth - column - 2) 10
  rows.flatMap fun (term, description) =>
    match fillParagraphs width description with
    | [] => ["  " ++ term]
    | first :: more =>
      let rest := more.map fun l => indent (column + 2) ++ l
      if term.length ≤ column - 2 then
        ("  " ++ term ++ indent (column - term.length) ++ first) :: rest
      else
        ("  " ++ term) :: (indent (column + 2) ++ first) :: rest

end Provisioning.CommandLine.Layout
