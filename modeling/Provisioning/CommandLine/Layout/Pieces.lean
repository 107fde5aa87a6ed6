import Provisioning.Text.Alphanumeric

/-!
Cutting text into the pieces that a line may be broken between: blanks and words. A word also ends
behind a hyphen between letters, and before a dash of several hyphens, which is a piece of its own.
-/
namespace Provisioning.CommandLine.Layout

def isSpace (c : Char) : Bool := c = ' ' || (9 ≤ c.toNat && c.toNat ≤ 13)

def isWordChar (c : Char) : Bool := Text.isAlphanumeric c || c = '_'

def isLetter (c : Char) : Bool := isWordChar c && !Text.isDecimal c

def endsWord (c : Char) : Bool := isWordChar c || c ∈ ['!', '"', '\'', '&', '.', ',', '?']

def dashAhead : List Char → Bool
  | '-' :: '-' :: cs =>
    match cs.dropWhile (· = '-') with
    | c :: _ => isWordChar c
    | [] => false
  | _ => false

def lettersAhead : List Char → Bool
  | a :: '-' :: b :: _ => isLetter a && isLetter b
  | a :: b :: _ => isLetter a && isLetter b
  | _ => false

def hyphenMayBreak : List Char → Bool
  | a :: '-' :: b :: _ => isLetter a && isLetter b
  | a :: b :: _ => isLetter a && isLetter b
  | _ => false

def lastIsWord : List Char → Bool
  | c :: _ => endsWord c
  | [] => false

/-- The rest of a word that has begun: the piece up to where a line may be broken, and what is
left. The characters before it come last one first. -/
def wordRest (before : List Char) : List Char → List Char × List Char
  | [] => ([], [])
  | c :: cs =>
    if c = '-' && hyphenMayBreak before && lettersAhead cs then ([c], cs)
    else if isSpace c || (lastIsWord before && dashAhead (c :: cs)) then ([], c :: cs)
    else
      let (piece, rest) := wordRest (c :: before) cs
      (c :: piece, rest)

/-- The pieces that a line may be broken between. The first argument bounds their number. -/
def piecesWithin : Nat → List Char → List Char → List (List Char)
  | 0, _, _ => []
  | _, _, [] => []
  | n + 1, before, c :: cs =>
    if isSpace c then
      let blank := c :: cs.takeWhile isSpace
      blank :: piecesWithin n (blank.reverse ++ before) (cs.dropWhile isSpace)
    else if lastIsWord before && dashAhead (c :: cs) then
      let dash := c :: cs.takeWhile (· = '-')
      dash :: piecesWithin n (dash.reverse ++ before) (cs.dropWhile (· = '-'))
    else
      let (piece, rest) := wordRest (c :: before) cs
      (c :: piece) :: piecesWithin n ((c :: piece).reverse ++ before) rest

def pieces (cs : List Char) : List (List Char) := piecesWithin cs.length [] cs

end Provisioning.CommandLine.Layout
