/-!
One shell word from arbitrary text. Text of safe characters stands for itself; all other text goes
between apostrophes, and each apostrophe in it is written as an apostrophe in double quotes.
-/
namespace Provisioning.Shell

def isSafe (c : Char) : Bool :=
  c.isAlphanum || c ∈ ['_', '@', '%', '+', '=', ':', ',', '.', '/', '-']

def quoteChars : List Char → List Char
  | [] => []
  | c :: cs =>
    if c = '\'' then '\'' :: '"' :: '\'' :: '"' :: '\'' :: quoteChars cs
    else c :: quoteChars cs

def quote (s : String) : String :=
  let cs := s.toList
  if cs.isEmpty then "''"
  else if cs.all isSafe then s
  else String.ofList ('\'' :: quoteChars cs ++ ['\''])

end Provisioning.Shell
