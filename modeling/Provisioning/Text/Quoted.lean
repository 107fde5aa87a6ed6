import Provisioning.Text.Printable

/-!
Text in quotation marks, as messages show a name. Apostrophes delimit it unless it holds an
apostrophe and no double quote. The delimiter, the backslash, tab, line feed and carriage return
have short escapes; every other character without a visible form is written by its code point.
-/
namespace Provisioning.Text

def hexDigits (width n : Nat) : List Char :=
  let ds := Nat.toDigits 16 n
  List.replicate (width - ds.length) '0' ++ ds

def escapedCode (c : Char) : List Char :=
  let n := c.toNat
  if n < 0x100 then '\\' :: 'x' :: hexDigits 2 n
  else if n < 0x10000 then '\\' :: 'u' :: hexDigits 4 n
  else '\\' :: 'U' :: hexDigits 8 n

def escapedChar (delimiter c : Char) : List Char :=
  if c = delimiter || c = '\\' then ['\\', c]
  else if c = '\t' then ['\\', 't']
  else if c = '\n' then ['\\', 'n']
  else if c = '\r' then ['\\', 'r']
  else if isPrintable c then [c]
  else escapedCode c

def delimiter (cs : List Char) : Char :=
  if cs.contains '\'' && !cs.contains '"' then '"' else '\''

def quoted (s : String) : String :=
  let cs := s.toList
  let d := delimiter cs
  String.ofList (d :: cs.flatMap (escapedChar d) ++ [d])

end Provisioning.Text
