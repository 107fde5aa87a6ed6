/-!
Blanks separate words. The class is Unicode's white space together with the four information
separators U+001C to U+001F; the zero-width space is not in it.
-/
namespace Provisioning.Text

def isBlank (c : Char) : Bool :=
  let n := c.toNat
  (9 ≤ n && n ≤ 13) || (28 ≤ n && n ≤ 32) || n == 0x85 || n == 0xA0 || n == 0x1680 ||
    (0x2000 ≤ n && n ≤ 0x200A) || n == 0x2028 || n == 0x2029 || n == 0x202F || n == 0x205F ||
    n == 0x3000

def putBefore (c : Char) (behind : List Char) (ws : List (List Char)) : List (List Char) :=
  match behind.head?, ws with
  | some d, w :: ws => if isBlank d then [c] :: w :: ws else (c :: w) :: ws
  | _, ws => [c] :: ws

def words : List Char → List (List Char)
  | [] => []
  | c :: cs => if isBlank c then words cs else putBefore c cs (words cs)

theorem words_cons_blank {c : Char} (h : isBlank c = true) (cs : List Char) :
    words (c :: cs) = words cs := by simp [words, h]

def trim (cs : List Char) : List Char :=
  ((cs.dropWhile isBlank).reverse.dropWhile isBlank).reverse

end Provisioning.Text
