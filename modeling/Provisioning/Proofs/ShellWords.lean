import Provisioning.Proofs.Directories
import Provisioning.Target.Bare

/-!
A line as the shell takes it apart: the words of its first simple command and what is left behind
them. The words are read as far as they are made of safe characters and of quotations in either
mark. What is quoted comes back as one word whatever it holds, once from a line that enters a
directory, and twice over from one that is elevated; so a line tells its directory and its
instruction.
-/
namespace Provisioning.Shell

inductive Spot
  | gap
  | bare (word : List Char)
  | quoted (mark : Char) (word : List Char)

def isBlank (c : Char) : Bool := c = ' ' || c = '\t'

def isMark (c : Char) : Bool := c = '\'' || c = '"'

def endsCommand (c : Char) : Bool := c = '|' || c = '&' || c = ';' || c = '\n'

def isActive (mark c : Char) : Bool := mark = '"' && (c = '$' || c = '`' || c = '\\')

/-- The words up to the end of the command, and the rest. There are none if a quotation is left
open, or if a character stands where only the whole grammar of the shell tells what it means. -/
def readWords : Spot → List Char → Option (List String × List Char)
  | .gap, [] => some ([], [])
  | .bare word, [] => some ([String.ofList word], [])
  | .quoted _ _, [] => none
  | .gap, c :: cs =>
    if isSafe c then readWords (.bare [c]) cs
    else if isMark c then readWords (.quoted c []) cs
    else if isBlank c then readWords .gap cs
    else if endsCommand c then some ([], c :: cs)
    else none
  | .bare word, c :: cs =>
    if isSafe c then readWords (.bare (word ++ [c])) cs
    else if isMark c then readWords (.quoted c word) cs
    else if isBlank c then
      (readWords .gap cs).map fun r => (String.ofList word :: r.1, r.2)
    else if endsCommand c then some ([String.ofList word], c :: cs)
    else none
  | .quoted mark word, c :: cs =>
    if c = mark then readWords (.bare word) cs
    else if isActive mark c then none
    else readWords (.quoted mark (word ++ [c])) cs

def firstCommand (line : String) : Option (List String × String) :=
  (readWords .gap line.toList).map fun r => (r.1, String.ofList r.2)

section Reading

variable (word rest : List Char)

theorem readWords_blank :
    readWords (.bare word) (' ' :: rest) =
      (readWords .gap rest).map fun r => (String.ofList word :: r.1, r.2) := rfl

theorem readWords_apostrophe :
    readWords (.quoted '\'' word) ('\'' :: rest) = readWords (.bare word) rest := rfl

/-- An apostrophe as it is written inside of apostrophes: they are closed and opened again around
one in double quotes. -/
theorem readWords_apostrophe_quoted :
    readWords (.quoted '\'' word) ('\'' :: '"' :: '\'' :: '"' :: '\'' :: rest) =
      readWords (.quoted '\'' (word ++ ['\''])) rest := rfl

theorem readWords_of_ne {c : Char} (h : c ≠ '\'') :
    readWords (.quoted '\'' word) (c :: rest) = readWords (.quoted '\'' (word ++ [c])) rest := by
  simp [readWords, h, isActive]

theorem readWords_quoteChars (cs : List Char) :
    readWords (.quoted '\'' word) (quoteChars cs ++ '\'' :: rest) =
      readWords (.bare (word ++ cs)) rest := by
  -- The word grows by each character, so it is any word in the induction.
  induction cs generalizing word with
  | nil => rw [quoteChars, List.nil_append, List.append_nil, readWords_apostrophe]
  | cons c cs ih =>
    by_cases hc : c = '\''
    · subst hc
      rw [quoteChars, if_pos rfl]
      simp only [List.cons_append]
      rw [readWords_apostrophe_quoted, ih, List.append_assoc, List.singleton_append]
    · rw [quoteChars, if_neg hc, List.cons_append, readWords_of_ne word _ hc, ih,
        List.append_assoc, List.singleton_append]

theorem readWords_safe {cs : List Char} (safe : cs.all isSafe) :
    readWords (.bare word) (cs ++ rest) = readWords (.bare (word ++ cs)) rest := by
  induction cs generalizing word with
  | nil => rw [List.nil_append, List.append_nil]
  | cons c cs ih =>
    rw [List.all_cons, Bool.and_eq_true] at safe
    rw [List.cons_append, readWords, if_pos safe.1, ih _ safe.2, List.append_assoc,
      List.singleton_append]

theorem readWords_gap_safe {cs : List Char} (nonempty : cs ≠ []) (safe : cs.all isSafe) :
    readWords .gap (cs ++ rest) = readWords (.bare cs) rest := by
  cases cs with
  | nil => exact absurd rfl nonempty
  | cons c cs =>
    rw [List.all_cons, Bool.and_eq_true] at safe
    rw [List.cons_append, readWords, if_pos safe.1, readWords_safe _ _ safe.2,
      List.singleton_append]

theorem readWords_quote (s : String) :
    readWords .gap ((quote s).toList ++ rest) = readWords (.bare s.toList) rest := by
  have opened (tail : List Char) :
      readWords .gap ('\'' :: tail) = readWords (.quoted '\'' []) tail := rfl
  unfold quote
  cases hs : s.toList with
  | nil =>
    simp only [List.isEmpty_nil, if_true]
    rfl
  | cons c cs =>
    simp only [List.isEmpty_cons, Bool.false_eq_true, if_false]
    by_cases safe : (c :: cs).all isSafe
    · rw [if_pos safe, hs, readWords_gap_safe rest (List.cons_ne_nil c cs) safe]
    · rw [if_neg safe, String.toList_ofList, List.cons_append, List.cons_append, opened,
        List.append_assoc, List.singleton_append, readWords_quoteChars, List.nil_append]

theorem readWords_word {s : String} (nonempty : s.toList ≠ []) (safe : s.toList.all isSafe) :
    readWords .gap (s.toList ++ ' ' :: rest) =
      (readWords .gap rest).map fun r => (s :: r.1, r.2) := by
  rw [readWords_gap_safe _ nonempty safe, readWords_blank, String.ofList_toList]

end Reading

theorem firstCommand_enter (d x : String) :
    firstCommand (enter d x) = some (["cd", d], "|| exit 1\n" ++ x) := by
  have hline : (enter d x).toList =
      "cd".toList ++ ' ' :: ((quote d).toList ++ ' ' :: ("|| exit 1\n" ++ x).toList) := by
    simp [enter]
  have stopped : readWords .gap ("|| exit 1\n" ++ x).toList =
      some ([], ("|| exit 1\n" ++ x).toList) := by
    rw [String.toList_append]
    rfl
  unfold firstCommand
  rw [hline, readWords_word _ (by decide) (by decide), readWords_quote, readWords_blank, stopped]
  simp only [Option.map_some, String.ofList_toList]

theorem firstCommand_elevate (line : String) :
    firstCommand (elevate line) = some (["sudo", "-H", "sh", "-c", line], "") := by
  have hline : (elevate line).toList =
      "sudo".toList ++ ' ' :: ("-H".toList ++ ' ' :: ("sh".toList ++ ' ' :: ("-c".toList ++
        ' ' :: ((quote line).toList ++ [])))) := by
    simp [elevate]
  unfold firstCommand
  rw [hline, readWords_word _ (by decide) (by decide), readWords_word _ (by decide) (by decide),
    readWords_word _ (by decide) (by decide), readWords_word _ (by decide) (by decide),
    readWords_quote]
  simp only [readWords, Option.map_some, String.ofList_toList, String.ofList_nil]

end Provisioning.Shell

namespace Provisioning.Target

variable {σ : Type} (t : Target σ)

theorem wrap_unprivileged {d : String} (given : d ≠ "") (x : String) :
    t.wrap x .unprivileged (some d) = Shell.enter d x := by
  rw [t.wrap_eq, firstDirectory_of_ne_empty given, Shell.entered_of_ne_empty given]
  rfl

theorem wrap_elevated (notRoot : t.isRoot = false) (x : String) (d : Option String) :
    t.wrap x .elevated d = Shell.elevate (t.wrap x .unprivileged d) := by
  simp [t.wrap_eq, notRoot]

theorem wrap_elevated_of_root (root : t.isRoot = true) (x : String) (d : Option String) :
    t.wrap x .elevated d = t.wrap x .unprivileged d := by
  simp [t.wrap_eq, root]

theorem wrap_unprivileged_injective {d e x y : String} (hd : d ≠ "") (he : e ≠ "")
    (h : t.wrap x .unprivileged (some d) = t.wrap y .unprivileged (some e)) : d = e ∧ x = y := by
  have hwords := congrArg Shell.firstCommand h
  rw [t.wrap_unprivileged hd, t.wrap_unprivileged he, Shell.firstCommand_enter,
    Shell.firstCommand_enter] at hwords
  simpa using hwords

/-- A line for a directory that is given is read back by the shell: without privilege, its first
command enters just that directory, and behind it stands the instruction as it was; elevated, its
only command hands just that line to a shell. So no two directories and instructions make the same
line. -/
theorem firstCommand_wrap {d : String} (given : d ≠ "") (x : String) :
    Shell.firstCommand (t.wrap x .unprivileged (some d)) =
        some (["cd", d], "|| exit 1\n" ++ x) ∧
      (t.isRoot = false → Shell.firstCommand (t.wrap x .elevated (some d)) =
        some (["sudo", "-H", "sh", "-c", t.wrap x .unprivileged (some d)], "")) ∧
      ∀ (p : Privilege) (e y : String), e ≠ "" → t.wrap x p (some d) = t.wrap y p (some e) →
        d = e ∧ x = y := by
  refine ⟨?_, fun notRoot => ?_, fun p e y he h => ?_⟩
  · rw [t.wrap_unprivileged given, Shell.firstCommand_enter]
  · rw [t.wrap_elevated notRoot, Shell.firstCommand_elevate]
  cases p with
  | unprivileged => exact t.wrap_unprivileged_injective given he h
  | elevated =>
    cases root : t.isRoot with
    | true =>
      rw [t.wrap_elevated_of_root root, t.wrap_elevated_of_root root] at h
      exact t.wrap_unprivileged_injective given he h
    | false =>
      rw [t.wrap_elevated root, t.wrap_elevated root] at h
      exact t.wrap_unprivileged_injective given he (Shell.elevate_injective h)

theorem firstCommand_awkward :
    let t : Target Unit := .bare none
    let d := "it's;\n$HOME\\ \"x\""
    let line := t.wrap "echo 'a b' | cat" .unprivileged (some d)
    d ≠ "" ∧ t.isRoot = false ∧
      Shell.firstCommand line = some (["cd", d], "|| exit 1\n" ++ "echo 'a b' | cat") ∧
      Shell.firstCommand (t.wrap "echo 'a b' | cat" .elevated (some d)) =
        some (["sudo", "-H", "sh", "-c", line], "") := by
  intro t d line
  have given : d ≠ "" := by decide
  obtain ⟨hline, helevated, -⟩ := firstCommand_wrap t given "echo 'a b' | cat"
  exact ⟨given, rfl, hline, helevated rfl⟩

end Provisioning.Target
