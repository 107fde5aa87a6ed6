import Provisioning.Shell.Line

/-!
Quoted text is read back as it was. Outside of quotes a mark opens a quotation, and inside only the
same mark closes it; the marks themselves are dropped. So no two texts make the same shell word, no
two lines are elevated to the same one, and no instruction enters two directories by the same line.
-/
namespace Provisioning.Shell

theorem quote_of_safe {s : String} (nonempty : s ≠ "") (safe : s.toList.all isSafe) :
    quote s = s := by
  have hempty : s.toList.isEmpty = false := by simpa using nonempty
  simp only [quote, hempty, safe, Bool.false_eq_true, if_true, if_false]

theorem quoteValue_text (s : String) : quoteValue (.text s) = .ok (quote s) := by
  by_cases empty : s = ""
  · rw [empty]
    rfl
  · simp [quoteValue, Value.truthy, empty]

def unquoteFrom : Option Char → List Char → List Char
  | _, [] => []
  | none, c :: cs =>
    if c = '\'' || c = '"' then unquoteFrom (some c) cs else c :: unquoteFrom none cs
  | some mark, c :: cs =>
    if c = mark then unquoteFrom none cs else c :: unquoteFrom (some mark) cs

theorem unquoteFrom_quoteChars (cs rest : List Char) :
    unquoteFrom (some '\'') (quoteChars cs ++ '\'' :: rest) = cs ++ unquoteFrom none rest := by
  induction cs with
  | nil => simp [quoteChars, unquoteFrom]
  | cons c cs ih =>
    by_cases hc : c = '\''
    · simp [quoteChars, unquoteFrom, hc, ih]
    · simp [quoteChars, unquoteFrom, hc, ih]

theorem unquoteFrom_safe {cs : List Char} (h : cs.all isSafe) : unquoteFrom none cs = cs := by
  induction cs with
  | nil => rfl
  | cons c cs ih =>
    rw [List.all_cons, Bool.and_eq_true] at h
    have hmark : ¬ (c = '\'' || c = '"') = true := by
      rw [Bool.or_eq_true, decide_eq_true_iff, decide_eq_true_iff]
      intro hc
      rcases hc with rfl | rfl
      · exact absurd h.1 (by decide)
      · exact absurd h.1 (by decide)
    rw [unquoteFrom, if_neg hmark, ih h.2]

theorem unquoteFrom_quote (s : String) : unquoteFrom none (quote s).toList = s.toList := by
  unfold quote
  cases hs : s.toList with
  | nil => simp [unquoteFrom]
  | cons c cs =>
    simp only [List.isEmpty_cons, Bool.false_eq_true, if_false]
    by_cases safe : (c :: cs).all isSafe
    · rw [if_pos safe, hs]
      exact unquoteFrom_safe safe
    · rw [if_neg safe, String.toList_ofList]
      have hread := unquoteFrom_quoteChars (c :: cs) []
      simpa [unquoteFrom] using hread

theorem quote_injective {s t : String} (h : quote s = quote t) : s = t := by
  have hread := unquoteFrom_quote s
  rw [h, unquoteFrom_quote t] at hread
  exact String.toList_injective hread.symm

theorem elevate_injective {a b : String} (h : elevate a = elevate b) : a = b :=
  quote_injective ((String.append_right_inj _).1 h)

theorem enter_injective {d e x : String} (h : enter d x = enter e x) : d = e := by
  unfold enter at h
  rw [String.append_left_inj, String.append_left_inj, String.append_right_inj] at h
  exact quote_injective h

theorem enter_ne (d x : String) : enter d x ≠ x := by
  intro h
  have hlength := congrArg String.length h
  simp only [enter, String.length_append] at hlength
  have hpos : "cd ".length = 3 := rfl
  omega

end Provisioning.Shell
