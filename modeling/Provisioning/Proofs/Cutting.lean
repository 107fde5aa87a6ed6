import Provisioning.Text.Blank
import Provisioning.Text.Lines

/-!
Lines, fields and words of a text. A line end cuts a text in two that are read on their own, and a
text without line ends is a single line. The fields of a text are what stands between its
separators, so that fields without separators are read as they were written. The words are what
stands between blanks, where there is anything.
-/
namespace Provisioning.Text

theorem lines_letter {c : Char} (letter : isLineEnd c = false) (cs : List Char) :
    lines (c :: cs) = match lines cs with
      | [] => [[c]]
      | l :: ls => (c :: l) :: ls := by
  rw [lines, letter]
  · rfl
  · rintro rest rfl
    cases letter

theorem lines_lineEnd {c : Char} {cs : List Char} (ending : isLineEnd c = true)
    (single : ∀ rest, c = '\r' → cs ≠ '\n' :: rest) : lines (c :: cs) = [] :: lines cs := by
  rw [lines, if_pos ending]
  exact single

theorem lines_ne_nil {xs : List Char} (nonempty : xs ≠ []) : lines xs ≠ [] := by
  fun_cases lines xs <;> simp_all

/-- A line end cuts a text in two that are read on their own. A carriage return may not, for it may
be the first half of a pair. -/
theorem lines_append_lineEnd {e : Char} (ending : isLineEnd e = true) (unpaired : e ≠ '\r')
    (xs ys : List Char) : lines (xs ++ e :: ys) = lines (xs ++ [e]) ++ lines ys := by
  have hlone (zs : List Char) : lines (e :: zs) = [] :: lines zs :=
    lines_lineEnd ending fun _ he => absurd he unpaired
  have hletter {c : Char} {cs : List Char} (letter : isLineEnd c = false)
      (ih : lines (cs ++ e :: ys) = lines (cs ++ [e]) ++ lines ys) :
      lines (c :: (cs ++ e :: ys)) = lines (c :: (cs ++ [e])) ++ lines ys := by
    rw [lines_letter letter, lines_letter letter, ih]
    cases hcs : lines (cs ++ [e]) with
    | nil => exact absurd hcs (lines_ne_nil (by simp))
    | cons l ls => rfl
  fun_induction lines xs with
  | case1 => simp [hlone, lines]
  | case2 xs ih => simp [lines, ih]
  | case3 c cs single hc ih =>
    rw [List.cons_append, List.cons_append]
    cases cs with
    | nil =>
      by_cases pair : c = '\r' ∧ e = '\n'
      · obtain ⟨rfl, rfl⟩ := pair
        rfl
      · have single (zs : List Char) : ∀ rest, c = '\r' → e :: zs ≠ '\n' :: rest :=
          fun _ hc h => pair ⟨hc, (List.cons.inj h).1⟩
        rw [List.nil_append, List.nil_append, lines_lineEnd hc (single ys),
          lines_lineEnd hc (single []), hlone, hlone]
        rfl
    | cons c' cs =>
      have single (zs : List Char) : ∀ rest, c = '\r' → c' :: cs ++ zs ≠ '\n' :: rest := by
        intro rest hc h
        obtain ⟨rfl, -⟩ := List.cons.inj h
        exact single cs hc rfl
      rw [lines_lineEnd hc (single _), lines_lineEnd hc (single _), ih]
      rfl
  | case4 c cs _ hc _ ih => exact hletter (Bool.not_eq_true _ ▸ hc) ih
  | case5 c cs _ hc l ls _ ih => exact hletter (Bool.not_eq_true _ ▸ hc) ih

theorem lines_of_forall {xs : List Char} (letters : ∀ c ∈ xs, isLineEnd c = false) :
    lines (xs ++ ['\n']) = [xs] := by
  induction xs with
  | nil => rfl
  | cons c cs ih =>
    have hcs := ih fun d hd => letters d (List.mem_cons_of_mem c hd)
    rw [List.cons_append, lines_letter (letters c List.mem_cons_self), hcs]

theorem sublist_of_mem_lines {xs l : List Char} (h : l ∈ lines xs) : l.Sublist xs := by
  fun_induction lines xs generalizing l with
  | case1 => cases h
  | case2 cs ih =>
    rcases List.mem_cons.1 h with rfl | h
    · exact List.nil_sublist _
    · exact ((ih h).cons _).cons _
  | case3 c cs _ _ ih =>
    rcases List.mem_cons.1 h with rfl | h
    · exact List.nil_sublist _
    · exact (ih h).cons _
  | case4 c cs =>
    obtain rfl := List.mem_singleton.1 h
    exact List.singleton_sublist.2 List.mem_cons_self
  | case5 c cs _ _ first rest hcs ih =>
    rw [hcs] at ih
    rcases List.mem_cons.1 h with rfl | h
    · exact (ih List.mem_cons_self).cons_cons c
    · exact (ih (List.mem_cons_of_mem _ h)).cons c

theorem length_fields (sep : Char) (cs : List Char) :
    (fields sep cs).length = cs.count sep + 1 := by
  induction cs with
  | nil => rfl
  | cons c cs ih =>
    rw [fields, List.count_cons]
    by_cases hc : c = sep
    · simp [hc, ih]
    · have hcount : cs.count sep + 1 ≠ 0 := by omega
      cases hcs : fields sep cs with
      | nil => exact absurd hcs (fields_ne_nil sep cs)
      | cons f fs =>
        rw [hcs] at ih
        simp [hc, ← ih]

theorem forall_mem_intercalate {p : Char → Prop} {sep : Char} {fs : List (List Char)} (hsep : p sep)
    (h : ∀ f ∈ fs, ∀ c ∈ f, p c) : ∀ c ∈ List.intercalate [sep] fs, p c := by
  induction fs with
  | nil => simp
  | cons f fs ih =>
    have hrest := ih fun g hg => h g (List.mem_cons_of_mem f hg)
    cases fs with
    | nil => simpa using h f List.mem_cons_self
    | cons g gs =>
      intro c hc
      rw [List.intercalate_cons_cons, List.append_assoc] at hc
      rcases List.mem_append.1 hc with hc | hc
      · exact h f List.mem_cons_self c hc
      · rcases List.mem_append.1 hc with hc | hc
        · rw [List.mem_singleton.1 hc]
          exact hsep
        · exact hrest c hc

theorem fields_eq_splitOn (sep : Char) (cs : List Char) : fields sep cs = cs.splitOn sep := by
  induction cs with
  | nil => rfl
  | cons c cs ih =>
    rw [fields, List.splitOn_cons_eq_if_modifyHead, ih]
    by_cases hc : c = sep
    · simp [hc]
    · cases hcs : cs.splitOn sep with
      | nil => exact absurd hcs (List.splitOn_ne_nil sep cs)
      | cons f fs => simp [hc]

theorem not_mem_of_mem_fields {sep : Char} {cs f : List Char} (h : f ∈ fields sep cs) :
    sep ∉ f := by
  induction cs generalizing f with
  | nil =>
    obtain rfl := List.mem_singleton.1 h
    exact List.not_mem_nil
  | cons c cs ih =>
    rw [fields] at h
    by_cases hc : c = sep
    · rw [if_pos hc] at h
      rcases List.mem_cons.1 h with rfl | h
      · exact List.not_mem_nil
      · exact ih h
    · rw [if_neg hc] at h
      cases hcs : fields sep cs with
      | nil => exact absurd hcs (fields_ne_nil sep cs)
      | cons g gs =>
        rw [hcs] at h ih
        rcases List.mem_cons.1 h with rfl | h
        · exact List.not_mem_cons_of_ne_of_not_mem (Ne.symm hc) (ih List.mem_cons_self)
        · exact ih (List.mem_cons_of_mem g h)

theorem words_eq_splitOnP (cs : List Char) :
    words cs = (cs.splitOnP isBlank).filter fun w => !w.isEmpty := by
  induction cs with
  | nil => rfl
  | cons c cs ih =>
    rw [List.splitOnP_cons_eq_if_modifyHead]
    by_cases hc : isBlank c = true
    · rw [words_cons_blank hc, if_pos hc, ih]
      rfl
    · rw [words, if_neg hc, if_neg hc, ih]
      unfold putBefore
      -- Whether the character begins a word of its own depends on the next one.
      cases cs with
      | nil => rfl
      | cons d cs =>
        obtain ⟨f, fs, hfs⟩ := List.exists_cons_of_ne_nil (List.splitOnP_ne_nil isBlank cs)
        by_cases hd : isBlank d = true
        · simp only [List.head?_cons, List.splitOnP_cons_eq_if_modifyHead, hd, if_true]
          split <;> simp_all
        · simp [List.splitOnP_cons_eq_if_modifyHead, hd, hfs]

end Provisioning.Text
