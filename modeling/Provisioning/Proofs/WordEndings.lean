import Provisioning.Refusal
import Provisioning.Text.Search

/-!
Texts in which no word ends with a given character, as a property that joining texts keeps. What a
call says that lacks keywords is such a text, whatever function it names and however many names it
lists, since a name that is quoted ends with its delimiter.
-/
namespace Provisioning

namespace Text

def NoWordEndsIn (x : Char) (t : List Char) : Prop := ¬ [x, ' '] <:+: t ∧ t.getLast? ≠ some x

instance (x : Char) (t : List Char) : Decidable (NoWordEndsIn x t) :=
  decidable_of_iff (occursIn [x, ' '] t = false ∧ t.getLast? ≠ some x) (by
    rw [NoWordEndsIn, ← occursIn_eq_true_iff, Bool.not_eq_true])

section NoWordEndsIn

variable {x : Char} {a b : List Char}

theorem NoWordEndsIn.append (ha : NoWordEndsIn x a) (hb : NoWordEndsIn x b) :
    NoWordEndsIn x (a ++ b) := by
  constructor
  · intro h
    rcases List.infix_append_iff.1 h with h | h | ⟨front, back, hword, hfront, hback⟩
    · exact ha.1 h
    · exact hb.1 h
    · match front, hword with
      | [], hword =>
        rw [List.nil_append] at hword
        exact hb.1 (hword ▸ hback.isInfix)
      | [y], hword =>
        obtain ⟨rfl, -⟩ := List.cons.inj hword
        obtain ⟨rest, rfl⟩ := hfront
        exact ha.2 (by simp)
      | [y, z], hword =>
        obtain ⟨hy, hword⟩ := List.cons.inj hword
        obtain ⟨hz, -⟩ := List.cons.inj hword
        rw [← hy, ← hz] at hfront
        exact ha.1 hfront.isInfix
  · rw [List.getLast?_append]
    cases hlast : b.getLast? with
    | none => exact ha.2
    | some y =>
      change some y ≠ some x
      exact hlast ▸ hb.2

theorem noWordEndsIn_of_not_mem (h : x ∉ a) : NoWordEndsIn x a := by
  constructor
  · intro inside
    exact h (inside.subset List.mem_cons_self)
  · intro hlast
    exact h (List.mem_of_getLast? hlast)

theorem noWordEndsIn_of_unbroken (unbroken : ' ' ∉ a) (last : a.getLast? ≠ some x) :
    NoWordEndsIn x a := by
  constructor
  · intro inside
    exact unbroken (inside.subset (by simp))
  · exact last

theorem NoWordEndsIn.intercalate {sep : List Char} {parts : List (List Char)}
    (hsep : NoWordEndsIn x sep) (hparts : ∀ t ∈ parts, NoWordEndsIn x t) :
    NoWordEndsIn x (List.intercalate sep parts) := by
  induction parts with
  | nil => exact noWordEndsIn_of_not_mem (by simp)
  | cons t ts ih =>
    have hts := ih fun u hu => hparts u (List.mem_cons_of_mem t hu)
    cases ts with
    | nil => simpa using hparts t List.mem_cons_self
    | cons u us =>
      rw [List.intercalate_cons_cons]
      exact ((hparts t List.mem_cons_self).append hsep).append hts

end NoWordEndsIn

theorem exists_digit_of_mem_toDigits {b n : Nat} (hb : 1 < b) {c : Char}
    (h : c ∈ Nat.toDigits b n) : ∃ d < b, c = Nat.digitChar d := by
  induction n using Nat.strongRecOn with
  | ind n ih =>
    by_cases hn : n < b
    · rw [Nat.toDigits_of_lt_base hn] at h
      exact ⟨n, hn, List.mem_singleton.1 h⟩
    · have hle : b ≤ n := Nat.le_of_not_lt hn
      rw [Nat.toDigits_of_base_le hb hle] at h
      rcases List.mem_append.1 h with h | h
      · exact ih (n / b) (Nat.div_lt_self (by omega) hb) h
      · exact ⟨n % b, Nat.mod_lt n (by omega), List.mem_singleton.1 h⟩

theorem blank_not_mem_escapedCode (c : Char) : ' ' ∉ escapedCode c := by
  have hdigits (width n : Nat) : ' ' ∉ hexDigits width n := by
    intro h
    rcases List.mem_append.1 h with h | h
    · have hzero := List.eq_of_mem_replicate h
      revert hzero
      decide
    · have hletters : ∀ d < 16, ' ' ≠ Nat.digitChar d := by decide
      obtain ⟨d, hlt, hd⟩ := exists_digit_of_mem_toDigits (by decide) h
      exact hletters d hlt hd
  simp only [escapedCode]
  split
  · simp [hdigits]
  · split <;> simp [hdigits]

theorem blank_not_mem_escapedChar (d : Char) {c : Char} (hc : c ≠ ' ') :
    ' ' ∉ escapedChar d c := by
  unfold escapedChar
  split
  · simp [hc.symm]
  · split
    · simp
    · split
      · simp
      · split
        · simp
        · split
          · simp [hc.symm]
          · exact blank_not_mem_escapedCode c

theorem delimiter_cases (cs : List Char) : delimiter cs = '"' ∨ delimiter cs = '\'' := by
  unfold delimiter
  split
  · exact .inl rfl
  · exact .inr rfl

theorem noWordEndsIn_quoted {s : String} (h : ' ' ∉ s.toList) :
    NoWordEndsIn 'l' (quoted s).toList := by
  have hblank : delimiter s.toList ≠ ' ' := by
    rcases delimiter_cases s.toList with hd | hd <;> simp [hd]
  apply noWordEndsIn_of_unbroken
  · simp only [quoted, String.toList_ofList, List.mem_append, List.mem_cons, List.mem_flatMap,
      List.not_mem_nil, or_false]
    rintro ((hd | ⟨c, hc, hmem⟩) | hd)
    · exact hblank hd.symm
    · have hne : c ≠ ' ' := by
        rintro rfl
        exact h hc
      exact blank_not_mem_escapedChar _ hne hmem
    · exact hblank hd.symm
  · have hlast : (quoted s).toList.getLast? = some (delimiter s.toList) := by
      rw [quoted, String.toList_ofList, List.getLast?_append]
      rfl
    rw [hlast]
    rcases delimiter_cases s.toList with hd | hd <;> simp [hd]

end Text

namespace Refusal

open Text

theorem noWordEndsIn_spokenList {names : List String} (h : ∀ name ∈ names, ' ' ∉ name.toList) :
    NoWordEndsIn 'l' (spokenList names).toList := by
  have hquoted : ∀ s ∈ names.map quoted, NoWordEndsIn 'l' s.toList := by
    intro s hs
    obtain ⟨name, hname, rfl⟩ := List.mem_map.1 hs
    exact noWordEndsIn_quoted (h name hname)
  unfold spokenList
  generalize names.map quoted = spoken at hquoted
  match spoken with
  | [] => exact noWordEndsIn_of_not_mem (by simp)
  | [a] => exact hquoted a List.mem_cons_self
  | [a, b] =>
    simp only [String.toList_append]
    exact ((hquoted a (by simp)).append (by decide)).append (hquoted b (by simp))
  | a :: b :: c :: rest =>
    simp only [String.toList_append, String.toList_intercalate]
    refine (NoWordEndsIn.append ?_ (by decide)).append ?_
    · refine NoWordEndsIn.intercalate (by decide) ?_
      intro t ht
      obtain ⟨s, hs, rfl⟩ := List.mem_map.1 ht
      exact hquoted s (List.dropLast_subset _ hs)
    · rw [List.getLast?_eq_some_getLast (by simp), Option.getD_some]
      exact hquoted _ (List.getLast_mem _)

theorem noWordEndsIn_message {callee : String} {names : List String}
    (hcallee : NoWordEndsIn 'l' callee.toList) (h : ∀ name ∈ names, ' ' ∉ name.toList) :
    NoWordEndsIn 'l' (missingArguments callee false names).message.toList := by
  have hcount : NoWordEndsIn 'l' (toString names.length).toList := by
    apply noWordEndsIn_of_not_mem
    rw [Nat.toString_eq_repr, Nat.toList_repr]
    intro hmem
    exact absurd (Nat.isDigit_of_mem_toDigits (by decide) (by decide) hmem) (by decide)
  have hmissing : NoWordEndsIn 'l' "() missing ".toList := by decide
  have hrequired : NoWordEndsIn 'l' " required ".toList := by decide
  have hkind : NoWordEndsIn 'l' "keyword-only".toList := by decide
  have hnoun : NoWordEndsIn 'l'
      (if names.length = 1 then " argument: " else " arguments: ").toList := by
    split <;> decide
  change NoWordEndsIn 'l' (callee ++ "() missing " ++ toString names.length ++ " required " ++
    "keyword-only" ++ (if names.length = 1 then " argument: " else " arguments: ") ++
      spokenList names).toList
  simp only [String.toList_append]
  exact (((((hcallee.append hmissing).append hcount).append hrequired).append hkind).append
    hnoun).append (noWordEndsIn_spokenList h)

end Refusal

end Provisioning
