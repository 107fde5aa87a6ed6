import Provisioning.Proofs.Cutting
import Provisioning.Proofs.Refusable
import Provisioning.Target.Host

/-!
Paths and the texts that name them. The components of a path that was read from a text or made
absolute are names, and a path from the root down whose components are names is read back as it was
written. So a host that is told to work in a resolved path works in that very path.
-/
namespace Provisioning.Path

def IsName (n : String) : Prop := n ≠ "" ∧ n ≠ "." ∧ '/' ∉ n.toList

instance (n : String) : Decidable (IsName n) := inferInstanceAs (Decidable (_ ∧ _ ∧ _))

theorem isName_of_mem_ofString {s n : String} (h : n ∈ (ofString s).parts) : IsName n := by
  obtain ⟨hfield, given⟩ := List.mem_filter.1 h
  obtain ⟨f, hf, rfl⟩ := List.mem_map.1 hfield
  have hgiven : String.ofList f ≠ "" ∧ String.ofList f ≠ "." := by simpa using given
  refine ⟨hgiven.1, hgiven.2, ?_⟩
  rw [String.toList_ofList]
  exact Text.not_mem_of_mem_fields hf

theorem collapse_subset (parts : List String) : collapse parts ⊆ parts := by
  have hstep (done : List String) : parts.foldl
      (fun done p => if p = ".." then done.dropLast else done ++ [p]) done ⊆ done ++ parts := by
    induction parts generalizing done with
    | nil => simp
    | cons p parts ih =>
      intro n hn
      have hrest := ih _ hn
      dsimp only at hrest
      by_cases hp : p = ".."
      · rw [if_pos hp] at hrest
        rcases List.mem_append.1 hrest with h | h
        · exact List.mem_append_left _ (List.dropLast_subset done h)
        · exact List.mem_append_right _ (List.mem_cons_of_mem p h)
      · rw [if_neg hp] at hrest
        simpa using hrest
  exact hstep []

theorem eq_of_resolve {place : Place} {p path : Path} (resolved : p.resolve place = .ok path) :
    path = ⟨"/", collapse (p.absoluteParts place)⟩ := by
  unfold resolve at resolved
  split at resolved
  · cases resolved
  · exact (Except.ok.inj resolved).symm

theorem isName_of_mem_resolve {place : Place} {s n : String} {path : Path}
    (names : ∀ m ∈ place.cwd, IsName m) (resolved : (ofString s).resolve place = .ok path)
    (h : n ∈ path.parts) : IsName n := by
  obtain rfl := eq_of_resolve resolved
  have hmem := collapse_subset _ h
  unfold absoluteParts at hmem
  split at hmem
  · exact isName_of_mem_ofString hmem
  · rcases List.mem_append.1 hmem with hmem | hmem
    · exact names n hmem
    · exact isName_of_mem_ofString hmem

section Names

variable {parts : List String} (names : ∀ n ∈ parts, IsName n)

include names

theorem rootOf_intercalate :
    rootOf ('/' :: (String.intercalate "/" parts).toList) = "/" := by
  cases parts with
  | nil => rfl
  | cons n parts =>
    obtain ⟨nonempty, -, unslashed⟩ := names n List.mem_cons_self
    have hhead : ∃ c cs, n.toList = c :: cs ∧ c ≠ '/' := by
      cases hn : n.toList with
      | nil => exact absurd (String.toList_inj.1 hn) nonempty
      | cons c cs =>
        refine ⟨c, cs, rfl, ?_⟩
        rintro rfl
        exact unslashed (hn ▸ List.mem_cons_self)
    obtain ⟨c, cs, hn, hc⟩ := hhead
    have htext : ∃ rest, (String.intercalate "/" (n :: parts)).toList = c :: rest := by
      rw [String.toList_intercalate, List.map_cons, hn]
      cases parts <;> simp
    obtain ⟨rest, htext⟩ := htext
    rw [htext]
    unfold rootOf
    split <;> simp_all

theorem ofString_toString : ofString (Path.mk "/" parts).toString = Path.mk "/" parts := by
  have htext : (Path.mk "/" parts).toString.toList =
      '/' :: (String.intercalate "/" parts).toList := by
    simp [toString]
  have hfields : (Text.fields '/' (String.intercalate "/" parts).toList).map String.ofList =
      if parts = [] then [""] else parts := by
    by_cases hempty : parts = []
    · simp [hempty, Text.fields]
    · have unslashed : ∀ f ∈ parts.map String.toList, '/' ∉ f := by
        rw [List.forall_mem_map]
        exact fun n hn => (names n hn).2.2
      rw [if_neg hempty, String.toList_intercalate, Text.fields_eq_splitOn]
      change (List.splitOn '/' (List.intercalate ['/'] _)).map String.ofList = parts
      rw [List.splitOn_intercalate '/' unslashed (by simpa using hempty), List.map_map]
      simp [Function.comp_def]
  have kept : parts.filter (fun p => p != "" && p != ".") = parts := by
    apply List.filter_eq_self.2
    intro n hn
    obtain ⟨nonempty, undotted, -⟩ := names n hn
    simp [nonempty, undotted]
  unfold ofString
  rw [htext, rootOf_intercalate names, Text.fields, if_pos rfl, List.map_cons, hfields]
  by_cases hempty : parts = []
  · simp [hempty]
  · simp [hempty, kept]

end Names

theorem expand_of_absolute {place : Place} {p : Path} (h : p.isAbsolute = true) :
    p.expand place = .ok p := by
  unfold expand
  split
  · simp_all [isAbsolute]
  · rfl

theorem hostWorkdir_resolved {place : Place} {s : String} {path : Path}
    (names : ∀ n ∈ place.cwd, IsName n) (resolved : (ofString s).resolve place = .ok path) :
    Target.hostWorkdir place path.toString = .ok path.toString := by
  have hnames (n : String) (h : n ∈ path.parts) : IsName n :=
    isName_of_mem_resolve names resolved h
  have absolute := isAbsolute_of_resolve resolved
  obtain rfl := eq_of_resolve resolved
  unfold Target.hostWorkdir
  rw [ofString_toString hnames, expand_of_absolute absolute]
  rfl

theorem toString_ne_empty {path : Path} (h : path.isAbsolute = true) : path.toString ≠ "" := by
  have hroot : path.root ≠ "" := by simpa [isAbsolute] using h
  simp [toString, hroot]

theorem isName_of_mem_expand {place : Place} {s n : String} {path : Path}
    (expanded : (ofString s).expand place = .ok path) (h : n ∈ path.parts) : IsName n := by
  have unchanged (same : Except.ok (ε := Refusal) (ofString s) = .ok path) : IsName n := by
    obtain rfl := Except.ok.inj same
    exact isName_of_mem_ofString h
  unfold expand at expanded
  split at expanded
  · rename_i first rest _ hparts
    split at expanded
    · split at expanded
      · cases expanded
      · split at expanded
        · cases expanded
        · obtain rfl := Except.ok.inj expanded
          rcases List.mem_append.1 h with h | h
          · exact isName_of_mem_ofString h
          · exact isName_of_mem_ofString (hparts ▸ List.mem_cons_of_mem first h)
    · exact unchanged expanded
  · exact unchanged expanded

theorem toString_ne_empty_of_names {path : Path} (names : ∀ n ∈ path.parts, IsName n) :
    path.toString ≠ "" := by
  by_cases hroot : path.root = ""
  · unfold toString
    cases hparts : path.parts with
    | nil => simp [hroot]
    | cons n parts =>
      have nonempty : n ≠ "" := (names n (hparts ▸ List.mem_cons_self)).1
      rw [if_neg (by simp), hroot, String.empty_append]
      intro empty
      have hchars := congrArg String.toList empty
      rw [String.toList_intercalate, List.map_cons] at hchars
      cases parts <;> simp_all
  · exact toString_ne_empty (by simpa [isAbsolute] using hroot)

theorem hostWorkdir_ne_empty {place : Place} {given d : String}
    (h : Target.hostWorkdir place given = .ok d) : d ≠ "" := by
  obtain ⟨path, expanded, made⟩ := Refusable.bind_eq_ok.1 h
  obtain rfl := Except.ok.inj made
  exact toString_ne_empty_of_names fun n => isName_of_mem_expand expanded

end Provisioning.Path
