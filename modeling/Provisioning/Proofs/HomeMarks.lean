import Provisioning.Proofs.Candidates

/-!
The file that is found and the file that is loaded. Finding looks a path up as it is written, while
loading first puts a home directory in the place of a marked component. So the two mean the same
file if the path is not marked, but only by coincidence if it is. A candidate that is a link is
found although nothing can be loaded through it.
-/
namespace Provisioning

namespace Path

variable {place : Place} {p : Path} {account : String}

/-- The account whose home directory stands in the place of the first component. -/
def account? (p : Path) : Option String :=
  match p.root, p.parts with
  | "", first :: _ =>
    match first.toList with
    | '~' :: account => some (String.ofList account)
    | _ => none
  | _, _ => none

def under (home : String) (p : Path) : Path :=
  { ofString home with parts := (ofString home).parts ++ p.parts.tail }

theorem expand_of_unmarked (unmarked : p.account? = none) : p.expand place = .ok p := by
  unfold account? at unmarked
  unfold expand
  split at unmarked
  · split at unmarked
    · cases unmarked
    · simp_all
  · simp_all

theorem expand_of_marked (marked : p.account? = some account) (visible : p.hasNul = false) :
    p.expand place = match place.homes.lookup account with
      | none => .error .noHome
      | some home => .ok (p.under home) := by
  obtain ⟨root, parts⟩ := p
  unfold account? at marked
  split at marked
  · rename_i first rest hroot hparts
    split at marked
    · rename_i letters hfirst
      obtain rfl := Option.some.inj marked
      obtain rfl : root = "" := hroot
      obtain rfl : parts = first :: rest := hparts
      have hvisible : letters.contains '\x00' = false := by
        have h := hasNul_eq_false_iff.1 visible first List.mem_cons_self
        simpa [hfirst] using h
      simp only [expand, hfirst, hvisible]
      rfl
    · cases marked
  · cases marked

theorem expand_eq_ok_iff {q : Path} (visible : p.hasNul = false) :
    p.expand place = .ok q ↔ p.account? = none ∧ q = p ∨ ∃ account home,
      p.account? = some account ∧ place.homes.lookup account = some home ∧ q = p.under home := by
  cases marked : p.account? with
  | none => simp [expand_of_unmarked marked, eq_comm]
  | some account =>
    rw [expand_of_marked marked visible]
    cases hhome : place.homes.lookup account <;> simp [hhome, eq_comm]

end Path

namespace Discovery

open PipelineFile (Examines contentAt contentOf contentAt_of_examines)

variable {files : FileTree PipelineFile} {place : Place} {asked : Option String} {p : Path}
  {spot : List String}

theorem exists_located_of_contains (h : files.contains place p = .ok true) :
    ∃ spot, files.locate place p = .ok (some spot) := by
  obtain ⟨found, located, hfound⟩ := Refusable.bind_eq_ok.1 h
  obtain ⟨spot, rfl⟩ := Option.isSome_iff_exists.1 (Except.ok.inj hfound)
  exact ⟨spot, located⟩

/-- The spot that a path means: what stands there is reached by it, or is a link of that name in the
current directory. -/
inductive Denotes (files : FileTree PipelineFile) (place : Place) : Path → List String → Prop
  | located {p : Path} {spot : List String} (located : files.locate place p = .ok (some spot)) :
    Denotes files place p spot
  | link {n : String} {target : List String} (plain : n ≠ "..")
    (dangling : files.node? (place.cwd ++ [n]) = some (.dangling target)) :
    Denotes files place ⟨"", [n]⟩ (place.cwd ++ [n])

theorem located_of_denotes (denotes : Denotes files place p spot)
    (present : files.hasAt spot = true) : files.locate place p = .ok (some spot) := by
  cases denotes with
  | located located => exact located
  | link plain dangling =>
    rw [FileTree.hasAt, dangling] at present
    cases present

theorem nameFits_of_dangling {n : String} {target : List String} (lies : place.LiesIn files)
    (dangling : files.node? (place.cwd ++ [n]) = some (.dangling target)) : NameFits n :=
  lies.entries n (FileTree.mem_names_iff.2 (by rw [dangling]; rfl))

theorem hasNul_of_denotes (lies : place.LiesIn files) (denotes : Denotes files place p spot) :
    p.hasNul = false := by
  cases denotes with
  | located located => exact (FileTree.locate_eq_some_iff.1 located).1
  | link plain dangling =>
    exact Path.hasNul_eq_false_iff.2 (by simpa using (nameFits_of_dangling lies dangling).2)

/-- A file that is found is there under the very path that is given back, unless it is a link. -/
theorem exists_denotes_of_find (lies : place.LiesIn files)
    (found : find files place asked = .ok (.file p)) : ∃ spot, Denotes files place p spot := by
  by_cases unasked : asked = none ∨ asked = some ""
  · obtain ⟨names, named, -, hmem⟩ := candidates_of_liesIn lies
    rw [find_unasked named unasked] at found
    match names with
    | [] => cases found
    | [n] =>
      obtain rfl := Found.file.inj (Except.ok.inj found)
      obtain ⟨listed, ending, -⟩ := (hmem n).1 List.mem_cons_self
      have fits : NameFits n := lies.entries n (FileTree.mem_names_iff.2 listed)
      have plain : n ≠ ".." := by
        rintro rfl
        exact absurd ending (by decide)
      refine ⟨place.cwd ++ [n], ?_⟩
      by_cases present : files.hasAt (place.cwd ++ [n]) = true
      · exact .located (by rw [FileTree.locate_name lies fits plain, if_pos present])
      · rw [FileTree.hasAt_iff listed] at present
        push Not at present
        obtain ⟨target, dangling⟩ := present
        exact .link plain dangling
    | _ :: _ :: _ => cases found
  · rw [not_or] at unasked
    unfold find at found
    split at found
    · exact absurd rfl unasked.1
    · exact absurd rfl unasked.2
    · obtain ⟨q, -, found⟩ := Refusable.bind_eq_ok.1 found
      obtain ⟨present, contained, found⟩ := Refusable.bind_eq_ok.1 found
      cases present with
      | true =>
        obtain rfl := Found.file.inj (Except.ok.inj found)
        obtain ⟨spot, located⟩ := exists_located_of_contains contained
        exact ⟨spot, .located located⟩
      | false => cases found

/-- The spot holds no link, its absolute path is not too long, and the path is not marked or leads
to the spot also under the home directory. -/
def Kept (files : FileTree PipelineFile) (place : Place) (p : Path) (spot : List String) : Prop :=
  files.hasAt spot = true ∧ (Path.mk "/" spot).toString.utf8ByteSize < pathLimit ∧
    (p.account? = none ∨ ∃ account home, p.account? = some account ∧
      place.homes.lookup account = some home ∧
      files.resolve place (p.under home) = .ok ⟨"/", spot⟩)

section Loaded

variable (lies : place.LiesIn files) (denotes : Denotes files place p spot)

include lies denotes

theorem examines_iff_kept : (∃ r, Examines files place p r spot) ↔ Kept files place p spot := by
  have visible := hasNul_of_denotes lies denotes
  constructor
  · rintro ⟨r, q, expanded, resolved, again⟩
    obtain rfl := FileTree.eq_of_located_resolved resolved again
    refine ⟨FileTree.hasAt_of_located again, (FileTree.locate_eq_some_iff.1 again).2.1, ?_⟩
    rcases (Path.expand_eq_ok_iff visible).1 expanded with
      ⟨unmarked, -⟩ | ⟨account, home, marked, hhome, rfl⟩
    · exact .inl unmarked
    · exact .inr ⟨account, home, marked, hhome, resolved⟩
  · rintro ⟨present, short, kept⟩
    have located := located_of_denotes denotes present
    have hspot := FileTree.locate_resolved lies located
    rw [if_pos short] at hspot
    rcases kept with unmarked | ⟨account, home, marked, hhome, resolved⟩
    · have resolved := (FileTree.resolve_of_located located).1
      exact ⟨_, p, Path.expand_of_unmarked unmarked, resolved, hspot⟩
    · have expanded : p.expand place = .ok (p.under home) :=
        (Path.expand_eq_ok_iff visible).2 (.inr ⟨account, home, marked, hhome, rfl⟩)
      exact ⟨_, p.under home, expanded, resolved, hspot⟩

theorem contentAt_of_kept (kept : Kept files place p spot) :
    contentAt files place p = contentOf files ⟨"/", spot⟩ spot := by
  obtain ⟨r, examines⟩ := (examines_iff_kept lies denotes).2 kept
  have hr : r = ⟨"/", spot⟩ := by
    obtain ⟨_, -, resolved, again⟩ := examines
    exact FileTree.eq_of_located_resolved resolved again
  rw [contentAt_of_examines examines, hr]

theorem contentAt_of_long (present : files.hasAt spot = true) (unmarked : p.account? = none)
    (long : pathLimit ≤ (Path.mk "/" spot).toString.utf8ByteSize) :
    contentAt files place p = .error (.nameTooLong (Path.mk "/" spot).toString) := by
  have located := located_of_denotes denotes present
  have hspot := FileTree.locate_resolved lies located
  rw [if_neg (Nat.not_lt.2 long)] at hspot
  simp only [contentAt, Path.expand_of_unmarked unmarked, (FileTree.resolve_of_located located).1,
    hspot, bind, Except.bind]

theorem contentAt_of_dangling {target : List String} (unmarked : p.account? = none)
    (dangling : files.node? spot = some (.dangling target)) :
    contentAt files place p = .error (.fileMissing (Path.mk "/" target).toString) := by
  cases denotes with
  | located located =>
    have present := FileTree.hasAt_of_located located
    rw [FileTree.hasAt, dangling] at present
    cases present
  | link plain =>
    have resolved := FileTree.resolve_link lies (nameFits_of_dangling lies dangling) plain dangling
    have missing : files.locate place _ = .ok none :=
      FileTree.locate_vacant (FileTree.vacant_of_dangling dangling)
    simp only [contentAt, Path.expand_of_unmarked unmarked, resolved, missing, bind, Except.bind]

end Loaded

theorem contentAt_of_marked {account : String} (visible : p.hasNul = false)
    (marked : p.account? = some account) :
    (place.homes.lookup account = none → contentAt files place p = .error .noHome) ∧
    ∀ home r, place.homes.lookup account = some home → files.resolve place (p.under home) = .ok r →
      (files.locate place r = .ok none →
        contentAt files place p = .error (.fileMissing r.toString)) ∧
      ∀ spot, files.locate place r = .ok (some spot) →
        contentAt files place p = contentOf files r spot := by
  have expanded : p.expand place = match place.homes.lookup account with
      | none => .error .noHome
      | some home => .ok (p.under home) := Path.expand_of_marked marked visible
  constructor
  · intro homeless
    rw [homeless] at expanded
    exact Refusable.bind_of_error expanded _
  · intro home r hhome resolved
    rw [hhome] at expanded
    constructor
    · intro missing
      simp only [contentAt, expanded, resolved, missing, bind, Except.bind]
    · intro spot again
      exact contentAt_of_examines ⟨_, expanded, resolved, again⟩

/-- What is found is there, or is a link, and loading comes to it exactly if it is kept: then it
loads what stands at that spot. Otherwise a link without a mark leads nowhere, any other unmarked
path has become too long by being made absolute, and for a marked one there is no home directory,
or nothing is there under it, or another file that is loaded in place of the one found. -/
theorem found_loaded (lies : place.LiesIn files)
    (found : find files place asked = .ok (.file p)) :
    ∃ spot, Denotes files place p spot ∧
      ((∃ r, Examines files place p r spot) ↔ Kept files place p spot) ∧
      (Kept files place p spot → contentAt files place p = contentOf files ⟨"/", spot⟩ spot) ∧
      (p.account? = none → ¬ Kept files place p spot →
        (files.hasAt spot = true →
          contentAt files place p = .error (.nameTooLong (Path.mk "/" spot).toString)) ∧
        ∀ target, files.node? spot = some (.dangling target) →
          contentAt files place p = .error (.fileMissing (Path.mk "/" target).toString)) ∧
      ∀ account, p.account? = some account →
        (place.homes.lookup account = none → contentAt files place p = .error .noHome) ∧
        ∀ home r, place.homes.lookup account = some home →
          files.resolve place (p.under home) = .ok r →
          (files.locate place r = .ok none →
            contentAt files place p = .error (.fileMissing r.toString)) ∧
          ∀ spot', files.locate place r = .ok (some spot') →
            contentAt files place p = contentOf files r spot' := by
  obtain ⟨spot, denotes⟩ := exists_denotes_of_find lies found
  have visible := hasNul_of_denotes lies denotes
  refine ⟨spot, denotes, examines_iff_kept lies denotes, contentAt_of_kept lies denotes, ?_, ?_⟩
  · intro unmarked unkept
    constructor
    · intro present
      have long : pathLimit ≤ (Path.mk "/" spot).toString.utf8ByteSize :=
        Nat.le_of_not_lt fun short => unkept ⟨present, short, .inl unmarked⟩
      exact contentAt_of_long lies denotes present unmarked long
    · exact fun target dangling => contentAt_of_dangling lies denotes unmarked dangling
  · exact fun account marked => contentAt_of_marked visible marked

open CommandLine (lone lonePath finds_lone) in
theorem found_loaded_lone :
    (lone {}).place.LiesIn (lone {}).files ∧
    find (lone {}).files (lone {}).place none = .ok (.file lonePath) ∧
      ∃ spot, Kept (lone {}).files (lone {}).place lonePath spot ∧
        ∃ r, Examines (lone {}).files (lone {}).place lonePath r spot := by
  have lies : (lone {}).place.LiesIn (lone {}).files := ⟨rfl, rfl, by decide, by decide⟩
  have found : find (lone {}).files (lone {}).place none = .ok (.file lonePath) :=
    finds_lone {} (g := []) rfl
  refine ⟨lies, found, ?_⟩
  obtain ⟨spot, denotes, hkept, -⟩ := found_loaded lies found
  obtain rfl : spot = [defaultFile] := by
    cases denotes with
    | located located => exact (Option.some.inj (Except.ok.inj located)).symm
    | link plain dangling => cases dangling
  have kept : Kept (lone {}).files (lone {}).place lonePath [defaultFile] :=
    ⟨rfl, by decide, .inl rfl⟩
  exact ⟨_, kept, hkept.2 kept⟩

def markedFiles : FileTree PipelineFile :=
  ⟨[(["~_pipeline.py"], .file {}), (["~"], .directory), (["~", "x.py"], .file {}),
    (["~", "y.py"], .file {}), (["home"], .directory),
    (["home", "y.py"], .file { steps := some (.ok (.list [])) })], by decide, by decide⟩

def linkFiles : FileTree PipelineFile := .addLink .empty ["b_pipeline.py"] ["gone.py"]

/-- Four files that are found: for the first there is no home directory, the second is missing
there, in place of the third another one is loaded, and the fourth is a link. -/
theorem markedFiles_stray :
    let place : Place := ⟨[], [("", "/home")]⟩
    place.LiesIn markedFiles ∧
    (find markedFiles place none = .ok (.file ⟨"", ["~_pipeline.py"]⟩) ∧
      contentAt markedFiles place ⟨"", ["~_pipeline.py"]⟩ = .error .noHome) ∧
    (find markedFiles place (some "~/x.py") = .ok (.file ⟨"", ["~", "x.py"]⟩) ∧
      contentAt markedFiles place ⟨"", ["~", "x.py"]⟩ = .error (.fileMissing "/home/x.py")) ∧
    (find markedFiles place (some "~/y.py") = .ok (.file ⟨"", ["~", "y.py"]⟩) ∧
      markedFiles.locate place ⟨"", ["~", "y.py"]⟩ = .ok (some ["~", "y.py"]) ∧
      markedFiles.node? ["~", "y.py"] = some (.file {}) ∧
      contentAt markedFiles place ⟨"", ["~", "y.py"]⟩ =
        .ok { steps := some (.ok (.list [])) }) ∧
    find linkFiles place none = .ok (.file ⟨"", ["b_pipeline.py"]⟩) ∧
      contentAt linkFiles place ⟨"", ["b_pipeline.py"]⟩ = .error (.fileMissing "/gone.py") := by
  intro place
  have absent : markedFiles.contains place (Path.ofString defaultFile) = .ok false := rfl
  have single : candidates markedFiles place = .ok [⟨"", ["~_pipeline.py"]⟩] :=
    CommandLine.candidates_of_sorted absent rfl (List.pairwise_singleton _ _)
  have elsewhere : Examines markedFiles place ⟨"", ["~", "y.py"]⟩ ⟨"/", ["home", "y.py"]⟩
      ["home", "y.py"] := ⟨⟨"/", ["home", "y.py"]⟩, rfl, rfl, rfl⟩
  have nowhere : linkFiles.contains place (Path.ofString defaultFile) = .ok false := rfl
  have link : candidates linkFiles place = .ok [⟨"", ["b_pipeline.py"]⟩] :=
    CommandLine.candidates_of_sorted nowhere rfl (List.pairwise_singleton _ _)
  refine ⟨⟨rfl, rfl, by decide, by decide⟩, ⟨?_, rfl⟩, ⟨rfl, rfl⟩, ⟨rfl, rfl, rfl, ?_⟩, ?_, rfl⟩
  · exact Refusable.bind_eq_ok.2 ⟨_, single, rfl⟩
  · rw [contentAt_of_examines elsewhere]
    exact PipelineFile.contentOf_eq_ok_iff.2 ⟨by cbv, .file rfl⟩
  · exact Refusable.bind_eq_ok.2 ⟨_, link, rfl⟩

end Discovery
end Provisioning
