import Mathlib.Data.List.Nodup
import Mathlib.Data.List.Perm.Subperm
import Provisioning.Proofs.LoadFaults
import Provisioning.Proofs.Walking

/-!
The candidates for a pipeline file that is not asked for: every entry of the current directory whose
name has the ending, once and in the order of their names, the default file among the others unless
it is a link that leads nowhere. With none of them the built-in pipeline is used and with one of
them that one; with more a command stops before it does anything, and names them all.
-/
namespace Provisioning

namespace FileTree

variable {α : Type} {t : FileTree α} {dir spot : List String} {n : String}

def entryOf (dir spot : List String) : Option String :=
  if spot ≠ [] && spot.dropLast = dir then spot.getLast? else none

theorem entryOf_eq_some_iff : entryOf dir spot = some n ↔ spot = dir ++ [n] := by
  rcases List.eq_nil_or_concat spot with rfl | ⟨front, last, rfl⟩
  · simp [entryOf]
  · simp [entryOf]

theorem names_eq (t : FileTree α) (dir : List String) :
    t.names dir = (t.nodes.map Prod.fst).filterMap (entryOf dir) := by
  rw [List.filterMap_map]
  rfl

theorem mem_names_iff : n ∈ t.names dir ↔ (t.node? (dir ++ [n])).isSome = true := by
  have hnonempty : dir ++ [n] ≠ [] := by simp
  rw [names_eq, List.mem_filterMap, node?, if_neg hnonempty, List.lookup_isSome_iff]
  simp [entryOf_eq_some_iff]

theorem isSome_of_hasAt (h : t.hasAt spot = true) : (t.node? spot).isSome = true := by
  cases hnode : t.node? spot with
  | none =>
    rw [hasAt, hnode] at h
    cases h
  | some n => rfl

theorem hasAt_iff (listed : (t.node? spot).isSome = true) :
    t.hasAt spot = true ↔ ∀ target, t.node? spot ≠ some (.dangling target) := by
  obtain ⟨node, hnode⟩ := Option.isSome_iff_exists.1 listed
  rw [hasAt, hnode]
  cases node <;> simp [Node.isThere]

theorem nodup_names (t : FileTree α) (dir : List String) : (t.names dir).Nodup := by
  rw [names_eq]
  refine List.Nodup.filterMap (fun a b n ha hb => ?_) t.distinct
  rw [entryOf_eq_some_iff.1 ha, entryOf_eq_some_iff.1 hb]

end FileTree

namespace Discovery

variable {files : FileTree PipelineFile} {place : Place}

theorem isCandidate_iff {n : String} : isCandidate n = true ↔ nameEnding.toList <:+ n.toList :=
  List.isSuffixOf_iff_suffix

theorem pairwise_lt_mergeSort {names : List String} (distinct : names.Nodup) :
    (names.mergeSort fun a b => !decide (b < a)).Pairwise (· < ·) := by
  let le : String → String → Bool := fun a b => !decide (b < a)
  have le_iff (a b : String) : le a b = true ↔ a ≤ b := by
    simp only [le, Bool.not_eq_true', decide_eq_false_iff_not, String.not_lt]
  have sorted : (names.mergeSort le).Pairwise fun a b => le a b = true := by
    refine List.pairwise_mergeSort (fun a b c hab hbc => ?_) (fun a b => ?_) names
    · rw [le_iff] at hab hbc ⊢
      exact String.le_trans hab hbc
    · rw [Bool.or_eq_true, le_iff, le_iff]
      exact String.le_total a b
  have distinct := (List.mergeSort_perm names le).nodup_iff.2 distinct
  refine (sorted.and distinct).imp fun {a b} ⟨hle, hne⟩ => ?_
  rw [← String.not_le]
  exact fun hge => hne (String.le_antisymm ((le_iff a b).1 hle) hge)

theorem candidates_of_liesIn (lies : place.LiesIn files) :
    ∃ names : List String, candidates files place = .ok (names.map fun n => ⟨"", [n]⟩) ∧
      names.Pairwise (· < ·) ∧ ∀ n, n ∈ names ↔
        (files.node? (place.cwd ++ [n])).isSome = true ∧ nameEnding.toList <:+ n.toList ∧
          (n = defaultFile → files.hasAt (place.cwd ++ [n]) = true) := by
  have hdefault : Path.ofString defaultFile = ⟨"", [defaultFile]⟩ := by decide
  have contained : files.contains place (Path.ofString defaultFile) =
      .ok (files.hasAt (place.cwd ++ [defaultFile])) := by
    rw [hdefault, FileTree.contains, FileTree.locate_name lies (by decide) (by decide)]
    cases files.hasAt (place.cwd ++ [defaultFile]) <;> rfl
  let others := (files.names place.cwd).filter fun n => isCandidate n && n != defaultFile
  let first := if files.hasAt (place.cwd ++ [defaultFile]) then [defaultFile] else []
  have hfirst (n : String) : n ∈ first ↔
      n = defaultFile ∧ files.hasAt (place.cwd ++ [n]) = true := by
    unfold first
    split <;> simp_all
  have hothers (n : String) : n ∈ others ↔ (files.node? (place.cwd ++ [n])).isSome = true ∧
      nameEnding.toList <:+ n.toList ∧ n ≠ defaultFile := by
    simp [others, FileTree.mem_names_iff, isCandidate_iff]
  have hmem (n : String) : n ∈ first ++ others ↔
      (files.node? (place.cwd ++ [n])).isSome = true ∧ nameEnding.toList <:+ n.toList ∧
        (n = defaultFile → files.hasAt (place.cwd ++ [n]) = true) := by
    rw [List.mem_append, hfirst, hothers]
    by_cases hn : n = defaultFile
    · have ending : nameEnding.toList <:+ n.toList := hn ▸ isCandidate_iff.1 (by decide)
      have listed : files.hasAt (place.cwd ++ [n]) = true →
          (files.node? (place.cwd ++ [n])).isSome = true := FileTree.isSome_of_hasAt
      simp only [hn] at ending listed ⊢
      simp [ending, and_iff_right_of_imp listed]
    · simp [hn]
  have distinct : (first ++ others).Nodup := by
    refine List.nodup_append.2 ⟨?_, (files.nodup_names place.cwd).filter _, fun a ha b hb => ?_⟩
    · unfold first
      split <;> simp
    · rw [((hfirst a).1 ha).1]
      exact ((hothers b).1 hb).2.2.symm
  have sorted := pairwise_lt_mergeSort distinct
  refine ⟨_, Refusable.bind_eq_ok.2 ⟨_, contained, rfl⟩, sorted, fun n => ?_⟩
  rw [List.mem_mergeSort]
  exact hmem n

theorem find_unasked {paths : List Path} {asked : Option String}
    (named : candidates files place = .ok paths) (unasked : asked = none ∨ asked = some "") :
    find files place asked = .ok (match paths with
      | [] => .builtin
      | [p] => .file p
      | several => .ambiguous several) := by
  rcases unasked with rfl | rfl
  all_goals
    refine Refusable.bind_eq_ok.2 ⟨paths, named, ?_⟩
    rcases paths with _ | ⟨p, _ | ⟨q, rest⟩⟩ <;> rfl

end Discovery

namespace CommandLine

open Activity

variable {σ : Type} {u : Surroundings} {w : World σ} {arguments : List String} {c : Console}
  {g : Given} {paths : List Path}

/-- The arguments call a command that looks for a pipeline file. -/
def Looks (u : Surroundings) (arguments : List String) (c : Console) (g : Given) : Prop :=
  Invokes (runCommand u.settings).options "run" arguments c g ∨
    Invokes (planCommand u.settings).options "plan" arguments c g

theorem withPipelineFile_of_ambiguous {spec : CommandSpec} {pointless : List String}
    {proceed : Option Path → Activity Event σ Int}
    (found : Discovery.find u.files u.place (g.text? "--pipeline") = .ok (.ambiguous paths))
    (s : σ) :
    withPipelineFile u spec g pointless proceed s = ⟨filesAmbiguous paths, .ok 1, s⟩ := by
  unfold withPipelineFile
  rw [require_bind_of_ok found]
  dsimp only
  rw [record_bind_apply, pure_apply, List.append_nil]

/-- Where it cannot be settled which file is meant, a command says so and does nothing else. -/
theorem execute_of_ambiguous (looks : Looks u arguments c g)
    (found : Discovery.find u.files u.place (g.text? "--pipeline") = .ok (.ambiguous paths))
    (s : σ) : execute u w arguments s = ⟨filesAmbiguous paths, .ok 1, s⟩ := by
  have hdispatch : dispatch u w arguments s = ⟨filesAmbiguous paths, .ok 1, s⟩ := by
    rcases looks with invokes | invokes
    · rw [dispatch_of_invokes rfl invokes]
      exact withPipelineFile_of_ambiguous found s
    · rw [dispatch_of_invokes rfl invokes]
      exact withPipelineFile_of_ambiguous found s
  rw [execute_of_ok (by rw [hdispatch]), hdispatch]

def listing (names : List String) : String :=
  "  " ++ String.intercalate "\n" (names.map ("  " ++ ·)) ++ "\n"

theorem filesAmbiguous_names (names : List String) :
    ∃ ahead behind, filesAmbiguous (names.map fun n => ⟨"", [n]⟩) =
      (ahead ++ listing names :: behind).map .err := by
  have htext : (names.map fun n => (⟨"", [n]⟩ : Path)).map (fun p => "  " ++ p.toString) =
      names.map ("  " ++ ·) := by
    simp [Path.toString]
  refine ⟨["\nERROR: Multiple pipeline files found\n",
    "Found multiple pipeline files. Please specify which one to use:\n"],
    ["\nSpecify a pipeline explicitly:\n  vmbuild run --pipeline vmbuild_pipeline.py\n"], ?_⟩
  unfold filesAmbiguous
  rw [htext]
  rfl

theorem entries_iff_unlinked {names : List String} {entry : String → Option (Node PipelineFile)}
    (hnames : ∀ n, n ∈ names ↔ (entry n).isSome = true ∧ "_pipeline.py".toList <:+ n.toList ∧
      (n = "vmbuild_pipeline.py" →
        ∀ target, entry "vmbuild_pipeline.py" ≠ some (.dangling target))) :
    (∀ n, n ∈ names ↔ (entry n).isSome = true ∧ "_pipeline.py".toList <:+ n.toList) ↔
      ∀ target, entry "vmbuild_pipeline.py" ≠ some (.dangling target) := by
  constructor
  · intro all target dangling
    have listed : "vmbuild_pipeline.py" ∈ names :=
      (all _).2 ⟨by rw [dangling]; rfl, by decide⟩
    exact ((hnames _).1 listed).2.2 rfl target dangling
  · intro unlinked n
    rw [hnames]
    exact ⟨fun h => ⟨h.1, h.2.1⟩, fun h => ⟨h.1, h.2, fun _ => unlinked⟩⟩

/-- The candidates are the entries of the current directory whose names have the ending, each once
and in the order of their names, except for the default file where it is a link that leads nowhere:
all such entries are candidates exactly if there is no such link. If no file is asked for and there
is no candidate, none is used; if there is one, it is; and if there are several, a command exits
with 1, has done nothing but to write on the second output stream, and has named them there in
their order. -/
theorem candidates_settle (u : Surroundings) (lies : u.place.LiesIn u.files) :
    let entry (n : String) : Option (Node PipelineFile) := u.files.node? (u.place.cwd ++ [n])
    let unlinked := ∀ target, entry "vmbuild_pipeline.py" ≠ some (.dangling target)
    ∃ names : List String,
      (∀ n, n ∈ names ↔ (entry n).isSome = true ∧ "_pipeline.py".toList <:+ n.toList ∧
        (n = "vmbuild_pipeline.py" → unlinked)) ∧
      ((∀ n, n ∈ names ↔ (entry n).isSome = true ∧ "_pipeline.py".toList <:+ n.toList) ↔
        unlinked) ∧
      names.Pairwise (· < ·) ∧
      Discovery.candidates u.files u.place = .ok (names.map fun n => ⟨"", [n]⟩) ∧
      ∀ asked, asked = none ∨ asked = some "" →
        (names = [] → Discovery.find u.files u.place asked = .ok .builtin) ∧
        (∀ n, names = [n] → Discovery.find u.files u.place asked = .ok (.file ⟨"", [n]⟩)) ∧
        (2 ≤ names.length → ∀ (σ : Type) (w : World σ) arguments c g s, Looks u arguments c g →
          g.text? "--pipeline" = asked →
          let r := execute u w arguments s
          r.answer = .ok 1 ∧ r.after = s ∧
            ∃ ahead behind, r.trace = (ahead ++ listing names :: behind).map .err) := by
  intro entry unlinked
  obtain ⟨names, named, sorted, hmem⟩ := Discovery.candidates_of_liesIn lies
  have hnames (n : String) : n ∈ names ↔ (entry n).isSome = true ∧
      "_pipeline.py".toList <:+ n.toList ∧ (n = "vmbuild_pipeline.py" → unlinked) := by
    rw [hmem]
    refine and_congr_right fun listed => and_congr_right fun _ => ?_
    refine forall_congr' fun hn => ?_
    subst hn
    exact FileTree.hasAt_iff listed
  refine ⟨names, hnames, entries_iff_unlinked hnames, sorted, named, fun asked unasked => ?_⟩
  have found := Discovery.find_unasked named unasked
  refine ⟨?_, ?_, ?_⟩
  · rintro rfl
    exact found
  · rintro n rfl
    exact found
  · intro several σ w arguments c g s looks hasked
    have ambiguous : Discovery.find u.files u.place (g.text? "--pipeline") =
        .ok (.ambiguous (names.map fun n => ⟨"", [n]⟩)) := by
      rw [hasked, found]
      match names, several with
      | _ :: _ :: _, _ => rfl
    dsimp only
    rw [execute_of_ambiguous looks ambiguous]
    exact ⟨rfl, rfl, filesAmbiguous_names names⟩

def crowded : Surroundings where
  environ := []
  place := ⟨[], []⟩
  files := ⟨[(["a_pipeline.py"], .directory), (["vmbuild_pipeline.py"], .file {}),
    (["b_pipeline.py"], .file {})], by decide, by decide⟩
  superuser := some false

theorem crowded_settles :
    crowded.place.LiesIn crowded.files ∧
      (execute crowded .replies ["plan"] []).answer = .ok 1 := by
  have lies : crowded.place.LiesIn crowded.files := ⟨rfl, rfl, by decide, by decide⟩
  refine ⟨lies, ?_⟩
  obtain ⟨names, hmem, -, -, -, settles⟩ := candidates_settle crowded lies
  have several : 2 ≤ names.length := by
    have hsubset : ["a_pipeline.py", "b_pipeline.py"] ⊆ names :=
      List.cons_subset.2 ⟨(hmem _).2 ⟨rfl, by decide, fun h => absurd h (by decide)⟩,
        by simpa using (hmem _).2 ⟨rfl, by decide, fun h => absurd h (by decide)⟩⟩
    exact (List.subperm_of_subset (by decide) hsubset).length_le
  exact ((settles none (.inl rfl)).2.2 several _ _ _ _ _ _ (.inr (invokes_plan _)) rfl).1

def adrift (names : List String) : FileTree PipelineFile :=
  names.foldl (fun t n => t.addLink [n] ["gone.py"]) .empty

/-- A link that leads nowhere is the only entry. Under the name of the default file it is no
candidate, and none is used; under another name it is the file that is used. -/
theorem candidates_adrift :
    let place : Place := ⟨[], []⟩
    (place.LiesIn (adrift ["vmbuild_pipeline.py"]) ∧
      (adrift ["vmbuild_pipeline.py"]).names [] = ["vmbuild_pipeline.py"] ∧
      Discovery.candidates (adrift ["vmbuild_pipeline.py"]) place = .ok [] ∧
      Discovery.find (adrift ["vmbuild_pipeline.py"]) place none = .ok .builtin) ∧
    (adrift ["b_pipeline.py"]).names [] = ["b_pipeline.py"] ∧
      Discovery.find (adrift ["b_pipeline.py"]) place none =
        .ok (.file ⟨"", ["b_pipeline.py"]⟩) := by
  intro place
  have absent : (adrift ["vmbuild_pipeline.py"]).contains place
      (Path.ofString Discovery.defaultFile) = .ok false := rfl
  have nowhere : (adrift ["b_pipeline.py"]).contains place
      (Path.ofString Discovery.defaultFile) = .ok false := rfl
  have none : Discovery.candidates (adrift ["vmbuild_pipeline.py"]) place = .ok [] :=
    candidates_of_sorted absent rfl .nil
  have single : Discovery.candidates (adrift ["b_pipeline.py"]) place =
      .ok [⟨"", ["b_pipeline.py"]⟩] := 
    candidates_of_sorted nowhere rfl (List.pairwise_singleton _ _)
  refine ⟨⟨⟨rfl, rfl, by decide, by decide⟩, rfl, none, ?_⟩, rfl, ?_⟩
  · exact Refusable.bind_eq_ok.2 ⟨_, none, rfl⟩
  · exact Refusable.bind_eq_ok.2 ⟨_, single, rfl⟩

end CommandLine
end Provisioning
