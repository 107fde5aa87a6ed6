import Provisioning.FileTree
import Provisioning.Proofs.Paths

/-!
Where walks through a tree of files lead. A walk passes only directories, so that it can be resumed
anywhere, and the spot that it reaches can be walked to directly, without double dots. Hence a path
that leads somewhere leads to the same spot once it is resolved, unless it has become too long, and
one that ends with a link leads to the vacant spot that the link names.
-/
namespace Provisioning

def follow (here : List String) (c : String) : List String :=
  if c = ".." then here.dropLast else here ++ [c]

theorem Path.hasNul_eq_false_iff {p : Path} :
    p.hasNul = false ↔ ∀ c ∈ p.parts, '\x00' ∉ c.toList := by
  simp [hasNul]

theorem Path.collapse_eq (parts : List String) : collapse parts = parts.foldl follow [] := rfl

theorem dots_not_mem_foldl_follow {here : List String} (plain : ".." ∉ here)
    (parts : List String) : ".." ∉ parts.foldl follow here := by
  induction parts generalizing here with
  | nil => exact plain
  | cons c parts ih =>
    refine ih ?_
    by_cases hc : c = ".."
    · rw [follow, if_pos hc]
      exact fun h => plain (List.dropLast_subset here h)
    · rw [follow, if_neg hc]
      simp [plain, Ne.symm hc]

theorem foldl_follow_of_plain {parts : List String} (plain : ".." ∉ parts) (here : List String) :
    parts.foldl follow here = here ++ parts := by
  induction parts generalizing here with
  | nil => rw [List.append_nil, List.foldl_nil]
  | cons c parts ih =>
    rw [List.mem_cons, not_or] at plain
    rw [List.foldl_cons, ih plain.2, follow, if_neg (Ne.symm plain.1), List.append_assoc,
      List.singleton_append]

namespace FileTree

variable {α : Type} {t : FileTree α} {here spot parts rest : List String} {c : String}

theorem walk_cons (here : List String) (c : String) (rest : List String) :
    t.walk here (c :: rest) =
      if t.isDirectoryAt here = true then
        if t.hasAt (follow here c) = true then t.walk (follow here c) rest else none
      else none := rfl

theorem walk_cons_eq_some_iff :
    t.walk here (c :: rest) = some spot ↔ t.isDirectoryAt here = true ∧
      t.hasAt (follow here c) = true ∧ t.walk (follow here c) rest = some spot := by
  rw [walk_cons]
  split_ifs with directory present
  · simp [directory, present]
  · simp [present]
  · simp [directory]

theorem walk_append (here parts rest : List String) :
    t.walk here (parts ++ rest) = (t.walk here parts).bind fun mid => t.walk mid rest := by
  induction parts generalizing here with
  | nil => rfl
  | cons c parts ih =>
    rw [List.cons_append, walk_cons, walk_cons, ih]
    split_ifs <;> rfl

structure Reaches (t : FileTree α) (spot : List String) : Prop where
  plain : ".." ∉ spot
  walked : t.walk [] spot = some spot

theorem reaches_nil : t.Reaches [] := ⟨List.not_mem_nil, rfl⟩

theorem Reaches.push (h : t.Reaches here) (directory : t.isDirectoryAt here = true)
    (plain : c ≠ "..") (present : t.hasAt (here ++ [c]) = true) :
    t.Reaches (here ++ [c]) := by
  have hfollow : follow here c = here ++ [c] := if_neg plain
  refine ⟨by simp [h.plain, plain.symm], ?_⟩
  rw [walk_append, h.walked]
  exact walk_cons_eq_some_iff.2 ⟨directory, hfollow ▸ present, by rw [hfollow]; rfl⟩

theorem Reaches.dropLast (h : t.Reaches here) : t.Reaches here.dropLast := by
  rcases List.eq_nil_or_concat here with rfl | ⟨front, c, rfl⟩
  · exact h
  · obtain ⟨plain, walked⟩ := h
    rw [List.concat_eq_append, List.dropLast_concat]
    rw [List.concat_eq_append] at plain walked
    have hc : c ≠ ".." := by
      rintro rfl
      simp at plain
    obtain ⟨mid, hmid, hlast⟩ := Option.bind_eq_some_iff.1 (walk_append (t := t) .. ▸ walked)
    obtain ⟨-, -, hlast⟩ := walk_cons_eq_some_iff.1 hlast
    have hmid' : mid = front := by
      have hpush : mid ++ [c] = front ++ [c] := by
        simpa [walk, follow, hc] using hlast
      exact List.append_cancel_right hpush
    exact ⟨fun hmem => plain (List.mem_append_left _ hmem), hmid' ▸ hmid⟩

theorem reaches_of_walk (h : t.Reaches here) (walked : t.walk here parts = some spot) :
    t.Reaches spot ∧ spot = parts.foldl follow here := by
  induction parts generalizing here with
  | nil =>
    obtain rfl := Option.some.inj walked
    exact ⟨h, rfl⟩
  | cons c parts ih =>
    obtain ⟨directory, present, walked⟩ := walk_cons_eq_some_iff.1 walked
    refine ih ?_ walked
    by_cases hc : c = ".."
    · rw [follow, if_pos hc]
      exact h.dropLast
    · rw [follow, if_neg hc] at present ⊢
      exact h.push directory hc present

theorem meetsLongName_cons (here : List String) (c : String) (rest : List String) :
    t.meetsLongName here (c :: rest) = (t.isDirectoryAt here &&
      (nameLimit < c.utf8ByteSize ||
        (t.hasAt (follow here c) && t.meetsLongName (follow here c) rest))) := rfl

theorem meetsLongName_of_short (here : List String)
    (short : ∀ c ∈ parts, c.utf8ByteSize ≤ nameLimit) : t.meetsLongName here parts = false := by
  induction parts generalizing here with
  | nil => rfl
  | cons c parts ih =>
    have hc : ¬ nameLimit < c.utf8ByteSize := Nat.not_lt.2 (short c List.mem_cons_self)
    have hrest := ih (follow here c) fun d hd => short d (List.mem_cons_of_mem c hd)
    simp [meetsLongName_cons, hc, hrest]

theorem short_of_walk (walked : t.walk here parts = some spot)
    (unmet : t.meetsLongName here parts = false) : ∀ c ∈ parts, c.utf8ByteSize ≤ nameLimit := by
  induction parts generalizing here with
  | nil => simp
  | cons c parts ih =>
    obtain ⟨directory, present, walked⟩ := walk_cons_eq_some_iff.1 walked
    simp only [meetsLongName_cons, directory, present, Bool.true_and, Bool.or_eq_false_iff,
      decide_eq_false_iff_not, Nat.not_lt] at unmet
    exact List.forall_mem_cons.2 ⟨unmet.1, ih walked unmet.2⟩

theorem locate_eq_some_iff {place : Place} {p : Path} :
    t.locate place p = .ok (some spot) ↔ p.hasNul = false ∧ p.toString.utf8ByteSize < pathLimit ∧
      t.meetsLongName [] (p.absoluteParts place) = false ∧
      t.walk [] (p.absoluteParts place) = some spot := by
  unfold locate
  dsimp only
  cases p.hasNul with
  | true => simp
  | false =>
    by_cases long : pathLimit ≤ p.toString.utf8ByteSize
    · simp [long, Nat.not_lt.2 long]
    · cases t.meetsLongName [] (p.absoluteParts place) <;> simp [long, Nat.lt_of_not_le long]

theorem hasAt_of_walk (present : t.hasAt here = true) (walked : t.walk here parts = some spot) :
    t.hasAt spot = true := by
  induction parts generalizing here with
  | nil =>
    obtain rfl := Option.some.inj walked
    exact present
  | cons c parts ih =>
    obtain ⟨-, present, walked⟩ := walk_cons_eq_some_iff.1 walked
    exact ih present walked

theorem hasAt_of_located {place : Place} {p : Path}
    (located : t.locate place p = .ok (some spot)) : t.hasAt spot = true :=
  hasAt_of_walk rfl (locate_eq_some_iff.1 located).2.2.2

variable (t) in
def advance (here : List String) (c : String) : List String :=
  match t.node? (follow here c) with
  | some (.dangling target) => target
  | _ => follow here c

theorem resolve_eq_ok_iff {place : Place} {p r : Path} :
    t.resolve place p = .ok r ↔
      p.hasNul = false ∧ r = ⟨"/", (p.absoluteParts place).foldl t.advance []⟩ := by
  change (if p.hasNul = true then _ else Except.ok _) = _ ↔ _
  cases p.hasNul with
  | true => simp
  | false =>
    rw [if_neg Bool.false_ne_true]
    exact ⟨fun h => ⟨rfl, (Except.ok.inj h).symm⟩, fun h => congrArg Except.ok h.2.symm⟩

theorem vacant_of_dangling {target : List String} (h : t.node? spot = some (.dangling target)) :
    Vacant (t.nodes.map Prod.fst) target := by
  unfold node? at h
  split at h
  · cases h
  · obtain ⟨front, back, hsplit, -⟩ := List.lookup_eq_some_iff.1 h
    exact t.loose _ (hsplit ▸ List.mem_append_right front List.mem_cons_self)

theorem advance_of_hasAt (present : t.hasAt (follow here c) = true) :
    t.advance here c = follow here c := by
  unfold hasAt at present
  unfold advance
  split
  · rename_i target dangling
    rw [dangling] at present
    cases present
  · rfl

theorem foldl_advance_of_walk (walked : t.walk here parts = some spot) :
    parts.foldl t.advance here = parts.foldl follow here := by
  induction parts generalizing here with
  | nil => rfl
  | cons c parts ih =>
    obtain ⟨-, present, walked⟩ := walk_cons_eq_some_iff.1 walked
    rw [List.foldl_cons, List.foldl_cons, advance_of_hasAt present, ih walked]

theorem dots_not_mem_foldl_advance (plain : ".." ∉ here) (parts : List String) :
    ".." ∉ parts.foldl t.advance here := by
  induction parts generalizing here with
  | nil => exact plain
  | cons c parts ih =>
    refine ih ?_
    unfold advance
    split
    · rename_i dangling
      exact (vacant_of_dangling dangling).plain
    · exact dots_not_mem_foldl_follow plain [c]

theorem resolve_of_located {place : Place} {p : Path}
    (located : t.locate place p = .ok (some spot)) :
    t.resolve place p = .ok ⟨"/", spot⟩ ∧ t.Reaches spot := by
  obtain ⟨visible, -, -, walked⟩ := locate_eq_some_iff.1 located
  obtain ⟨reaches, hspot⟩ := reaches_of_walk reaches_nil walked
  refine ⟨resolve_eq_ok_iff.2 ⟨visible, ?_⟩, reaches⟩
  rw [foldl_advance_of_walk walked, ← hspot]

/-- A path that was resolved names the spot to which it leads. -/
theorem eq_of_located_resolved {place : Place} {p r : Path} (resolved : t.resolve place p = .ok r)
    (located : t.locate place r = .ok (some spot)) : r = ⟨"/", spot⟩ := by
  obtain ⟨-, rfl⟩ := resolve_eq_ok_iff.1 resolved
  obtain ⟨-, -, -, walked⟩ := locate_eq_some_iff.1 located
  obtain ⟨-, hspot⟩ := reaches_of_walk reaches_nil walked
  have plain : ".." ∉ (p.absoluteParts place).foldl t.advance [] :=
    dots_not_mem_foldl_advance List.not_mem_nil _
  rw [hspot.trans (foldl_follow_of_plain plain []), List.nil_append]

theorem locate_vacant {place : Place} (vacant : Vacant (t.nodes.map Prod.fst) spot) :
    t.locate place ⟨"/", spot⟩ = .ok none := by
  have hvisible : (Path.mk "/" spot).hasNul = false :=
    Path.hasNul_eq_false_iff.2 fun c hc => (vacant.fits c hc).2
  have hunmet : t.meetsLongName [] spot = false :=
    meetsLongName_of_short [] fun c hc => (vacant.fits c hc).1
  have habsent : t.hasAt spot = false := by
    have hnone : t.nodes.lookup spot = none := by
      rw [← Option.not_isSome_iff_eq_none, List.lookup_isSome_iff]
      rintro ⟨e, he, hkey⟩
      exact vacant.free (List.mem_map.2 ⟨e, he, (eq_of_beq hkey).symm⟩)
    rw [hasAt, node?, if_neg vacant.below, hnone]
    rfl
  have hwalk : t.walk [] spot = none := by
    cases walked : t.walk [] spot with
    | none => rfl
    | some spot' =>
      obtain ⟨-, hspot⟩ := reaches_of_walk reaches_nil walked
      rw [foldl_follow_of_plain vacant.plain, List.nil_append] at hspot
      have present := hasAt_of_walk rfl walked
      rw [hspot, habsent] at present
      cases present
  have habsolute : (Path.mk "/" spot).absoluteParts place = spot := rfl
  unfold locate
  dsimp only
  rw [hvisible, habsolute, hunmet, hwalk]
  simp [Nat.not_le.2 vacant.short]

end FileTree

/-- The current directory is a directory of the tree, and its names are such as there can be. -/
structure Place.LiesIn {α : Type} (place : Place) (t : FileTree α) : Prop where
  reached : t.walk [] place.cwd = some place.cwd
  directory : t.isDirectoryAt place.cwd = true
  fits : ∀ n ∈ place.cwd, NameFits n
  entries : ∀ n ∈ t.names place.cwd, NameFits n

theorem Place.LiesIn.visible {α : Type} {place : Place} {t : FileTree α} (lies : place.LiesIn t)
    {p : Path} (visible : p.hasNul = false) {c : String} (hc : c ∈ p.absoluteParts place) :
    '\x00' ∉ c.toList := by
  have hparts := Path.hasNul_eq_false_iff.1 visible
  unfold Path.absoluteParts at hc
  split at hc
  · exact hparts c hc
  · rcases List.mem_append.1 hc with hc | hc
    · exact (lies.fits c hc).2
    · exact hparts c hc

namespace FileTree

variable {α : Type} {t : FileTree α} {place : Place} {spot : List String} {p : Path} {n : String}

theorem locate_resolved (lies : place.LiesIn t) (located : t.locate place p = .ok (some spot)) :
    t.locate place ⟨"/", spot⟩ =
      if (Path.mk "/" spot).toString.utf8ByteSize < pathLimit then .ok (some spot)
      else .error (.nameTooLong (Path.mk "/" spot).toString) := by
  obtain ⟨visible, -, unmet, walked⟩ := locate_eq_some_iff.1 located
  obtain ⟨reaches, hspot⟩ := reaches_of_walk reaches_nil walked
  have hsubset : spot ⊆ p.absoluteParts place := by
    rw [hspot, ← Path.collapse_eq]
    exact Path.collapse_subset _
  have hvisible : (Path.mk "/" spot).hasNul = false := by
    rw [Path.hasNul_eq_false_iff]
    exact fun c hc => lies.visible visible (hsubset hc)
  have hunmet : t.meetsLongName [] spot = false :=
    meetsLongName_of_short [] fun c hc => short_of_walk walked unmet c (hsubset hc)
  have habsolute : (Path.mk "/" spot).absoluteParts place = spot := rfl
  unfold locate
  dsimp only
  rw [hvisible, habsolute, hunmet, reaches.walked]
  by_cases short : (Path.mk "/" spot).toString.utf8ByteSize < pathLimit
  · simp [short, Nat.not_le.2 short]
  · simp [short, Nat.le_of_not_lt short]

/-- A name by itself leads to the entry of the current directory, if it has one of that name that
is no link. -/
theorem locate_name (lies : place.LiesIn t) (fits : NameFits n) (plain : n ≠ "..") :
    t.locate place ⟨"", [n]⟩ = .ok
      (if t.hasAt (place.cwd ++ [n]) = true then some (place.cwd ++ [n]) else none) := by
  have hvisible : (Path.mk "" [n]).hasNul = false :=
    Path.hasNul_eq_false_iff.2 (by simpa using fits.2)
  have hshort : ¬ pathLimit ≤ (Path.mk "" [n]).toString.utf8ByteSize := by
    have hlimit : nameLimit < pathLimit := by decide
    have htext : (Path.mk "" [n]).toString = n := by simp [Path.toString]
    rw [htext, Nat.not_le]
    exact Nat.lt_of_le_of_lt fits.1 hlimit
  have habsolute : (Path.mk "" [n]).absoluteParts place = place.cwd ++ [n] := rfl
  have hunmet : t.meetsLongName [] (place.cwd ++ [n]) = false := by
    refine meetsLongName_of_short [] fun c hc => ?_
    rcases List.mem_append.1 hc with hc | hc
    · exact (lies.fits c hc).1
    · rw [List.mem_singleton.1 hc]
      exact fits.1
  have hwalk : t.walk [] (place.cwd ++ [n]) =
      if t.hasAt (place.cwd ++ [n]) = true then some (place.cwd ++ [n]) else none := by
    rw [walk_append, lies.reached, Option.bind_some, walk_cons, if_pos lies.directory, follow,
      if_neg plain]
    rfl
  unfold locate
  dsimp only
  rw [hvisible, habsolute, hunmet, hwalk]
  simp [hshort]

theorem resolve_link {target : List String} (lies : place.LiesIn t) (fits : NameFits n)
    (plain : n ≠ "..") (dangling : t.node? (place.cwd ++ [n]) = some (.dangling target)) :
    t.resolve place ⟨"", [n]⟩ = .ok ⟨"/", target⟩ := by
  have hvisible : (Path.mk "" [n]).hasNul = false :=
    Path.hasNul_eq_false_iff.2 (by simpa using fits.2)
  have hcwd : place.cwd.foldl t.advance [] = place.cwd := by
    rw [foldl_advance_of_walk lies.reached]
    exact (reaches_of_walk reaches_nil lies.reached).2.symm
  refine resolve_eq_ok_iff.2 ⟨hvisible, ?_⟩
  have habsolute : (Path.mk "" [n]).absoluteParts place = place.cwd ++ [n] := rfl
  rw [habsolute, List.foldl_append, hcwd, List.foldl_cons, List.foldl_nil, advance, follow,
    if_neg plain, dangling]

end FileTree
end Provisioning
