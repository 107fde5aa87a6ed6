import Provisioning.Path

/-!
Directories, files and links that lead nowhere, by their components from the root down. Looking a
path up walks its components, and every component before the last has to be a directory, double
dots included; nothing is found behind a link. A name that is too long is noticed when the walk
comes to it. Links that lead to something are left out.
-/
namespace Provisioning

/-- What stands at a spot; of a link, the spot that it names in the end. -/
inductive Node (α : Type)
  | directory
  | file (content : α)
  | dangling (target : List String)

def nameLimit : Nat := 255

def pathLimit : Nat := 4096

def NameFits (n : String) : Prop := n.utf8ByteSize ≤ nameLimit ∧ '\x00' ∉ n.toList

instance (n : String) : Decidable (NameFits n) := inferInstanceAs (Decidable (_ ∧ _))

/-- A spot where something could be and nothing is. -/
structure Vacant (taken : List (List String)) (spot : List String) : Prop where
  free : spot ∉ taken
  below : spot ≠ []
  plain : ".." ∉ spot
  fits : ∀ n ∈ spot, NameFits n
  short : (Path.mk "/" spot).toString.utf8ByteSize < pathLimit

instance (taken : List (List String)) (spot : List String) : Decidable (Vacant taken spot) :=
  decidable_of_iff
    (spot ∉ taken ∧ spot ≠ [] ∧ ".." ∉ spot ∧ (∀ n ∈ spot, NameFits n) ∧
      (Path.mk "/" spot).toString.utf8ByteSize < pathLimit)
    ⟨fun ⟨free, below, plain, fits, short⟩ => ⟨free, below, plain, fits, short⟩,
      fun h => ⟨h.free, h.below, h.plain, h.fits, h.short⟩⟩

theorem Vacant.mono {taken taken' : List (List String)} {spot : List String}
    (h : Vacant taken spot) (sub : taken' ⊆ taken) : Vacant taken' spot :=
  ⟨fun mem => h.free (sub mem), h.below, h.plain, h.fits, h.short⟩

namespace Node

variable {α : Type}

def isThere : Node α → Bool
  | .dangling _ => false
  | _ => true

def leadsTo (spot : List String) : Node α → Bool
  | .dangling target => target == spot
  | _ => false

/-- If it is a link, it leads to a vacant spot. -/
def Loose (taken : List (List String)) : Node α → Prop
  | .dangling target => Vacant taken target
  | _ => True

instance (taken : List (List String)) (n : Node α) : Decidable (n.Loose taken) :=
  match n with
  | .dangling target => inferInstanceAs (Decidable (Vacant taken target))
  | .directory | .file _ => inferInstanceAs (Decidable True)

theorem Loose.mono {taken taken' : List (List String)} {n : Node α} (h : n.Loose taken)
    (sub : taken' ⊆ taken) : n.Loose taken' := by
  cases n with
  | dangling target => exact Vacant.mono h sub
  | _ => trivial

end Node

structure FileTree (α : Type) where
  nodes : List (List String × Node α)
  distinct : (nodes.map Prod.fst).Nodup
  loose : ∀ e ∈ nodes, e.2.Loose (nodes.map Prod.fst)

namespace FileTree

variable {α : Type}

def empty : FileTree α := ⟨[], by simp, by simp⟩

def node? (t : FileTree α) (spot : List String) : Option (Node α) :=
  if spot = [] then some .directory else t.nodes.lookup spot

def isDirectoryAt (t : FileTree α) (spot : List String) : Bool :=
  match t.node? spot with
  | some .directory => true
  | _ => false

/-- Whether anything stands at a spot that can be looked up. -/
def hasAt (t : FileTree α) (spot : List String) : Bool := (t.node? spot).any Node.isThere

def restrict (t : FileTree α) (p : List String × Node α → Bool) : FileTree α where
  nodes := t.nodes.filter p
  distinct := t.distinct.sublist (List.filter_sublist.map _)
  loose e he := (t.loose e (List.mem_filter.1 he).1).mono
    (List.map_subset _ fun _ h => (List.mem_filter.1 h).1)

def remove (t : FileTree α) (spot : List String) : FileTree α :=
  t.restrict fun e => !spot.isPrefixOf e.1

/-- With room for something at the spot: a link that led there would lead to something. -/
def clear (t : FileTree α) (spot : List String) : FileTree α :=
  (t.remove spot).restrict fun e => !e.2.leadsTo spot

theorem not_mem_keys_clear (t : FileTree α) (spot : List String) :
    spot ∉ (t.clear spot).nodes.map Prod.fst := by
  simp +contextual [clear, remove, restrict]

theorem loose_clear (t : FileTree α) (spot : List String) :
    ∀ e ∈ (t.clear spot).nodes, e.2.Loose ((t.clear spot).nodes.map Prod.fst ++ [spot]) := by
  rintro ⟨key, node⟩ he
  have hloose := (t.clear spot).loose _ he
  have hleads := (List.mem_filter.1 he).2
  cases node with
  | dangling target =>
    have hne : target ≠ spot := by simpa [Node.leadsTo] using hleads
    refine ⟨fun hmem => ?_, hloose.below, hloose.plain, hloose.fits, hloose.short⟩
    rcases List.mem_append.1 hmem with hmem | hmem
    · exact hloose.free hmem
    · exact hne (List.mem_singleton.1 hmem)
  | _ => trivial

def insert (t : FileTree α) (spot : List String) (n : Node α)
    (loose : n.Loose ((t.clear spot).nodes.map Prod.fst ++ [spot])) : FileTree α where
  nodes := (t.clear spot).nodes ++ [(spot, n)]
  distinct := by
    rw [List.map_append, List.nodup_append]
    refine ⟨(t.clear spot).distinct, by simp, ?_⟩
    intro a ha b hb hab
    rw [List.map_singleton, List.mem_singleton] at hb
    rw [hab, hb] at ha
    exact t.not_mem_keys_clear spot ha
  loose e he := by
    rw [List.map_append, List.map_singleton]
    rcases List.mem_append.1 he with he | he
    · exact t.loose_clear spot e he
    · obtain rfl := List.mem_singleton.1 he
      exact loose

def addDirectory (t : FileTree α) (spot : List String) : FileTree α :=
  ((List.range (spot.length + 1)).map spot.take).foldl
    (fun t d => if (t.node? d).isSome then t else t.insert d .directory trivial) t

def addFile (t : FileTree α) (spot : List String) (content : α) : FileTree α :=
  (t.addDirectory spot.dropLast).insert spot (.file content) trivial

def addLink (t : FileTree α) (spot target : List String) : FileTree α :=
  let t := t.addDirectory spot.dropLast
  if loose : (Node.dangling target : Node α).Loose ((t.clear spot).nodes.map Prod.fst ++ [spot])
  then t.insert spot (.dangling target) loose
  else t

def names (t : FileTree α) (dir : List String) : List String :=
  t.nodes.filterMap fun e =>
    if e.1 ≠ [] && e.1.dropLast = dir then e.1.getLast? else none

def walk (t : FileTree α) : List String → List String → Option (List String)
  | here, [] => some here
  | here, c :: cs =>
    if t.isDirectoryAt here then
      let next := if c = ".." then here.dropLast else here ++ [c]
      if t.hasAt next then walk t next cs else none
    else none

def meetsLongName (t : FileTree α) : List String → List String → Bool
  | _, [] => false
  | here, c :: cs =>
    let next := if c = ".." then here.dropLast else here ++ [c]
    t.isDirectoryAt here &&
      (nameLimit < c.utf8ByteSize || (t.hasAt next && meetsLongName t next cs))

/-- Where a path leads, if it leads to anything. Nothing has a name with the null character in it;
a path that is too long as a whole, or that leads to a name that is, is refused. -/
def locate (t : FileTree α) (place : Place) (p : Path) : Except Refusal (Option (List String)) :=
  let parts := p.absoluteParts place
  if p.hasNul then .ok none
  else if pathLimit ≤ p.toString.utf8ByteSize || t.meetsLongName [] parts then
    .error (.nameTooLong p.toString)
  else .ok (t.walk [] parts)

def contains (t : FileTree α) (place : Place) (p : Path) : Except Refusal Bool := do
  return (← t.locate place p).isSome

def isDirectory (t : FileTree α) (place : Place) (p : Path) : Except Refusal Bool := do
  return (← t.locate place p).any t.isDirectoryAt

/-- The absolute path without double dots and links, whether or not anything stands there. -/
def resolve (t : FileTree α) (place : Place) (p : Path) : Except Refusal Path :=
  let advance (here : List String) (c : String) : List String :=
    let next := if c = ".." then here.dropLast else here ++ [c]
    match t.node? next with
    | some (.dangling target) => target
    | _ => next
  if p.hasNul then .error .nulInPath
  else .ok { root := "/", parts := (p.absoluteParts place).foldl advance [] }

end FileTree
end Provisioning
