import Groundwork.Tree.Basic

/-!
# What lies below a location

Listing a directory gives its entries in no particular order. A walk goes from the top down: it
takes a directory before what lies in it, and the directories in it by name, and it looks no
further once it has found what it is looking for.
-/

namespace Groundwork.Tree

/-- The entries strictly below `place`, each by its path from there. -/
def below (t : Tree) (place : Location) : Entries :=
  t.entries.filterMap fun (at', node) =>
    if place.isPrefixOf at' && at' != place then some (at'.drop place.length, node) else none

/-- The entries that lie directly in `place`, by name. -/
def listing (t : Tree) (place : Location) : List (String × Node) :=
  t.entries.filterMap fun (at', node) =>
    if at'.dropLast = place then at'.getLast?.map (·, node) else none

/-- Puts a name in front of the first one that is not before it. -/
def insertName (name : String) : List String → List String
  | [] => [name]
  | first :: rest =>
    if name ≤ first then name :: first :: rest else first :: insertName name rest

/-- The names in the order of their code points. -/
def inOrder (names : List String) : List String :=
  names.foldr insertName []

/-- The names of the directories in `place`, in order. -/
def directoryNames (t : Tree) (place : Location) : List String :=
  inOrder ((t.listing place).filterMap fun (name, node) =>
    match node with
    | .directory => some name
    | .file _ => none)

/-- The names of the files in `place`, in order. -/
def fileNames (t : Tree) (place : Location) : List String :=
  inOrder ((t.listing place).filterMap fun (name, node) =>
    match node with
    | .directory => none
    | .file _ => some name)

/-- No entry lies deeper than this. -/
def depth (t : Tree) : Nat :=
  (t.entries.map fun e => e.1.length).foldr max 0

theorem mem_insertName {name other : String} {names : List String} :
    other ∈ insertName name names ↔ other = name ∨ other ∈ names := by
  induction names with
  | nil => simp [insertName]
  | cons first rest ih =>
    rw [insertName]
    split
    · rw [List.mem_cons]
    · rw [List.mem_cons, ih, List.mem_cons, or_left_comm]

theorem mem_inOrder {name : String} {names : List String} :
    name ∈ inOrder names ↔ name ∈ names := by
  induction names with
  | nil => simp [inOrder]
  | cons first rest ih =>
    show name ∈ insertName first (inOrder rest) ↔ _
    rw [mem_insertName, ih, List.mem_cons]

theorem length_le_foldr_max {ns : List Nat} {n : Nat} (h : n ∈ ns) : n ≤ ns.foldr max 0 := by
  induction ns with
  | nil => simp at h
  | cons m rest ih =>
    rw [List.foldr_cons]
    rcases List.mem_cons.1 h with rfl | h
    · exact Nat.le_max_left _ _
    · exact Nat.le_trans (ih h) (Nat.le_max_right _ _)

theorem mem_entries_of_mem_listing {t : Tree} {place : Location} {name : String} {node : Node}
    (h : (name, node) ∈ t.listing place) : (place ++ [name], node) ∈ t.entries := by
  obtain ⟨⟨at', n⟩, hmem, he⟩ := List.mem_filterMap.1 h
  simp only at he
  split at he
  · rename_i hplace
    obtain ⟨last, hlast, he⟩ := Option.map_eq_some_iff.1 he
    cases he
    obtain ⟨init, rfl⟩ := List.getLast?_eq_some_iff.1 hlast
    rw [List.dropLast_concat] at hplace
    rwa [← hplace]
  · cases he

theorem mem_listing_of_mem_directoryNames {t : Tree} {place : Location} {name : String}
    (h : name ∈ t.directoryNames place) : (name, Node.directory) ∈ t.listing place := by
  obtain ⟨⟨name', node⟩, hmem, he⟩ := List.mem_filterMap.1 (mem_inOrder.1 h)
  cases node with
  | directory => cases he; exact hmem
  | file o => cases he

theorem length_lt_depth {t : Tree} {place : Location} {name : String}
    (h : name ∈ t.directoryNames place) : place.length < t.depth := by
  have hmem := mem_entries_of_mem_listing (mem_listing_of_mem_directoryNames h)
  have hle : (place ++ [name]).length ≤ t.depth :=
    length_le_foldr_max (List.mem_map_of_mem (f := fun e : Location × Node => e.1.length) hmem)
  rw [List.length_append, List.length_singleton] at hle
  omega

/-- The first directory, in a walk from `place` on, for which `wanted` holds. -/
def walk? (t : Tree) (wanted : Location → Bool) (place : Location) : Option Location :=
  if wanted place then some place
  else (t.directoryNames place).attach.findSome? fun ⟨name, _⟩ => t.walk? wanted (place ++ [name])
termination_by t.depth - place.length
decreasing_by
  have h := length_lt_depth ‹_›
  rw [List.length_append, List.length_singleton]
  omega

end Groundwork.Tree
