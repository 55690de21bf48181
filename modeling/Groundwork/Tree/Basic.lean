/-!
# File trees

A tree is a finite table of directories and files by location. The type keeps three facts: no
location has two entries, the root is not an entry, and every entry lies in a directory. The few
operations below are the only ones that change a tree, and each leaves all other entries alone.
Links, permissions and times are not modelled.
-/

namespace Groundwork

/-- The names that lead from the root of the tree to an entry. -/
abbrev Location := List String

inductive Node where
  | directory
  | file (octets : List UInt8)
  deriving Repr, DecidableEq

abbrev Entries := List (Location × Node)

/-- The node at a location; the root is a directory. -/
def Entries.node? (entries : Entries) (place : Location) : Option Node :=
  if place = [] then some .directory else entries.lookup place

structure Entries.Sound (entries : Entries) : Prop where
  distinct : (entries.map Prod.fst).Nodup
  off_root : ∀ e ∈ entries, e.1 ≠ []
  in_directory : ∀ e ∈ entries, entries.node? e.1.dropLast = some .directory

structure Tree where
  entries : Entries
  /-- Where relative paths start. -/
  home : Location := []
  sound : entries.Sound

namespace Tree

def empty : Tree := ⟨[], [], by constructor <;> simp⟩

instance : Inhabited Tree := ⟨empty⟩

def node? (t : Tree) (place : Location) : Option Node :=
  t.entries.node? place

/-- Nothing is there yet, and a directory is there to hold it. -/
def Vacant (t : Tree) (place : Location) : Prop :=
  t.node? place = none ∧ t.node? place.dropLast = some .directory

instance (t : Tree) (place : Location) : Decidable (t.Vacant place) :=
  inferInstanceAs (Decidable (_ ∧ _))

theorem lookup_eq_none_iff {entries : Entries} {place : Location} :
    entries.lookup place = none ↔ place ∉ entries.map Prod.fst := by
  induction entries with
  | nil => simp
  | cons e rest ih =>
    obtain ⟨at', node⟩ := e
    rw [List.lookup_cons]
    by_cases h : place = at'
    · simp [h]
    · have hne : (place == at') = false := by simpa using h
      simp only [hne, ih, List.map_cons, List.mem_cons, h, false_or]

/-- Adds an entry where nothing is. -/
def add (t : Tree) (place : Location) (node : Node) (vacant : t.Vacant place) : Tree where
  entries := (place, node) :: t.entries
  home := t.home
  sound := by
    have hne : place ≠ [] := by
      rintro rfl
      simp [Vacant, node?, Entries.node?] at vacant
    have habsent : t.entries.lookup place = none := by
      have h := vacant.1
      simpa [node?, Entries.node?, hne] using h
    have keep : ∀ p, t.entries.node? p = some .directory →
        Entries.node? ((place, node) :: t.entries) p = some .directory := by
      intro p hp
      unfold Entries.node? at hp ⊢
      by_cases hroot : p = []
      · simp [hroot]
      · rw [if_neg hroot] at hp ⊢
        rw [List.lookup_cons]
        have hne : (p == place) = false := by
          simp only [beq_eq_false_iff_ne]
          rintro rfl
          simp [habsent] at hp
        rw [hne]
        exact hp
    refine ⟨?_, ?_, ?_⟩
    · rw [List.map_cons, List.nodup_cons]
      exact ⟨lookup_eq_none_iff.1 habsent, t.sound.distinct⟩
    · intro e he
      rcases List.mem_cons.1 he with rfl | he
      · exact hne
      · exact t.sound.off_root e he
    · intro e he
      rcases List.mem_cons.1 he with rfl | he
      · exact keep _ vacant.2
      · exact keep _ (t.sound.in_directory e he)

/-- The entry with new content, if it is the file at `place`. -/
def replaceIn (place : Location) (octets : List UInt8) (e : Location × Node) : Location × Node :=
  if e.1 = place then
    match e.2 with
    | .file _ => (e.1, .file octets)
    | .directory => e
  else e

theorem replaceIn_fst (place : Location) (octets : List UInt8) (e : Location × Node) :
    (replaceIn place octets e).1 = e.1 := by
  unfold replaceIn
  split
  · split <;> rfl
  · rfl

theorem lookup_map_replaceIn_directory {entries : Entries} {place p : Location}
    {octets : List UInt8} (h : entries.lookup p = some .directory) :
    (entries.map (replaceIn place octets)).lookup p = some .directory := by
  induction entries with
  | nil => simp at h
  | cons e rest ih =>
    obtain ⟨at', node⟩ := e
    have hfst := replaceIn_fst place octets (at', node)
    rw [List.map_cons]
    generalize hr : replaceIn place octets (at', node) = e' at hfst ⊢
    obtain ⟨at'', node'⟩ := e'
    simp only at hfst
    subst hfst
    rw [List.lookup_cons] at h ⊢
    by_cases hp : p = at''
    · subst hp
      simp only [beq_self_eq_true] at h ⊢
      simp only [Option.some.injEq] at h
      subst h
      unfold replaceIn at hr
      simp only at hr
      split at hr <;> simp_all
    · have hp' : (p == at'') = false := by simpa using hp
      rw [hp'] at h ⊢
      exact ih h

/-- Gives the file at `place` new content; without a file there, nothing changes. -/
def replace (t : Tree) (place : Location) (octets : List UInt8) : Tree where
  entries := t.entries.map (replaceIn place octets)
  home := t.home
  sound := by
    have hkeys : (t.entries.map (replaceIn place octets)).map Prod.fst
        = t.entries.map Prod.fst := by
      rw [List.map_map]
      exact List.map_congr_left fun e _ => replaceIn_fst place octets e
    refine ⟨by rw [hkeys]; exact t.sound.distinct, ?_, ?_⟩
    · intro e he
      obtain ⟨o, ho, rfl⟩ := List.mem_map.1 he
      rw [replaceIn_fst]
      exact t.sound.off_root o ho
    · intro e he
      obtain ⟨o, ho, rfl⟩ := List.mem_map.1 he
      rw [replaceIn_fst]
      have h := t.sound.in_directory o ho
      unfold Entries.node? at h ⊢
      split
      · rfl
      · rename_i hroot
        rw [if_neg hroot] at h
        exact lookup_map_replaceIn_directory h

theorem lookup_filter {entries : Entries} {keep : Location → Bool} {p : Location}
    (hp : keep p = true) :
    (entries.filter fun e => keep e.1).lookup p = entries.lookup p := by
  induction entries with
  | nil => rfl
  | cons e rest ih =>
    obtain ⟨at', node⟩ := e
    rw [List.filter_cons, List.lookup_cons]
    by_cases h : p = at'
    · subst h
      simp [hp]
    · have h' : (p == at') = false := by simpa using h
      rw [h']
      split
      · rw [List.lookup_cons, h', ih]
      · exact ih

/-- Removes the entry at `place` and everything below it. -/
def remove (t : Tree) (place : Location) : Tree where
  entries := t.entries.filter fun e => !place.isPrefixOf e.1
  home := t.home
  sound := by
    refine ⟨?_, ?_, ?_⟩
    · exact List.Nodup.sublist (List.Sublist.map _ List.filter_sublist) t.sound.distinct
    · intro e he
      exact t.sound.off_root e (List.mem_filter.1 he).1
    · intro e he
      have hmem := (List.mem_filter.1 he).1
      have hkeep : (!place.isPrefixOf e.1) = true := (List.mem_filter.1 he).2
      have h := t.sound.in_directory e hmem
      unfold Entries.node? at h ⊢
      split
      · rfl
      · rename_i hroot
        rw [if_neg hroot] at h
        have hparent : (!place.isPrefixOf e.1.dropLast) = true := by
          simp only [Bool.not_eq_true', ← Bool.not_eq_true, List.isPrefixOf_iff_prefix] at hkeep ⊢
          exact fun hpre => hkeep (hpre.trans (List.dropLast_prefix e.1))
        rw [@lookup_filter t.entries (fun p => !place.isPrefixOf p) _ hparent]
        exact h

end Tree

end Groundwork
