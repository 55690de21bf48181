import Groundwork.Proofs.Tree.Growth
import Groundwork.Tree.Listing

/-!
# What a walk finds

A walk that stops at the first directory it is looking for stops at the least one, in the order
that compares locations name by name and puts a directory before what lies in it. It finds nothing
only if there is nothing to find. The order in which entries are listed plays no part.
-/

namespace Groundwork

/-- Locations are compared name by name, and a directory comes before what lies in it. -/
def Location.Before (p q : Location) : Prop :=
  List.Lex (· < ·) p q

/-- The least location with a property. -/
structure Least (P : Location → Prop) (place : Location) : Prop where
  holds : P place
  least : ∀ other, P other → ¬ other.Before place

theorem Least.unique {P : Location → Prop} {p q : Location} (hp : Least P p) (hq : Least P q) :
    p = q :=
  List.le_antisymm (hp.least q hq.holds) (hq.least p hp.holds)

namespace Tree

variable {t : Tree} {place p other : Location} {name : String} {node : Node}
  {wanted : Location → Bool}

theorem lookup_eq_some_iff_mem {entries : Entries} (h : (entries.map Prod.fst).Nodup) :
    entries.lookup p = some node ↔ (p, node) ∈ entries := by
  induction entries with
  | nil => simp
  | cons e rest ih =>
    obtain ⟨q, n⟩ := e
    rw [List.map_cons, List.nodup_cons] at h
    rw [List.lookup_cons, List.mem_cons]
    by_cases hq : p = q
    · subst hq
      have habsent : (p, node) ∉ rest := fun hmem =>
        h.1 (List.mem_map.2 ⟨(p, node), hmem, rfl⟩)
      simp [habsent, eq_comm]
    · rw [show (p == q) = false from by simpa using hq, ih h.2]
      simp [hq]

theorem node?_eq_some_iff (hp : p ≠ []) : t.node? p = some node ↔ (p, node) ∈ t.entries := by
  rw [node?_of_ne_root t hp, lookup_eq_some_iff_mem t.sound.distinct]

/-- The order in which a tree holds its entries is not seen. -/
theorem node?_of_perm {b : Tree} (h : b.entries.Perm t.entries) : b.node? = t.node? := by
  funext p
  by_cases hp : p = []
  · subst hp
    rfl
  · refine Option.ext fun node => ?_
    rw [node?_eq_some_iff hp, node?_eq_some_iff hp, h.mem_iff]

/-- Where paths lead depends on the nodes alone. -/
theorem locate_of_node? {b : Tree} (hhome : b.home = t.home) (hn : b.node? = t.node?) :
    b.locate = t.locate := by
  have hstep : b.step = t.step := by
    funext place part
    unfold step
    rw [hn]
  funext path
  unfold locate
  rw [hstep, hhome]

theorem mem_listing : (name, node) ∈ t.listing place ↔ t.node? (place ++ [name]) = some node := by
  rw [node?_eq_some_iff (by simp)]
  constructor
  · exact mem_entries_of_mem_listing
  · intro h
    refine List.mem_filterMap.2 ⟨(place ++ [name], node), h, ?_⟩
    dsimp only
    rw [List.dropLast_concat, if_pos rfl, List.getLast?_concat]
    rfl

theorem mem_directoryNames :
    name ∈ t.directoryNames place ↔ t.node? (place ++ [name]) = some .directory := by
  rw [← mem_listing]
  constructor
  · exact mem_listing_of_mem_directoryNames
  · intro h
    exact mem_inOrder.2 (List.mem_filterMap.2 ⟨(name, .directory), h, rfl⟩)

theorem mem_fileNames :
    name ∈ t.fileNames place ↔ ∃ octets, t.node? (place ++ [name]) = some (.file octets) := by
  constructor
  · intro h
    obtain ⟨⟨name', node⟩, hmem, he⟩ := List.mem_filterMap.1 (mem_inOrder.1 h)
    cases node with
    | directory => cases he
    | file o =>
      cases he
      exact ⟨o, mem_listing.1 hmem⟩
  · rintro ⟨o, h⟩
    exact mem_inOrder.2 (List.mem_filterMap.2 ⟨(name, .file o), mem_listing.2 h, rfl⟩)

theorem insertName_sorted {names : List String} (h : names.Pairwise (· ≤ ·)) (name : String) :
    (insertName name names).Pairwise (· ≤ ·) := by
  induction names with
  | nil => exact List.pairwise_singleton _ name
  | cons first rest ih =>
    obtain ⟨hfirst, hrest⟩ := List.pairwise_cons.1 h
    rw [insertName]
    split
    · rename_i hle
      refine List.pairwise_cons.2 ⟨fun other ho => ?_, h⟩
      rcases List.mem_cons.1 ho with rfl | ho
      · exact hle
      · exact String.le_trans hle (hfirst other ho)
    · rename_i hle
      refine List.pairwise_cons.2 ⟨fun other ho => ?_, ih hrest⟩
      rcases mem_insertName.1 ho with rfl | ho
      · exact (String.le_total first other).resolve_right hle
      · exact hfirst other ho

theorem inOrder_sorted (names : List String) : (inOrder names).Pairwise (· ≤ ·) := by
  induction names with
  | nil => exact List.Pairwise.nil
  | cons name rest ih => exact insertName_sorted ih name

/-- Every entry lies in a directory. -/
theorem node?_dropLast (h : t.node? p = some node) : t.node? p.dropLast = some .directory := by
  by_cases hp : p = []
  · subst hp
    rfl
  · exact t.sound.in_directory _ ((node?_eq_some_iff hp).1 h)

/-- On the way to a directory there are only directories. -/
theorem directory_of_append {rest : Location}
    (h : t.node? (place ++ name :: rest) = some .directory) :
    t.node? (place ++ [name]) = some .directory := by
  induction hn : rest.length generalizing rest with
  | zero =>
    obtain rfl := List.length_eq_zero_iff.1 hn
    exact h
  | succ n ih =>
    have hne : rest ≠ [] := by
      rintro rfl
      cases hn
    have hup := node?_dropLast h
    rw [List.dropLast_append_of_ne_nil (by simp), List.dropLast_cons_of_ne_nil hne] at hup
    exact ih hup (by rw [List.length_dropLast, hn]; rfl)

/-- A wanted directory, `place` itself or below it. -/
structure Sought (t : Tree) (wanted : Location → Bool) (place other : Location) : Prop where
  within : place <+: other
  directory : t.node? other = some .directory
  wanted : wanted other

theorem Sought.weaken (h : Sought t wanted (place ++ [name]) other) :
    Sought t wanted place other :=
  ⟨(List.prefix_append place [name]).trans h.within, h.directory, h.wanted⟩

/-- What is sought below a directory that is not wanted itself is in one of its directories. -/
theorem Sought.step (h : Sought t wanted place other) (hplace : ¬ wanted place) :
    ∃ name ∈ t.directoryNames place, Sought t wanted (place ++ [name]) other := by
  obtain ⟨rest, rfl⟩ := h.within
  cases rest with
  | nil =>
    have hw := h.wanted
    rw [List.append_nil] at hw
    exact absurd hw hplace
  | cons name rest =>
    refine ⟨name, mem_directoryNames.2 (directory_of_append h.directory), ?_, h.directory, h.wanted⟩
    exact ⟨rest, by simp⟩

/-- Locations that part at one name are in the order of these names. -/
theorem not_before_of_names_lt {n m : String} (hnm : n < m) (hp : place ++ [n] <+: p)
    (hq : place ++ [m] <+: other) : ¬ other.Before p := by
  obtain ⟨x, rfl⟩ := hp
  obtain ⟨y, rfl⟩ := hq
  rw [List.append_assoc, List.append_assoc]
  exact List.append_left_le (List.cons_le_cons_iff.2 (.inl hnm))

theorem walk?_eq (t : Tree) (wanted : Location → Bool) (place : Location) :
    t.walk? wanted place = if wanted place then some place
      else (t.directoryNames place).findSome? fun name => t.walk? wanted (place ++ [name]) := by
  rw [walk?]
  split
  · rfl
  · rw [List.findSome?_subtype (g := fun name => t.walk? wanted (place ++ [name])) fun _ _ => rfl,
      List.unattach_attach]

/-- The walk stops at the least of what is sought, and goes on only while nothing is. -/
theorem walk?_spec (t : Tree) (wanted : Location → Bool) (place : Location)
    (hplace : t.node? place = some .directory) :
    (∀ found, t.walk? wanted place = some found → Least (Sought t wanted place) found) ∧
      (t.walk? wanted place = none → ∀ other, ¬ Sought t wanted place other) := by
  induction place using walk?.induct t wanted with
  | case1 place hw =>
    rw [walk?_eq, if_pos hw]
    refine ⟨fun found hf => ?_, fun h => by cases h⟩
    cases hf
    exact ⟨⟨List.prefix_rfl, hplace, hw⟩, fun other ho => List.IsPrefix.le ho.within⟩
  | case2 place hw ih =>
    have ih' : ∀ name ∈ t.directoryNames place,
        (∀ found, t.walk? wanted (place ++ [name]) = some found →
          Least (Sought t wanted (place ++ [name])) found) ∧
        (t.walk? wanted (place ++ [name]) = none →
          ∀ other, ¬ Sought t wanted (place ++ [name]) other) :=
      fun name hn => ih name hn (mem_directoryNames.1 hn)
    rw [walk?_eq, if_neg hw]
    constructor
    · intro found hf
      obtain ⟨earlier, name, later, hnames, hfound, hnone⟩ := List.findSome?_eq_some_iff.1 hf
      have hmem : name ∈ t.directoryNames place := by simp [hnames]
      have hleast := (ih' name hmem).1 found hfound
      refine ⟨hleast.holds.weaken, fun other ho => ?_⟩
      obtain ⟨name', hn', ho'⟩ := ho.step hw
      by_cases hsame : name' = name
      · subst hsame
        exact hleast.least other ho'
      -- a name before this one was looked into and nothing was found, so it comes after
      have hlater : name' ∈ later := by
        rw [hnames] at hn'
        rcases List.mem_append.1 hn' with he | hl
        · have hmem' : name' ∈ t.directoryNames place := by simp [hnames, he]
          exact absurd ho' ((ih' name' hmem').2 (hnone name' he) other)
        · exact (List.mem_cons.1 hl).resolve_left hsame
      have hle : name ≤ name' := by
        have hsorted : (t.directoryNames place).Pairwise (· ≤ ·) := inOrder_sorted _
        rw [hnames] at hsorted
        exact (List.pairwise_cons.1 (List.pairwise_append.1 hsorted).2.1).1 name' hlater
      have hlt : name < name' := by
        rw [← String.not_le]
        intro hge
        exact hsame (String.le_antisymm hge hle)
      exact not_before_of_names_lt hlt hleast.holds.within ho'.within
    · intro hnone other ho
      obtain ⟨name, hn, ho⟩ := ho.step hw
      exact (ih' name hn).2 (List.findSome?_eq_none_iff.1 hnone name hn) other ho

theorem walk?_eq_some (hplace : t.node? place = some .directory) {found : Location} :
    t.walk? wanted place = some found ↔ Least (Sought t wanted place) found := by
  obtain ⟨hsome, hnone⟩ := walk?_spec t wanted place hplace
  constructor
  · exact hsome found
  · intro hleast
    cases hw : t.walk? wanted place with
    | none => exact absurd hleast.holds (hnone hw found)
    | some other => rw [(hsome other hw).unique hleast]

theorem walk?_eq_none (hplace : t.node? place = some .directory) :
    t.walk? wanted place = none ↔ ∀ other, ¬ Sought t wanted place other := by
  obtain ⟨hsome, hnone⟩ := walk?_spec t wanted place hplace
  constructor
  · exact hnone
  · intro hno
    cases hw : t.walk? wanted place with
    | none => rfl
    | some found => exact absurd (hsome found hw).holds (hno found)

end Tree

end Groundwork
