import Groundwork.Proofs.Tree.Viable

/-!
# Names of entries

No entry of a file system is called by an empty name, `.` or `..`, by one with a slash or a null
character, or by one that is too long. Operations on a tree keep it so. Where it is so, a path that
goes down from a directory to an entry leads there, unless the text of the path is too long.
-/

namespace Groundwork.Tree

variable {t b : Tree} {root path : Path} {place way : Location} {parts : List String}
  {name : String} {node : Node}

/-- A name that an entry can have. -/
structure Nameable (name : String) : Prop where
  plain : Path.Plain name
  not_up : name ≠ ".."
  no_null : '\x00' ∉ name.toList
  short : name.utf8ByteSize ≤ nameLimit

/-- All entries have names that entries can have, and so has the place where relative paths start. -/
structure Legal (t : Tree) : Prop where
  home : ∀ name ∈ t.home, Nameable name
  entry : ∀ place node, t.node? place = some node → ∀ name ∈ place, Nameable name

theorem mem_lead (h : name ∈ lead place parts) : name ∈ place ∨ name ∈ parts ∧ name ≠ ".." := by
  induction parts generalizing place with
  | nil => exact .inl h
  | cons part rest ih =>
    rcases ih h with hin | ⟨hrest, hup⟩
    · dsimp only at hin
      by_cases hpart : part = ".."
      · rw [if_pos hpart] at hin
        exact .inl (List.dropLast_subset place hin)
      · rw [if_neg hpart, List.mem_append, List.mem_singleton] at hin
        rcases hin with hin | rfl
        · exact .inl hin
        · exact .inr ⟨List.mem_cons_self, hpart⟩
    · exact .inr ⟨List.mem_cons_of_mem part hrest, hup⟩

/-- A path only leads to places that can be. -/
theorem nameable_of_locate (hhome : ∀ name ∈ t.home, Nameable name)
    (hl : t.locate path = .ok place) : ∀ name ∈ place, Nameable name := by
  intro name hname
  obtain ⟨hpassable, hsteps⟩ := locate_eq_ok.1 hl
  rw [eq_lead_of_locate hl] at hname
  rcases mem_lead hname with hstart | ⟨hpart, hup⟩
  · unfold start at hstart
    split at hstart
    · exact hhome name hstart
    · cases hstart
  · refine ⟨path.plain name hpart, hup, fun hnull => ?_, ?_⟩
    · have hany := List.any_eq_false.1 hpassable.no_null name hpart
      exact hany (List.contains_iff_mem.2 hnull)
    · exact (steps_short hsteps name hpart).resolve_left hup

theorem legal_empty : empty.Legal where
  home _ h := nomatch h
  entry place node h := by
    by_cases hplace : place = []
    · rw [hplace]
      exact fun _ hname => nomatch hname
    · rw [node?_eq_some_iff hplace] at h
      cases h

namespace Legal

theorem create (h : t.Legal) (hc : t.create path node = .ok b) : b.Legal := by
  obtain ⟨made, vacant, hl, rfl⟩ := create_of_ok hc
  refine ⟨h.home, fun place node' hn => ?_⟩
  rw [node?_add] at hn
  split at hn
  · rename_i hplace
    rw [hplace]
    exact nameable_of_locate h.home hl
  · exact h.entry place node' hn

theorem ensureDirectory (h : t.Legal) (path : Path) : (t.ensureDirectory path).1.Legal := by
  obtain ⟨hwidens, -⟩ := ensureDirectory_spec t path
  have hhome : ∀ name ∈ (t.ensureDirectory path).1.home, Nameable name := by
    rw [hwidens.grows.home]
    exact h.home
  refine ⟨hhome, fun place node hn => ?_⟩
  cases hold : t.node? place with
  | some old => exact h.entry place old hold
  | none =>
    obtain ⟨p, -, hl⟩ := madeFor_ensureDirectory t path place node hold hn
    exact nameable_of_locate hhome hl

theorem replace (h : t.Legal) (place : Location) (octets : List UInt8) :
    (t.replace place octets).Legal := by
  refine ⟨h.home, fun p node hn => ?_⟩
  cases hold : t.node? p with
  | some old => exact h.entry p old hold
  | none =>
    rw [(node?_replace_none t place p octets).2 hold] at hn
    cases hn

theorem remove (h : t.Legal) (place : Location) : (t.remove place).Legal := by
  refine ⟨h.home, fun p node hn => ?_⟩
  by_cases hp : p = []
  · rw [hp]
    exact fun _ hname => nomatch hname
  · rw [node?_eq_some_iff hp] at hn
    exact h.entry p node ((node?_eq_some_iff hp).2 (List.mem_filter.1 hn).1)

end Legal

/-- Out of a directory, names lead down to what they are the names of. -/
theorem steps_down (hway : ∀ name ∈ way, Nameable name) (hn : t.node? (place ++ way) = some node) :
    way.foldlM t.step place = .ok (place ++ way) := by
  induction way generalizing place with
  | nil => rw [List.append_nil]; rfl
  | cons name rest ih =>
    obtain ⟨hname, hrest⟩ := List.forall_mem_cons.1 hway
    have hstep : t.step place name = .ok (place ++ [name]) := by
      rw [step, directory_above hn (List.cons_ne_nil _ _)]
      show (if name = ".." then _ else _) = _
      rw [if_neg hname.not_up, if_neg (Nat.not_lt.2 hname.short)]
    have hsplit : place ++ name :: rest = place ++ [name] ++ rest := by simp
    rw [hsplit] at hn ⊢
    rw [List.foldlM_cons, hstep]
    exact ih hrest hn

/-- A path down to an entry leads there, if its text is not too long. -/
theorem Legal.locate_down (h : t.Legal) (hdown : root.Descends path way)
    (hl : t.locate root = .ok place) (hn : t.node? (place ++ way) = some node) :
    t.locate path = if path.text.utf8ByteSize ≤ pathLimit then .ok (place ++ way)
      else .error .nameTooLong := by
  obtain ⟨hpassable, hsteps⟩ := locate_eq_ok.1 hl
  have hway : ∀ name ∈ way, Nameable name := fun name hname =>
    h.entry _ _ hn name (List.mem_append_right place hname)
  have hnull : path.parts.any (·.toList.contains '\x00') = false := by
    rw [hdown.parts, List.any_append, hpassable.no_null, Bool.false_or, List.any_eq_false]
    intro name hname hin
    exact (hway name hname).no_null (List.contains_iff_mem.1 hin)
  by_cases hshort : path.text.utf8ByteSize ≤ pathLimit
  · rw [if_pos hshort, locate_of_passable ⟨hnull, hshort⟩, hdown.parts, List.foldlM_append,
      start_eq_of_home rfl hdown.anchor, hsteps]
    exact steps_down hway hn
  · rw [if_neg hshort, Tree.locate, hnull, if_neg Bool.false_ne_true, if_pos (Nat.lt_of_not_le hshort)]

end Groundwork.Tree
