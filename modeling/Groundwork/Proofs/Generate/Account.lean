import Groundwork.Patch
import Groundwork.Proofs.Run
import Groundwork.Proofs.Tree.Making
import Groundwork.Source

/-!
# Reports that account for the tree

What a run reports is held against the trees before and after it: the files that are new are the
ones reported as created, each once, and a file with new content is reported as patched. Accounts
add up along a tree that grows. A file that is created and then patched counts as created alone.
-/

namespace Groundwork

/-- The reports tell exactly which files are new, and name every older file whose octets changed. -/
structure Truthful (written : List Written) (patches : List Patched) (before after : Tree) :
    Prop where
  created : ∃ places : List Location, places.Nodup ∧
    (written.filter Written.isCreated).map (fun w => after.locate w.path) = places.map .ok ∧
    ∀ p, p ∈ places ↔ before.node? p = none ∧ ∃ o, after.node? p = some (.file o)
  edited : ∀ p o o', before.node? p = some (.file o) → after.node? p = some (.file o') → o' ≠ o →
    ∃ w ∈ patches, w.isPatched ∧ after.locate w.path = .ok p

namespace Truthful

variable {early late : List Path} {written more : List Written} {patches others : List Patched}
  {a b c : Tree}

theorem of_widens (h : Tree.Widens a b) : Truthful [] [] a b where
  created := by
    refine ⟨[], List.nodup_nil, rfl, fun p => ?_⟩
    constructor
    · intro hp; cases hp
    · rintro ⟨hn, o, ho⟩
      rw [h.file p o ho] at hn
      cases hn
  edited p o o' ho ho' hne := by
    rw [h.file p o' ho'] at ho
    cases ho
    exact absurd rfl hne

theorem refl (t : Tree) : Truthful [] [] t t :=
  of_widens (.refl t)

/-- A new file that is reported as created. -/
theorem of_add {t : Tree} {path : Path} {place : Location} {octets : List UInt8}
    (vacant : t.Vacant place) (hl : t.locate path = .ok place) :
    Truthful [⟨path, .created⟩] [] t (t.add place (.file octets) vacant) where
  created := by
    refine ⟨[place], by simp, ?_, fun p => ?_⟩
    · show [(t.add place (.file octets) vacant).locate path] = [.ok place]
      rw [(Tree.grows_add vacant).locate hl]
    · rw [List.mem_singleton, Tree.node?_add]
      constructor
      · rintro rfl
        exact ⟨vacant.1, octets, if_pos rfl⟩
      · rintro ⟨hn, o, ho⟩
        by_cases hp : p = place
        · exact hp
        · rw [if_neg hp, hn] at ho
          cases ho
  edited p o o' ho ho' hne := by
    rw [((Tree.grows_add vacant).same ho (by simp))] at ho'
    cases ho'
    exact absurd rfl hne

/-- A file with new octets that is reported as patched. -/
theorem of_replace {t : Tree} {r : Patched} {place : Location} (hp : r.isPatched)
    (hl : t.locate r.path = .ok place) (octets : List UInt8) :
    Truthful [] [r] t (t.replace place octets) where
  created := by
    refine ⟨[], List.nodup_nil, rfl, fun p => ?_⟩
    constructor
    · intro hp; cases hp
    · rintro ⟨hn, o, ho⟩
      rw [(Tree.node?_replace_none t place p octets).2 hn] at ho
      cases ho
  edited p o o' ho ho' hne := by
    refine ⟨r, List.mem_singleton_self r, hp, ?_⟩
    rw [Tree.locate_replace]
    by_cases h : p = place
    · rw [h]
      exact hl
    · rw [Tree.node?_replace_ne t octets h, ho] at ho'
      cases ho'
      exact absurd rfl hne

/-- What is reported to be there already adds nothing to an account. -/
theorem of_present (h : Truthful written patches a b) (path : Path) :
    Truthful (⟨path, .alreadyExists⟩ :: written) patches a b :=
  ⟨h.created, h.edited⟩

theorem mono_patches (h : Truthful written patches a b) (r : Patched) :
    Truthful written (r :: patches) a b where
  created := h.created
  edited p o o' ho ho' hne := by
    obtain ⟨w, hw, hpatched, hl⟩ := h.edited p o o' ho ho' hne
    exact ⟨w, List.mem_cons_of_mem r hw, hpatched, hl⟩

theorem append (hab : Truthful written patches a b) (hbc : Truthful more others b c)
    (gab : a.Grows early b) (gbc : b.Grows late c) :
    Truthful (written ++ more) (patches ++ others) a c where
  created := by
    obtain ⟨ps, hps, hlocs, hmem⟩ := hab.created
    obtain ⟨qs, hqs, hlocs', hmem'⟩ := hbc.created
    refine ⟨ps ++ qs, ?_, ?_, fun p => ?_⟩
    · refine List.nodup_append.2 ⟨hps, hqs, fun p hp q hq => ?_⟩
      rintro rfl
      obtain ⟨-, o, ho⟩ := (hmem p).1 hp
      rw [((hmem' p).1 hq).1] at ho
      cases ho
    · rw [List.filter_append, List.map_append, List.map_append, hlocs', ← hlocs]
      congr 1
      -- where a created file was found it is still found at the end
      apply List.map_congr_left
      intro w hw
      have hw' : b.locate w.path ∈ ps.map Except.ok := hlocs ▸ List.mem_map_of_mem hw
      obtain ⟨q, -, hq⟩ := List.mem_map.1 hw'
      rw [← hq, gbc.locate hq.symm]
    · rw [List.mem_append, hmem, hmem']
      constructor
      · rintro (⟨hn, o, ho⟩ | ⟨hn, ho⟩)
        · obtain ⟨o', ho', -⟩ := gbc.file p o ho
          exact ⟨hn, o', ho'⟩
        · exact ⟨gab.none_of_none hn, ho⟩
      · rintro ⟨hn, o, ho⟩
        cases hb : b.node? p with
        | none => exact .inr ⟨rfl, o, ho⟩
        | some n =>
          cases n with
          | file o' => exact .inl ⟨hn, o', rfl⟩
          | directory => rw [gbc.directory p hb] at ho; cases ho
  edited p o o'' ho ho'' hne := by
    obtain ⟨o', ho', -⟩ := gab.file p o ho
    by_cases h : o' = o
    · subst h
      obtain ⟨w, hw, hp, hl⟩ := hbc.edited p o' o'' ho' ho'' hne
      exact ⟨w, List.mem_append_right patches hw, hp, hl⟩
    · obtain ⟨w, hw, hp, hl⟩ := hab.edited p o o' ho ho' h
      exact ⟨w, List.mem_append_left others hw, hp, gbc.locate hl⟩

end Truthful

end Groundwork
