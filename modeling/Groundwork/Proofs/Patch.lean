import Groundwork.Proofs.Generate.Account
import Groundwork.Proofs.Tree.Refusal

/-!
# What a patch does to the tree

A patch changes the octets of the one file to which its path leads, and says so; with any other
status the tree is as before. A patch is settled at a tree when it has nothing left to change
there: such a patch rests.
-/

namespace Groundwork.Run

variable {site site' : Site} {t : Tree} {path : Path} {place : Location} {octets : List UInt8}
  {p : Patch} {r : Patched}

theorem fileOctets?_eq_some : fileOctets? t path = .ok (some (place, octets)) ↔
    t.locate path = .ok place ∧ t.node? place = some (.file octets) := by
  unfold fileOctets?
  constructor
  · intro h
    split at h
    · rename_i q o hl hi
      cases h
      obtain ⟨q, hq, hn⟩ := Tree.inspect_eq_ok.1 hi
      rw [hl] at hq
      cases hq
      exact ⟨hl, hn⟩
    · cases h
    · cases h
  · rintro ⟨hl, hn⟩
    rw [Tree.inspect_eq_ok.2 ⟨place, hl, hn⟩, hl]

theorem fileOctets?_long (h : t.locate path = .error .nameTooLong) :
    fileOctets? t path = .error .nameTooLong := by
  rw [fileOctets?, h, Tree.inspect_unlocated h]

theorem fileOctets?_error {fault : FileFault} (h : fileOctets? t path = .error fault) :
    fault = .nameTooLong ∧ t.locate path = .error .nameTooLong := by
  unfold fileOctets? at h
  split at h
  · cases h
  · rename_i hi
    cases h
    exact ⟨rfl, Tree.inspect_long hi⟩
  · cases h

theorem status_of_patchOctets (p : Patch) (octets : List UInt8) :
    (patchOctets p octets).2 = .patched ↔ (patchOctets p octets).1.isSome := by
  unfold patchOctets
  split
  · simp
  · dsimp only
    split
    · simp
    · split <;> simp

/-- The site and the status after a patch. -/
theorem on_patchFile (site : Site) (path : Path) (p : Patch) :
    on site (patchFile path p) = match fileOctets? site.tree path with
      | .error fault => (.error (.unreachable path fault), site)
      | .ok none => (.ok ⟨path, .missingTarget⟩,
          ⟨site.tree, site.notices ++ [patchNotice p path .missingTarget]⟩)
      | .ok (some (place, octets)) => (.ok ⟨path, (patchOctets p octets).2⟩,
          ⟨((patchOctets p octets).1.map (site.tree.replace place)).getD site.tree,
            site.notices ++ [patchNotice p path (patchOctets p octets).2]⟩) := by
  unfold patchFile
  rw [on_bind, on_tree]
  show on site (ask path (fileOctets? site.tree path) >>= _) = _
  rw [on_bind, on_ask]
  rcases fileOctets? site.tree path with fault | _ | ⟨place, octets⟩
  · rfl
  · rfl
  · dsimp only [Except.mapError]
    rcases patchOctets p octets with ⟨_ | octets', status⟩ <;> rfl

theorem patchFile_ok (h : on site (patchFile path p) = (.ok r, site')) :
    (r.path = path ∧ r.isPatched = false ∧ site'.tree = site.tree) ∨
      (r.path = path ∧ r.isPatched = true ∧ ∃ place octets octets',
        site.tree.locate path = .ok place ∧ site.tree.node? place = some (.file octets) ∧
        site'.tree = site.tree.replace place octets') := by
  rw [on_patchFile] at h
  rcases hf : fileOctets? site.tree path with fault | _ | ⟨place, octets⟩
  · rw [hf] at h
    cases h
  · rw [hf] at h
    cases h
    exact .inl ⟨rfl, rfl, rfl⟩
  · obtain ⟨hl, hn⟩ := fileOctets?_eq_some.1 hf
    have hs := status_of_patchOctets p octets
    rw [hf] at h
    rcases hp : patchOctets p octets with ⟨_ | octets', status⟩
    · simp only [hp] at h hs
      cases h
      exact .inl ⟨rfl, by simpa [Patched.isPatched] using hs, rfl⟩
    · simp only [hp] at h hs
      cases h
      exact .inr ⟨rfl, by simpa [Patched.isPatched] using hs, place, octets, octets', hl, hn, rfl⟩

theorem keeps_patchFile (path : Path) (p : Patch) : Keeps [path] (patchFile path p) := by
  intro site
  rcases h : on site (patchFile path p) with ⟨f | r, site'⟩
  · rw [on_patchFile] at h
    split at h
    · cases h
      exact .refl _ _
    · cases h
    · cases h
  · rcases patchFile_ok h with ⟨-, -, ht⟩ | ⟨-, -, place, octets, octets', hl, -, ht⟩
    · rw [ht]
      exact .refl _ _
    · rw [ht]
      exact Tree.grows_replace hl octets'

theorem truthful_of_patchFile (h : on site (patchFile path p) = (.ok r, site')) :
    Truthful [] [r] site.tree site'.tree := by
  rcases patchFile_ok h with ⟨-, -, ht⟩ | ⟨hpath, hp, place, octets, octets', hl, hn, ht⟩
  · rw [ht]
    exact (Truthful.refl site.tree).mono_patches r
  · rw [ht]
    exact .of_replace hp (hpath ▸ hl) octets'

end Groundwork.Run
