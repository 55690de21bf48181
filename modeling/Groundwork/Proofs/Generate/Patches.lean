import Groundwork.Generate.Security
import Groundwork.Proofs.Settled

/-!
# The patches of the security classes are settled

Two patches of the build file and up to four of the user repository, made one after the other into
any text and for any name of an entity. Each patch is done with the text after it, by what it
brings or for want of its anchor, and the later ones neither cut into what an earlier one brought
nor bring an anchor that was missing.
-/

namespace Groundwork

open Text

theorem Text.infix_append_left {s a b : String} (h : s.toList <:+: a.toList) :
    s.toList <:+: (a ++ b).toList := by
  rw [String.toList_append]
  exact h.trans (List.prefix_append _ _).isInfix

theorem Text.infix_append_right {s a b : String} (h : s.toList <:+: b.toList) :
    s.toList <:+: (a ++ b).toList := by
  rw [String.toList_append]
  exact h.trans (List.suffix_append _ _).isInfix

namespace Generate

variable {x : String}

/-- A look-up goes in front of the last brace. -/
theorem methodPatch_applyTo? {front rest : List Char} (hx : x.toList = front ++ '}' :: rest)
    (hrest : '}' ∉ rest) (method insertion : String) :
    (methodPatch method insertion).applyTo? x
      = some (.ofList (front ++ insertion.toList ++ '}' :: rest)) := by
  have hbrace : (methodPatch method insertion).anchor.toList = ['}'] :=
    show "\x7d".toList = ['}'] by decide
  refine Patch.applyTo?_of_cut rfl ?_
  rw [hbrace, hx]
  exact cutLast?_append_cons hrest front

theorem starterPatch_done (x : String) : starterPatch.Done (starterPatch.after x) := by
  refine Patch.done_after_of_occursIn (s := "spring-boot-starter-security") rfl ?_ (by decide) x
  exact infix_append_left (infix_append_right (occursIn_iff.1 (by decide)))

theorem tokenLibraryPatch_done (x : String) :
    tokenLibraryPatch.Done (tokenLibraryPatch.after x) := by
  refine Patch.done_after_of_occursIn (s := "jjwt") rfl ?_ (by decide) x
  exact infix_append_left (infix_append_left (infix_append_right (occursIn_iff.1 (by decide))))

/-- The second patch of the build file leaves the first one done. -/
theorem starterPatch_done_after (h : starterPatch.Done x) :
    starterPatch.Done (tokenLibraryPatch.after x) := by
  have hspares : tokenLibraryPatch.Spares "spring-boot-starter-security" :=
    ⟨by decide, (foreign_of_not_mem (by decide) _).clear⟩
  exact h.after_of_spares rfl hspares (Patch.applyTo?_after rfl)

theorem findPatch_done (entity x : String) :
    (findPatch entity).Done ((findPatch entity).after x) := by
  refine Patch.done_after_of_occursIn (s := "findByUsername") rfl ?_ (by decide) x
  exact infix_append_right (occursIn_iff.1 (by decide))

theorem existsPatch_done (x : String) : existsPatch.Done (existsPatch.after x) := by
  refine Patch.done_after_of_occursIn (s := "existsByUsername") rfl ?_ (by decide) x
  exact occursIn_iff.1 (by decide)

theorem findPatch_done_after_exists {entity : String} (h : (findPatch entity).Done x) :
    (findPatch entity).Done (existsPatch.after x) := by
  have hspares : existsPatch.Spares "findByUsername" :=
    ⟨by decide, (foreign_of_not_mem (by decide) _).clear⟩
  exact h.after_of_spares rfl hspares (Patch.applyTo?_after rfl)

/-- An import leaves a method done whose name it does not cut, since it brings no brace. -/
theorem methodPatch_done_after {p : Patch} {method insertion : String} (hspares : p.Spares method)
    (hbrace : '}' ∉ p.insertion.toList) (h : (methodPatch method insertion).Done x) :
    (methodPatch method insertion).Done (p.after x) := by
  have hanchor : (methodPatch method insertion).anchor.toList = ['}'] :=
    show "\x7d".toList = ['}'] by decide
  exact h.after_of_spares rfl hspares
    (Patch.applyTo?_after_of_not_mem hanchor hbrace (by decide))

/-- The text that is read after an import was asked for. -/
def afterImports (x : String) : String :=
  if importPatch.statusOn (some (some x)) = .missingAnchor then
    firstImportPatch.after (importPatch.after x)
  else importPatch.after x

/-- What is reported about the import that was asked for. -/
def importStatus (x : String) : PatchStatus :=
  if importPatch.statusOn (some (some x)) = .missingAnchor then
    firstImportPatch.statusOn (some (some (importPatch.after x)))
  else importPatch.statusOn (some (some x))

/-- Where there is an import, no other place is needed for the import of optional values. -/
theorem afterImports_eq {y : String} (h : importPatch.applyTo? x = some y) :
    afterImports x = importPatch.after x := by
  rw [afterImports, if_neg]
  rw [Patch.statusOn, h]
  split <;> simp

theorem hasOptionalImport_applied {p : Patch} {y : String} (h : p.applyTo? x = some y)
    (hp : optionalImport.toList <:+: p.insertion.toList) :
    hasOptionalImport (.ofList (unifyLineEnds y.toList)) := by
  rw [hasOptionalImport, Patch.occursIn_applied h hp (by decide)]
  rfl

theorem imports_done_of_present (h : hasOptionalImport x) :
    importPatch.Done x ∧ firstImportPatch.Done x := by
  have hi : importPatch.isPresent = hasOptionalImport := rfl
  have hf : firstImportPatch.isPresent = hasOptionalImport := rfl
  refine ⟨.inl ?_, .inl ?_⟩
  · rwa [hi]
  · rwa [hf]

/-- Either import settles both, and both are settled where neither can be made. -/
theorem imports_done (x : String) :
    importPatch.Done (afterImports x) ∧ firstImportPatch.Done (afterImports x) := by
  have hi : importPatch.isPresent = hasOptionalImport := rfl
  have hf : firstImportPatch.isPresent = hasOptionalImport := rfl
  rw [afterImports, Patch.statusOn, hi]
  by_cases hpresent : hasOptionalImport x
  · have hboth := imports_done_of_present hpresent
    rw [if_pos hpresent, if_neg (by decide), hboth.1.after_eq]
    exact hboth
  rw [if_neg hpresent]
  cases hy : importPatch.applyTo? x with
  | some y =>
    have hafter : importPatch.after x = .ofList (unifyLineEnds y.toList) := by
      rw [Patch.after, hi, if_neg hpresent, hy]
    rw [Option.isSome_some, if_pos rfl, if_neg (by decide), hafter]
    exact imports_done_of_present
      (hasOptionalImport_applied hy (infix_append_left (List.infix_refl _)))
  | none =>
    rw [Option.isSome_none, if_neg Bool.false_ne_true, if_pos rfl, Patch.Done.after_eq (.inr hy)]
    cases hz : firstImportPatch.applyTo? x with
    | none =>
      rw [Patch.Done.after_eq (.inr hz)]
      exact ⟨.inr hy, .inr hz⟩
    | some z =>
      have hafter : firstImportPatch.after x = .ofList (unifyLineEnds z.toList) := by
        rw [Patch.after, hf, if_neg hpresent, hz]
      rw [hafter]
      exact imports_done_of_present (hasOptionalImport_applied hz
        (infix_append_left (infix_append_right (List.infix_refl _))))

theorem methodPatch_done_afterImports {method insertion : String}
    (himport : importPatch.Spares method) (hfirst : firstImportPatch.Spares method)
    (h : (methodPatch method insertion).Done x) :
    (methodPatch method insertion).Done (afterImports x) := by
  have h' := methodPatch_done_after himport (by decide) h
  unfold afterImports
  split
  · exact methodPatch_done_after hfirst (by decide) h'
  · exact h'

/-- The patches of the user repository. -/
def lookups (entity : String) : List Patch :=
  [findPatch entity, existsPatch, importPatch, firstImportPatch]

/-- Whatever the repository held, and whatever the entity is called, all is done in the end. -/
theorem lookups_done (entity x : String) : ∀ p ∈ lookups entity,
    p.Done (afterImports (existsPatch.after ((findPatch entity).after x))) := by
  have hfind : (findPatch entity).Done
      (afterImports (existsPatch.after ((findPatch entity).after x))) :=
    methodPatch_done_afterImports ⟨by decide, show Clear _ _ by decide⟩
      ⟨by decide, show '\n' ∉ _ by decide⟩
      (findPatch_done_after_exists (findPatch_done entity x))
  have hexists : existsPatch.Done
      (afterImports (existsPatch.after ((findPatch entity).after x))) :=
    methodPatch_done_afterImports ⟨by decide, show Clear _ _ by decide⟩
      ⟨by decide, show '\n' ∉ _ by decide⟩ (existsPatch_done _)
  obtain ⟨himport, hfirst⟩ := imports_done (existsPatch.after ((findPatch entity).after x))
  intro p hp
  simp only [lookups, List.mem_cons, List.not_mem_nil, or_false] at hp
  rcases hp with rfl | rfl | rfl | rfl
  · exact hfind
  · exact hexists
  · exact himport
  · exact hfirst

end Generate

end Groundwork
