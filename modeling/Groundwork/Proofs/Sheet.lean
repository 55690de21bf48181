import Groundwork.Proofs.Name
import Groundwork.Proofs.Result
import Groundwork.Sheet

/-!
# What a sheet takes from its blueprint

Every sheet keeps the package of its blueprint, and all but the sheets of the security classes and
of a project name their class after it. A blueprint without a sheet is at fault itself.
-/

namespace Groundwork

namespace Text

variable {s ending stem : String}

theorem dropEnding?_eq_some : dropEnding? s ending = some stem ↔ s = stem ++ ending := by
  have hdrop (stem ending : String) : (stem ++ ending).toList.take
      ((stem ++ ending).toList.length - ending.toList.length) = stem.toList := by
    rw [String.toList_append, List.length_append, Nat.add_sub_cancel, List.take_left]
  constructor
  · intro h
    unfold dropEnding? at h
    split at h
    · rename_i hends
      obtain ⟨front, hfront⟩ := List.isSuffixOf_iff_suffix.1 hends
      have hs : s = .ofList front ++ ending := by
        rw [← String.toList_inj, String.toList_append, String.toList_ofList, hfront]
      cases h
      rw [hs, hdrop, String.toList_ofList]
    · cases h
  · rintro rfl
    have hends : endsWith (stem ++ ending) ending := by
      refine List.isSuffixOf_iff_suffix.2 ?_
      rw [String.toList_append]
      exact List.suffix_append _ _
    rw [dropEnding?, if_pos hends, hdrop, String.ofList_toList]

theorem dropEnding?_eq_none : dropEnding? s ending = none ↔ ∀ stem, s ≠ stem ++ ending := by
  simp only [Option.eq_none_iff_forall_ne_some, ne_eq, dropEnding?_eq_some]

theorem endsWith_iff_append : endsWith s ending ↔ ∃ stem, s = stem ++ ending := by
  have hsome : endsWith s ending ↔ (dropEnding? s ending).isSome := by
    unfold dropEnding?
    split <;> simp_all
  simp only [hsome, Option.isSome_iff_exists, dropEnding?_eq_some]

end Text

namespace Package

variable {old new package : String} {c : Char}

theorem swapLast_append (old new stem : String) :
    swapLast old new (stem ++ ("." ++ old)) = stem ++ "." ++ new := by
  rw [swapLast, Text.dropEnding?_eq_some.2 rfl]

theorem mem_swapLast (h : c ∈ (swapLast old new package).toList) :
    c ∈ package.toList ∨ c = '.' ∨ c ∈ new.toList := by
  unfold swapLast at h
  split at h
  · rename_i stem hstem
    rw [Text.dropEnding?_eq_some.1 hstem]
    simp only [String.toList_append, List.mem_append] at h ⊢
    rcases h with (h | h) | h
    · exact .inl (.inl h)
    · exact .inr (.inl (by simpa using h))
    · exact .inr (.inr h)
  · exact .inl h

end Package

variable {b : Blueprint}

theorem ControllerSheet.eq_of_ok {s : ControllerSheet} (h : ofBlueprint b = .ok s) :
    s.name = b.title ∧ s.package = b.package ∧ s.model = (b.modelName "Controller").written ∧
      s.modelPackage = b.option "model_package" (.text "") ∧
      s.servicePackage = b.option "service_package" (.text "") := by
  obtain ⟨service, -, h⟩ := bind_ok h
  obtain ⟨basePath, -, h⟩ := bind_ok h
  cases h
  exact ⟨rfl, rfl, rfl, rfl, rfl⟩

theorem ServiceSheet.eq_of_ok {s : ServiceSheet} (h : ofBlueprint b = .ok s) :
    s.name = b.title ∧ s.package = b.package ∧ s.model = (b.modelName "Service").written ∧
      s.modelPackage = b.option "model_package" (.text "") ∧
      s.repositoryPackage = b.option "repository_package" (.text "") := by
  obtain ⟨repository, -, h⟩ := bind_ok h
  cases h
  exact ⟨rfl, rfl, rfl, rfl, rfl⟩

theorem RepositorySheet.eq_of_ok {s : RepositorySheet} (h : ofBlueprint b = .ok s) :
    s.name = b.title ∧ s.package = b.package ∧ s.model = (b.modelName "Repository").written ∧
      s.modelPackage = b.option "model_package" (.text "") := by
  obtain ⟨instance', -, h⟩ := bind_ok h
  cases h
  exact ⟨rfl, rfl, rfl, rfl⟩

theorem SecuritySheet.eq_of_ok {s : SecuritySheet} (h : ofBlueprint b = .ok s) :
    s.package = b.package ∧
      s.userEntity = (b.option "user_entity" (.text usualUser)).written ∧
      s.userPackage = b.option "user_package" (.text "") ∧
      Value.needed (repositoryPackage b s.userPackage) = .ok s.userRepositoryPackage := by
  obtain ⟨expiration, -, h⟩ := bind_ok h
  obtain ⟨instance', -, h⟩ := bind_ok h
  obtain ⟨package, hpackage, h⟩ := bind_ok h
  obtain ⟨repository, -, h⟩ := bind_ok h
  cases h
  exact ⟨rfl, rfl, rfl, hpackage⟩

/-- A failure of what was put in. -/
inductive Failure.OfInput : Failure → Prop where
  | input (fault : InputFault) : OfInput (.input fault)
  | misuse (m : Value.Misuse) : OfInput (.misuse m)

theorem Value.ofInput_of_needed {α : Type} {r : Except Value.Misuse α} {f : Failure}
    (h : Value.needed r = .error f) : f.OfInput := by
  cases r with
  | ok a => cases h
  | error m =>
    cases h
    exact .misuse m

theorem Blueprint.requireName_error {f : Failure} (h : b.requireName = .error f) :
    f = .input (.blankName b.kind) := by
  unfold requireName at h
  split at h
  · cases h
    rfl
  · cases h

namespace Sheet

/-- The sheet of a blueprint, kind by kind. -/
inductive From (b : Blueprint) : Sheet → Prop
  | model : From b (.model (.ofBlueprint b))
  | controller {s : ControllerSheet} (h : ControllerSheet.ofBlueprint b = .ok s) :
      From b (.controller s)
  | service {s : ServiceSheet} (h : ServiceSheet.ofBlueprint b = .ok s) : From b (.service s)
  | repository {s : RepositorySheet} (h : RepositorySheet.ofBlueprint b = .ok s) :
      From b (.repository s)
  | security {s : SecuritySheet} (h : SecuritySheet.ofBlueprint b = .ok s) : From b (.security s)
  | project {s : ProjectSheet} (h : ProjectSheet.ofBlueprint b = .ok s) : From b (.project s)

theorem from_of_ok {s : Sheet} (h : ofBlueprint b = .ok s) : From b s := by
  obtain ⟨u, -, h⟩ := bind_ok h
  cases hk : b.kind with
  | model =>
    rw [hk] at h
    cases h
    exact .model
  | controller =>
    rw [hk] at h
    obtain ⟨s', hs, h⟩ := bind_ok h
    cases h
    exact .controller hs
  | service =>
    rw [hk] at h
    obtain ⟨s', hs, h⟩ := bind_ok h
    cases h
    exact .service hs
  | repository =>
    rw [hk] at h
    obtain ⟨s', hs, h⟩ := bind_ok h
    cases h
    exact .repository hs
  | security =>
    rw [hk] at h
    obtain ⟨s', hs, h⟩ := bind_ok h
    cases h
    exact .security hs
  | project =>
    rw [hk] at h
    obtain ⟨s', hs, h⟩ := bind_ok h
    cases h
    exact .project hs

/-- A project has the sheet that is worked out for its kind. -/
theorem ok_of_project {s : ProjectSheet} (hkind : b.kind = .project)
    (hname : b.requireName = .ok ()) (h : ProjectSheet.ofBlueprint b = .ok s) :
    ofBlueprint b = .ok (.project s) := by
  unfold ofBlueprint
  rw [hname, hkind, h]
  rfl

/-- Where working a sheet out fails, kind by kind. -/
inductive FailsFrom (b : Blueprint) (f : Failure) : Prop
  | name (h : b.requireName = .error f)
  | controller (h : ControllerSheet.ofBlueprint b = .error f)
  | service (h : ServiceSheet.ofBlueprint b = .error f)
  | repository (h : RepositorySheet.ofBlueprint b = .error f)
  | security (h : SecuritySheet.ofBlueprint b = .error f)
  | project (h : ProjectSheet.ofBlueprint b = .error f)

theorem error_of_return {α β : Type} {r : Except Failure α} {g : α → β} {f : Failure}
    (h : (do return g (← r)) = .error f) : r = .error f := by
  rcases bind_error h with h | ⟨a, -, h⟩
  · exact h
  · cases h

theorem failsFrom_of_error {f : Failure} (h : ofBlueprint b = .error f) : FailsFrom b f := by
  rcases bind_error h with h | ⟨u, -, h⟩
  · exact .name h
  · cases hk : b.kind with
    | model =>
      rw [hk] at h
      cases h
    | controller =>
      rw [hk] at h
      exact .controller (error_of_return h)
    | service =>
      rw [hk] at h
      exact .service (error_of_return h)
    | repository =>
      rw [hk] at h
      exact .repository (error_of_return h)
    | security =>
      rw [hk] at h
      exact .security (error_of_return h)
    | project =>
      rw [hk] at h
      exact .project (error_of_return h)

/-- Working a sheet out fails for its name, or for an option that is misused. -/
theorem ofInput_of_ofBlueprint {f : Failure} (h : ofBlueprint b = .error f) : f.OfInput := by
  cases failsFrom_of_error h with
  | name h =>
    rw [Blueprint.requireName_error h]
    exact .input _
  | controller h =>
    rcases bind_error h with h | ⟨_, -, h⟩
    · exact Value.ofInput_of_needed h
    · exact Value.ofInput_of_needed (error_of_return h)
  | service h | repository h => exact Value.ofInput_of_needed (error_of_return h)
  | security h =>
    rcases bind_error h with h | ⟨_, -, h⟩
    · exact Value.ofInput_of_needed h
    rcases bind_error h with h | ⟨_, -, h⟩
    · exact Value.ofInput_of_needed h
    rcases bind_error h with h | ⟨_, -, h⟩
    · exact Value.ofInput_of_needed h
    · exact Value.ofInput_of_needed (error_of_return h)
  | project h =>
    unfold ProjectSheet.ofBlueprint at h
    dsimp only at h
    split at h
    · cases h
      exact .input _
    · split at h
      · exact Value.ofInput_of_needed (error_of_return h)
      · cases h

end Sheet

end Groundwork
