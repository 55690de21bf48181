import Groundwork.Proofs.Request
import Groundwork.Proofs.Sheet

/-!
# Blueprints whose options fit

The options of a blueprint may hold anything, and a sheet refuses what it cannot use. The blueprint
of a request holds texts, truth values, an integer and a list of texts, each where it is needed, so
its sheet can only be missing for want of a name.
-/

namespace Groundwork

/-- The options that a sheet takes for texts, where they are given. -/
def Blueprint.textOptions : List String :=
  ["model_name", "base_path", "user_entity", "user_package", "user_repository_package"]

/-- Whether an option holds what a sheet takes it for. -/
def Blueprint.Fits (key : String) (v : Value) : Prop :=
  (key ∈ textOptions → v = .null ∨ ∃ s, v = .text s) ∧
    (key = "jwt_expiration" → ∃ n, v = .int n) ∧
    (key = "dependencies" → ∃ names : List String, v = .list (names.map .text))

/-- A blueprint whose options all fit. -/
def Blueprint.Typed (b : Blueprint) : Prop :=
  ∀ entry ∈ b.options, Fits entry.1 entry.2

theorem Blueprint.mem_of_option? {b : Blueprint} {key : String} {v : Value}
    (h : b.option? key = some v) : (key, v) ∈ b.options ∧ v ≠ .null := by
  unfold option? at h
  split at h
  · cases h
  · cases h
  · rename_i s hfind
    split at h
    · cases h
    · cases h
      exact ⟨mem_of_lookup hfind, nofun⟩
  · rename_i v' hne _ hfind
    cases h
    exact ⟨mem_of_lookup hfind, by rintro rfl; exact hne rfl⟩

namespace Blueprint.Typed

variable {b : Blueprint} {f : Failure}

theorem text (h : b.Typed) {key : String} (hkey : key ∈ textOptions) {v : Value}
    (ho : b.option? key = some v) : ∃ s, v = .text s := by
  obtain ⟨hmem, hne⟩ := mem_of_option? ho
  exact ((h _ hmem).1 hkey).resolve_left hne

theorem option_text (h : b.Typed) (usual : String) {key : String} (hkey : key ∈ textOptions) :
    ∃ s, b.option key (.text usual) = .text s := by
  unfold option
  cases ho : b.option? key with
  | none => exact ⟨usual, rfl⟩
  | some v => exact h.text hkey ho

theorem modelName (h : b.Typed) (suffix : String) : ∃ s, b.modelName suffix = .text s := by
  unfold Blueprint.modelName
  cases ho : b.option? "model_name" with
  | none => exact ⟨_, rfl⟩
  | some v =>
    obtain ⟨s, rfl⟩ := h.text (by decide) ho
    dsimp only
    split
    · exact ⟨s, rfl⟩
    · exact ⟨_, rfl⟩

theorem controller (h : b.Typed) : ∃ s, ControllerSheet.ofBlueprint b = .ok s := by
  obtain ⟨model, hmodel⟩ := h.modelName "Controller"
  obtain ⟨path, hpath⟩ := h.option_text ControllerSheet.usualBasePath
    (show "base_path" ∈ textOptions by decide)
  unfold ControllerSheet.ofBlueprint
  rw [hmodel, hpath]
  exact ⟨_, rfl⟩

theorem service (h : b.Typed) : ∃ s, ServiceSheet.ofBlueprint b = .ok s := by
  obtain ⟨model, hmodel⟩ := h.modelName "Service"
  unfold ServiceSheet.ofBlueprint
  rw [hmodel]
  exact ⟨_, rfl⟩

theorem repository (h : b.Typed) : ∃ s, RepositorySheet.ofBlueprint b = .ok s := by
  obtain ⟨model, hmodel⟩ := h.modelName "Repository"
  unfold RepositorySheet.ofBlueprint
  rw [hmodel]
  exact ⟨_, rfl⟩

theorem repositoryPackage (h : b.Typed) (userPackage : String) :
    ∃ s, SecuritySheet.repositoryPackage b (.text userPackage) = .ok (.text s) := by
  unfold SecuritySheet.repositoryPackage
  dsimp only
  split
  · rename_i hholds
    cases ho : b.option? "user_repository_package" with
    | none =>
      rw [option, ho] at hholds
      cases hholds
    | some v =>
      obtain ⟨s, rfl⟩ := h.text (by decide) ho
      rw [option, ho]
      exact ⟨s, rfl⟩
  · exact ⟨_, rfl⟩

theorem security (h : b.Typed) : ∃ s text, SecuritySheet.ofBlueprint b = .ok s ∧
    s.userRepositoryPackage = .text text := by
  obtain ⟨user, huser⟩ := h.option_text SecuritySheet.usualUser
    (show "user_entity" ∈ textOptions by decide)
  obtain ⟨package, hpackage⟩ := h.option_text ""
    (show "user_package" ∈ textOptions by decide)
  obtain ⟨repository, hrepository⟩ := h.repositoryPackage package
  have hexpiration : ∃ n,
      b.option "jwt_expiration" (.int SecuritySheet.usualExpiration) = .int n := by
    unfold option
    cases ho : b.option? "jwt_expiration" with
    | none => exact ⟨_, rfl⟩
    | some v => exact (h _ (mem_of_option? ho).1).2.1 rfl
  obtain ⟨n, hn⟩ := hexpiration
  unfold SecuritySheet.ofBlueprint
  dsimp only
  rw [huser, hpackage, hn, hrepository]
  exact ⟨_, repository, rfl, rfl⟩

theorem namesOf_texts (names : List String) :
    Dependency.namesOf (names.map .text) = .ok names := by
  induction names with
  | nil => rfl
  | cons name rest ih =>
    rw [List.map_cons, Dependency.namesOf, ih]
    rfl

theorem project (h : b.Typed) (he : ProjectSheet.ofBlueprint b = .error f) :
    ∃ fault, f = .input fault := by
  unfold ProjectSheet.ofBlueprint at he
  dsimp only at he
  split at he
  · cases he
    exact ⟨_, rfl⟩
  · split at he
    · rename_i hholds
      cases ho : b.option? "dependencies" with
      | none =>
        rw [option, ho] at hholds
        cases hholds
      | some v =>
        obtain ⟨names, rfl⟩ := (h _ (mem_of_option? ho).1).2.2 rfl
        have hnames : Dependency.normalizeValue (.list (names.map .text))
            = .ok (Dependency.normalize names) := by
          show (do return Dependency.normalize (← Dependency.namesOf (names.map .text))) = _
          rw [namesOf_texts]
          rfl
        rw [option, ho, Option.getD_some, hnames] at he
        cases he
    · cases he

/-- The sheet of such a blueprint is only missing for want of a name. -/
theorem sheet (h : b.Typed) (he : Sheet.ofBlueprint b = .error f) : ∃ fault, f = .input fault := by
  cases Sheet.failsFrom_of_error he with
  | name he => exact ⟨_, Blueprint.requireName_error he⟩
  | controller he =>
    obtain ⟨s, hs⟩ := h.controller
    cases hs.symm.trans he
  | service he =>
    obtain ⟨s, hs⟩ := h.service
    cases hs.symm.trans he
  | repository he =>
    obtain ⟨s, hs⟩ := h.repository
    cases hs.symm.trans he
  | security he =>
    obtain ⟨s, text, hs, -⟩ := h.security
    cases hs.symm.trans he
  | project he => exact h.project he

/-- The sheet of the security classes names the package of the user repository by a text. -/
theorem userRepositoryPackage (h : b.Typed) {s : SecuritySheet}
    (hs : Sheet.ofBlueprint b = .ok (.security s)) : ∃ text, s.userRepositoryPackage = .text text := by
  obtain ⟨s', text, hs', htext⟩ := h.security
  cases Sheet.from_of_ok hs with
  | security hfrom =>
    cases hs'.symm.trans hfrom
    exact ⟨text, htext⟩

end Blueprint.Typed

/-- Every result of the computation has the property, whatever base package is kept. -/
def Gives {α : Type} (P : α → Prop) (x : StateT (Option String) Id α) : Prop :=
  ∀ kept, P (Id.run (x.run kept)).1

theorem gives_pure {α : Type} {P : α → Prop} {a : α} (h : P a) : Gives P (pure a) :=
  fun _ => h

theorem Gives.bind_any {α β : Type} {P : β → Prop} {x : StateT (Option String) Id α}
    {f : α → StateT (Option String) Id β} (hf : ∀ a, Gives P (f a)) : Gives P (x >>= f) :=
  fun _ => hf _ _

namespace Request

theorem fits_model (s : Option String) : Blueprint.Fits "model_name" (.ofText? s) := by
  refine ⟨fun _ => ?_, by simp, by simp⟩
  cases s with
  | none => exact .inl rfl
  | some s => exact .inr ⟨s, rfl⟩

theorem fits_dependencies (names : List String) :
    Blueprint.Fits "dependencies" (.list (names.map .text)) :=
  ⟨fun h => absurd h (by decide), fun h => absurd h (by decide), fun _ => ⟨names, rfl⟩⟩

/-- What a request is turned into holds the right kind of value under every key. -/
theorem typed_below (base : String) (request : Request) : (request.below base).Typed := by
  have h : Gives Blueprint.Typed (request.blueprint (pure base)) := by
    cases request with
    | model r =>
      refine .bind_any fun _ => gives_pure ?_
      simp [Blueprint.Typed, Blueprint.Fits, Blueprint.textOptions]
    | controller r =>
      refine .bind_any fun _ => .bind_any fun _ => .bind_any fun _ => gives_pure ?_
      simp only [Blueprint.Typed, List.forall_mem_cons]
      refine ⟨fits_model r.model, ?_⟩
      simp [Blueprint.Fits, Blueprint.textOptions]
    | service r =>
      refine .bind_any fun _ => .bind_any fun _ => .bind_any fun _ => gives_pure ?_
      simp only [Blueprint.Typed, List.forall_mem_cons]
      refine ⟨fits_model r.model, ?_⟩
      simp [Blueprint.Fits, Blueprint.textOptions]
    | repository r =>
      refine .bind_any fun _ => .bind_any fun _ => gives_pure ?_
      simp only [Blueprint.Typed, List.forall_mem_cons]
      refine ⟨fits_model r.model, ?_⟩
      simp [Blueprint.Fits, Blueprint.textOptions]
    | security r =>
      refine .bind_any fun _ => .bind_any fun _ => gives_pure ?_
      simp [Blueprint.Typed, Blueprint.Fits, Blueprint.textOptions]
    | project r =>
      refine gives_pure ?_
      simp only [Blueprint.Typed, ProjectRequest.blueprint, List.forall_mem_cons]
      refine ⟨?_, ?_, ?_, fits_dependencies _, ?_⟩
      all_goals simp [Blueprint.Fits, Blueprint.textOptions]
  exact h none

end Request

end Groundwork
