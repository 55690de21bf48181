import Groundwork.Proofs.Generate.Output
import Groundwork.Proofs.Result
import Groundwork.Proofs.Run

/-!
# Operations

One name for every call that can change a tree: the three generators and the three single writes.
A generator that is called with a blueprint of its kind works the sheet out and carries it out;
with any other blueprint it fails at once.
-/

namespace Groundwork

/-- What an operation reports. -/
structure Account where
  written : List Written := []
  patches : List Patched := []

namespace Sheet

/-- The kind of artifact that a sheet is for. -/
def kind : Sheet → Artifact
  | model _ => .model
  | controller _ => .controller
  | service _ => .service
  | repository _ => .repository
  | security _ => .security
  | project _ => .project

/-- The project that the files of a sheet belong to: a new project lies below the given one. -/
def placed (project : Project) : Sheet → Project
  | .project s => ⟨project.root.child s.artifact, project.settings⟩
  | _ => project

theorem kind_of_ofBlueprint {b : Blueprint} {s : Sheet} (h : ofBlueprint b = .ok s) :
    s.kind = b.kind := by
  obtain ⟨u, -, h⟩ := bind_ok h
  cases hk : b.kind with
  | model => rw [hk] at h; cases h; rfl
  | controller => rw [hk] at h; obtain ⟨_, -, h⟩ := bind_ok h; cases h; rfl
  | service => rw [hk] at h; obtain ⟨_, -, h⟩ := bind_ok h; cases h; rfl
  | repository => rw [hk] at h; obtain ⟨_, -, h⟩ := bind_ok h; cases h; rfl
  | security => rw [hk] at h; obtain ⟨_, -, h⟩ := bind_ok h; cases h; rfl
  | project => rw [hk] at h; obtain ⟨_, -, h⟩ := bind_ok h; cases h; rfl

end Sheet

namespace Run

variable {b : Blueprint} {s : Sheet}

theorem sheet_ok {site site' : Site} (h : on site (sheet b) = (.ok s, site')) :
    Sheet.ofBlueprint b = .ok s ∧ site'.tree = site.tree := by
  unfold sheet at h
  cases hs : Sheet.ofBlueprint b with
  | error f => rw [hs] at h; cases h
  | ok s' => rw [hs] at h; cases h; exact ⟨rfl, rfl⟩

theorem rests_sheet (h : Sheet.ofBlueprint b = .ok s) (t : Tree) : RestsAt t (sheet b) s := by
  unfold sheet
  rw [h]
  refine (rests_ofExcept t s).bind ?_
  exact (rests_notifyAll t s.notices).bind (rests_pure t s)

end Run

namespace Generate

/-- Carries a sheet out: the files, and the patches that come with the security classes. -/
def carryOut (store : Template.Store) (project : Project) : Sheet → Run Account
  | .security s => do
    let result ← securityBundle store project s
    return ⟨result.written, result.patches⟩
  | s => do
    Run.notifyAll (plans s)
    return ⟨← write store (s.placed project) s, []⟩

end Generate

open Generate

/-- A call of a generator or of the writer. -/
inductive Operation where
  | artifact (store : Template.Store) (project : Project) (b : Blueprint)
  | security (store : Template.Store) (project : Project) (b : Blueprint)
  | newProject (store : Template.Store) (settings : Settings) (output : Path) (b : Blueprint)
  | source (project : Project) (package className content sourceRoot : String)
  | file (path : Path) (content : String)
  | directory (path : Path)

namespace Operation

def run : Operation → Run Account
  | artifact store project b => do return ⟨← Generate.artifact store project b, []⟩
  | security store project b => do
    let result ← Generate.security store project b
    return ⟨result.written, result.patches⟩
  | newProject store settings output b => do
    return ⟨(← Generate.project store settings output b).written, []⟩
  | source project package className content sourceRoot => do
    return ⟨[← Run.writeSource project package className content sourceRoot], []⟩
  | file path content => do return ⟨[← Run.writeFile path content], []⟩
  | directory path => do
    Run.ensureDirectory path
    return {}

/-- The generator for a blueprint. -/
def forBlueprint (store : Template.Store) (project : Project) (b : Blueprint) : Operation :=
  match b.kind with
  | .security => security store project b
  | .project => newProject store project.settings project.root b
  | _ => artifact store project b

/-- The generator for a blueprint carries out its sheet. -/
theorem run_forBlueprint (store : Template.Store) (project : Project) (b : Blueprint) :
    (forBlueprint store project b).run = (do carryOut store project (← Run.sheet b)) := by
  unfold forBlueprint Run.sheet
  cases hs : Sheet.ofBlueprint b with
  | error f =>
    cases hk : b.kind <;>
      simp [run, Generate.artifact, Generate.security, Generate.project, Run.sheet, hk, hs]
  | ok s =>
    -- the sheet has the kind of the blueprint, so every generator finds the sheet it asks for
    have hk := Sheet.kind_of_ofBlueprint hs
    cases s <;> rw [Sheet.kind] at hk <;>
      simp [run, Generate.artifact, Generate.security, Generate.project, Run.sheet, ← hk, hs,
        model_eq, controller_eq, repository_eq, service_eq, projectAt_eq, carryOut,
        Sheet.placed, plans]

end Operation

end Groundwork
