import Groundwork.Proofs.Generate.Operation
import Groundwork.Proofs.Generate.Security

/-!
# Nothing is clobbered

Any sequence of generators and single writes, each of which may succeed or fail at any step. What
is there stays there. Octets change in the build file and in the user repository alone, and only
while the security classes are generated. An operation that succeeds tells the whole truth about
the files that are new and the files that changed.
-/

namespace Groundwork

/-- The files that carrying a sheet out may change although they are there. -/
def Sheet.patchable (project : Project) : Sheet → List Path
  | .security s => Generate.patchable project s
  | _ => []

namespace Generate

variable {site site' : Site} {store : Template.Store} {project : Project} {s : Sheet}
  {account : Account}

theorem keeps_sheet (b : Blueprint) : Run.Keeps [] (Run.sheet b) :=
  (Run.keeps_ofExcept [] _).bind fun _ => (Run.keeps_notifyAll [] _).bind fun _ =>
    Run.keeps_pure [] _

theorem keeps_carryOut (store : Template.Store) (project : Project) (s : Sheet) :
    Run.Keeps (s.patchable project) (carryOut store project s) := by
  unfold carryOut
  split
  · exact (keeps_securityBundle store project _).bind fun _ => Run.keeps_pure _ _
  · refine (Run.keeps_notifyAll _ _).bind fun _ => ?_
    exact ((keeps_write store _ s).mono (List.nil_subset _)).bind fun _ => Run.keeps_pure _ _

theorem truthful_of_carryOut (h : Run.on site (carryOut store project s) = (.ok account, site')) :
    Truthful account.written account.patches site.tree site'.tree := by
  unfold carryOut at h
  split at h
  · obtain ⟨result, mid, hr, h⟩ := Run.on_bind_ok.1 h
    cases h
    exact truthful_of_securityBundle hr
  · obtain ⟨u, mid, hn, h⟩ := Run.on_bind_ok.1 h
    obtain ⟨written, mid', hw, h⟩ := Run.on_bind_ok.1 h
    cases h
    cases hn
    exact (write_ok hw).2.1

end Generate

namespace Operation

open Generate

variable {site site' : Site} {store : Template.Store} {project : Project} {b : Blueprint}
  {account : Account}

/-- The files that an operation may change although they are there: the build file and the user
repository, by the generator of the security classes. -/
def editable : Operation → List Path
  | security _ project b => match Sheet.ofBlueprint b with
    | .ok s => s.patchable project
    | .error _ => []
  | _ => []

theorem editable_forBlueprint {s : Sheet} (hs : Sheet.ofBlueprint b = .ok s) :
    (forBlueprint store project b).editable = s.patchable project := by
  have hk := Sheet.kind_of_ofBlueprint hs
  cases s <;> rw [Sheet.kind] at hk <;> simp [forBlueprint, editable, Sheet.patchable, ← hk, hs]

theorem keeps_forBlueprint (store : Template.Store) (project : Project) (b : Blueprint) :
    Run.Keeps (forBlueprint store project b).editable (forBlueprint store project b).run := by
  rw [run_forBlueprint]
  refine ((keeps_sheet b).mono (List.nil_subset _)).bind_of fun {_ s _} h => ?_
  rw [editable_forBlueprint (Run.sheet_ok h).1]
  exact keeps_carryOut store project s

theorem truthful_of_forBlueprint
    (h : Run.on site (forBlueprint store project b).run = (.ok account, site')) :
    Truthful account.written account.patches site.tree site'.tree := by
  rw [run_forBlueprint] at h
  obtain ⟨s, mid, hs, h⟩ := Run.on_bind_ok.1 h
  rw [← (Run.sheet_ok hs).2]
  exact truthful_of_carryOut h

/-- A generator is the one for its blueprint, or it fails at once. -/
theorem cases_run (op : Operation) :
    (∃ store project b, op = forBlueprint store project b) ∨
      (∃ fault, op.run = throw (.input fault)) ∨
      (∃ path content, op.run = (file path content).run) ∨ ∃ path, op = directory path := by
  cases op with
  | artifact store project b =>
    cases hk : b.kind with
    | security => exact .inr (.inl ⟨_, by simp [run, Generate.artifact, hk]; rfl⟩)
    | project => exact .inr (.inl ⟨_, by simp [run, Generate.artifact, hk]; rfl⟩)
    | _ => exact .inl ⟨store, project, b, by simp [forBlueprint, hk]⟩
  | security store project b =>
    by_cases hk : b.kind = .security
    · exact .inl ⟨store, project, b, by simp [forBlueprint, hk]⟩
    · exact .inr (.inl ⟨_, by simp [run, Generate.security, hk]; rfl⟩)
  | newProject store settings output b =>
    by_cases hk : b.kind = .project
    · exact .inl ⟨store, ⟨output, settings⟩, b, by simp [forBlueprint, hk]⟩
    · exact .inr (.inl ⟨_, by simp [run, Generate.project, hk]; rfl⟩)
  | source project package className content sourceRoot =>
    exact .inr (.inr (.inl ⟨project.sourcePath package className sourceRoot, content, rfl⟩))
  | file path content => exact .inr (.inr (.inl ⟨path, content, rfl⟩))
  | directory path => exact .inr (.inr (.inr ⟨path, rfl⟩))

/-- However an operation ends, the tree has grown. -/
theorem keeps_run (op : Operation) : Run.Keeps op.editable op.run := by
  rcases cases_run op with ⟨store, project, b, rfl⟩ | ⟨f, hf⟩ | ⟨path, content, hf⟩ | ⟨path, rfl⟩
  · exact keeps_forBlueprint store project b
  · rw [hf]
    exact Run.keeps_throw _ _
  · rw [hf]
    exact ((Run.keeps_writeFile path content).bind fun _ => Run.keeps_pure _ _).mono
      (List.nil_subset _)
  · exact (Run.keeps_ensureDirectory path).bind fun _ => Run.keeps_pure _ _

/-- What an operation reports is true. -/
theorem truthful_of_run {op : Operation} (h : Run.on site op.run = (.ok account, site')) :
    Truthful account.written account.patches site.tree site'.tree := by
  rcases cases_run op with ⟨store, project, b, rfl⟩ | ⟨f, hf⟩ | ⟨path, content, hf⟩ | ⟨path, rfl⟩
  · exact truthful_of_forBlueprint h
  · rw [hf] at h
    cases h
  · rw [hf] at h
    obtain ⟨w, mid, hw, h⟩ := Run.on_bind_ok.1 h
    cases h
    exact Run.truthful_of_writeFile hw
  · obtain ⟨u, mid, hd, h⟩ := Run.on_bind_ok.1 h
    cases h
    have hw := Run.widens_ensureDirectory site path
    rw [hd] at hw
    exact .of_widens hw

end Operation

/-- One operation of a history: where it started, how it ended, and what it left. -/
structure Episode where
  operation : Operation
  before : Site
  outcome : Except Failure Account
  after : Site

def Episode.of (site : Site) (op : Operation) : Episode :=
  ⟨op, site, (Run.on site op.run).1, (Run.on site op.run).2⟩

/-- The episodes of a sequence of operations, each on the site that the one before left. -/
def history (site : Site) : List Operation → List Episode
  | [] => []
  | op :: rest => .of site op :: history (Episode.of site op).after rest

/-- Nothing that was there is lost and no file changes but an editable one, and a report that is
given is true. -/
structure Episode.Sound (e : Episode) : Prop where
  grows : e.before.tree.Grows e.operation.editable e.after.tree
  truthful : ∀ account, e.outcome = .ok account →
    Truthful account.written account.patches e.before.tree e.after.tree

theorem Episode.sound_of (site : Site) (op : Operation) : (Episode.of site op).Sound where
  grows := op.keeps_run site
  truthful account h := by
    have hon : Run.on site op.run = (.ok account, (Run.on site op.run).2) := Prod.ext h rfl
    exact Operation.truthful_of_run hon

/-- In every sequence of operations, whether they succeed or fail, each one is sound, and all that
was there at the start is there after each. -/
theorem history_never_clobbers (site : Site) (ops : List Operation) :
    ∀ e ∈ history site ops, e.Sound ∧
      site.tree.Grows (ops.flatMap Operation.editable) e.after.tree := by
  induction ops generalizing site with
  | nil =>
    intro e he
    cases he
  | cons op rest ih =>
    intro e he
    have hfirst := Episode.sound_of site op
    have hgrows : site.tree.Grows ((op :: rest).flatMap Operation.editable)
        (Episode.of site op).after.tree :=
      hfirst.grows.mono (List.subset_append_left _ _)
    rcases List.mem_cons.1 he with rfl | he
    · exact ⟨hfirst, hgrows⟩
    · obtain ⟨hsound, hrest⟩ := ih _ e he
      exact ⟨hsound, hgrows.trans (hrest.mono (List.subset_append_right _ _))⟩

theorem history_never_clobbers_directory :
    let site : Site := ⟨.empty, []⟩
    let op := Operation.directory (.ofText "src/main")
    Episode.of site op ∈ history site [op] ∧ (Episode.of site op).Sound ∧
      site.tree.Grows [] (Episode.of site op).after.tree := by
  intro site op
  have hmem : Episode.of site op ∈ history site [op] := List.mem_singleton_self _
  obtain ⟨hsound, hgrows⟩ := history_never_clobbers site [op] _ hmem
  exact ⟨hmem, hsound, hgrows⟩

end Groundwork
