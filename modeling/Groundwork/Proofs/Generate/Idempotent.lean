import Groundwork.Proofs.Generate.AtRest

/-!
# A generator that runs twice

The second run of a generator on the tree that the first one left succeeds, writes nothing, and
reports every file as there already. Nothing is assumed of the tree, of what its files hold, or of
the blueprint.
-/

namespace Groundwork

open Generate Run

variable {site site' : Site} {store : Template.Store} {project : Project} {b : Blueprint}
  {account : Account}

/-- A generator that succeeds leaves the sheet of its blueprint at rest. -/
theorem Operation.atRest_of_run (hext : project.settings.sourceExtension = ".java")
    (h : on site (forBlueprint store project b).run = (.ok account, site')) :
    ∃ s, Sheet.ofBlueprint b = .ok s ∧ AtRest store project s site'.tree ∧
      account.written.map Written.path = (outputs (s.placed project) s).map Output.path := by
  rw [run_forBlueprint] at h
  obtain ⟨s, mid, hs, h⟩ := on_bind_ok.1 h
  exact ⟨s, (sheet_ok hs).1, carryOut_ok hext h⟩

/-- Where the sheet of a blueprint is at rest, its generator rests. -/
theorem Operation.rests_run {s : Sheet} (hs : Sheet.ofBlueprint b = .ok s) {t : Tree}
    (h : AtRest store project s t) :
    ∃ account, RestsAt t (forBlueprint store project b).run account ∧
      account.written = (outputs (s.placed project) s).map Output.left ∧
      ∀ r ∈ account.patches, r.isPatched = false := by
  obtain ⟨account, hrests, hwritten, hpatches⟩ := rests_carryOut h
  refine ⟨account, ?_, hwritten, hpatches⟩
  rw [run_forBlueprint]
  exact (rests_sheet hs t).bind hrests

theorem map_left_of_paths {ws : List Written} {os : List Output}
    (h : ws.map Written.path = os.map Output.path) :
    os.map Output.left = ws.map fun w => ⟨w.path, .alreadyExists⟩ := by
  have hleft : os.map Output.left = (os.map Output.path).map fun p => ⟨p, .alreadyExists⟩ := by
    rw [List.map_map]
    rfl
  rw [hleft, ← h, List.map_map]
  rfl

/-- With the usual settings and the templates of the library, the generator of any blueprint that
succeeded once succeeds again on the tree it left: the tree stays as it is, the same files are
reported, all as there already, and nothing is reported as patched. -/
theorem generator_idempotent (root : Path) (b : Blueprint) (site site' : Site) (account : Account)
    (h : on site (Operation.forBlueprint .bundled ⟨root, {}⟩ b).run = (.ok account, site')) :
    ∃ again, RestsAt site'.tree (Operation.forBlueprint .bundled ⟨root, {}⟩ b).run again ∧
      again.written = account.written.map (fun w => ⟨w.path, .alreadyExists⟩) ∧
      ∀ r ∈ again.patches, r.isPatched = false := by
  obtain ⟨s, hs, hrest, hpaths⟩ := Operation.atRest_of_run rfl h
  obtain ⟨again, hrests, hwritten, hpatches⟩ := Operation.rests_run hs hrest
  exact ⟨again, hrests, by rw [hwritten, map_left_of_paths hpaths], hpatches⟩

/-- A repository in an empty directory: the first run succeeds, so the second one rests. -/
theorem generator_idempotent_repository :
    let b : Blueprint := { kind := .repository, name := "Product", package := "com.shop" }
    let run := (Operation.forBlueprint .bundled ⟨.here, {}⟩ b).run
    ∃ account site' again, on ⟨.empty, []⟩ run = (.ok account, site') ∧
      RestsAt site'.tree run again ∧
      again.written = account.written.map (fun w => ⟨w.path, .alreadyExists⟩) := by
  intro b run
  have hok : (on ⟨.empty, []⟩ run).1.isOk = true := by decide +kernel
  obtain ⟨account, site', hon⟩ := on_ok_of_isOk hok
  obtain ⟨again, hrests, hwritten, -⟩ := generator_idempotent .here b ⟨.empty, []⟩ site' account hon
  exact ⟨account, site', again, hon, hrests, hwritten⟩

end Groundwork
