import Groundwork.Proofs.Generate.Failing
import Groundwork.Proofs.Generate.Filling
import Groundwork.Proofs.Sheet

/-!
# What a template at fault leaves behind

A generator renders each file when its turn comes, so the directories of its sheet and the files
before the one that cannot be rendered have been made by then. Nothing else is changed, and nothing
at all if they were there before.
-/

namespace Groundwork

namespace Generate

open Run

variable {store : Template.Store} {project : Project} {s : Sheet} {done : List Output}
  {o : Output} {site site' : Site} {bindings : Bindings} {ws : List Written} {name : String}
  {fault : Template.Fault} {f : Failure}

/-- Outputs that are there already are left alone. -/
theorem produceAll_unchanged {os : List Output}
    (h : on site (os.mapM (produce store bindings)) = (.ok ws, site'))
    (hthere : ∀ o ∈ os, site.tree.exists? o.path = .ok true) : site'.tree = site.tree := by
  induction os generalizing site ws with
  | nil =>
    cases h
    rfl
  | cons o rest ih =>
    rw [List.mapM_cons] at h
    obtain ⟨w, mid, hw, h⟩ := on_bind_ok.1 h
    obtain ⟨ws', mid', hws, h⟩ := on_bind_ok.1 h
    cases h
    obtain ⟨text, -, hfile⟩ := produce_ok hw
    obtain ⟨notices, hrest⟩ := (rests_writeFile (hthere o List.mem_cons_self) text).ends
    rw [hrest] at hfile
    cases hfile
    exact (ih hws fun o' ho' => hthere o' (List.mem_cons_of_mem o ho') :)

/-- The files of a sheet came to an end at the template of `o`: the directories and the outputs
before `o` are in place, what is new was made for them, and the reports on them are true. -/
structure HaltsAt (store : Template.Store) (project : Project) (s : Sheet) (done : List Output)
    (o : Output) (f : Failure) (before after : Tree) : Prop where
  reached : ∃ rest, outputs project s = done ++ o :: rest
  fails : store.render after o.template s.bindings = .error f
  directories : ∀ d ∈ Generate.directories project s, after.isDirectory? d = .ok true
  made : ∀ o' ∈ done, InPlace store s.bindings after o'
  new : Tree.Fills [] (Generate.directories project s ++ done.map fun o' => o'.path.parent)
    (fun path octets => ∃ o' ∈ done, path = o'.path ∧ Prints store o'.template s.bindings octets)
    before after
  told : ∃ written, written.map Written.path = done.map Output.path ∧
    Truthful written [] before after
  unchanged : after = before ↔
    (∀ d ∈ Generate.directories project s, before.isDirectory? d = .ok true) ∧
      ∀ o' ∈ done, before.exists? o'.path = .ok true

/-- Writing that fails for a template stops at the output of this template. -/
theorem haltsAt_of_write
    (h : on site (write store project s) = (.error (.template name fault), site')) :
    ∃ done o, o.template = name ∧
      HaltsAt store project s done o (.template name fault) site.tree site'.tree := by
  rcases on_bind_error.1 h with h | ⟨u, mid, hd, h⟩
  · obtain ⟨d, -, hd⟩ := failsBy_ensureDirectories _ h
    cases hd
  · obtain ⟨done, o, rest, ws, mid', hsplit, hdone, ho⟩ := on_mapM_error h
    rcases on_bind_error.1 ho with hr | ⟨text, mid'', -, hw⟩
    · rw [on_render] at hr
      obtain ⟨hrender, rfl⟩ : store.render mid'.tree o.template s.bindings = _ ∧ mid' = site' :=
        Prod.ext_iff.1 hr
      obtain ⟨hwiden, hthere⟩ := ensureDirectories_ok hd
      obtain ⟨hpaths, htruth, hgrows, hplace⟩ := produceAll_ok hdone
      have hnew := fills_producing store s.bindings (Generate.directories project s) done site
      rw [on_bind_ok.2 ⟨u, mid, hd, hdone⟩] at hnew
      refine ⟨done, o, (Template.Store.name_of_render hrender).symm, ⟨rest, hsplit⟩, hrender,
        fun d hd => hgrows.isDirectory? (hthere d hd), hplace, hnew,
        ⟨ws, hpaths, (Truthful.of_widens hwiden).append htruth hwiden.grows hgrows⟩, ?_⟩
      constructor
      · intro heq
        rw [← heq]
        exact ⟨fun d hd => hgrows.isDirectory? (hthere d hd), fun o' ho' => (hplace o' ho').there⟩
      · rintro ⟨hdirs, houts⟩
        obtain ⟨notices, hrest⟩ := (RestsAt.forM fun d hd => rests_ensureDirectory (hdirs d hd)).ends
        rw [hrest] at hd
        cases hd
        exact (produceAll_unchanged hdone houts :)
    · cases failsBy_writeFile o.path text hw

/-- The patches of the security classes come after their files and do not render anything. -/
theorem haltsAt_of_carryOut
    (h : on site (carryOut store project s) = (.error (.template name fault), site')) :
    ∃ done o, o.template = name ∧
      HaltsAt store (s.placed project) s done o (.template name fault) site.tree site'.tree := by
  unfold carryOut at h
  split at h
  · rcases on_bind_error.1 h with h | ⟨result, mid, -, h⟩
    · rw [securityBundle_eq] at h
      rcases on_bind_error.1 h with h | ⟨written, mid, -, h⟩
      · exact haltsAt_of_write h
      rcases on_bind_error.1 h with h | ⟨libraries, mid, -, h⟩
      · cases failsBy_addBuildDependencies project h
      rcases on_bind_error.1 h with h | ⟨package, mid, -, h⟩
      · cases (failsBy_packageText _ h).1
      rcases on_bind_error.1 h with h | ⟨methods, mid, -, h⟩
      · cases failsBy_addRepositoryMethods project package _ _ h
      · cases h
    · cases h
  · rcases on_bind_error.1 h with h | ⟨u, mid, hn, h⟩
    · cases h
    · cases hn
      rcases on_bind_error.1 h with h | ⟨written, mid, -, h⟩
      · exact (haltsAt_of_write h :)
      · cases h

end Generate

open Generate Run

/-- An operation that fails for a template is a generator that halts at this template. The tree is
then as before exactly if all that comes before the template was there already. -/
theorem halts_at_template (op : Operation) (site site' : Site) (name : String)
    (fault : Template.Fault) (h : on site op.run = (.error (.template name fault), site')) :
    ∃ store project b s done o, op = .forBlueprint store project b ∧
      Sheet.ofBlueprint b = .ok s ∧ o.template = name ∧
      HaltsAt store (s.placed project) s done o (.template name fault) site.tree site'.tree := by
  rcases Operation.cases_run op with ⟨store, project, b, rfl⟩ | ⟨f, hf⟩ | ⟨path, content, hf⟩ |
    ⟨path, rfl⟩
  · rw [Operation.run_forBlueprint] at h
    rcases on_bind_error.1 h with h | ⟨s, mid, hs, h⟩
    · cases Sheet.ofInput_of_ofBlueprint (failsBy_sheet b h)
    · obtain ⟨hsheet, htree⟩ := sheet_ok hs
      obtain ⟨done, o, hname, hhalts⟩ := haltsAt_of_carryOut h
      rw [htree] at hhalts
      exact ⟨store, project, b, s, done, o, rfl, hsheet, hname, hhalts⟩
  · rw [hf] at h
    cases h
  · rw [hf] at h
    rcases on_bind_error.1 h with h | ⟨w, mid, -, h⟩
    · cases failsBy_writeFile path content h
    · cases h
  · rcases on_bind_error.1 h with h | ⟨u, mid, -, h⟩
    · cases failsBy_ensureDirectory path h
    · cases h

/-- A service, with templates in a directory where only the one of its interface is. -/
def halfService : Operation × Site :=
  (.forBlueprint (.directory (.ofText "templates")) ⟨.here, {}⟩
    { kind := .service, name := "ProductService", package := "com.shop" },
    (on ⟨.empty, []⟩ (writeFile (.ofText "templates/service_interface.java.j2") "x\n")).2)

/-- The template that a failure is a fault of. -/
def templateAtFault? : Failure → Option String
  | .template name _ => some name
  | _ => none

theorem halfService_fails : ∃ fault site',
    on halfService.2 halfService.1.run
      = (.error (.template "service_impl.java.j2" fault), site') := by
  have hfails : (failure? halfService.2 halfService.1.run).bind templateAtFault?
      = some "service_impl.java.j2" := by
    decide +kernel
  obtain ⟨f, hf, hname⟩ := Option.bind_eq_some_iff.1 hfails
  obtain ⟨site', hon⟩ := failure?_eq_some.1 hf
  cases f with
  | template name fault =>
    cases hname
    exact ⟨fault, site', hon⟩
  | _ => cases hname

/-- The service halts at its implementation, and nothing but its interface has been made. -/
theorem halts_at_implementation : ∃ fault site',
    on halfService.2 halfService.1.run
      = (.error (.template "service_impl.java.j2" fault), site') ∧
    ∃ store project b s done o, halfService.1 = .forBlueprint store project b ∧
      Sheet.ofBlueprint b = .ok s ∧ o.template = "service_impl.java.j2" ∧
      HaltsAt store (s.placed project) s done o (.template "service_impl.java.j2" fault)
        halfService.2.tree site'.tree := by
  obtain ⟨fault, site', h⟩ := halfService_fails
  exact ⟨fault, site', h, halts_at_template _ _ _ _ _ h⟩

/-- The interface of the service is a new file, although the service could not be rendered. -/
theorem halfService_leaves_interface :
    let place := ["src", "main", "java", "com", "shop", "ProductService.java"]
    ∃ name fault site', on halfService.2 halfService.1.run
        = (.error (.template name fault), site') ∧
      halfService.2.tree.node? place = none ∧
      site'.tree.node? place = some (.file (Text.Utf8.encode "x\n".toList)) := by
  intro place
  obtain ⟨fault, site', h⟩ := halfService_fails
  have hnew : (on halfService.2 halfService.1.run).2.tree.node? place
      = some (.file (Text.Utf8.encode "x\n".toList)) := by
    decide +kernel
  rw [h] at hnew
  exact ⟨_, fault, site', h, by decide +kernel, hnew⟩

end Groundwork
