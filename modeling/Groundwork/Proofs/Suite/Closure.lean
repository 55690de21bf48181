import Groundwork.Proofs.Generate.NoClobber
import Groundwork.Proofs.Suite.Places

/-!
# A suite that imports only itself

The parts of a suite are generated one after the other, in any order, where nothing was. No part
looks at another one, and the security classes change a file of the suite, the user repository, if
it comes before them. Still every class of the suite that a source imports is a source of the suite.
-/

namespace Groundwork

open Package Template Run

namespace Suite

open Generate

variable {s : Suite} {base : String} {segs : List String} {root : Path} {a b t : Tree}
  {sheet : Sheet} {src : Source} {site site' : Site} {x : String}

/-- Where the sources of a suite lie that is generated at `root`. -/
def Source.place (src : Source) (segs : List String) (root : Path) (t : Tree) : Location :=
  Tree.lead (t.start root) root.parts ++ src.way segs

theorem Source.place_eq (h : a.home = b.home) : src.place segs root a = src.place segs root b := by
  rw [Source.place, Source.place, Tree.start_eq_of_home h rfl]

theorem Source.Plain.place_of_locate (h : src.Plain) (hbase : Joins segs base) {found : Location}
    (hl : t.locate (src.path root base) = .ok found) : found = src.place segs root t := by
  rw [Tree.eq_lead_of_locate hl, Tree.lead_descends (h.descends hbase)]
  rfl

/-- Whatever is at the place of the user repository is closed, and has the form that the look-ups
need. -/
def Kept (s : Suite) (base : String) (segs : List String) (root : Path) (t : Tree) : Prop :=
  ∀ octets, t.node? ((s.repositorySource base).place segs root t) = some (.file octets) →
    ∃ x, readText? octets = some x ∧ s.Closed base x ∧ Interface (under base "repository") x

/-- A source is read as it was printed. -/
theorem Closed.readText? (h : s.Closed base x) :
    readText? (Text.Utf8.encode x.toList) = some x := by
  rw [readText?_encode, Text.unifyLineEnds_of_not_mem h.no_return, String.ofList_toList]

/-- The build file does not lie among the sources. -/
theorem buildFile_elsewhere (t : Tree) (src : Source) (segs : List String) :
    t.locate (buildFile ⟨root, {}⟩) ≠ .ok (src.place segs root t) := by
  intro hl
  have hbuild : root.Descends (buildFile ⟨root, {}⟩) ["pom.xml"] :=
    Path.Plain.descends_child (by decide) (by decide) root
  have hplace := Tree.eq_lead_of_locate hl
  rw [Tree.lead_descends hbuild] at hplace
  have hlength := congrArg List.length (List.append_cancel_left hplace)
  rw [Source.length_way, List.length_singleton] at hlength
  omega

theorem placed_eq (h : sheet ∈ s.sheets base) (project : Project) :
    sheet.placed project = project := by
  simp only [sheets, List.mem_cons, List.not_mem_nil, or_false] at h
  rcases h with rfl | rfl | rfl | rfl | rfl <;> rfl

theorem directories_eq (h : sheet ∈ s.sheets base) (project : Project) :
    directories project sheet = [] := by
  simp only [sheets, List.mem_cons, List.not_mem_nil, or_false] at h
  rcases h with rfl | rfl | rfl | rfl | rfl <;> rfl

/-- The sheets of a suite are those of its blueprints. -/
theorem sheet_of_mem (h : Name.Identifier s.entity) {b : Blueprint} (hb : b ∈ s.blueprints base) :
    ∃ sheet ∈ s.sheets base, Sheet.ofBlueprint b = .ok sheet := by
  have hmem := List.mem_map_of_mem (f := Sheet.ofBlueprint) hb
  rw [sheets_eq h] at hmem
  obtain ⟨sheet, hsheet, hok⟩ := List.mem_map.1 hmem
  exact ⟨sheet, hsheet, hok.symm⟩

theorem blueprint_of_mem (h : Name.Identifier s.entity) (hsheet : sheet ∈ s.sheets base) :
    ∃ b ∈ s.blueprints base, Sheet.ofBlueprint b = .ok sheet := by
  have hmem := List.mem_map_of_mem (f := (Except.ok : Sheet → Except Failure Sheet)) hsheet
  rw [← sheets_eq h] at hmem
  exact List.mem_map.1 hmem

section Steps

variable (hentity : Name.Identifier s.entity) (hbase : Identifiers segs base)

include hentity hbase

/-- What a sheet of the suite asks for is a source of the suite, printed in full. -/
theorem source_of_asks (hsheet : sheet ∈ s.sheets base) {path : Path} {octets : List UInt8}
    (h : Asks .bundled ⟨root, {}⟩ sheet path octets) :
    ∃ src ∈ s.sources base, path = src.path root base ∧
      ∃ t x, Store.bundled.render t src.template src.sheet.bindings = .ok x ∧
        octets = Text.Utf8.encode x.toList ∧ s.Closed base x := by
  have hline : Text.OneLine base := ⟨hbase.not_mem (by decide), hbase.not_mem (by decide)⟩
  obtain ⟨o, ho, rfl, t, x, hrender, rfl⟩ := h
  have hclosed := closed_of_output hentity hline hsheet ho hrender
  obtain ⟨src, hsrc, rfl, rfl⟩ := source_of_output hsheet ho
  exact ⟨src, hsrc, src.output_path root base, t, x, hrender, rfl, hclosed⟩

/-- Only the user repository is ever written at its place. -/
theorem kept_of_fills {dirs : List Path} {edited : List Path}
    (hfills : Tree.Fills edited dirs (Asks .bundled ⟨root, {}⟩ sheet) a b)
    (hsheet : sheet ∈ s.sheets base)
    (hedited : ∀ e ∈ edited, b.locate e ≠ .ok ((s.repositorySource base).place segs root b))
    (h : s.Kept base segs root a) : s.Kept base segs root b := by
  intro octets hnode
  have hsame : (s.repositorySource base).place segs root b
      = (s.repositorySource base).place segs root a := Source.place_eq hfills.grows.home
  cases hold : a.node? ((s.repositorySource base).place segs root b) with
  | some node =>
    have hstays := hfills.grows.same hold hedited
    rw [hnode] at hstays
    cases hstays
    rw [hsame] at hold
    exact h octets hold
  | none =>
    obtain ⟨path, written, hasks, hl, hwritten⟩ := hfills.file _ octets hold hnode
    obtain ⟨src, hsrc, rfl, t, x, hrender, rfl, hclosed⟩ :=
      source_of_asks hentity hbase hsheet hasks
    have hway := (plain_of_mem hentity hsrc).place_of_locate hbase.joins hl
    obtain ⟨hsegment, -⟩ := Source.way_inj (List.append_cancel_left hway)
    obtain rfl := eq_repositorySource hsrc hsegment.symm
    have hline : Text.OneLine base := ⟨hbase.not_mem (by decide), hbase.not_mem (by decide)⟩
    rcases hwritten with rfl | ⟨e, he, hle⟩
    · exact ⟨x, hclosed.readText?, hclosed, interface_of_render hentity hline hrender⟩
    · exact absurd hle (hedited e he)

theorem kept_addBuildDependencies {rs : List Patched}
    (hrun : on site (addBuildDependencies ⟨root, {}⟩) = (.ok rs, site'))
    (h : s.Kept base segs root site.tree) : s.Kept base segs root site'.tree := by
  have hfills : Tree.Fills [buildFile ⟨root, {}⟩] []
      (Asks .bundled ⟨root, {}⟩ (.model (s.modelSheet base))) site.tree
      (on site (addBuildDependencies ⟨root, {}⟩)).2.tree :=
    fills_addBuildDependencies ⟨root, {}⟩ site
  rw [hrun] at hfills
  refine kept_of_fills hentity hbase hfills (by simp [sheets]) ?_ h
  intro e he
  rw [List.mem_singleton.1 he]
  exact buildFile_elsewhere _ _ segs

/-- The look-ups keep the user repository closed. -/
theorem kept_addRepositoryMethods {rs : List Patched}
    (hrun : on site (addRepositoryMethods ⟨root, {}⟩ (under base "repository")
      (s.entity ++ "Repository") s.entity) = (.ok rs, site'))
    (h : s.Kept base segs root site.tree) : s.Kept base segs root site'.tree := by
  have hsrc : s.repositorySource base ∈ s.sources base := by simp [sources]
  have hplain := plain_of_mem hentity hsrc
  obtain ⟨find, mid, hf, hrest⟩ := on_bind_ok.1 hrun
  obtain ⟨found, hfound, hr, -⟩ := patchFile_text hf
  cases found with
  | none =>
    -- without a repository nothing else is tried
    subst hr
    cases hrest
    rcases patchFile_ok hf with ⟨-, -, ht⟩ | ⟨-, hpatched, -⟩
    · rwa [ht]
    · cases hpatched
  | some found =>
    obtain ⟨place, octets, hl, hn, hread⟩ := fileText?_eq_some.1 hfound
    rw [hplain.place_of_locate hbase.joins hl] at hn
    obtain ⟨x, hx, hclosed, hform⟩ := h octets hn
    obtain rfl : found = some x := hread.symm.trans hx
    have hend := addRepositoryMethods_text hfound hrun
    obtain ⟨place', octets', hl', hn', hread'⟩ := fileText?_eq_some.1 hend
    rw [hplain.place_of_locate hbase.joins hl'] at hn'
    intro octets'' hnode
    rw [hn'] at hnode
    cases hnode
    exact ⟨_, hread', hclosed.lookups hentity (hbase.not_mem (by decide)) hform⟩

theorem kept_write {written : List Written} (hsheet : sheet ∈ s.sheets base)
    (hrun : on site (write .bundled ⟨root, {}⟩ sheet) = (.ok written, site'))
    (h : s.Kept base segs root site.tree) : s.Kept base segs root site'.tree := by
  have hfills := fills_write .bundled ⟨root, {}⟩ sheet site
  rw [hrun] at hfills
  exact kept_of_fills hentity hbase hfills hsheet (fun e he => by cases he) h

theorem kept_carryOut {account : Account} (hsheet : sheet ∈ s.sheets base)
    (hrun : on site (carryOut .bundled ⟨root, {}⟩ sheet) = (.ok account, site'))
    (h : s.Kept base segs root site.tree) : s.Kept base segs root site'.tree := by
  unfold carryOut at hrun
  split at hrun
  · rename_i s'
    obtain rfl : s' = s.securitySheet base := by
      simpa [sheets] using hsheet
    obtain ⟨result, mid, hbundle, hrun⟩ := on_bind_ok.1 hrun
    cases hrun
    rw [securityBundle_eq] at hbundle
    obtain ⟨written, mid₁, hw, hbundle⟩ := on_bind_ok.1 hbundle
    obtain ⟨libraries, mid₂, hl, hbundle⟩ := on_bind_ok.1 hbundle
    obtain ⟨package, mid₃, hp, hbundle⟩ := on_bind_ok.1 hbundle
    obtain ⟨methods, mid₄, hm, hbundle⟩ := on_bind_ok.1 hbundle
    cases hbundle
    obtain ⟨hpackage, rfl⟩ := packageText_ok hp
    obtain rfl : under base "repository" = package := Value.text.inj hpackage
    have hwritten := kept_write hentity hbase hsheet hw h
    exact kept_addRepositoryMethods hentity hbase hm
      (kept_addBuildDependencies hentity hbase hl hwritten)
  · obtain ⟨u, mid, hn, hrun⟩ := on_bind_ok.1 hrun
    obtain ⟨written, mid', hw, hrun⟩ := on_bind_ok.1 hrun
    cases hrun
    cases hn
    rw [placed_eq hsheet] at hw
    exact kept_write hentity hbase hsheet hw h

end Steps

end Suite

end Groundwork
