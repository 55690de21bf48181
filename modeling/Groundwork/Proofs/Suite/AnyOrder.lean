import Groundwork.Proofs.Suite.Closure

/-!
# The parts of a suite in any order

The five generators of a suite run one after the other where nothing was. Whatever the order, each
source of the suite is new at the end, and holds what its template gives, but for the look-ups in
the user repository.
-/

namespace Groundwork

open Package Template Run

namespace Suite

open Generate

variable {s : Suite} {base : String} {segs : List String} {root : Path} {a b t : Tree}
  {sheet : Sheet} {src : Source} {site site' : Site} {order : List Blueprint} {blueprint : Blueprint}
  {account : Account} {accounts : List Account} {place : Location} {octets : List UInt8}

/-- Generates an artifact for each blueprint, one after the other. -/
def generateAll (root : Path) (order : List Blueprint) : Run (List Account) :=
  order.mapM fun b => (Operation.forBlueprint .bundled ⟨root, {}⟩ b).run

/-- The files that are changed once they are there. -/
def changed (s : Suite) (base : String) (root : Path) : List Path :=
  [buildFile ⟨root, {}⟩, (s.repositorySource base).path root base]

def allFolders (s : Suite) (base : String) (root : Path) : List Path :=
  (s.sheets base).flatMap (folders ⟨root, {}⟩)

def AsksFor (s : Suite) (base : String) (root : Path) (path : Path) (octets : List UInt8) : Prop :=
  ∃ sheet ∈ s.sheets base, Asks .bundled ⟨root, {}⟩ sheet path octets

theorem patchable_subset (hsheet : sheet ∈ s.sheets base) :
    sheet.patchable ⟨root, {}⟩ ⊆ s.changed base root := by
  simp only [sheets, List.mem_cons, List.not_mem_nil, or_false] at hsheet
  rcases hsheet with rfl | rfl | rfl | rfl | rfl
  case inr.inr.inr.inr => exact List.Subset.refl _
  all_goals exact List.nil_subset _

/-- What generating the artifact of a blueprint brings about: its files are there, and of the
security classes it is told which files were patched. -/
structure Made (s : Suite) (base : String) (root : Path) (b : Blueprint) (account : Account)
    (t : Tree) : Prop where
  outputs : ∀ sheet, Sheet.ofBlueprint b = .ok sheet → ∀ o ∈ outputs ⟨root, {}⟩ sheet,
    t.exists? o.path = .ok true
  patches : b.kind = .security →
    (∃ r ∈ account.patches, r.path = (s.repositorySource base).path root base) ∧
      ∀ r ∈ account.patches, r.path ∈ s.changed base root

theorem Made.grows {edited : List Path} (h : s.Made base root blueprint account a)
    (hgrows : a.Grows edited b) : s.Made base root blueprint account b where
  outputs sheet hsheet o ho := hgrows.exists? (h.outputs sheet hsheet o ho)
  patches := h.patches

/-- The file at the path is new from `a` to `b`, and reads as the text. -/
def Generated (a b : Tree) (path : Path) (x : String) : Prop :=
  ∃ place octets, b.locate path = .ok place ∧ a.node? place = none ∧
    b.node? place = some (.file octets) ∧ readText? octets = some x

section Runs

variable (hentity : Name.Identifier s.entity)

include hentity

theorem fills_generateAll (root : Path) (horder : ∀ b ∈ order, b ∈ s.blueprints base) :
    Run.Fills (s.changed base root) (s.allFolders base root) (s.AsksFor base root)
      (generateAll root order) := by
  refine Run.Fills.mapM fun b hb => ?_
  obtain ⟨sheet, hsheet, hok⟩ := sheet_of_mem hentity (horder b hb)
  have hfills := Operation.fills_forBlueprint .bundled ⟨root, {}⟩ b hok
  rw [placed_eq hsheet] at hfills
  refine hfills.mono (patchable_subset hsheet) ?_ fun path o hasks => ⟨sheet, hsheet, hasks⟩
  exact fun d hd => List.mem_flatMap.2 ⟨sheet, hsheet, hd⟩

theorem kept_forBlueprint (hbase : Identifiers segs base) (hb : blueprint ∈ s.blueprints base)
    (hrun : on site (Operation.forBlueprint .bundled ⟨root, {}⟩ blueprint).run
      = (.ok account, site'))
    (h : s.Kept base segs root site.tree) :
    s.Kept base segs root site'.tree ∧ s.Made base root blueprint account site'.tree := by
  obtain ⟨sheet, hsheet, hok⟩ := sheet_of_mem hentity hb
  rw [Operation.run_forBlueprint] at hrun
  obtain ⟨sheet', mid, hs, hrun⟩ := on_bind_ok.1 hrun
  obtain ⟨hok', hmid⟩ := Run.sheet_ok hs
  obtain rfl := Except.ok.inj (hok.symm.trans hok')
  rw [← hmid] at h
  obtain ⟨hrest, -⟩ := carryOut_ok rfl hrun
  have hplaced := placed_eq hsheet ⟨root, {}⟩
  refine ⟨kept_carryOut hentity hbase hsheet hrun h, fun sheet' hsheet' o ho => ?_, fun hkind => ?_⟩
  · obtain rfl := Except.ok.inj (hok.symm.trans hsheet')
    rw [← hplaced] at ho
    exact (hrest.standing.outputs o ho).there
  · -- only the security sheet has the kind
    have hsecurity : sheet = .security (s.securitySheet base) := by
      rw [← Sheet.kind_of_ofBlueprint hok] at hkind
      simp only [sheets, List.mem_cons, List.not_mem_nil, or_false] at hsheet
      rcases hsheet with rfl | rfl | rfl | rfl | rfl
      case inr.inr.inr.inr => rfl
      all_goals cases hkind
    subst hsecurity
    obtain ⟨result, mid', hbundle, hrun⟩ := on_bind_ok.1 hrun
    cases hrun
    have hpackage : (s.securitySheet base).userRepositoryPackage
        = .text (under base "repository") := rfl
    obtain ⟨hsome, hall⟩ := paths_of_securityBundle hpackage hbundle
    refine ⟨hsome, fun r hr => ?_⟩
    rcases hall r hr with hpath | hpath
    · rw [hpath]
      exact List.mem_cons_self
    · rw [hpath]
      exact List.mem_cons_of_mem _ List.mem_cons_self

/-- What all generators have done together, from a tree with nothing below the root. -/
structure Complete (s : Suite) (base : String) (segs : List String) (root : Path)
    (a b : Tree) : Prop where
  empty : a.EmptyUnder root
  fills : Tree.Fills (s.changed base root) (s.allFolders base root) (s.AsksFor base root) a b
  kept : s.Kept base segs root b
  there : ∀ sheet ∈ s.sheets base, ∀ o ∈ outputs ⟨root, {}⟩ sheet, b.exists? o.path = .ok true

omit hentity in
theorem kept_of_empty (h : a.EmptyUnder root) : s.Kept base segs root a := by
  intro octets hnode
  obtain ⟨r, hroot, hbare⟩ := h.guards
  rw [Source.place, ← hroot.place, hbare _ (Source.way_ne_nil _ _)] at hnode
  cases hnode

theorem complete_of_generateAll (hbase : Identifiers segs base)
    (horder : order.Perm (s.blueprints base)) (hempty : site.tree.EmptyUnder root)
    (h : on site (generateAll root order) = (.ok accounts, site')) :
    s.Complete base segs root site.tree site'.tree ∧
      ∀ p ∈ order.zip accounts, s.Made base root p.1 p.2 site'.tree := by
  have hmem : ∀ b ∈ order, b ∈ s.blueprints base := fun b hb => horder.mem_iff.1 hb
  have hfills := fills_generateAll hentity root hmem site
  rw [h] at hfills
  have hkeep : ∀ b ∈ order, ∀ {site : Site} {account site' d c},
      on site (Operation.forBlueprint .bundled ⟨root, {}⟩ b).run = (.ok account, site') →
      s.Made base root d c site.tree → s.Made base root d c site'.tree :=
    fun b _ {_ _ _ _ _} hon hdone => hdone.grows ((Operation.keeps_forBlueprint _ _ b).grows hon)
  obtain ⟨hkept, hlength, hmade⟩ := on_mapM_ok
    (fun b hb => kept_forBlueprint hentity hbase (hmem b hb)) hkeep h (kept_of_empty hempty)
  refine ⟨⟨hempty, hfills, hkept, fun sheet hsheet o ho => ?_⟩, hmade⟩
  obtain ⟨b, hb, hok⟩ := blueprint_of_mem hentity hsheet
  have hzip : (order.zip accounts).map Prod.fst = order := List.map_fst_zip (by omega)
  have hin : b ∈ (order.zip accounts).map Prod.fst := by
    rw [hzip]
    exact horder.mem_iff.2 hb
  obtain ⟨p, hp, rfl⟩ := List.mem_map.1 hin
  exact (hmade p hp).outputs sheet hok o ho

end Runs

section Sources

variable (hentity : Name.Identifier s.entity) (hbase : Identifiers segs base)
  (hall : s.Complete base segs root a b)

include hentity hbase

/-- Of the sources only the user repository is changed once it is there. -/
theorem eq_repositorySource_of_changed (hsrc : src ∈ s.sources base) {e : Path}
    (he : e ∈ s.changed base root) (hl : t.locate e = .ok (src.place segs root t)) :
    src = s.repositorySource base := by
  have hrepository : s.repositorySource base ∈ s.sources base := by simp [sources]
  simp only [changed, List.mem_cons, List.not_mem_nil, or_false] at he
  rcases he with rfl | rfl
  · exact absurd hl (buildFile_elsewhere t src segs)
  · have hplace := (plain_of_mem hentity hrepository).place_of_locate hbase.joins hl
    exact eq_repositorySource hsrc (Source.way_inj (List.append_cancel_left hplace)).1

/-- A folder of the suite is too far up to be at the place of a source. -/
theorem folder_descends {d : Path} (hd : d ∈ s.allFolders base root) :
    ∃ down, root.Descends d down ∧ down.length = segs.length + 4 := by
  obtain ⟨sheet, hsheet, hd⟩ := List.mem_flatMap.1 hd
  rw [folders, directories_eq hsheet, List.nil_append] at hd
  obtain ⟨o, ho, rfl⟩ := List.mem_map.1 hd
  obtain ⟨src, hsrc, -, rfl⟩ := source_of_output hsheet ho
  have hdescends : root.Descends (src.path root base) (src.way segs) :=
    (plain_of_mem hentity hsrc).descends hbase.joins
  rw [src.output_path]
  refine ⟨_, hdescends.parent (src.way_ne_nil segs), ?_⟩
  rw [List.length_dropLast, src.length_way]
  rfl

include hall

/-- Every file that is new is a source of the suite. -/
theorem source_of_new (hnone : a.node? place = none) (hnode : b.node? place = some (.file octets)) :
    ∃ src ∈ s.sources base, place = src.place segs root b ∧
      ∃ x, readText? octets = some x ∧ s.Closed base x ∧ (src ≠ s.repositorySource base →
        ∃ t, Store.bundled.render t src.template src.sheet.bindings = .ok x) := by
  obtain ⟨path, written, ⟨sheet, hsheet, hasks⟩, hl, hwritten⟩ :=
    hall.fills.file place octets hnone hnode
  obtain ⟨src, hsrc, rfl, t, x, hrender, rfl, hclosed⟩ := source_of_asks hentity hbase hsheet hasks
  obtain rfl := (plain_of_mem hentity hsrc).place_of_locate hbase.joins hl
  refine ⟨src, hsrc, rfl, ?_⟩
  rcases hwritten with rfl | ⟨e, he, hle⟩
  · exact ⟨x, hclosed.readText?, hclosed, fun _ => ⟨t, hrender⟩⟩
  · have hrepository := eq_repositorySource_of_changed hentity hbase hsrc he hle
    obtain ⟨y, hy, hclosed', -⟩ := hall.kept octets (hrepository ▸ hnode)
    exact ⟨y, hy, hclosed', fun hne => absurd hrepository hne⟩

/-- Every output is a new file. -/
theorem new_of_output (hsheet : sheet ∈ s.sheets base) {o : Output}
    (ho : o ∈ outputs ⟨root, {}⟩ sheet) :
    ∃ place octets, b.locate o.path = .ok place ∧ a.node? place = none ∧
      b.node? place = some (.file octets) := by
  obtain ⟨r, hroot, hbare⟩ := hall.empty.guards
  obtain ⟨place, node, hl, hnode⟩ := Tree.exists?_eq_true.1 (hall.there sheet hsheet o ho)
  obtain ⟨src, hsrc, -, rfl⟩ := source_of_output hsheet ho
  rw [src.output_path] at hl ⊢
  have hne := src.way_ne_nil segs
  have hplace : place = r ++ src.way segs := by
    rw [(plain_of_mem hentity hsrc).place_of_locate hbase.joins hl,
      Source.place_eq hall.fills.grows.home, hroot.place]
    rfl
  rw [hplace] at hl hnode
  cases node with
  | file octets => exact ⟨_, octets, hl, hbare _ hne, hnode⟩
  | directory =>
    exfalso
    have hdirs : ∀ d ∈ s.allFolders base root, ∃ rest, root.Descends d rest :=
      fun d hd => (folder_descends hentity hbase hd).imp fun _ h => h.1
    obtain ⟨d, hd, rest, hrest⟩ :=
      hall.fills.directory_below hroot hdirs (hbare _ hne) hnode
    obtain ⟨down, hdown, hdownlength⟩ := folder_descends hentity hbase hd
    obtain rfl : down = src.way segs ++ rest :=
      List.append_cancel_left (hdown.parts.symm.trans hrest.parts)
    rw [List.length_append, src.length_way] at hdownlength
    omega

theorem generated_of_output (hsheet : sheet ∈ s.sheets base) {o : Output}
    (ho : o ∈ outputs ⟨root, {}⟩ sheet) : ∃ x, Generated a b o.path x := by
  obtain ⟨place, octets, hl, hnone, hnode⟩ := new_of_output hentity hbase hall hsheet ho
  obtain ⟨src, -, -, x, hx, -, -⟩ := source_of_new hentity hbase hall hnone hnode
  exact ⟨x, place, octets, hl, hnone, hnode, hx⟩

/-- Every class of the suite that is imported is generated. -/
theorem generated_of_class {c : String × String} (hc : c ∈ s.classes base) :
    ∃ x, Generated a b ((⟨root, {}⟩ : Project).sourcePath c.1 c.2) x := by
  obtain ⟨sheet, hsheet, template, ho⟩ := output_of_class hc root
  obtain ⟨x, hx⟩ := generated_of_output hentity hbase hall hsheet ho
  dsimp only at hx
  exact ⟨x, hx⟩

/-- The class that looks users up is generated, and imports the user repository. -/
theorem generated_userDetails :
    ∃ x, Generated a b ((⟨root, {}⟩ : Project).sourcePath (under base "security")
        "UserDetailsServiceImpl") x ∧
      importLine (under base "repository") (s.entity ++ "Repository") ∈ Text.imports x := by
  let own : Source := ⟨.security (s.securitySheet base), "security/user_details_service_impl.java.j2",
    "security", "UserDetailsServiceImpl"⟩
  have hclass : ("UserDetailsServiceImpl", "security/user_details_service_impl.java.j2")
      ∈ securityClasses := by
    decide
  have hown : own ∈ s.sources base :=
    List.mem_append_right _ (List.mem_map.2 ⟨_, hclass, rfl⟩)
  have hsheet : .security (s.securitySheet base) ∈ s.sheets base := by simp [sheets]
  have ho : own.output root base ∈ outputs ⟨root, {}⟩ (.security (s.securitySheet base)) :=
    List.mem_append_left _ (List.mem_map.2 ⟨_, hclass, rfl⟩)
  obtain ⟨place, octets, hl, hnone, hnode⟩ := new_of_output hentity hbase hall hsheet ho
  obtain ⟨src, hsrc, hplace, x, hx, -, hrender⟩ := source_of_new hentity hbase hall hnone hnode
  rw [own.output_path] at hl
  -- the source at this place can only be the one that was asked for
  have hsame := (plain_of_mem hentity hown).place_of_locate hbase.joins hl
  obtain ⟨hsegment, hname⟩ := Source.way_inj (List.append_cancel_left (hplace.symm.trans hsame))
  obtain ⟨c, hc, rfl⟩ := eq_securitySource hsrc hsegment
  have honly : ∀ c ∈ securityClasses, c.1 = "UserDetailsServiceImpl" →
      c.2 = "security/user_details_service_impl.java.j2" := by
    decide
  obtain ⟨t, hrender⟩ := hrender fun he =>
    absurd (congrArg Source.segment he) (show "security" ≠ "repository" by decide)
  dsimp only at hrender
  rw [honly c hc hname] at hrender
  have hline : Text.OneLine base := ⟨hbase.not_mem (by decide), hbase.not_mem (by decide)⟩
  exact ⟨x, ⟨place, octets, hl, hnone, hnode, hx⟩, imports_userRepository hentity hline hrender⟩

end Sources

end Suite

open Generate Suite

/-- A suite is generated below a root with nothing below it, in any order. Every import of a source
that is new is spelt out for all projects, or names a class by its package, and the file of this
class is new as well. The class that looks users up imports the repository that is patched. -/
theorem suite_imports_itself (s : Suite) (hentity : Name.Identifier s.entity) (base : String)
    (segs : List String) (hbase : Identifiers segs base) (root : Path) (site site' : Site)
    (hempty : site.tree.EmptyUnder root) (order : List Blueprint)
    (horder : order.Perm (s.blueprints base)) (accounts : List Account)
    (h : on site (generateAll root order) = (.ok accounts, site')) :
    let project : Project := ⟨root, {}⟩
    let generated := Generated site.tree site'.tree
    (∀ place octets, site.tree.node? place = none → site'.tree.node? place = some (.file octets) →
      ∃ x, readText? octets = some x ∧ ∀ line ∈ Text.imports x, LibraryImport line ∨
        ∃ p n y, line = importLine p n ∧ generated (project.sourcePath p n) y) ∧
    ∃ p n x y, generated (project.sourcePath (under base "security") "UserDetailsServiceImpl") x ∧
      importLine p n ∈ Text.imports x ∧ generated (project.sourcePath p n) y ∧
      ∀ part ∈ order.zip accounts, part.1.kind = .security →
        (∃ r ∈ part.2.patches, r.path = project.sourcePath p n) ∧
        ∀ r ∈ part.2.patches, r.path = buildFile project ∨ r.path = project.sourcePath p n := by
  intro project generated
  obtain ⟨hall, hmade⟩ := complete_of_generateAll hentity hbase horder hempty h
  refine ⟨fun place octets hnone hnode => ?_, ?_⟩
  · obtain ⟨src, -, -, x, hx, hclosed, -⟩ := source_of_new hentity hbase hall hnone hnode
    refine ⟨x, hx, fun line hline => (hclosed.imports line hline).imp_right ?_⟩
    rintro ⟨c, hc, rfl⟩
    obtain ⟨y, hy⟩ := generated_of_class hentity hbase hall hc
    exact ⟨c.1, c.2, y, rfl, hy⟩
  · have hrepository : (under base "repository", s.entity ++ "Repository") ∈ s.classes base := by
      simp [classes]
    obtain ⟨x, hx, hline⟩ := generated_userDetails hentity hbase hall
    obtain ⟨y, hy⟩ := generated_of_class hentity hbase hall hrepository
    refine ⟨_, _, x, y, hx, hline, hy, fun part hpart hkind => ?_⟩
    obtain ⟨hsome, hpaths⟩ := (hmade part hpart).patches hkind
    exact ⟨hsome, fun r hr => (List.mem_cons.1 (hpaths r hr)).imp_right List.mem_singleton.1⟩

/-- The security classes first and the model last, in an empty directory. -/
theorem suite_imports_itself_account :
    let s : Suite := { entity := "Account", persistence := false, lombok := false }
    let order := (s.blueprints "com.shop").reverse
    let project : Project := ⟨.here, {}⟩
    Name.Identifier s.entity ∧ Identifiers ["com", "shop"] "com.shop" ∧
      Tree.empty.EmptyUnder .here ∧ order.Perm (s.blueprints "com.shop") ∧
      ∃ accounts site', on ⟨.empty, []⟩ (generateAll .here order) = (.ok accounts, site') ∧
        ∃ p n x y,
          Generated .empty site'.tree
            (project.sourcePath (under "com.shop" "security") "UserDetailsServiceImpl") x ∧
          importLine p n ∈ Text.imports x ∧
          Generated .empty site'.tree (project.sourcePath p n) y := by
  intro s order project
  have hentity : Name.Identifier s.entity := .of_all (by decide) (by decide)
  have hbase : Identifiers ["com", "shop"] "com.shop" := by
    refine ⟨by decide, fun name hname => ?_, by decide⟩
    simp only [List.mem_cons, List.not_mem_nil, or_false] at hname
    rcases hname with rfl | rfl <;> exact .of_all (by decide) (by decide)
  have hempty : Tree.empty.EmptyUnder .here := .of_down rfl (by decide)
  have horder : order.Perm (s.blueprints "com.shop") := List.reverse_perm _
  have hok : (on ⟨.empty, []⟩ (generateAll .here order)).1.isOk = true := by decide +kernel
  refine ⟨hentity, hbase, hempty, horder, ?_⟩
  obtain ⟨accounts, site', hon⟩ := on_ok_of_isOk hok
  obtain ⟨-, p, n, x, y, hx, hline, hy, -⟩ := suite_imports_itself s hentity "com.shop"
    ["com", "shop"] hbase .here ⟨.empty, []⟩ site' hempty order horder accounts hon
  exact ⟨accounts, site', hon, p, n, x, y, hx, hline, hy⟩

end Groundwork
