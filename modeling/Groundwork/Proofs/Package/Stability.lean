import Groundwork.Proofs.Command
import Groundwork.Proofs.Generate.NoClobber
import Groundwork.Proofs.Package.Detection

/-!
# The base package is stable

Once the detector has found an entry point, commands add directories and files around it, some of
them earlier in the walk, and change what files hold. As long as no new file is named like an entry
point, the directories that hold one stay the same, and so does the least of them. All commands of
a session therefore complete their packages below one base package.
-/

namespace Groundwork

namespace Tree

/-- No file that is in `after` and not in `before` has the ending. -/
def NoneNew (ending : String) (before after : Tree) : Prop :=
  ∀ (dir : Location) (name : String) (octets : List UInt8),
    before.node? (dir ++ [name]) = none → after.node? (dir ++ [name]) = some (.file octets) →
      ¬ Text.endsWith name ending

theorem noneNew_iff_entries {ending : String} {before after : Tree} :
    NoneNew ending before after ↔ ∀ e ∈ after.entries, before.node? e.1 = none →
      Node.isDirectory e.2 = false → ∀ name ∈ e.1.getLast?, ¬ Text.endsWith name ending := by
  constructor
  · rintro h ⟨place, node⟩ he hnone hfile name hname
    obtain ⟨dir, rfl⟩ := List.getLast?_eq_some_iff.1 hname
    have hnode : after.node? (dir ++ [name]) = some node := (node?_eq_some_iff (by simp)).2 he
    cases node with
    | directory => cases hfile
    | file octets => exact h dir name octets hnone hnode
  · intro h dir name octets hnone hnode
    have he : (dir ++ [name], .file octets) ∈ after.entries :=
      (node?_eq_some_iff (by simp)).1 hnode
    exact h _ he hnone rfl name (by simp)

instance (ending : String) (before after : Tree) : Decidable (NoneNew ending before after) :=
  decidable_of_iff _ noneNew_iff_entries.symm

end Tree

namespace Package

variable {settings : Settings} {a b : Tree} {edited : List Path} {project : Path}
  {root dir : Location}

theorem SourceRoot.grows (hroot : SourceRoot settings a project root) (h : a.Grows edited b) :
    SourceRoot settings b project root :=
  ⟨h.locate hroot.1, h.directory root hroot.2⟩

/-- The directories that hold an entry point stay the same. -/
theorem holdsEntryPoint_of_grows (h : a.Grows edited b)
    (hnew : Tree.NoneNew settings.entryPointEnding a b) (dir : Location) :
    HoldsEntryPoint settings b.node? root dir ↔ HoldsEntryPoint settings a.node? root dir := by
  constructor
  · rintro ⟨hne, -, name, octets, hfile, hend⟩
    have hold : ∃ octets', a.node? (root ++ dir ++ [name]) = some (.file octets') := by
      cases hn : a.node? (root ++ dir ++ [name]) with
      | none => exact absurd hend (hnew (root ++ dir) name octets hn hfile)
      | some node =>
        cases node with
        | file octets' => exact ⟨octets', rfl⟩
        | directory =>
          rw [h.directory _ hn] at hfile
          cases hfile
    obtain ⟨octets', hold⟩ := hold
    have hdir := Tree.node?_dropLast hold
    rw [List.dropLast_concat] at hdir
    exact ⟨hne, hdir, name, octets', hold, hend⟩
  · rintro ⟨hne, hdir, name, octets, hfile, hend⟩
    obtain ⟨octets', hfile', -⟩ := h.file _ octets hfile
    exact ⟨hne, h.directory _ hdir, name, octets', hfile', hend⟩

/-- The detector finds an entry point below the source root. -/
def FindsEntryPoint (settings : Settings) (t : Tree) (project : Path) : Prop :=
  ∃ root dir, SourceRoot settings t project root ∧ HoldsEntryPoint settings t.node? root dir

/-- An entry point that was found is found again. -/
theorem FindsEntryPoint.grows (hfinds : FindsEntryPoint settings a project)
    (h : a.Grows edited b) (hnew : Tree.NoneNew settings.entryPointEnding a b) :
    FindsEntryPoint settings b project := by
  obtain ⟨root, dir, hroot, hdir⟩ := hfinds
  exact ⟨root, dir, hroot.grows h, (holdsEntryPoint_of_grows h hnew dir).2 hdir⟩

/-- A project with an entry point has the base package of the least directory that holds one. -/
theorem FindsEntryPoint.base (hfinds : FindsEntryPoint settings a project) :
    ∃ root dir, SourceRoot settings a project root ∧
      Least (HoldsEntryPoint settings a.node? root) dir ∧
      (detect settings a project).base = ofLocation dir := by
  obtain ⟨root, dir, hroot, hdir⟩ := hfinds
  have hsame : ∀ root', SourceRoot settings a project root' → root' = root := by
    intro root' hroot'
    have hl := hroot'.1
    rw [hroot.1] at hl
    exact (Except.ok.inj hl).symm
  generalize hbase : (detect settings a project).base = base
  have hrule : Base settings a project base := hbase ▸ base_of_detect settings a project
  cases hrule with
  | entryPoint root' dir' hroot' hdir' => exact ⟨root', dir', hroot', hdir', rfl⟩
  | domain root' _ _ _ _ hroot' hnone =>
    rw [hsame root' hroot'] at hnone
    exact absurd hdir (hnone dir)
  | unknown root' hroot' hnone =>
    rw [hsame root' hroot'] at hnone
    exact absurd hdir (hnone dir)
  | rootless hnone => exact absurd hroot (hnone root)

/-- Growth without new entry points leaves the base package as it is. -/
theorem FindsEntryPoint.detect_of_grows (hfinds : FindsEntryPoint settings a project)
    (h : a.Grows edited b) (hnew : Tree.NoneNew settings.entryPointEnding a b) :
    (detect settings b project).base = (detect settings a project).base := by
  obtain ⟨root, dir, hroot, hdir, hbase⟩ := hfinds.base
  have hleast : Least (HoldsEntryPoint settings b.node? root) dir := by
    refine ⟨(holdsEntryPoint_of_grows h hnew dir).2 hdir.holds, fun other ho => ?_⟩
    exact hdir.least other ((holdsEntryPoint_of_grows h hnew other).1 ho)
  rw [hbase]
  exact (Base.entryPoint root dir (hroot.grows h) hleast).eq_detect

end Package

namespace Command

open Run

theorem keeps_fulfil (c : Command) (b : Blueprint) :
    ∃ edited, Keeps edited (c.fulfil b) := by
  cases hs : Sheet.ofBlueprint b with
  | error f =>
    refine ⟨[], (Generate.keeps_sheet b).bind_of fun {_ s _} h => ?_⟩
    rw [(sheet_ok h).1] at hs
    cases hs
  | ok s =>
    refine ⟨s.patchable c.project, ((Generate.keeps_sheet b).mono (List.nil_subset _)).bind_of
      fun {_ s' _} h => ?_⟩
    obtain rfl : s = s' := by
      have hs' := (sheet_ok h).1
      rw [hs] at hs'
      exact Except.ok.inj hs'
    exact (Generate.keeps_carryOut c.store c.project s).bind fun _ => keeps_ofExcept _ _

/-- However a command ends, the tree has grown. -/
theorem grows_perform (c : Command) (site : Site) :
    ∃ edited, site.tree.Grows edited
      (on site (Program.perform c.settings c.request)).2.tree := by
  obtain ⟨notices, hon⟩ := c.on_perform site
  obtain ⟨edited, hkeeps⟩ := c.keeps_fulfil (c.blueprint site.tree)
  rw [hon]
  exact ⟨edited, hkeeps ⟨site.tree, notices⟩⟩

end Command

/-- One command of a session: the tree it started on, and the tree it left. -/
structure Turn where
  request : Request
  before : Tree
  after : Tree

/-- The command of a turn. -/
def Turn.command (turn : Turn) (settings : Settings) : Command :=
  ⟨settings, turn.request⟩

/-- Commands one after the other, each on the site that the one before left, whether that one
succeeded or failed. -/
def session (settings : Settings) (site : Site) : List Request → List Turn
  | [] => []
  | request :: rest =>
    let after := (Run.on site (Program.perform settings request)).2
    ⟨request, site.tree, after.tree⟩ :: session settings after rest

open Package

/-- In a session on a project whose entry point the detector finds, where no command makes a file
that is named like an entry point, the base package is the same after every command, and every
command completes its packages below it. -/
theorem session_shares_base (settings : Settings) (project : Path) (site : Site)
    (requests : List Request) (hfinds : FindsEntryPoint settings site.tree project)
    (houtput : ∀ request ∈ requests, Path.ofText request.output = project)
    (hnew : ∀ turn ∈ session settings site requests,
      Tree.NoneNew settings.entryPointEnding turn.before turn.after) :
    ∀ turn ∈ session settings site requests,
      (detect settings turn.after project).base = (detect settings site.tree project).base ∧
        (turn.command settings).blueprint turn.before
          = turn.request.below (detect settings site.tree project).base := by
  induction requests generalizing site with
  | nil =>
    intro turn hturn
    cases hturn
  | cons request rest ih =>
    obtain ⟨edited, hgrows⟩ := Command.grows_perform ⟨settings, request⟩ site
    have hfirst := hnew _ (List.mem_cons_self)
    have hsame := hfinds.detect_of_grows hgrows hfirst
    intro turn hturn
    rcases List.mem_cons.1 hturn with rfl | hturn
    · refine ⟨hsame, ?_⟩
      have hproject : Path.ofText request.output = project := houtput request (List.mem_cons_self)
      rw [← hproject]
      rfl
    · have hrest := ih _ (hfinds.grows hgrows hfirst)
        (fun r hr => houtput r (List.mem_cons_of_mem _ hr))
        (fun turn' ht' => hnew turn' (List.mem_cons_of_mem _ ht')) turn hturn
      rw [hsame] at hrest
      exact hrest

/-- A repository in a package that the walk meets first and that is named like a domain package,
then a controller below the base package. -/
theorem session_shares_base_shop :
    let requests : List Request :=
      [.repository { name := "ItemRepository", package := some "a.model" },
        .controller { name := "ItemController" }]
    let turns := session {} ⟨sample, []⟩ requests
    FindsEntryPoint {} sample .here ∧ turns.length = 2 ∧
      (∀ turn ∈ turns, Tree.NoneNew (Settings.entryPointEnding {}) turn.before turn.after) ∧
      ∀ turn ∈ turns, (detect {} turn.after .here).base = "shop" ∧
        (turn.command {}).blueprint turn.before = turn.request.below "shop" := by
  intro requests turns
  have hfinds : FindsEntryPoint {} sample .here :=
    ⟨["src", "main", "java"], ["shop"], ⟨rfl, by decide⟩, by decide, by decide,
      "ShopApplication.java", [], by decide, by decide⟩
  have hbase : (detect {} sample .here).base = "shop" := by decide +kernel
  have houtput : ∀ request ∈ requests, Path.ofText request.output = .here := by
    intro request hrequest
    simp only [requests, List.mem_cons, List.not_mem_nil, or_false] at hrequest
    rcases hrequest with rfl | rfl <;> rfl
  have hnew : ∀ turn ∈ turns,
      Tree.NoneNew (Settings.entryPointEnding {}) turn.before turn.after := by
    decide +kernel
  refine ⟨hfinds, rfl, hnew, fun turn hturn => ?_⟩
  have hshares := session_shares_base {} .here ⟨sample, []⟩ requests hfinds houtput hnew turn hturn
  rwa [hbase] at hshares

end Groundwork
