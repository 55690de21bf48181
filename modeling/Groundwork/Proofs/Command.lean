import Groundwork.Program
import Groundwork.Proofs.Generate.AtRest
import Groundwork.Proofs.Intake
import Groundwork.Proofs.Report
import Groundwork.Proofs.Request

/-!
# Commands that have nothing left to do

A command is a request together with the settings of its environment. What it asks for depends on
the base package that it finds. A command that was carried out below a base package has nothing
left to do below that base package; where it has nothing left to do below the base package that it
finds, and only there, it can be carried out and leaves the tree as it is.
-/

namespace Groundwork

namespace Settings

open Intake

/-- No variable of the environment says how source files end. -/
theorem sourceExtension_of_environment {environment : List (String × String)}
    {settings : Settings} (h : ofEnvironment environment = .ok settings) :
    settings.sourceExtension = ".java" := by
  have hkeys : ∀ v ∈ Settings.variables, v.2 ≠ "source_extension" := by decide
  have hnone : (environmentEntries environment).find? "source_extension" = none := by
    refine List.lookup_eq_none_iff.2 fun entry hentry => ?_
    obtain ⟨⟨name, key⟩, hv, hsome⟩ := List.mem_filterMap.1 hentry
    have hkey : key = entry.1 := by
      dsimp only at hsome
      split at hsome
      · split at hsome
        · cases hsome
        · cases hsome
          rfl
      · cases hsome
    rw [bne_iff_ne, ← hkey]
    exact (hkeys _ hv).symm
  unfold ofEnvironment ofEntries at h
  obtain ⟨f₆, -, h₆, -, rfl⟩ := supply_ok h
  obtain ⟨f₅, -, h₅, -, rfl⟩ := supply_ok h₆
  obtain ⟨f₄, -, h₄, -, rfl⟩ := supply_ok h₅
  obtain ⟨f₃, -, h₃, -, rfl⟩ := supply_ok h₄
  obtain ⟨f₂, extension, h₂, hextension, rfl⟩ := supply_ok h₃
  obtain ⟨f₁, -, h₁, -, rfl⟩ := supply_ok h₂
  obtain ⟨f, -, hf, -, rfl⟩ := supply_ok h₁
  cases hf
  rw [defaulted, hnone] at hextension
  cases hextension
  rfl

end Settings

open Generate Run Console.Markup

namespace Report

variable {project : Project} {b : Blueprint} {s : Sheet}

/-- The report on a sheet that was carried out. -/
def onSheet (project : Project) (b : Blueprint) (s : Sheet) (account : Account) :
    Except Console.MarkupFault (List String) :=
  match s with
  | .project _ => Report.project b ⟨(s.placed project).root, account.written⟩
  | .security _ => Report.security b ⟨account.written, account.patches⟩
  | _ => Report.artifact b account.written

/-- The texts in the table of a report that are not figures. -/
def cells (project : Project) (b : Blueprint) (s : Sheet) : List String :=
  match s with
  | .project _ => [b.name, b.package, (s.placed project).root.text]
  | .security _ =>
    [b.package, (b.option "user_entity" (.text SecuritySheet.usualUser)).written]
  | _ => [b.kind.name, b.name, b.package]

/-- Whether a report can be shown does not depend on what was done. -/
theorem onSheet_ok_iff (account : Account) :
    (∃ ls, onSheet project b s account = .ok ls) ↔ ∀ text ∈ cells project b s, Shows text := by
  have hwritten : Shows (createdCount account.written) := shows_repr _
  have hpatched : Shows (updatedCount account.patches) := shows_repr _
  cases s with
  | project s =>
    show (∃ ls, lines account.written [] _ = .ok ls) ↔ _
    rw [lines_ok_iff]
    simp [cells, hwritten]
  | security s =>
    show (∃ ls, lines account.written account.patches _ = .ok ls) ↔ _
    rw [lines_ok_iff]
    simp [cells, hwritten, hpatched]
  | model s | controller s | service s | repository s =>
    show (∃ ls, lines account.written [] _ = .ok ls) ↔ _
    rw [lines_ok_iff]
    simp [cells, hwritten]

/-- What keeps a report from being shown is a text that cannot be shown. -/
theorem onSheet_error {account : Account} {fault : Console.MarkupFault}
    (h : onSheet project b s account = .error fault) :
    ∃ text ∈ cells project b s, Console.Markup.shown text = .error fault := by
  have hwritten : Shows (createdCount account.written) := shows_repr _
  have hpatched : Shows (updatedCount account.patches) := shows_repr _
  have hrow : ∀ {ws ps} {table : Table}, lines ws ps table = .error fault →
      (∀ row ∈ table.rows, row.2 ∈ cells project b s ∨ Shows row.2) →
      ∃ text ∈ cells project b s, Console.Markup.shown text = .error fault := by
    intro ws ps table hlines hrows
    obtain ⟨row, hmem, hshown⟩ := lines_error hlines
    rcases hrows row hmem with hcell | ⟨text, htext⟩
    · exact ⟨row.2, hcell, hshown⟩
    · rw [htext] at hshown
      cases hshown
  cases s with
  | project s => exact hrow h (by simp [cells, hwritten])
  | security s => exact hrow h (by simp [cells, hwritten, hpatched])
  | model s | controller s | service s | repository s => exact hrow h (by simp [cells, hwritten])

end Report

/-- A request with the settings to carry it out under. -/
structure Command where
  settings : Settings
  request : Request

namespace Command

/-- The command that an environment and a command line stand for. -/
def read? (environment : List (String × String)) (words : List String) : Option Command :=
  match Invocation.read words, Settings.ofEnvironment environment with
  | .ok invocation, .ok settings => some ⟨settings, Program.complete invocation.request⟩
  | _, _ => none

def project (c : Command) : Project :=
  ⟨Path.ofText c.request.output, c.settings⟩

def store (c : Command) : Template.Store :=
  .ofDirectory? c.settings.templateDirectory

/-- The base package that the command finds on a tree. -/
def base (c : Command) (t : Tree) : String :=
  (Package.detect c.settings t c.project.root).base

/-- The blueprint that the command puts together on a tree. -/
def blueprint (c : Command) (t : Tree) : Blueprint :=
  c.request.below (c.base t)

/-- All that the blueprint asks for is there, and its report can be shown. -/
def Finished (c : Command) (b : Blueprint) (t : Tree) : Prop :=
  ∃ s, Sheet.ofBlueprint b = .ok s ∧ AtRest c.store c.project s t ∧
    ∀ text ∈ Report.cells c.project b s, Shows text

/-- Carries out the request of a blueprint of its kind, and reports on it. -/
def fulfil (c : Command) (b : Blueprint) : Run (List String) := do
  let s ← Run.sheet b
  let account ← carryOut c.store c.project s
  Program.told (Report.onSheet c.project b s account)

variable {c : Command} {t : Tree} {site site' : Site} {ls : List String} {b : Blueprint}

theorem rests_findBase (c : Command) (t : Tree) :
    RestsAt t (Program.findBase c.settings c.project.root) (c.base t) :=
  (rests_tree t).bind ((rests_notify t _).bind (rests_pure t _))

theorem kind_blueprint (c : Command) (t : Tree) : (c.blueprint t).kind = c.request.kind :=
  Request.kind_below _ _

/-- The generator for the request carries out the sheet of the blueprint. -/
theorem fulfil_eq (hk : b.kind = c.request.kind) : c.fulfil b =
    (match c.request with
    | .project _ => do
      Program.told (Report.project b
        (← Generate.project c.store c.settings c.project.root b))
    | .security _ => do
      Program.told (Report.security b (← Generate.security c.store c.project b))
    | .model _ | .controller _ | .service _ | .repository _ => do
      Program.told (Report.artifact b (← Generate.artifact c.store c.project b))) := by
  unfold fulfil Run.sheet
  cases hs : Sheet.ofBlueprint b with
  | error f =>
    cases hr : c.request <;> rw [hr] at hk <;>
      simp [Generate.artifact, Generate.security, Generate.project, Run.sheet, hk, hs, Request.kind]
  | ok s =>
    have hks := Sheet.kind_of_ofBlueprint hs
    rw [hk] at hks
    cases hr : c.request <;> rw [hr] at hk hks <;> cases s <;> cases hks <;>
      simp [Generate.artifact, Generate.security, Generate.project, Run.sheet, hk, hs, Request.kind,
        model_eq, controller_eq, repository_eq, service_eq, projectAt_eq, carryOut,
        Sheet.placed, plans, Report.onSheet, project]

theorem told_ok {lines : Except Console.MarkupFault (List String)}
    (h : on site (Program.told lines) = (.ok ls, site')) : lines = .ok ls ∧ site' = site := by
  unfold Program.told at h
  rw [on_ofExcept] at h
  cases lines with
  | error fault => cases h
  | ok ls' =>
    cases h
    exact ⟨rfl, rfl⟩

/-- A blueprint that was fulfilled is finished. -/
theorem finished_of_fulfil (hext : c.settings.sourceExtension = ".java")
    (h : on site (c.fulfil b) = (.ok ls, site')) : c.Finished b site'.tree := by
  obtain ⟨s, mid, hs, h⟩ := on_bind_ok.1 h
  obtain ⟨account, mid', ha, h⟩ := on_bind_ok.1 h
  obtain ⟨hreport, rfl⟩ := told_ok h
  exact ⟨s, (sheet_ok hs).1, (carryOut_ok hext ha).1, (Report.onSheet_ok_iff account).1 ⟨ls, hreport⟩⟩

/-- Where a blueprint is finished, fulfilling it rests. -/
theorem Finished.rests (h : c.Finished b t) : ∃ ls, RestsAt t (c.fulfil b) ls := by
  obtain ⟨s, hs, hrest, hcells⟩ := h
  obtain ⟨account, haccount, -, -⟩ := rests_carryOut hrest
  obtain ⟨ls, hls⟩ := (Report.onSheet_ok_iff account).2 hcells
  have htold : RestsAt t (Program.told (Report.onSheet c.project b s account)) ls := by
    rw [hls]
    exact rests_ofExcept t ls
  exact ⟨ls, (rests_sheet hs t).bind (haccount.bind htold)⟩

/-- A command puts its blueprint together without touching the tree, and then fulfils it. -/
theorem on_perform (c : Command) (site : Site) :
    ∃ notices, on site (Program.perform c.settings c.request)
      = on ⟨site.tree, notices⟩ (c.fulfil (c.blueprint site.tree)) := by
  obtain ⟨notices, hrests⟩ := rests_blueprint (rests_findBase c site.tree) c.request
    (site.notices ++ c.request.notices)
  have hblueprint : on ⟨site.tree, site.notices ++ c.request.notices⟩
      ((c.request.blueprint (Program.findBase c.settings (Path.ofText c.request.output))).run' none)
      = (.ok (c.blueprint site.tree), ⟨site.tree, notices⟩) := hrests
  refine ⟨notices, ?_⟩
  rw [fulfil_eq (c.kind_blueprint site.tree)]
  unfold Program.perform
  rw [on_bind, on_notifyAll]
  dsimp only
  rw [on_bind, hblueprint]
  rfl

/-- A command that succeeds leaves the blueprint that it put together finished. -/
theorem finished_of_perform (hext : c.settings.sourceExtension = ".java")
    (h : on site (Program.perform c.settings c.request) = (.ok ls, site')) :
    c.Finished (c.blueprint site.tree) site'.tree := by
  obtain ⟨notices, hon⟩ := c.on_perform site
  rw [hon] at h
  exact finished_of_fulfil hext h

/-- Where the blueprint of a command is finished, the command rests. -/
theorem rests_perform (h : c.Finished (c.blueprint t) t) :
    ∃ ls, RestsAt t (Program.perform c.settings c.request) ls := by
  obtain ⟨ls, hls⟩ := h.rests
  rw [fulfil_eq (c.kind_blueprint t)] at hls
  refine ⟨ls, (rests_notifyAll t c.request.notices).bind ?_⟩
  exact (rests_blueprint (rests_findBase c t) c.request).bind hls

end Command

end Groundwork
