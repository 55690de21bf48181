import Groundwork.Proofs.Command
import Groundwork.Proofs.Generate.Failing
import Groundwork.Proofs.Template.Keys
import Groundwork.Proofs.Typed

/-!
# What a command tells of its failures

Whatever the environment, the command line and the tree are, a command ends with a reply, or with a
failure that is not among those it reports. Such a failure has one of five causes: a path that is
too long to be asked about, a path with a character that no name can hold, a file of templates that
is no text, a template of such a directory that asks an object for its first character, and a text
of the summary whose tags do not match.
-/

namespace Groundwork

open Generate Run

/-- The failures that a command does not report, with what is to blame in its sheet, in the tree
that it leaves, or in its summary. -/
inductive Command.Escapes (c : Command) (b : Blueprint) (s : Sheet) (t : Tree) :
    Failure → Prop where
  | tooLong {path : Path} : path ∈ s.paths c.project → t.locate path = .error .nameTooLong →
    (Tree.pathLimit < path.text.utf8ByteSize ∨
      ∃ part ∈ path.parts, Tree.nameLimit < part.utf8ByteSize) →
    Escapes c b s t (.unreachable path .nameTooLong)
  | unnameable {path place : Path} : path ∈ s.paths c.project →
    place = path ∨ place = path.parent → path.parts.any (·.toList.contains '\x00') →
    Escapes c b s t (.unreachable place .nullCharacter)
  | noText {dir : Path} {o : Output} {parts : List String} {octets : List UInt8}
    {fault : Text.Utf8.Fault} : c.settings.templateDirectory = some dir →
    o ∈ outputs (s.placed c.project) s → Template.nameParts? o.template = some parts →
    Template.Store.source? t dir parts = some octets → Text.Utf8.decode octets = .error fault →
    Escapes c b s t (.undecodable fault)
  | noKey {dir : Path} {o : Output} {template : Template} :
    c.settings.templateDirectory = some dir → o ∈ outputs (s.placed c.project) s →
    c.store.load t o.template = .ok template →
    template.render .off s.bindings = .error (.misuse .noKeyZero) →
    Escapes c b s t (.misuse .noKeyZero)
  | noMarkup {text : String} {fault : Console.MarkupFault} : text ∈ Report.cells c.project b s →
    Console.Markup.shown text = .error fault → Escapes c b s t (.markup fault)

namespace Command

variable {c : Command} {b : Blueprint} {s : Sheet} {t : Tree} {f : Failure} {site site' : Site}

theorem templateDirectory_of_store {dir : Path} (h : c.store = .directory dir) :
    c.settings.templateDirectory = some dir := by
  unfold store Template.Store.ofDirectory? at h
  split at h
  · rename_i dir' hdir
    cases h
    exact hdir
  · cases h

/-- A sheet of a blueprint that fits cannot be carried out for a failure that is reported, or for
one of the causes. -/
theorem escapes_of_toBlame (hb : b.Typed) (hs : Sheet.ofBlueprint b = .ok s)
    (h : s.ToBlame c.store c.project t f) (hf : f.isReported = false) : c.Escapes b s t f := by
  cases h with
  | path hp hpath =>
    cases hpath with
    | refused deed place fault => cases hf
    | tooLong hl => exact .tooLong hp hl (Tree.locate_long hl)
    | unnameable place hplace hl => exact .unnameable hp hplace (Tree.locate_null.1 hl)
  | template ho hr =>
    rcases Template.Store.render_error hr with ⟨fault, rfl⟩ |
      ⟨dir, parts, octets, fault, hstore, hparts, hsource, hdecode, rfl⟩ | ⟨template, hl, hk, rfl⟩
    · cases hf
    · exact .noText (templateDirectory_of_store hstore) ho hparts hsource hdecode
    · obtain ⟨dir, hstore⟩ := Template.noKey_directory hl hk
      exact .noKey (templateDirectory_of_store hstore) ho hl hk
  | package hsecurity hne =>
    subst hsecurity
    obtain ⟨text, htext⟩ := hb.userRepositoryPackage hs
    exact absurd htext (hne text)

theorem escapes_of_fulfil (hb : b.Typed) (h : on site (c.fulfil b) = (.error f, site'))
    (hf : f.isReported = false) :
    ∃ s, Sheet.ofBlueprint b = .ok s ∧ c.Escapes b s site'.tree f := by
  rcases on_bind_error.1 h with h | ⟨s, mid, hsheet, h⟩
  · obtain ⟨fault, rfl⟩ := hb.sheet (failsBy_sheet b h)
    cases hf
  · have hs := (sheet_ok hsheet).1
    refine ⟨s, hs, ?_⟩
    rcases on_bind_error.1 h with h | ⟨account, mid', -, h⟩
    · exact escapes_of_toBlame hb hs (failsBy_carryOut c.store c.project s h) hf
    · unfold Program.told at h
      rw [on_ofExcept] at h
      cases hreport : Report.onSheet c.project b s account with
      | ok ls =>
        rw [hreport] at h
        cases h
      | error fault =>
        rw [hreport] at h
        cases h
        obtain ⟨text, hcell, hshown⟩ := Report.onSheet_error hreport
        exact .noMarkup hcell hshown

theorem escapes_of_perform (h : on site (Program.perform c.settings c.request) = (.error f, site'))
    (hf : f.isReported = false) : ∃ s, Sheet.ofBlueprint (c.blueprint site.tree) = .ok s ∧
      c.Escapes (c.blueprint site.tree) s site'.tree f := by
  obtain ⟨notices, hon⟩ := c.on_perform site
  rw [hon] at h
  exact escapes_of_fulfil (Request.typed_below _ _) h hf

end Command

namespace Program

/-- How a run ends whose command line asks for a command. -/
inductive Ends (environment : List (String × String)) (words : List String) (site : Site) :
    Except Failure Reply × Site → Prop where
  | misconfigured {issues : List Intake.Issue} {lines : List String} :
    Settings.ofEnvironment environment = .error issues →
    Report.errorLines (Report.configurationMessage (Settings.environmentEntries environment) issues)
      = .ok lines →
    Ends environment words site (.ok { code := 1, lines }, site)
  | done {c : Command} {lines : List String} {site' : Site} :
    Command.read? environment words = some c →
    on site (perform c.settings c.request) = (.ok lines, site') →
    Ends environment words site (.ok { code := 0, lines }, site')
  | reported {c : Command} {f : Failure} {lines : List String} {site' : Site} :
    Command.read? environment words = some c →
    on site (perform c.settings c.request) = (.error f, site') → f.isReported = true →
    Report.errorLines f.message = .ok lines →
    Ends environment words site (.ok { code := 1, lines },
      { site' with notices := site'.notices ++ [.commandFailed c.request.kind.name] })
  | escaped {c : Command} {s : Sheet} {f : Failure} {site' : Site} :
    Command.read? environment words = some c →
    on site (perform c.settings c.request) = (.error f, site') → f.isReported = false →
    Sheet.ofBlueprint (c.blueprint site.tree) = .ok s →
    c.Escapes (c.blueprint site.tree) s site'.tree f →
    Ends environment words site (.error f, site')

theorem on_replyToError (site : Site) (message : String) : ∃ lines,
    Report.errorLines message = .ok lines ∧
      on site (replyToError message) = (.ok { code := 1, lines }, site) := by
  obtain ⟨lines, h⟩ := Report.errorLines_ok message
  refine ⟨lines, h, ?_⟩
  unfold replyToError told
  rw [h]
  rfl

theorem kind_complete (request : Request) : (complete request).kind = request.kind := by
  cases request <;> rfl

/-- A command line that asks for a command gets a reply with exit code 0 or 1, or the failure
escapes for one of the causes. -/
theorem ends_run (environment : List (String × String)) (words : List String)
    (invocation : Invocation) (site : Site) (h : Invocation.read words = .ok invocation) :
    Ends environment words site (on site (run environment words)) := by
  unfold run
  rw [h]
  dsimp only
  unfold execute
  cases hsettings : Settings.ofEnvironment environment with
  | error issues =>
    obtain ⟨lines, hlines, hreply⟩ := on_replyToError site
      (Report.configurationMessage (Settings.environmentEntries environment) issues)
    dsimp only
    rw [hreply]
    exact .misconfigured hsettings hlines
  | ok settings =>
    have hc : Command.read? environment words
        = some ⟨settings, complete invocation.request⟩ := by
      rw [Command.read?, h, hsettings]
    dsimp only
    rw [on_tryCatch, on_bind]
    rcases hp : on site (perform settings (complete invocation.request)) with ⟨f | ls, mid⟩
    · dsimp only
      cases hf : f.isReported with
      | true =>
        obtain ⟨lines, hlines, hreply⟩ := on_replyToError
          { mid with notices := mid.notices ++ [.commandFailed invocation.request.kind.name] }
          f.message
        rw [if_pos rfl, on_bind, on_notify]
        dsimp only
        rw [hreply, ← kind_complete invocation.request]
        exact .reported hc hp hf hlines
      | false =>
        obtain ⟨s, hs, hescapes⟩ := Command.escapes_of_perform (c := ⟨settings, _⟩) hp hf
        rw [if_neg (by simp)]
        exact .escaped hc hp hf hs hescapes
    · exact .done hc hp

/-- A directory of templates with a file that is no text. -/
def brokenTemplates : Site where
  tree := (on ⟨.empty, []⟩ (writeFile (.ofText "t/repository.java.j2") "")).2.tree.replace
    ["t", "repository.java.j2"] [0xFF]

/-- A command that renders the file. -/
def brokenRun : Run Reply :=
  run [("SCAFFOLD_TEMPLATE_DIR", "t")] ["repository", "ProductRepository"]

/-- Whether the failure is a file of templates that is no text. -/
def isNoText : Failure → Bool
  | .undecodable _ => true
  | _ => false

theorem brokenRun_fails : ∃ fault site',
    on brokenTemplates brokenRun = (.error (.undecodable fault), site') := by
  have hfails : (failure? brokenTemplates brokenRun).map isNoText = some true := by decide +kernel
  obtain ⟨f, hf, htext⟩ := Option.map_eq_some_iff.1 hfails
  obtain ⟨site', hon⟩ := failure?_eq_some.1 hf
  cases f with
  | undecodable fault => exact ⟨fault, site', hon⟩
  | _ => cases htext

theorem read_repository : ∃ invocation,
    Invocation.read ["repository", "ProductRepository"] = .ok invocation := by
  have hread : (Invocation.read ["repository", "ProductRepository"]).toOption.isSome = true := by
    decide +kernel
  cases hr : Invocation.read ["repository", "ProductRepository"] with
  | ok invocation => exact ⟨invocation, rfl⟩
  | error ending =>
    rw [hr] at hread
    cases hread

/-- The file that is no text is among the causes. -/
theorem broken_template_escapes : ∃ c s fault site',
    on brokenTemplates brokenRun = (.error (.undecodable fault), site') ∧
      Command.Escapes c (c.blueprint brokenTemplates.tree) s site'.tree (.undecodable fault) := by
  obtain ⟨fault, site', hon⟩ := brokenRun_fails
  obtain ⟨invocation, hread⟩ := read_repository
  have h := ends_run [("SCAFFOLD_TEMPLATE_DIR", "t")] _ invocation brokenTemplates hread
  rw [brokenRun] at hon
  rw [hon] at h
  cases h with
  | escaped _ _ _ _ hescapes => exact ⟨_, _, fault, site', hon, hescapes⟩

/-- The command line can be read, and yet there is no reply. -/
theorem broken_template_has_no_reply :
    (∃ invocation, Invocation.read ["repository", "ProductRepository"] = .ok invocation) ∧
      ¬ ∃ reply site', on brokenTemplates brokenRun = (.ok reply, site') ∧
        (reply.code = 0 ∨ reply.code = 1) := by
  refine ⟨read_repository, ?_⟩
  rintro ⟨reply, site', hon, -⟩
  obtain ⟨fault, site'', hfails⟩ := brokenRun_fails
  rw [hfails] at hon
  cases hon

end Program

end Groundwork
