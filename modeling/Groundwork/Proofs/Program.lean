import Groundwork.Proofs.Command

/-!
# A command line that runs twice

The second run of a command line finds its base package on the tree that the first run left, and
what the first run made can change what is found: a directory that is named like a domain package,
or a class that is named like an entry point. The second run rests exactly where that does not
matter, because the blueprint is still the same or because all that the new one asks for is there.
-/

namespace Groundwork.Program

open Run

variable {site site' : Site} {t : Tree} {environment : List (String × String)}
  {words : List String} {reply : Reply} {c : Command} {ls : List String}

/-- An error that is told gives exit code 1. -/
theorem code_of_replyToError {message : String}
    (h : on site (replyToError message) = (.ok reply, site')) : reply.code = 1 := by
  obtain ⟨told, mid, -, h⟩ := on_bind_ok.1 h
  cases h
  rfl

/-- Exit code 0 is that of a command that was performed, or of a command line that asks for no
command and leaves every tree alone. -/
theorem run_ok (h : on site (run environment words) = (.ok reply, site')) (hcode : reply.code = 0) :
    (Command.read? environment words = none ∧
        ∀ t, RestsAt t (run environment words) reply) ∨
      ∃ c ls, Command.read? environment words = some c ∧
        c.settings.sourceExtension = ".java" ∧
        on site (perform c.settings c.request) = (.ok ls, site') := by
  unfold run execute at h ⊢
  unfold Command.read?
  cases hread : Invocation.read words with
  | error ending =>
    rw [hread] at h
    cases h
    exact .inl ⟨rfl, fun t => rests_pure t _⟩
  | ok invocation =>
    rw [hread] at h
    dsimp only at h
    cases hsettings : Settings.ofEnvironment environment with
    | error issues =>
      rw [hsettings] at h
      rw [code_of_replyToError h] at hcode
      cases hcode
    | ok settings =>
      rw [hsettings] at h
      dsimp only at h
      rw [on_tryCatch, on_bind] at h
      refine .inr ⟨⟨settings, complete invocation.request⟩, ?_⟩
      rcases hp : on site (perform settings (complete invocation.request)) with ⟨f | ls, mid⟩
      · -- a failure is told, which is not exit code 0, or it is passed on
        rw [hp] at h
        dsimp only at h
        split at h
        · obtain ⟨u, mid', -, h⟩ := on_bind_ok.1 h
          rw [code_of_replyToError h] at hcode
          cases hcode
        · cases h
      · rw [hp] at h
        cases h
        exact ⟨ls, rfl, Settings.sourceExtension_of_environment hsettings, rfl⟩

/-- A run with exit code 0 leaves the blueprint of its command finished. -/
theorem finished_of_run (h : on site (run environment words) = (.ok reply, site'))
    (hcode : reply.code = 0) (hc : Command.read? environment words = some c) :
    c.Finished (c.blueprint site.tree) site'.tree := by
  rcases run_ok h hcode with ⟨hnone, -⟩ | ⟨c', ls, hc', hext, hperform⟩
  · cases hnone.symm.trans hc
  · cases hc'.symm.trans hc
    exact Command.finished_of_perform hext hperform

theorem rests_run (hc : Command.read? environment words = some c)
    (h : RestsAt t (perform c.settings c.request) ls) :
    RestsAt t (run environment words) { code := 0, lines := ls } := by
  unfold Command.read? at hc
  split at hc
  · rename_i invocation settings hread hsettings
    cases hc
    unfold run execute
    rw [hread, hsettings]
    refine RestsAt.tryCatch ?_ _
    exact h.bind (rests_pure t _)
  · cases hc

/-- A run with exit code 0 leaves all that its command asks for. It can be repeated with exit code
0 and without any change exactly when the command has the same blueprint on the tree that the first
run left, or when all that its blueprint on that tree asks for is there as well. -/
theorem run_again_iff (environment : List (String × String)) (words : List String)
    (site site' : Site) (reply : Reply)
    (h : on site (run environment words) = (.ok reply, site')) (hcode : reply.code = 0) :
    (∀ c, Command.read? environment words = some c →
        c.Finished (c.blueprint site.tree) site'.tree) ∧
      ((∃ again, again.code = 0 ∧ RestsAt site'.tree (run environment words) again) ↔
        ∀ c, Command.read? environment words = some c →
          c.blueprint site'.tree = c.blueprint site.tree ∨
            c.Finished (c.blueprint site'.tree) site'.tree) := by
  have hfirst : ∀ c, Command.read? environment words = some c →
      c.Finished (c.blueprint site.tree) site'.tree :=
    fun c hc => finished_of_run h hcode hc
  refine ⟨hfirst, ?_, fun hsteady => ?_⟩
  · rintro ⟨again, hagain, hrests⟩ c hc
    obtain ⟨notices, hon⟩ := hrests.ends
    have hfinished := finished_of_run hon hagain hc
    exact .inr hfinished
  · rcases run_ok h hcode with ⟨-, hrests⟩ | ⟨c, ls, hc, -, -⟩
    · exact ⟨reply, hcode, hrests site'.tree⟩
    · have hfinished : c.Finished (c.blueprint site'.tree) site'.tree := by
        rcases hsteady c hc with hsame | hfinished
        · rw [hsame]
          exact hfirst c hc
        · exact hfinished
      obtain ⟨ls', hrests⟩ := Command.rests_perform hfinished
      exact ⟨{ code := 0, lines := ls' }, rfl, rests_run hc hrests⟩

/-- The exit code of a run that ended with a reply. -/
def code? (result : Except Failure Reply) : Option Nat :=
  result.toOption.map Reply.code

theorem exists_of_code? {result : Except Failure Reply} (h : code? result = some 0) :
    ∃ reply, result = .ok reply ∧ reply.code = 0 := by
  cases result with
  | error f => cases h
  | ok reply => exact ⟨reply, rfl, Option.some.inj h⟩

/-- A repository in an empty directory: the second run finds the same base package. -/
theorem run_again_repository :
    let words := ["repository", "ProductRepository"]
    ∃ reply site' again, on ⟨.empty, []⟩ (run [] words) = (.ok reply, site') ∧ reply.code = 0 ∧
      again.code = 0 ∧ RestsAt site'.tree (run [] words) again := by
  intro words
  have hruns : code? (on ⟨.empty, []⟩ (run [] words)).1 = some 0 ∧
      (Command.read? [] words).all (fun c =>
        c.base (on ⟨.empty, []⟩ (run [] words)).2.tree == c.base .empty) = true := by
    decide +kernel
  rcases hon : on ⟨.empty, []⟩ (run [] words) with ⟨result, site'⟩
  rw [hon] at hruns
  obtain ⟨hcode, hbase⟩ := hruns
  obtain ⟨reply, rfl, hreply⟩ := exists_of_code? hcode
  have hsame : ∀ c, Command.read? [] words = some c →
      c.blueprint site'.tree = c.blueprint .empty := by
    intro c hc
    rw [hc, Option.all_some, beq_iff_eq] at hbase
    rw [Command.blueprint, hbase, Command.blueprint]
  obtain ⟨again, hagain, hrests⟩ :=
    (run_again_iff [] words ⟨.empty, []⟩ site' reply hon hreply).2.2 fun c hc => .inl (hsame c hc)
  exact ⟨reply, site', again, rfl, hreply, hagain, hrests⟩

/-- A repository in the package `domain` of an empty directory: the second run takes that package
for the base package and writes a second file below it. -/
theorem run_again_moves :
    let words := ["repository", "ProductRepository", "-p", "domain"]
    ∃ reply site', on ⟨.empty, []⟩ (run [] words) = (.ok reply, site') ∧ reply.code = 0 ∧
      ¬ ∃ again, again.code = 0 ∧ RestsAt site'.tree (run [] words) again := by
  intro words
  let moved : Location :=
    ["src", "main", "java", "com", "example", "domain", "domain", "ProductRepository.java"]
  have hruns : code? (on ⟨.empty, []⟩ (run [] words)).1 = some 0 ∧
      ((on ⟨.empty, []⟩ (run [] words)).2.tree.node? moved).isSome = false ∧
      ((on (on ⟨.empty, []⟩ (run [] words)).2 (run [] words)).2.tree.node? moved).isSome = true := by
    decide +kernel
  rcases hon : on ⟨.empty, []⟩ (run [] words) with ⟨result, site'⟩
  rw [hon] at hruns
  obtain ⟨hcode, hfirst, hsecond⟩ := hruns
  obtain ⟨reply, rfl, hreply⟩ := exists_of_code? hcode
  refine ⟨reply, site', rfl, hreply, ?_⟩
  rintro ⟨again, -, hrests⟩
  obtain ⟨notices, hagain⟩ := hrests.ends
  rw [hagain] at hsecond
  dsimp only at hsecond
  rw [hfirst] at hsecond
  cases hsecond

end Groundwork.Program
