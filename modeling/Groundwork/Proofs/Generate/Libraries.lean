import Groundwork.Proofs.Dependency
import Groundwork.Proofs.Generate.AtRest
import Groundwork.Proofs.Generate.NewBuildFile

/-!
# The libraries for the security classes

The two patches of the build file are made one after the other. Each adds its library behind what
is in the list, unless the file mentions it. A new project mentions the starter where it has it as
a dependency, and either library where a value of the project mentions it by chance.
-/

namespace Groundwork

open Text Run

namespace Dependency

/-- The starter for the security classes. -/
def starter : Dependency where
  name := "security"
  group := "org.springframework.boot"
  artifact := "spring-boot-starter-security"

end Dependency

namespace Generate

/-- Whether a dependency is the one on the starter. -/
def isStarter (inner : List Char) : Bool :=
  inner? "artifactId" inner = some "spring-boot-starter-security"

/-- Whether a dependency is the one on the library for tokens. -/
def isTokenLibrary (inner : List Char) : Bool :=
  inner? "groupId" inner = some "io.jsonwebtoken" && inner? "artifactId" inner = some "jjwt"

/-- The list with the libraries is read as it should be, and still has what it had, once each. -/
structure Secured (before after : List (List Char)) : Prop where
  starter : after.countP isStarter = 1
  tokenLibrary : after.countP isTokenLibrary = 1
  kept : ∀ inner ∈ before, after.count inner = 1

/-- What the first patch of the build file adds. -/
def starterElement : Element where
  gap := "\n        <!-- Spring Security -->\n        ".toList
  inner := Dependency.starter.inner

/-- What the second patch of the build file adds. -/
def tokenElement : Element where
  gap := "\n        <!-- JWT -->\n        ".toList
  inner := "\n            <groupId>io.jsonwebtoken</groupId>\n".toList
    ++ "            <artifactId>jjwt</artifactId>\n".toList
    ++ "            <version>0.9.1</version>\n        ".toList

theorem starterPatch_insertion : starterPatch.insertion.toList
    = (starterElement.texts "dependency").flatten ++ ['\n'] := by
  unfold starterPatch dependencyPatch
  simp only [String.toList_append]
  decide +kernel

theorem tokenLibraryPatch_insertion : tokenLibraryPatch.insertion.toList
    = (tokenElement.texts "dependency").flatten ++ ['\n'] := by
  unfold tokenLibraryPatch dependencyPatch
  simp only [String.toList_append]
  decide +kernel

theorem no_return_insertions :
    '\r' ∉ starterPatch.insertion.toList ∧ '\r' ∉ tokenLibraryPatch.insertion.toList := by
  rw [starterPatch_insertion, tokenLibraryPatch_insertion]
  decide +kernel

theorem sound_elements : Sound starterElement ∧ Sound tokenElement := by
  decide +kernel

/-- What is read of the dependencies that are known by a short name. -/
theorem catalogue_reads : ∀ d ∈ Dependency.catalogue,
    inner? "artifactId" d.inner = some d.artifact ∧ isTokenLibrary d.inner = false ∧
    ("spring-boot-starter-security".toList <:+: d.inner ↔ d = .starter) ∧
    ¬ "jjwt".toList <:+: d.inner := by
  decide +kernel

theorem tokenElement_reads : isStarter tokenElement.inner = false ∧
    isTokenLibrary tokenElement.inner ∧ "jjwt".toList <:+: tokenElement.inner := by
  decide +kernel

namespace Layout

variable {l : Layout} {e : Element} {x artifact insertion : String}

/-- A patch of the build file puts its element at the end of the list, unless the file mentions its
artifact. -/
theorem Proper.patched (h : l.Proper) (hx : x.toList = l.text) (hreturn : '\r' ∉ x.toList)
    (he : Sound e) (hins : insertion.toList = (e.texts "dependency").flatten ++ ['\n'])
    (hreturn' : '\r' ∉ insertion.toList) (artifact : String) :
    ∃ l' : Layout, l'.Proper ∧ ((dependencyPatch artifact insertion).after x).toList = l'.text ∧
      l'.front = l.front ∧ l'.elements.map Element.inner
        = l.elements.map Element.inner ++ if occursIn artifact x then [] else [e.inner] := by
  have hafter := h.after hx hreturn hins hreturn' artifact
  by_cases hmentions : occursIn artifact x
  · rw [if_pos hmentions] at hafter
    exact ⟨l, h, hafter, rfl, by rw [if_pos hmentions, List.append_nil]⟩
  · rw [if_neg hmentions] at hafter
    refine ⟨l.add e, h.add he, hafter, rfl, ?_⟩
    rw [if_neg hmentions, Layout.add, List.map_append]
    rfl

theorem Proper.mentions (h : l.Proper) (hx : x.toList = l.text) (ha : artifact ∈ libraries) :
    occursIn artifact x ↔
      artifact.toList <:+: l.front ∨ ∃ inner ∈ l.elements.map Element.inner,
        artifact.toList <:+: inner := by
  rw [occursIn_iff, hx, h.mentions_iff ha]
  simp

end Layout

section Counting

variable {ds : List Dependency}

theorem isStarter_inner {d : Dependency} (hd : d ∈ Dependency.catalogue) :
    isStarter d.inner ↔ d = .starter := by
  have hone : ∀ d ∈ Dependency.catalogue,
      d.artifact = "spring-boot-starter-security" ↔ d = .starter := by
    decide
  rw [isStarter, (catalogue_reads d hd).1, decide_eq_true_eq, Option.some_inj]
  exact hone d hd

theorem nodup_inner (hds : ∀ d ∈ ds, d ∈ Dependency.catalogue) (h : ds.Nodup) :
    (ds.map Dependency.inner).Nodup := by
  have hone : ∀ d ∈ Dependency.catalogue, ∀ d' ∈ Dependency.catalogue,
      d.artifact = d'.artifact → d = d' := by
    decide
  refine List.Nodup.map_on (fun d hd d' hd' hsame => ?_) h
  have hread := (catalogue_reads d (hds d hd)).1
  rw [hsame, (catalogue_reads d' (hds d' hd')).1] at hread
  exact hone d (hds d hd) d' (hds d' hd') (Option.some.inj hread).symm

theorem countP_isStarter (hds : ∀ d ∈ ds, d ∈ Dependency.catalogue) (h : ds.Nodup) :
    (ds.map Dependency.inner).countP isStarter = if .starter ∈ ds then 1 else 0 := by
  rw [List.countP_map, ← h.count, List.count]
  refine List.countP_congr fun d hd => ?_
  rw [Function.comp_apply, isStarter_inner (hds d hd), beq_iff_eq]

theorem countP_isTokenLibrary (hds : ∀ d ∈ ds, d ∈ Dependency.catalogue) :
    (ds.map Dependency.inner).countP isTokenLibrary = 0 := by
  rw [List.countP_map, List.countP_eq_zero]
  intro d hd htoken
  rw [Function.comp_apply, (catalogue_reads d (hds d hd)).2.1] at htoken
  cases htoken

/-- What the patches add to the libraries of a project, by whether the build file mentioned each. -/
def additions (hasStarter hasTokens : Bool) : List (List Char) :=
  (if hasStarter then [] else [starterElement.inner])
    ++ if hasTokens then [] else [tokenElement.inner]

theorem countP_additions (hasStarter hasTokens : Bool) :
    (additions hasStarter hasTokens).countP isTokenLibrary = if hasTokens then 0 else 1 := by
  have hnotoken : isTokenLibrary starterElement.inner = false :=
    (catalogue_reads .starter (by decide)).2.1
  have htoken := tokenElement_reads.2.1
  cases hasStarter <;> cases hasTokens <;> simp [additions, hnotoken, htoken]

/-- Nothing that was in the list is added again. -/
theorem count_inner {hasStarter hasTokens : Bool} (hds : ∀ d ∈ ds, d ∈ Dependency.catalogue)
    (h : ds.Nodup) (hstarter : .starter ∈ ds → hasStarter) :
    ∀ inner ∈ ds.map Dependency.inner,
      (ds.map Dependency.inner ++ additions hasStarter hasTokens).count inner = 1 := by
  intro inner hinner
  have hnew : inner ∉ additions hasStarter hasTokens := by
    obtain ⟨d, hd, rfl⟩ := List.mem_map.1 hinner
    obtain ⟨hread, htoken, -⟩ := catalogue_reads d (hds d hd)
    intro hin
    rcases List.mem_append.1 hin with hin | hin
    · split at hin
      · cases hin
      · rename_i hnone
        have hsame : d.inner = Dependency.starter.inner := List.mem_singleton.1 hin
        have hself : isStarter d.inner := by
          rw [hsame]
          exact (isStarter_inner (by decide)).2 rfl
        obtain rfl := (isStarter_inner (hds d hd)).1 hself
        exact hnone (hstarter hd)
    · split at hin
      · cases hin
      · rw [List.mem_singleton.1 hin, tokenElement_reads.2.1] at htoken
        cases htoken
  rw [List.count_append, List.count_eq_one_of_mem (nodup_inner hds h) hinner,
    List.count_eq_zero.2 hnew]

/-- The libraries are there exactly if the file mentioned the starter because it had it, and did not
mention the library for tokens. -/
theorem secured_iff {hasStarter hasTokens : Bool} (hds : ∀ d ∈ ds, d ∈ Dependency.catalogue)
    (h : ds.Nodup) (hstarter : .starter ∈ ds → hasStarter) :
    Secured (ds.map Dependency.inner)
        (ds.map Dependency.inner ++ additions hasStarter hasTokens) ↔
      (.starter ∈ ds ∨ hasStarter = false) ∧ hasTokens = false := by
  have hself : isStarter starterElement.inner := (isStarter_inner (by decide)).2 rfl
  have hnostarter := tokenElement_reads.1
  have hone : (ds.map Dependency.inner ++ additions hasStarter hasTokens).countP isStarter = 1 ↔
      .starter ∈ ds ∨ hasStarter = false := by
    rw [List.countP_append, countP_isStarter hds h]
    by_cases hmem : .starter ∈ ds
    · cases hasTokens <;> simp [additions, hmem, hstarter hmem, hnostarter]
    · cases hasStarter <;> cases hasTokens <;> simp [additions, hmem, hself, hnostarter]
  have htwo : (ds.map Dependency.inner ++ additions hasStarter hasTokens).countP isTokenLibrary = 1 ↔
      hasTokens = false := by
    rw [List.countP_append, countP_isTokenLibrary hds, countP_additions]
    cases hasTokens <;> simp
  exact ⟨fun hs => ⟨hone.1 hs.starter, htwo.1 hs.tokenLibrary⟩,
    fun hs => ⟨hone.2 hs.1, htwo.2 hs.2, count_inner hds h hstarter⟩⟩

end Counting

end Generate

/-- A value in the build file of a project mentions the artifact. -/
def ProjectSheet.Mentions (s : ProjectSheet) (artifact : String) : Prop :=
  ∃ t ∈ s.texts, occursIn artifact t

instance (s : ProjectSheet) (artifact : String) : Decidable (s.Mentions artifact) :=
  inferInstanceAs (Decidable (∃ t ∈ s.texts, occursIn artifact t = true))

namespace Generate

variable {s : ProjectSheet} {x : String} {inks : List Template.Ink}

/-- The libraries of a new project before and after the patches. -/
theorem dependencies_patched (htags : ∀ t ∈ s.texts, ∀ w ∈ listTags, ¬ w <:+: t.toList)
    (hprint : Template.Bundled.buildFile.print s.bindings = .ok inks)
    (hx : x.toList = unifyLineEnds (inks.map Template.Ink.char)) :
    dependenciesOf x.toList = s.resolution.dependencies.map Dependency.inner ∧
      dependenciesOf (tokenLibraryPatch.after (starterPatch.after x)).toList
        = s.resolution.dependencies.map Dependency.inner
          ++ additions (.starter ∈ s.resolution.dependencies ∨
            s.Mentions "spring-boot-starter-security") (s.Mentions "jjwt") := by
  obtain ⟨front, back, hproper, htext, hfront⟩ := ProjectSheet.layout_of_print htags hprint
  rw [← hx] at htext
  have hinners : (s.layout front back).elements.map Element.inner
      = s.resolution.dependencies.map Dependency.inner := by
    rw [ProjectSheet.layout, List.map_map]
    rfl
  have hreturn : '\r' ∉ x.toList := by
    rw [hx]
    exact unifyLineEnds_no_return _
  obtain ⟨hstarterReturn, htokenReturn⟩ := no_return_insertions
  have hfirst : dependencyPatch "spring-boot-starter-security" starterPatch.insertion
      = starterPatch := rfl
  have hsecond : dependencyPatch "jjwt" tokenLibraryPatch.insertion = tokenLibraryPatch := rfl
  have hpatched := hproper.patched htext hreturn sound_elements.1 starterPatch_insertion
    hstarterReturn "spring-boot-starter-security"
  rw [hfirst] at hpatched
  obtain ⟨l, hl, hy, hlfront, hlinners⟩ := hpatched
  have hpatched' := hl.patched hy (Patch.no_return_after starterPatch hreturn) sound_elements.2
    tokenLibraryPatch_insertion htokenReturn "jjwt"
  rw [hsecond] at hpatched'
  obtain ⟨l', hl', hz, -, hlinners'⟩ := hpatched'
  have hvalues : ∀ a ∈ libraries, (a.toList <:+: front ↔ s.Mentions a) := by
    intro a ha
    rw [hfront a ha]
    simp only [ProjectSheet.Mentions, occursIn_iff]
  have hstarter : occursIn "spring-boot-starter-security" x ↔
      .starter ∈ s.resolution.dependencies ∨ s.Mentions "spring-boot-starter-security" := by
    rw [hproper.mentions htext (by decide), hinners, or_comm]
    refine or_congr ⟨?_, fun hmem => ?_⟩ (hvalues _ (by decide))
    · rintro ⟨inner, hinner, hin⟩
      obtain ⟨d, hd, rfl⟩ := List.mem_map.1 hinner
      obtain rfl := (catalogue_reads d (ProjectSheet.mem_catalogue hd)).2.2.1.1 hin
      exact hd
    · exact ⟨_, List.mem_map_of_mem hmem,
        (catalogue_reads _ (ProjectSheet.mem_catalogue hmem)).2.2.1.2 rfl⟩
  -- no library that is listed by then mentions the other one
  have htokens : occursIn "jjwt" (starterPatch.after x) ↔ s.Mentions "jjwt" := by
    rw [hl.mentions hy (by decide), hlfront, ← hvalues _ (by decide)]
    refine or_iff_left ?_
    rintro ⟨inner, hinner, hin⟩
    have hof : ∃ d ∈ Dependency.catalogue, d.inner = inner := by
      rw [hlinners, hinners, List.mem_append] at hinner
      rcases hinner with hinner | hinner
      · obtain ⟨d, hd, hsame⟩ := List.mem_map.1 hinner
        exact ⟨d, ProjectSheet.mem_catalogue hd, hsame⟩
      · split at hinner
        · cases hinner
        · exact ⟨.starter, by decide, (List.mem_singleton.1 hinner).symm⟩
    obtain ⟨d, hd, rfl⟩ := hof
    exact (catalogue_reads d hd).2.2.2 hin
  refine ⟨by rw [htext, hproper.dependenciesOf, hinners], ?_⟩
  rw [hz, hl'.dependenciesOf, hlinners', hlinners, hinners, List.append_assoc, additions]
  simp only [hstarter, htokens, decide_eq_true_eq]

end Generate

end Groundwork
