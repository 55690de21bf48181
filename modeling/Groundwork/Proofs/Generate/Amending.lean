import Groundwork.Proofs.Generate.Declaring
import Groundwork.Proofs.Generate.Lookups
import Groundwork.Proofs.Generate.Sections

/-!
# A repository of the library with its look-ups

A repository that was just generated takes both look-ups, as whole lines in front of its closing
brace. The import for optional values goes in front of the import of the model, unless the text
reads as if it had one. It is there once afterwards except where the model itself is imported by a
line that is, or begins like, that import.
-/

namespace Groundwork

open Text Run

variable {s : RepositorySheet} {above members : List String} {x y : String}

/-- The import of the model is not mistaken for the import of optional values: where the repository
has such an import of its own, it is another line, and where it has none, it is that line if it
begins like it. -/
def RepositorySheet.ImportsApart (s : RepositorySheet) : Prop :=
  if s.kind.isReactive then
    Generate.optionalImport.toList <+: s.modelImport.toList →
      s.modelImport = Generate.optionalImport
  else s.modelImport ≠ Generate.optionalImport

namespace Generate

def findLine (entity : String) : String :=
  "    Optional<" ++ entity ++ "> findByUsername(String username);"

def existsLine : String := "    Boolean existsByUsername(String username);"

/-- The lines of both look-ups. -/
def lookupLines (entity : String) : List String :=
  ["", "    // JWT authentication lookups", findLine entity, existsLine]

theorem findPatch_insertion (entity : String) : (findPatch entity).insertion.toList
    = linesText ["", "    // JWT authentication lookups", findLine entity] := by
  simp [findPatch, methodPatch, linesText, unlines, findLine]

theorem existsPatch_insertion : existsPatch.insertion.toList = linesText [existsLine] := by
  decide

/-- A look-up goes in front of the closing brace. -/
theorem methodPatch_lines {method insertion : String} {ls ins : List String}
    (hx : x.toList = linesText (ls ++ ["\x7d"])) (hins : insertion.toList = linesText ins)
    (hreturn : '\r' ∉ x.toList) (hreturn' : '\r' ∉ insertion.toList)
    (hnot : ¬ occursIn method x) :
    (methodPatch method insertion).statusOn (some (some x)) = .patched ∧
      ((methodPatch method insertion).after x).toList = linesText (ls ++ ins ++ ["\x7d"]) := by
  have hclose : linesText ["\x7d"] = '}' :: ['\n'] := by decide
  rw [linesText_append, hclose] at hx
  have happly := methodPatch_applyTo? hx (by decide) method insertion
  have hpresent : ¬ (methodPatch method insertion).isPresent x := hnot
  constructor
  · rw [Patch.statusOn, if_neg hpresent, happly]
    rfl
  · rw [Patch.after_of_applyTo? hpresent happly
        (Patch.no_return_of_applyTo? hreturn hreturn' happly),
      String.toList_ofList, linesText_append, linesText_append, hclose, hins]

/-- The import of optional values goes in front of the first import, if there is none. -/
theorem afterImports_lines {package first : String} {rest : List String}
    (hx : x.toList = linesText (["package " ++ package ++ ";", ""] ++ first :: rest))
    (hfirst : "import ".toList <+: first.toList) (hpackage : ¬ occursIn "import " package)
    (hreturn : '\r' ∉ x.toList) (hoptional : occursIn "Optional<" x) :
    (afterImports x).toList = linesText (["package " ++ package ++ ";", ""]
      ++ (if occursIn optionalImport x then [] else [optionalImport]) ++ first :: rest) := by
  have hhead : linesText ["package " ++ package ++ ";", ""] = (packageLines package).toList := by
    rw [packageLines_toList]
    simp [linesText, unlines]
  obtain ⟨later, hlater⟩ : "import ".toList <+: linesText (first :: rest) := by
    rw [linesText, List.map_cons, unlines_cons, List.append_assoc]
    exact hfirst.trans (List.prefix_append _ _)
  rw [linesText_append, hhead, ← hlater] at hx
  have hcut : Patch.cut? importPatch.occurrence importPatch.anchor.toList x.toList
      = some ((packageLines package).toList, "import ".toList ++ later) := by
    rw [hx]
    exact cut_import (fun hin => hpackage (occursIn_iff.2 hin)) later
  have happly := Patch.applyTo?_of_cut (p := importPatch) rfl hcut
  have hpresent : importPatch.isPresent x = occursIn optionalImport x := by
    rw [importPatch_isPresent, hasOptionalImport, hoptional, Bool.not_true, Bool.or_false]
  rw [afterImports_eq happly, linesText_append, linesText_append, hhead, ← hlater]
  by_cases hthere : occursIn optionalImport x
  · rw [if_pos hthere, Patch.Done.after_eq (.inl (hpresent.trans hthere)), hx]
    simp [linesText, unlines]
  · have hins : importPatch.insertion.toList = linesText [optionalImport] := by decide
    have hno : '\r' ∉ importPatch.insertion.toList := by decide
    rw [if_neg hthere, Patch.after_of_applyTo? (by rwa [hpresent]) happly
        (Patch.no_return_of_applyTo? hreturn hno happly), String.toList_ofList, hins]

/-- Lines above the declaration and after the members. -/
theorem lines_more (s : RepositorySheet) (above members more : List String) :
    s.lines above (members ++ more)
      = ["package " ++ s.package ++ ";", ""] ++ above ++ [s.declaration] ++ members ++ more
        ++ ["\x7d"] := by
  simp only [RepositorySheet.lines, List.append_assoc]

theorem findLine_mentions (entity : String) : occursIn "findByUsername" (findLine entity) ∧
    occursIn "Optional<" (findLine entity) := by
  have hsplit : (findLine entity).toList = "    Optional<".toList ++ entity.toList
      ++ "> findByUsername(String username);".toList := by
    simp [findLine]
  rw [occursIn_iff, occursIn_iff, hsplit]
  constructor
  · have hin : "findByUsername".toList <:+: "> findByUsername(String username);".toList := by
      rw [String.toList_ofList, String.toList_ofList]
      decide
    exact hin.trans (List.suffix_append _ _).isInfix
  · have hin : "Optional<".toList <:+: "    Optional<".toList := by
      rw [String.toList_ofList, String.toList_ofList]
      decide
    rw [List.append_assoc]
    exact hin.trans (List.prefix_append _ _).isInfix

/-- No line of a look-up imports anything, unless the name of the entity says so. -/
theorem lookupLines_silent {entity : String} (hentity : ¬ occursIn "import " entity) :
    ∀ line ∈ lookupLines entity, ¬ occursIn optionalImport line := by
  have hword : "import ".toList <:+: optionalImport.toList := by
    rw [optionalImport, String.toList_ofList, String.toList_ofList]
    decide
  have hplain : ∀ line ∈ ["", "    // JWT authentication lookups", existsLine,
      "    Optional<", "> findByUsername(String username);"],
      ¬ "import ".toList <:+: line.toList := by
    intro line hline
    simp only [existsLine, List.mem_cons, List.not_mem_nil, or_false] at hline
    rcases hline with rfl | rfl | rfl | rfl | rfl <;>
    · rw [String.toList_ofList, String.toList_ofList]
      decide
  intro line hline hin
  have himport := hword.trans (occursIn_iff.1 hin)
  simp only [lookupLines, List.mem_cons, List.not_mem_nil, or_false] at hline
  rcases hline with rfl | rfl | rfl | rfl
  · exact hplain _ (by simp) himport
  · exact hplain _ (by simp) himport
  · have hblunt : Blunt "import ".toList "    Optional<".toList := by decide
    have hclear : Clear "import ".toList "> findByUsername(String username);".toList := by decide
    have hsplit : (findLine entity).toList = "    Optional<".toList ++ (entity.toList
        ++ "> findByUsername(String username);".toList) := by
      simp [findLine]
    rw [hsplit, infix_append_iff (hblunt.uncut _),
      infix_append_iff (hclear.uncut List.prefix_rfl _)] at himport
    rcases himport with h | h | h
    · exact hplain _ (by simp) h
    · exact hentity (occursIn_iff.2 h)
    · exact hplain _ (by simp) h
  · exact hplain _ (by simp) himport

/-- Both look-ups are put in front of the closing brace of a text that mentions neither. -/
theorem lookups_patched {entity : String} {ls : List String} (hentity : Unobtrusive entity)
    (hx : x.toList = linesText (ls ++ ["\x7d"])) (hreturn : '\r' ∉ x.toList)
    (hfind : ¬ occursIn "findByUsername" x) (hexists : ¬ occursIn "existsByUsername" x) :
    let y := (findPatch entity).after x
    (findPatch entity).statusOn (some (some x)) = .patched ∧
      existsPatch.statusOn (some (some y)) = .patched ∧
      (existsPatch.after y).toList = linesText (ls ++ lookupLines entity ++ ["\x7d"]) := by
  intro y
  have hins : '\r' ∉ (findPatch entity).insertion.toList := by
    simp [findPatch, methodPatch, hentity.line.no_return]
  have hnew : '\r' ∉ existsPatch.insertion.toList := by decide
  have hfindPatch : methodPatch "findByUsername" (findPatch entity).insertion = findPatch entity :=
    rfl
  have hexistsPatch : methodPatch "existsByUsername" existsPatch.insertion = existsPatch := rfl
  have hwhole := methodPatch_lines hx (findPatch_insertion entity) hreturn hins hfind
  rw [hfindPatch] at hwhole
  obtain ⟨hstatus, hy⟩ := hwhole
  have hnot : ¬ occursIn "existsByUsername" y := by
    have hword : "existsByUsername" ≠ "" ∧ '\n' ∉ "existsByUsername".toList := by decide
    rw [occursIn_linesText hword.1 hword.2 hx] at hexists
    rw [occursIn_linesText hword.1 hword.2 hy]
    rintro ⟨line, hline, hin⟩
    rw [List.mem_append, List.mem_append, or_right_comm, ← List.mem_append] at hline
    rcases hline with hline | hline
    · exact hexists ⟨line, hline, hin⟩
    · -- the name of the method does not come with the name of the entity either
      have hbrought : "existsByUsername".toList <:+: (findPatch entity).insertion.toList := by
        rw [findPatch_insertion, linesText, infix_unlines (by decide) (by decide)]
        exact ⟨line.toList, List.mem_map_of_mem hline, occursIn_iff.1 hin⟩
      exact hentity.words _ (by decide)
        (occursIn_iff.2 ((infix_findPatch (by decide)).1 hbrought))
  have hyreturn := Patch.no_return_after (findPatch entity) hreturn
  have hwhole' := methodPatch_lines hy existsPatch_insertion hyreturn hnew hnot
  rw [hexistsPatch] at hwhole'
  obtain ⟨hstatus', hz⟩ := hwhole'
  refine ⟨hstatus, hstatus', hz.trans ?_⟩
  simp only [lookupLines, List.append_assoc, List.cons_append, List.nil_append]

/-- Both look-ups are put into a repository of the library. -/
theorem methods_patched {entity : String} (hentity : Unobtrusive entity)
    (hx : s.Prints x.toList above members) :
    let y := (findPatch entity).after x
    (findPatch entity).statusOn (some (some x)) = .patched ∧
      existsPatch.statusOn (some (some y)) = .patched ∧
      (existsPatch.after y).toList
        = linesText (s.lines (s.modelImport :: above) (members ++ lookupLines entity)) ∧
      '\r' ∉ (existsPatch.after y).toList := by
  intro y
  have hfind : ¬ occursIn "findByUsername" x := fun h => hx.no_find (occursIn_iff.1 h)
  have hexists : ¬ occursIn "existsByUsername" x := fun h => hx.no_exists (occursIn_iff.1 h)
  obtain ⟨hstatus, hstatus', hz⟩ := lookups_patched hentity hx.text hx.no_return hfind hexists
  refine ⟨hstatus, hstatus', ?_,
    Patch.no_return_after existsPatch (Patch.no_return_after (findPatch entity) hx.no_return)⟩
  rw [lines_more]
  exact hz

theorem count_lines (s : RepositorySheet) (above members more : List String) (line : String) :
    (s.lines above (members ++ more)).count line
      = above.count line + (s.lines [] members).count line + more.count line := by
  simp only [RepositorySheet.lines, List.count_append, List.count_nil]
  omega

theorem mem_lines {line : String} {more : List String} :
    line ∈ s.lines above (members ++ more) ↔
      line ∈ above ∨ line ∈ s.lines [] members ∨ line ∈ more := by
  rw [← List.count_pos_iff, count_lines, ← List.count_pos_iff, ← List.count_pos_iff,
    ← List.count_pos_iff]
  omega

/-- The lines that the look-ups leave, and where the import of optional values comes in. -/
theorem lookups_lines {entity : String} (htexts : ∀ t ∈ s.texts, Unobtrusive t)
    (hentity : Unobtrusive entity) (hx : s.Prints x.toList above members) :
    ∃ new, (afterImports (existsPatch.after ((findPatch entity).after x))).toList
        = linesText (s.lines (new ++ s.modelImport :: above) (members ++ lookupLines entity)) ∧
      new = if occursIn optionalImport s.modelImport ∨ optionalImport ∈ above then []
        else [optionalImport] := by
  obtain ⟨-, -, hw, hreturn⟩ := methods_patched hentity hx
  have hfirst : "import ".toList <+: s.modelImport.toList := by
    have hsplit : s.modelImport
        = "import " ++ (s.modelPackage.written ++ ("." ++ (s.model ++ ";"))) := by
      simp only [RepositorySheet.modelImport, String.append_assoc]
    rw [hsplit, String.toList_append]
    exact List.prefix_append _ _
  have hpackage : ¬ occursIn "import " s.package :=
    (htexts s.package List.mem_cons_self).words _ List.mem_cons_self
  have hoptional : occursIn "Optional<" (existsPatch.after ((findPatch entity).after x)) := by
    have hword : "Optional<" ≠ "" ∧ '\n' ∉ "Optional<".toList := by decide
    rw [occursIn_linesText hword.1 hword.2 hw]
    refine ⟨findLine entity, mem_lines.2 (.inr (.inr ?_)), (findLine_mentions entity).2⟩
    simp [lookupLines]
  have hthere : occursIn optionalImport (existsPatch.after ((findPatch entity).after x)) ↔
      occursIn optionalImport s.modelImport ∨ optionalImport ∈ above := by
    have hword : optionalImport ≠ "" ∧ '\n' ∉ optionalImport.toList := by decide
    have hsilent := lookupLines_silent (hentity.words _ List.mem_cons_self)
    rw [occursIn_linesText hword.1 hword.2 hw]
    constructor
    · rintro ⟨line, hline, hin⟩
      rw [mem_lines, List.mem_cons] at hline
      rcases hline with (rfl | hline) | hline | hline
      · exact .inl hin
      · rcases hx.imports line hline with rfl | hno
        · exact .inr hline
        · exact absurd hin hno
      · exact absurd hin (hx.others line hline)
      · exact absurd hin (hsilent line hline)
    · rintro (hin | hmem)
      · exact ⟨_, mem_lines.2 (.inl List.mem_cons_self), hin⟩
      · exact ⟨_, mem_lines.2 (.inl (.tail _ hmem)), occursIn_iff.2 (List.infix_refl _)⟩
  have hsplit : s.lines (s.modelImport :: above) (members ++ lookupLines entity)
      = ["package " ++ s.package ++ ";", ""] ++ s.modelImport :: (above ++ [s.declaration]
        ++ (members ++ lookupLines entity) ++ ["\x7d"]) := by
    simp only [RepositorySheet.lines, List.append_assoc, List.cons_append]
  rw [hsplit] at hw
  have hz := afterImports_lines hw hfirst hpackage hreturn hoptional
  refine ⟨_, ?_, rfl⟩
  rw [hz]
  simp only [hthere, RepositorySheet.lines, List.append_assoc, List.cons_append]

/-- The text of a repository that was just generated. -/
theorem prints_of_created {project : Project} {b : Blueprint} {site mid : Site}
    (hsheet : Sheet.ofBlueprint b = .ok (.repository s)) (htexts : ∀ t ∈ s.texts, Unobtrusive t)
    (hcreated : on site (artifact .bundled project b)
      = (.ok [⟨project.sourcePath s.package s.name, .created⟩], mid)) :
    ∃ x above members,
      fileText? mid.tree (project.sourcePath s.package s.name) = .ok (some (some x)) ∧
      s.Prints x.toList above members := by
  unfold artifact at hcreated
  dsimp only at hcreated
  split at hcreated
  · cases hcreated
  obtain ⟨sheet, site₂, hs, hcreated⟩ := on_bind_ok.1 hcreated
  have hsame := (Run.sheet_ok hs).1
  rw [hsheet] at hsame
  cases hsame
  dsimp only at hcreated
  rw [repository_eq] at hcreated
  obtain ⟨u', site₃, -, hcreated⟩ := on_bind_ok.1 hcreated
  obtain ⟨u'', site₄, -, hproduced⟩ := on_bind_ok.1 hcreated
  obtain ⟨w, site₅, hproduce, hlast⟩ := on_bind_ok.1 hproduced
  obtain ⟨hone, hend⟩ := Prod.ext_iff.1 hlast
  have hw : w = ⟨project.sourcePath s.package s.name, .created⟩ :=
    (List.cons.inj (Except.ok.inj hone)).1
  have hmid : site₅ = mid := hend
  obtain ⟨text, hrender, hwrite⟩ := produce_ok hproduce
  rw [hw, hmid] at hwrite
  dsimp only at hwrite hrender
  obtain ⟨inks, hprint, rfl⟩ := Template.Bundled.print_of_render rfl hrender
  obtain ⟨above, members, hprints⟩ := RepositorySheet.prints_of_print htexts hprint
  have hchars : (Template.Ink.text inks).toList = inks.map Template.Ink.char := String.toList_ofList
  rw [← hchars] at hprints
  have hread := fileText?_of_created hwrite
  rw [unifyLineEnds_of_not_mem hprints.no_return, String.ofList_toList] at hread
  exact ⟨_, above, members, hread, hprints⟩

theorem count_of_mentioned {w line : String} {ls : List String}
    (h : ∀ l ∈ ls, ¬ occursIn w l) (hline : occursIn w line) : ls.count line = 0 :=
  List.count_eq_zero.2 fun hmem => h line hmem hline

/-- Each look-up is in one line of its own. -/
theorem count_lookup {entity line : String} {new : List String}
    (hline : line ∈ [findLine entity, existsLine])
    (hx : s.Prints x.toList above members) (hnew : new = [] ∨ new = [optionalImport]) :
    (s.lines (new ++ s.modelImport :: above) (members ++ lookupLines entity) ++ [""]).count line
      = 1 := by
  have hexists : occursIn "existsByUsername" existsLine ∧
      ¬ occursIn "findByUsername" existsLine := by
    rw [occursIn, occursIn, existsLine]
    repeat rw [String.toList_ofList]
    decide
  have hfind := (findLine_mentions entity).1
  have hne : findLine entity ≠ existsLine := fun h => hexists.2 (h ▸ hfind)
  obtain ⟨w, hw, hmentions⟩ : ∃ w ∈ ["findByUsername", "existsByUsername"], occursIn w line := by
    simp only [List.mem_cons, List.not_mem_nil, or_false] at hline
    rcases hline with rfl | rfl
    · exact ⟨_, List.mem_cons_self, hfind⟩
    · exact ⟨_, .tail _ List.mem_cons_self, hexists.1⟩
  have hwords : ∀ w ∈ ["findByUsername", "existsByUsername"], w ≠ "" ∧ '\n' ∉ w.toList ∧
      ¬ occursIn w optionalImport ∧ ¬ occursIn w "    // JWT authentication lookups" ∧
      ¬ occursIn w "" := by
    intro w hw
    simp only [List.mem_cons, List.not_mem_nil, or_false] at hw
    rcases hw with rfl | rfl <;>
    · rw [occursIn, occursIn, occursIn, optionalImport]
      repeat rw [String.toList_ofList]
      decide
  obtain ⟨hnonempty, hend, hoptional, hcomment, hempty⟩ := hwords w hw
  have hold : ∀ l ∈ s.lines (s.modelImport :: above) members, ¬ occursIn w l := by
    have hno : ¬ occursIn w x := by
      rw [occursIn_iff]
      simp only [List.mem_cons, List.not_mem_nil, or_false] at hw
      rcases hw with rfl | rfl
      · exact hx.no_find
      · exact hx.no_exists
    rw [occursIn_linesText hnonempty hend hx.text] at hno
    exact fun l hl hin => hno ⟨l, hl, hin⟩
  have hthose := count_of_mentioned hold hmentions
  have hnone : new.count line = 0 := by
    refine count_of_mentioned (fun l hl => ?_) hmentions
    rcases hnew with rfl | rfl
    · cases hl
    · rw [List.mem_singleton.1 hl]
      exact hoptional
  have hfirst : "" ≠ line := fun h => hempty (h ▸ hmentions)
  have hlookups : (lookupLines entity).count line = 1 := by
    have hsecond : "    // JWT authentication lookups" ≠ line := fun h => hcomment (h ▸ hmentions)
    rw [lookupLines, List.count_cons_of_ne hfirst, List.count_cons_of_ne hsecond]
    simp only [List.mem_cons, List.not_mem_nil, or_false] at hline
    rcases hline with rfl | rfl
    · rw [List.count_cons_self, List.count_cons_of_ne hne.symm, List.count_nil]
    · rw [List.count_cons_of_ne hne, List.count_cons_self, List.count_nil]
  have hlast : [""].count line = 0 := by
    rw [List.count_cons_of_ne hfirst, List.count_nil]
  have hsplit := count_lines s (s.modelImport :: above) members [] line
  rw [List.append_nil, hthose] at hsplit
  rw [List.count_append, count_lines, List.count_append, hlookups, hlast, hnone]
  omega

/-- The import of optional values is never below the declaration, and it is there once exactly if
that of the model is not mistaken for it. -/
theorem count_optionalImport {entity : String} {new : List String}
    (htexts : ∀ t ∈ s.texts, Unobtrusive t) (hentity : Unobtrusive entity)
    (hx : s.Prints x.toList above members)
    (hnew : new = if occursIn optionalImport s.modelImport ∨ optionalImport ∈ above then []
      else [optionalImport]) :
    let lines := s.lines (new ++ s.modelImport :: above) (members ++ lookupLines entity) ++ [""]
    lines.count optionalImport = (new ++ s.modelImport :: above).count optionalImport ∧
      (lines.count optionalImport = 1 ↔ s.ImportsApart) := by
  intro lines
  have hself : occursIn optionalImport optionalImport := occursIn_iff.2 (List.infix_refl _)
  have hbelow := count_of_mentioned hx.others hself
  have hlookups := count_of_mentioned (lookupLines_silent (hentity.words _ List.mem_cons_self)) hself
  have hlast : [""].count optionalImport = 0 := by decide
  have hcount : lines.count optionalImport
      = (new ++ s.modelImport :: above).count optionalImport := by
    rw [List.count_append, count_lines, hbelow, hlookups, hlast]
    rfl
  refine ⟨hcount, ?_⟩
  have hown : (optionalImport ∈ above) ↔ s.kind.isReactive = false := by
    rw [← List.count_pos_iff, hx.count]
    cases s.kind.isReactive <;> decide
  simp only [hown, RepositorySheet.occursIn_modelImport htexts] at hnew
  rw [hcount, hnew, List.count_append, List.count_cons, hx.count, RepositorySheet.ImportsApart]
  cases s.kind.isReactive with
  | false => by_cases hsame : s.modelImport = optionalImport <;> simp [hsame]
  | true =>
    by_cases hsame : s.modelImport = optionalImport
    · simp [hsame]
    · by_cases hbegins : optionalImport.toList <+: s.modelImport.toList <;> simp [hsame, hbegins]

/-- The patches of a repository that was just generated, with the lines before and after. -/
theorem takes_lookups {project : Project} {entity : String} {mid : Site}
    (htexts : ∀ t ∈ s.texts, Unobtrusive t) (hentity : Unobtrusive entity)
    (hread : fileText? mid.tree (project.sourcePath s.package s.name) = .ok (some (some x)))
    (hx : s.Prints x.toList above members) :
    let path := project.sourcePath s.package s.name
    ∃ z status site' new,
      on mid (addRepositoryMethods project s.package s.name entity)
        = (.ok [⟨path, .patched⟩, ⟨path, .patched⟩, ⟨path, status⟩], site') ∧
      fileText? site'.tree path = .ok (some (some z)) ∧
      pieces '\n' z = s.lines (new ++ s.modelImport :: above) (members ++ lookupLines entity)
        ++ [""] ∧
      (new = [] ∨ new = [optionalImport]) ∧
      (∀ line ∈ [findLine entity, existsLine], (pieces '\n' z).count line = 1) ∧
      (pieces '\n' z).count optionalImport
        = (new ++ s.modelImport :: above).count optionalImport ∧
      ((pieces '\n' z).count optionalImport = 1 ↔ s.ImportsApart) := by
  intro path
  obtain ⟨hfind, hexists, -, -⟩ := methods_patched hentity hx
  obtain ⟨new, hz, hnew⟩ := lookups_lines htexts hentity hx
  obtain ⟨site', hrun, htext⟩ := on_addRepositoryMethods hread entity
  rw [hfind, hexists] at hrun
  have hone : new = [] ∨ new = [optionalImport] := by
    rw [hnew]
    split
    · exact .inl rfl
    · exact .inr rfl
  have hclosed : ∀ line ∈ s.lines (new ++ s.modelImport :: above) (members ++ lookupLines entity),
      '\n' ∉ line.toList := by
    intro line hline
    rw [mem_lines, List.mem_append] at hline
    have hold := hx.closed line
    rw [← List.append_nil members, mem_lines] at hold
    rcases hline with (h | h) | h | h
    · rcases hone with rfl | rfl
      · cases h
      · rw [List.mem_singleton.1 h]
        decide
    · exact hold (.inl h)
    · exact hold (.inr (.inl h))
    · simp only [lookupLines, List.mem_cons, List.not_mem_nil, or_false] at h
      rcases h with rfl | rfl | rfl | rfl
      · decide
      · decide
      · simp [findLine, hentity.line.no_end]
      · decide
  have hlines := pieces_linesText hz hclosed
  refine ⟨_, _, site', new, hrun, htext, hlines, hone, ?_⟩
  rw [hlines]
  exact ⟨fun line hline => count_lookup hline hx hone, count_optionalImport htexts hentity hx hnew⟩

/-- A repository that was just generated takes both look-ups, each in a line of its own, in front of
the closing brace and after everything else. At most an import comes in besides, above the
declaration. The import of optional values is there once exactly if the import of the model is not
mistaken for it. -/
theorem repository_takes_lookups (project : Project) (b : Blueprint) (s : RepositorySheet)
    (entity : String) (site mid : Site) (hsheet : Sheet.ofBlueprint b = .ok (.repository s))
    (hname : s.name = entity ++ "Repository") (htexts : ∀ t ∈ s.texts, Unobtrusive t)
    (hcreated : on site (artifact .bundled project b)
      = (.ok [⟨project.sourcePath s.package s.name, .created⟩], mid)) :
    let path := project.sourcePath s.package s.name
    ∃ x above members, fileText? mid.tree path = .ok (some (some x)) ∧
      pieces '\n' x = s.lines (s.modelImport :: above) members ++ [""] ∧
      ∃ z status site' new,
        on mid (addRepositoryMethods project s.package s.name entity)
          = (.ok [⟨path, .patched⟩, ⟨path, .patched⟩, ⟨path, status⟩], site') ∧
        fileText? site'.tree path = .ok (some (some z)) ∧
        pieces '\n' z = s.lines (new ++ s.modelImport :: above) (members ++ lookupLines entity)
          ++ [""] ∧
        (new = [] ∨ new = [optionalImport]) ∧
        (∀ line ∈ [findLine entity, existsLine], (pieces '\n' z).count line = 1) ∧
        (pieces '\n' z).count optionalImport
          = (new ++ s.modelImport :: above).count optionalImport ∧
        ((pieces '\n' z).count optionalImport = 1 ↔ s.ImportsApart) := by
  intro path
  have hentity : Unobtrusive entity := by
    have hwhole := htexts s.name (.tail _ List.mem_cons_self)
    rw [hname] at hwhole
    exact hwhole.left
  obtain ⟨x, above, members, hread, hx⟩ := prints_of_created hsheet htexts hcreated
  exact ⟨x, above, members, hread, pieces_linesText hx.text hx.closed,
    takes_lookups htexts hentity hread hx⟩

/-- A repository of a class of the library. -/
def utilityRepository (entity : String) : Blueprint where
  kind := .repository
  name := entity ++ "Repository"
  package := "com.shop"
  options := [("model_package", .text "java.util")]

def utilitySheet (entity : String) : RepositorySheet where
  name := entity ++ "Repository"
  package := "com.shop"
  model := entity
  modelPackage := .text "java.util"
  kind := .jpa
  idType := .text "Long"
  customQueries := true
  pagination := true

theorem utility_sheet {entity : String} (h : entity ∈ ["Scanner", "Optional"]) :
    Sheet.ofBlueprint (utilityRepository entity) = .ok (.repository (utilitySheet entity)) ∧
    ∀ t ∈ (utilitySheet entity).texts, Unobtrusive t := by
  constructor
  · simp only [List.mem_cons, List.not_mem_nil, or_false] at h
    rcases h with rfl | rfl <;> rfl
  · revert entity
    decide

def utilityPath (entity : String) : Path :=
  Project.sourcePath ⟨.here, {}⟩ "com.shop" (entity ++ "Repository")

theorem utility_created {entity : String} (h : entity ∈ ["Scanner", "Optional"]) :
    ∃ mid, on ⟨.empty, []⟩ (artifact .bundled ⟨.here, {}⟩ (utilityRepository entity))
      = (.ok [⟨utilityPath entity, .created⟩], mid) := by
  have hall : ∀ entity ∈ ["Scanner", "Optional"],
      (on ⟨.empty, []⟩ (artifact .bundled ⟨.here, {}⟩ (utilityRepository entity))).1.toOption
        = some [⟨utilityPath entity, .created⟩] := by
    decide +kernel
  have hresult := hall entity h
  rcases hrun : on ⟨.empty, []⟩ (artifact .bundled ⟨.here, {}⟩ (utilityRepository entity))
    with ⟨f | ws, mid⟩
  · rw [hrun] at hresult
    cases hresult
  · rw [hrun] at hresult
    obtain rfl := Option.some.inj hresult
    exact ⟨mid, rfl⟩

theorem scanner_repository_takes_lookups :
    let s := utilitySheet "Scanner"
    let path := Project.sourcePath ⟨.here, {}⟩ s.package s.name
    s.ImportsApart ∧ ∃ mid,
      on ⟨.empty, []⟩ (artifact .bundled ⟨.here, {}⟩ (utilityRepository "Scanner"))
        = (.ok [⟨path, .created⟩], mid) ∧
      ∃ x above members, fileText? mid.tree path = .ok (some (some x)) ∧
        pieces '\n' x = s.lines (s.modelImport :: above) members ++ [""] ∧
        ∃ z status site' new,
          on mid (addRepositoryMethods ⟨.here, {}⟩ s.package s.name "Scanner")
            = (.ok [⟨path, .patched⟩, ⟨path, .patched⟩, ⟨path, status⟩], site') ∧
          fileText? site'.tree path = .ok (some (some z)) ∧
          pieces '\n' z = s.lines (new ++ s.modelImport :: above)
            (members ++ lookupLines "Scanner") ++ [""] ∧
          (new = [] ∨ new = [optionalImport]) ∧
          (∀ line ∈ [findLine "Scanner", existsLine], (pieces '\n' z).count line = 1) ∧
          (pieces '\n' z).count optionalImport
            = (new ++ s.modelImport :: above).count optionalImport ∧
          ((pieces '\n' z).count optionalImport = 1 ↔ s.ImportsApart) := by
  intro s path
  have hmem : "Scanner" ∈ ["Scanner", "Optional"] := List.mem_cons_self
  obtain ⟨hsheet, htexts⟩ := utility_sheet hmem
  obtain ⟨mid, hcreated⟩ := utility_created hmem
  have hapart : s.ImportsApart := show s.modelImport ≠ optionalImport by decide
  exact ⟨hapart, mid, hcreated, repository_takes_lookups _ _ _ _ _ _ hsheet rfl htexts hcreated⟩

/-- A repository of the library's own optional values takes its look-ups, and has the import
twice: one of its own, and the import of its model besides. -/
theorem optional_repository_imports_twice :
    let path := utilityPath "Optional"
    ∃ mid z status site',
      on ⟨.empty, []⟩ (artifact .bundled ⟨.here, {}⟩ (utilityRepository "Optional"))
        = (.ok [⟨path, .created⟩], mid) ∧
      on mid (addRepositoryMethods ⟨.here, {}⟩ "com.shop" "OptionalRepository" "Optional")
        = (.ok [⟨path, .patched⟩, ⟨path, .patched⟩, ⟨path, status⟩], site') ∧
      fileText? site'.tree path = .ok (some (some z)) ∧
      (pieces '\n' z).count optionalImport ≠ 1 := by
  intro path
  have hmem : "Optional" ∈ ["Scanner", "Optional"] := .tail _ List.mem_cons_self
  obtain ⟨hsheet, htexts⟩ := utility_sheet hmem
  obtain ⟨mid, hcreated⟩ := utility_created hmem
  obtain ⟨x, above, members, hread, hx⟩ := prints_of_created hsheet htexts hcreated
  have hentity : Unobtrusive "Optional" := htexts _ (by decide)
  obtain ⟨z, status, site', new, hrun, htext, -, -, -, -, hone⟩ :=
    takes_lookups htexts hentity hread hx
  refine ⟨mid, z, status, site', hcreated, hrun, htext, fun h => ?_⟩
  have hmistaken : (utilitySheet "Optional").modelImport = optionalImport := by decide
  have happart : (utilitySheet "Optional").modelImport ≠ optionalImport := hone.1 h
  exact happart hmistaken

end Generate

end Groundwork
