import Groundwork.Proofs.Generate.Amending

/-!
# Where the import of optional values comes in

The import goes to where the word that begins imports first occurs, or behind the line in which the
word that begins packages does. Both words may occur anywhere, also in the middle of a line or in
front of the package. So the import is a line of its own behind the package exactly if the line that
decides begins with its word, and comes behind the package if it is an import.
-/

namespace Groundwork

namespace Generate

open Run Text

variable {x y z : String} {l r u first : List Char} {before rest : List (List Char)}

/-- The import is a new line behind the package, perhaps with an empty one in front of it. All other
lines are as before, and the new one is ended. -/
def Lands (y z : String) : Prop :=
  ∃ front back blank, pieces '\n' y = front ++ back ∧
    (∃ line ∈ front, "package ".toList <+: line.toList) ∧ (blank = [] ∨ blank = [""]) ∧
    pieces '\n' z = front ++ blank ++ optionalImport :: (if back = [] then [""] else back)

/-- The first line that mentions an import begins with it, and comes behind the package. -/
def ImportBehindPackage (y : String) : Prop :=
  ∃ front line, FirstWith "import " y front line ∧ "import ".toList <+: line.toList ∧
    ∃ l ∈ front, "package ".toList <+: l.toList

/-- No line mentions an import, and the first one that mentions a package begins with it. -/
def OnlyPackage (y : String) : Prop :=
  ¬ occursIn "import " y ∧
    ∃ front line, FirstWith "package " y front line ∧ "package ".toList <+: line.toList

/-- If one line has the import and the text had it nowhere, then that line is the import where it
landed. -/
theorem Lands.at {head tail : List String} {line : String} (h : Lands y z)
    (hnew : ¬ occursIn optionalImport y) (hz : pieces '\n' z = head ++ line :: tail)
    (hline : occursIn optionalImport line) :
    line = optionalImport ∧ ∃ l ∈ head, "package ".toList <+: l.toList := by
  obtain ⟨front, back, blank, hy, ⟨p, hp, hpackage⟩, hblank, hz'⟩ := h
  have hold : line ∉ pieces '\n' y := fun hmem => hnew (occursIn_of_mem_pieces hmem hline)
  rw [hy, List.mem_append, not_or] at hold
  have hempty : line ≠ "" := by
    rintro rfl
    exact absurd hline (by decide)
  have hfront : line ∉ front ++ blank := by
    rcases hblank with rfl | rfl
    · simp [hold.1]
    · simp [hold.1, hempty]
  have hback : line ∉ (if back = [] then [""] else back) := by
    split
    · simp [hempty]
    · exact hold.2
  rw [hz', List.append_cons_inj_of_notMem hfront hback] at hz
  obtain ⟨rfl, rfl, -⟩ := hz
  exact ⟨rfl, p, List.mem_append_left blank hp, hpackage⟩

/-- The import takes the beginning of the line with the first import, and is a line of its own if
there is nothing else before that. -/
theorem lands_iff_of_import (hcut : CutLine "import ".toList l r before u first rest)
    (hy : y.toList = l ++ r) (hz : z.toList = l ++ importPatch.insertion.toList ++ r)
    (hnew : ¬ occursIn optionalImport y) : Lands y z ↔ ImportBehindPackage y := by
  have hinsertion : importPatch.insertion.toList = optionalImport.toList ++ ['\n'] := by
    decide
  have hwithin : '\n' ∉ u ++ optionalImport.toList := by
    rw [List.mem_append, not_or]
    exact ⟨hcut.within, by decide⟩
  have hlines : pieces '\n' z = before.map .ofList ++
      .ofList (u ++ optionalImport.toList) :: .ofList first :: rest.map .ofList := by
    rw [pieces, hz, hinsertion, hcut.left]
    simp only [List.append_assoc]
    rw [pieceChars_unlines_append hcut.ended, ← List.append_assoc u, List.singleton_append,
      pieceChars_append_sep hwithin, hcut.right, List.map_append, List.map_cons, List.map_cons]
  have hfirst := hcut.firstWith hy
  constructor
  · intro h
    have hin : occursIn optionalImport (.ofList (u ++ optionalImport.toList)) := by
      rw [occursIn_iff, String.toList_ofList]
      exact (List.suffix_append u _).isInfix
    obtain ⟨hline, hpackage⟩ := h.at hnew hlines hin
    have hu : u = [] := by
      rw [← String.toList_inj, String.toList_ofList] at hline
      exact List.append_left_eq_self.1 hline
    exact ⟨_, _, hfirst, hcut.prefix_iff.2 hu, hpackage⟩
  · rintro ⟨front, line, hwith, hbegins, hpackage⟩
    obtain ⟨rfl, rfl⟩ := hfirst.unique hwith
    have hu : u = [] := hcut.prefix_iff.1 hbegins
    refine ⟨before.map .ofList, .ofList first :: rest.map .ofList, [], ?_, hpackage, .inl rfl, ?_⟩
    · rw [hcut.pieces_eq hy, hu, List.nil_append]
    · rw [hlines, hu, List.nil_append, List.append_nil, String.ofList_toList,
        if_neg (List.cons_ne_nil _ _)]

/-- The lines of a text with an insertion after its first line. -/
theorem pieceChars_insertAfterLine (insertion : List Char)
    (hr : pieceChars '\n' r = first :: rest) :
    pieceChars '\n' (Patch.insertAfterLine (insertion ++ ['\n']) r) =
      first :: (pieceChars '\n' insertion ++ if rest = [] then [[]] else rest) := by
  induction r generalizing first rest with
  | nil =>
    cases hr
    rw [Patch.insertAfterLine, ← List.nil_append ('\n' :: _), pieceChars_append_cons,
      pieceChars_append_cons]
    rfl
  | cons c r ih =>
    obtain ⟨head, more, hcut⟩ := List.exists_cons_of_ne_nil (pieceChars_ne_nil '\n' r)
    by_cases hc : c = '\n'
    · subst hc
      rw [← List.nil_append ('\n' :: r), pieceChars_append_sep List.not_mem_nil] at hr
      obtain ⟨rfl, rfl⟩ := List.cons_eq_cons.1 hr
      have hstart : Patch.insertAfterLine (insertion ++ ['\n']) ('\n' :: r) =
          [] ++ '\n' :: (insertion ++ '\n' :: r) := by
        simp [Patch.insertAfterLine]
      rw [hstart, pieceChars_append_sep List.not_mem_nil, pieceChars_append_cons,
        if_neg (pieceChars_ne_nil '\n' r)]
    · have hsingle : '\n' ∉ [c] := by
        simpa using Ne.symm hc
      have hin := pieceChars_append_left hsingle (ih hcut)
      have hwhole := pieceChars_append_left hsingle hcut
      rw [List.singleton_append, hr] at hwhole
      obtain ⟨rfl, rfl⟩ := List.cons_eq_cons.1 hwhole
      rw [Patch.insertAfterLine, if_neg hc]
      exact hin

/-- Without an import the new one comes behind the line that mentions a package, and so behind the
package if this line is the one. -/
theorem lands_iff_of_package (hcut : CutLine "package ".toList l r before u first rest)
    (hy : y.toList = l ++ r)
    (hz : z.toList = l ++ Patch.insertAfterLine firstImportPatch.insertion.toList r)
    (hnew : ¬ occursIn optionalImport y) :
    Lands y z ↔
      ∃ front line, FirstWith "package " y front line ∧ "package ".toList <+: line.toList := by
  have hinsertion : firstImportPatch.insertion.toList
      = '\n' :: optionalImport.toList ++ ['\n'] := by
    decide
  have hpieces : pieceChars '\n' ('\n' :: optionalImport.toList) = [[], optionalImport.toList] := by
    decide
  have hlines : pieces '\n' z = (before.map .ofList ++ [.ofList (u ++ first), ""]) ++
      optionalImport :: (if rest.map String.ofList = [] then [""] else rest.map .ofList) := by
    have hafter := pieceChars_insertAfterLine ('\n' :: optionalImport.toList) hcut.right
    rw [pieces, hz, hinsertion, hcut.left, List.append_assoc,
      pieceChars_unlines_append hcut.ended, pieceChars_append_left hcut.within hafter, hpieces]
    cases rest <;> simp
  have hfirst := hcut.firstWith hy
  constructor
  · intro h
    obtain ⟨-, p, hp, hpackage⟩ := h.at hnew hlines (occursIn_iff.2 (List.infix_refl _))
    refine ⟨_, _, hfirst, ?_⟩
    -- the package is not before this line, and not on the empty one
    simp only [List.mem_append, List.mem_cons, List.not_mem_nil, or_false] at hp
    rcases hp with hp | rfl | rfl
    · exact absurd (occursIn_iff.2 hpackage.isInfix) (hfirst.none_before p hp)
    · exact hpackage
    · exact absurd hpackage (by decide)
  · rintro ⟨front, line, hwith, hbegins⟩
    obtain ⟨rfl, rfl⟩ := hfirst.unique hwith
    have hmem : String.ofList (u ++ first) ∈ before.map String.ofList ++ [.ofList (u ++ first)] :=
      List.mem_append_right _ List.mem_cons_self
    refine ⟨before.map .ofList ++ [.ofList (u ++ first)], rest.map .ofList, [""], ?_,
      ⟨.ofList (u ++ first), hmem, hbegins⟩, .inr rfl, ?_⟩
    · rw [hcut.pieces_eq hy, List.append_assoc]
      rfl
    · rw [hlines, List.append_assoc, List.append_assoc, List.append_assoc]
      rfl

/-- A text that needs the import does not have it. -/
theorem not_occursIn_of_lacks (h : ¬ hasOptionalImport y) : ¬ occursIn optionalImport y := by
  intro hin
  rw [hasOptionalImport, hin] at h
  exact h rfl

/-- Without a place for the first patch it is the second one that counts. -/
theorem importStatus_of_none (h : importPatch.applyTo? y = none) :
    importStatus y = firstImportPatch.statusOn (some (some y)) ∧
      afterImports y = firstImportPatch.after y := by
  have hsame : importPatch.after y = y := Patch.Done.after_eq (.inr h)
  by_cases hpresent : importPatch.isPresent y
  · have hstatus : importPatch.statusOn (some (some y)) = .alreadyPresent := by
      rw [Patch.statusOn, if_pos hpresent]
    have hfirst : firstImportPatch.isPresent y := hpresent
    rw [importStatus, afterImports, hstatus, hsame, Patch.statusOn, if_pos hfirst,
      Patch.Done.after_eq (.inl hfirst)]
    exact ⟨rfl, rfl⟩
  · have hstatus : importPatch.statusOn (some (some y)) = .missingAnchor := by
      rw [Patch.statusOn, if_neg hpresent, h]
      rfl
    rw [importStatus, afterImports, hstatus, hsame]
    exact ⟨rfl, rfl⟩

theorem importStatus_of_some (h : importPatch.applyTo? y = some z) :
    importStatus y = importPatch.statusOn (some (some y)) := by
  rw [importStatus, if_neg]
  rw [Patch.statusOn, h]
  split <;> simp

/-- A text that needs the import and mentions a package gets it somewhere. -/
theorem importStatus_eq_patched (hlacks : ¬ hasOptionalImport y) (hpackage : occursIn "package " y) :
    importStatus y = .patched := by
  have hmade {p : Patch} {word : String} (hp : p.anchor = word) (hin : occursIn word y)
      (hpresent : ¬ p.isPresent y) : p.statusOn (some (some y)) = .patched := by
    have happly : p.applyTo? y ≠ none := by
      rw [ne_eq, Patch.applyTo?_eq_none, hp, not_not]
      exact occursIn_iff.1 hin
    rw [Patch.statusOn, if_neg hpresent, if_pos (Option.isSome_iff_ne_none.2 happly)]
  cases himport : importPatch.applyTo? y with
  | some z =>
    rw [importStatus_of_some himport]
    refine hmade (p := importPatch) rfl ?_ hlacks
    refine Decidable.byContradiction fun hnot => ?_
    rw [Patch.applyTo?_eq_none.2 fun h => hnot (occursIn_iff.2 h)] at himport
    cases himport
  | none =>
    rw [(importStatus_of_none himport).1]
    exact hmade (p := firstImportPatch) rfl hpackage hlacks

/-- Whether the import lands behind the package, once it is reported as put in. -/
theorem lands_iff (hreturn : '\r' ∉ y.toList) (hstatus : importStatus y = .patched) :
    Lands y (afterImports y) ↔ ImportBehindPackage y ∨ OnlyPackage y := by
  by_cases himport : occursIn "import " y
  · obtain ⟨⟨l, r⟩, hcut⟩ := Option.isSome_iff_exists.1 himport
    obtain ⟨before, u, first, rest, hline⟩ := exists_cutLine (by decide) (by decide) hcut
    have hy : y.toList = l ++ r := (append_of_cutFirst? hcut).symm
    have happly := Patch.applyTo?_of_cut (p := importPatch) rfl hcut
    obtain ⟨hlacks, hafter⟩ :=
      Patch.applyTo?_of_patched hreturn (by decide) (importStatus_of_some happly ▸ hstatus)
    have hz : (afterImports y).toList = l ++ importPatch.insertion.toList ++ r := by
      rw [afterImports_eq happly, Option.some.inj (hafter.symm.trans happly), String.toList_ofList]
    rw [lands_iff_of_import hline hy hz (not_occursIn_of_lacks hlacks)]
    exact (or_iff_left fun h => h.1 himport).symm
  · have hnone : importPatch.applyTo? y = none := by
      rwa [Patch.applyTo?_eq_none, ← occursIn_iff]
    obtain ⟨hmade, hafter⟩ := importStatus_of_none hnone
    obtain ⟨hlacks, happly⟩ :=
      Patch.applyTo?_of_patched hreturn (by decide) (hmade ▸ hstatus)
    obtain ⟨⟨l, r⟩, hcut, hz⟩ := Option.map_eq_some_iff.1 happly
    obtain ⟨before, u, first, rest, hline⟩ := exists_cutLine (by decide) (by decide) hcut
    have hy : y.toList = l ++ r := (append_of_cutFirst? hcut).symm
    have hz : (afterImports y).toList
        = l ++ Patch.insertAfterLine firstImportPatch.insertion.toList r := by
      rw [hafter, ← hz]
      exact String.toList_ofList
    rw [lands_iff_of_package hline hy hz (not_occursIn_of_lacks hlacks)]
    constructor
    · intro h
      exact .inr ⟨himport, h⟩
    · rintro (⟨front, line, hwith, -⟩ | h)
      · obtain ⟨back, hlines⟩ := hwith.stands
        exact absurd (occursIn_of_mem_pieces (by simp [hlines]) hwith.occurs) himport
      · exact h.2

/-- The import of optional values, once it is reported as put into the user repository. It is a line
of its own behind the package, and all other lines are as the look-ups left them, exactly if the
first line that mentions an import is one and comes behind the package, or if there is no mention of
an import and the first line that mentions a package is the package. -/
theorem optional_import_lands_iff (project : Project) (package repository entity : String)
    (site site' : Site) (find present optional : Patched)
    (hrun : on site (addRepositoryMethods project package repository entity)
      = (.ok [find, present, optional], site'))
    (hpatched : optional.status = .patched) :
    let path := project.sourcePath package repository
    ∃ x z, fileText? site.tree path = .ok (some (some x)) ∧
      fileText? site'.tree path = .ok (some (some z)) ∧
      let y := existsPatch.after ((findPatch entity).after x)
      (Lands y z ↔ ImportBehindPackage y ∨ OnlyPackage y) := by
  intro path
  generalize hrs : [find, present, optional] = rs at hrun
  have hwhole := hrun
  obtain ⟨first, mid, hfirst, hrest⟩ := on_bind_ok.1 hrun
  obtain ⟨found, hfound, rfl, -⟩ := patchFile_text hfirst
  rcases found with _ | _ | x
  · -- without a text the import is not tried
    cases hrest
    exact absurd (congrArg List.length hrs) (by simp)
  · cases hrest
    exact absurd (congrArg List.length hrs) (by simp)
  · obtain ⟨site'', hon, htext⟩ := on_addRepositoryMethods hfound entity
    rw [hwhole] at hon
    cases hon
    obtain ⟨-, hrs⟩ := List.cons_eq_cons.1 hrs
    obtain ⟨-, hrs⟩ := List.cons_eq_cons.1 hrs
    obtain ⟨rfl, -⟩ := List.cons_eq_cons.1 hrs
    have hreturn : '\r' ∉ (existsPatch.after ((findPatch entity).after x)).toList :=
      Patch.no_return_after _ (Patch.no_return_after _ (no_return_of_fileText? hfound))
    dsimp only at hpatched
    exact ⟨x, _, hfound, htext, lands_iff hreturn hpatched⟩

/-- A project that has nothing but a user repository with this text. -/
def usersSite (content : String) : Site :=
  (on ⟨.empty, []⟩ (writeFile usersPath content)).2

/-- A user repository of a package takes all patches if it mentions nothing of what they bring. -/
theorem users_patched {ls : List String} {site : Site}
    (hread : fileText? site.tree usersPath = .ok (some (some x)))
    (hx : x.toList = linesText (ls ++ ["\x7d"])) (hends : ∀ line ∈ ls, '\n' ∉ line.toList)
    (hsilent : ∀ w ∈ ["findByUsername", "existsByUsername", optionalImport],
      ∀ line ∈ ls, ¬ occursIn w line)
    (hpackage : ∃ line ∈ ls, occursIn "package " line) :
    let y := existsPatch.after ((findPatch "User").after x)
    ∃ site', on site (addRepositoryMethods ⟨.here, {}⟩ "com.shop" "UserRepository" "User")
        = (.ok [⟨usersPath, .patched⟩, ⟨usersPath, .patched⟩, ⟨usersPath, .patched⟩], site') ∧
      fileText? site'.tree usersPath = .ok (some (some (afterImports y))) ∧
      importStatus y = .patched ∧ pieces '\n' y = ls ++ lookupLines "User" ++ ["\x7d", ""] := by
  intro y
  have hentity : Unobtrusive "User" := by decide
  have hreturn := no_return_of_fileText? hread
  have hnone : ∀ w ∈ ["findByUsername", "existsByUsername"], ¬ occursIn w x := by
    intro w hw
    have hword : w ≠ "" ∧ '\n' ∉ w.toList ∧ ¬ occursIn w "\x7d" := by
      revert w
      decide
    rw [occursIn_linesText hword.1 hword.2.1 hx]
    rintro ⟨line, hline, hin⟩
    rcases List.mem_append.1 hline with hline | hline
    · exact hsilent w (List.mem_append_left [optionalImport] hw) line hline hin
    · rw [List.mem_singleton.1 hline] at hin
      exact hword.2.2 hin
  obtain ⟨hfind, hexists, hy⟩ :=
    lookups_patched hentity hx hreturn (hnone _ (by decide)) (hnone _ (by decide))
  have hlacks : ¬ hasOptionalImport y := by
    have hoptional : occursIn "Optional<" y := by
      rw [occursIn_linesText (by decide) (by decide) hy]
      exact ⟨findLine "User", by simp [lookupLines], (findLine_mentions "User").2⟩
    have hnew : ¬ occursIn optionalImport y := by
      rw [occursIn_linesText (by decide) (by decide) hy]
      rintro ⟨line, hline, hin⟩
      simp only [List.mem_append, List.mem_singleton] at hline
      rcases hline with (hline | hline) | rfl
      · exact hsilent optionalImport (by decide) line hline hin
      · exact lookupLines_silent (hentity.words _ List.mem_cons_self) line hline hin
      · exact absurd hin (by decide)
    rw [hasOptionalImport, hoptional, Bool.not_true, Bool.or_false]
    exact hnew
  have himport : importStatus y = .patched := by
    refine importStatus_eq_patched hlacks ?_
    rw [occursIn_linesText (by decide) (by decide) hy]
    obtain ⟨line, hline, hin⟩ := hpackage
    exact ⟨line, by simp [hline], hin⟩
  obtain ⟨site', hon, htext⟩ := on_addRepositoryMethods hread "User"
  rw [hfind, hexists, himport] at hon
  refine ⟨site', hon, htext, himport, ?_⟩
  have hclosed : ∀ line ∈ ls ++ lookupLines "User" ++ ["\x7d"], '\n' ∉ line.toList := by
    have hrest : ∀ line ∈ lookupLines "User" ++ ["\x7d"], '\n' ∉ line.toList := by decide
    rw [List.append_assoc, List.forall_mem_append]
    exact ⟨hends, hrest⟩
  rw [pieces_linesText hy hclosed, List.append_assoc]
  rfl

/-- A user repository with another import behind its package. -/
def importingLines : List String :=
  ["package com.shop;", "", "import java.util.List;", "", "public interface UserRepository \x7b",
    "    List<User> findAll();"]

/-- A user repository with a comment in front of its package. -/
def commentedLines : List String :=
  ["// Users we import from elsewhere", "package com.shop;", "",
    "public interface UserRepository \x7b", "    Optional<User> findByEmail(String email);"]

/-- A user repository in lines, and a closing brace. -/
def usersText (ls : List String) : String :=
  .ofList (linesText (ls ++ ["\x7d"]))

/-- What is used of the two repositories. -/
theorem usersText_facts : ∀ ls ∈ [importingLines, commentedLines],
    (on ⟨.empty, []⟩ (writeFile usersPath (usersText ls))).1.toOption.map Written.status
        = some .created ∧
      '\r' ∉ linesText (ls ++ ["\x7d"]) ∧ (∀ line ∈ ls, '\n' ∉ line.toList) ∧
      (∀ w ∈ ["findByUsername", "existsByUsername", optionalImport],
        ∀ line ∈ ls, ¬ occursIn w line) ∧
      ∃ line ∈ ls, occursIn "package " line := by
  decide +kernel

theorem usersText_read {ls : List String} (h : ls ∈ [importingLines, commentedLines]) :
    fileText? (usersSite (usersText ls)).tree usersPath = .ok (some (some (usersText ls))) := by
  obtain ⟨hstatus, hreturn, -⟩ := usersText_facts ls h
  exact read_of_created hstatus (by rwa [usersText, String.toList_ofList])

theorem usersText_patched {ls : List String} (h : ls ∈ [importingLines, commentedLines]) :
    let y := existsPatch.after ((findPatch "User").after (usersText ls))
    ∃ site', on (usersSite (usersText ls))
        (addRepositoryMethods ⟨.here, {}⟩ "com.shop" "UserRepository" "User")
        = (.ok [⟨usersPath, .patched⟩, ⟨usersPath, .patched⟩, ⟨usersPath, .patched⟩], site') ∧
      fileText? site'.tree usersPath = .ok (some (some (afterImports y))) ∧
      importStatus y = .patched ∧ pieces '\n' y = ls ++ lookupLines "User" ++ ["\x7d", ""] := by
  obtain ⟨-, -, hends, hsilent, hpackage⟩ := usersText_facts ls h
  exact users_patched (usersText_read h) String.toList_ofList hends hsilent hpackage

/-- In front of the other import, behind the package. -/
theorem optional_import_lands_importing :
    let x := usersText importingLines
    ∃ find present optional site',
      on (usersSite x) (addRepositoryMethods ⟨.here, {}⟩ "com.shop" "UserRepository" "User")
        = (.ok [find, present, optional], site') ∧ optional.status = .patched ∧
      ∃ z, fileText? site'.tree usersPath = .ok (some (some z)) ∧
        Lands (existsPatch.after ((findPatch "User").after x)) z := by
  intro x
  have hmem : importingLines ∈ [importingLines, commentedLines] := List.mem_cons_self
  obtain ⟨site', hon, -, -, hlines⟩ := usersText_patched hmem
  refine ⟨_, _, _, site', hon, rfl, ?_⟩
  obtain ⟨x', z, hx, hz, hiff⟩ := optional_import_lands_iff _ _ _ _ _ _ _ _ _ hon rfl
  obtain rfl : x = x' := by
    have hsame := (usersText_read hmem).symm.trans hx
    exact Option.some.inj (Option.some.inj (Except.ok.inj hsame))
  refine ⟨z, hz, hiff.2 (.inl ⟨["package com.shop;", ""], "import java.util.List;", ?_, ?_, ?_⟩)⟩
  · exact ⟨⟨_, hlines⟩, by decide, by decide⟩
  · decide
  · exact ⟨"package com.shop;", List.mem_cons_self, by decide⟩

/-- The comment is taken for an import: the import goes into the middle of its line, and that is in
front of the package. -/
theorem import_splits_comment :
    let x := usersText commentedLines
    ∃ find present optional site' z,
      fileText? (usersSite x).tree usersPath = .ok (some (some x)) ∧
      (∃ line ∈ pieces '\n' x, "package ".toList <+: line.toList) ∧
      on (usersSite x) (addRepositoryMethods ⟨.here, {}⟩ "com.shop" "UserRepository" "User")
        = (.ok [find, present, optional], site') ∧ optional.status = .patched ∧
      fileText? site'.tree usersPath = .ok (some (some z)) ∧
      ¬ Lands (existsPatch.after ((findPatch "User").after x)) z := by
  intro x
  have hmem : commentedLines ∈ [importingLines, commentedLines] := by simp
  have hread := usersText_read hmem
  obtain ⟨site', hon, htext, himport, hlines⟩ := usersText_patched hmem
  have hpackage : ∃ line ∈ pieces '\n' x, "package ".toList <+: line.toList := by
    rw [pieces_linesText (x := x) String.toList_ofList (by decide)]
    exact ⟨"package com.shop;", by decide, by decide⟩
  refine ⟨_, _, _, site', _, hread, hpackage, hon, rfl, htext, ?_⟩
  have hreturn := Patch.no_return_after existsPatch
    (Patch.no_return_after (findPatch "User") (no_return_of_fileText? hread))
  rw [lands_iff hreturn himport]
  have hcomment : FirstWith "import " (existsPatch.after ((findPatch "User").after x)) []
      "// Users we import from elsewhere" :=
    ⟨⟨_, hlines⟩, by simp, by decide⟩
  rintro (⟨front, line, hwith, -, p, hp, -⟩ | ⟨hnone, -⟩)
  · -- nothing comes before the comment
    obtain ⟨rfl, -⟩ := hcomment.unique hwith
    cases hp
  · have hmem : "// Users we import from elsewhere" ∈
        pieces '\n' (existsPatch.after ((findPatch "User").after x)) := by
      rw [hlines]
      exact List.mem_cons_self
    exact hnone (occursIn_of_mem_pieces hmem hcomment.occurs)

end Generate

end Groundwork
