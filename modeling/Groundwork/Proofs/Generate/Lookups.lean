import Groundwork.Proofs.Generate.Patches
import Groundwork.Proofs.Template.Imports

/-!
# What the look-ups leave of a repository

An interface that names its package, imports something, and closes with a brace on a line of its own
keeps this form under every patch of the user repository. The patches bring whole lines, and the
only one of them that imports something is the import for optional values.
-/

namespace Groundwork

namespace Template

namespace Bundled

/-- A template without the text that it ends with. -/
def unclosed : Template → Template
  | done => done
  | text _ done => done
  | text s next => text s (unclosed next)
  | value e next => value e (unclosed next)
  | branch test yes no next => branch test yes no (unclosed next)
  | loop name source body otherwise next => loop name source body otherwise (unclosed next)

/-- The repository begins with its package and an import, and closes with a brace in a line of its
own. -/
theorem repository_parts : ∃ front rest,
    repository = front.followedBy (.text "\x7d\n" .done) ∧
    front = .text "package " (.put "package_name" <| .text ";\n" <| .text "\n" <|
      .text "import " rest) ∧
    Importing [] [] front [[⟨"model_package", .named "model_name"⟩]] :=
  ⟨unclosed repository, _, rfl, rfl, by repeat' constructor, by decide +kernel, by decide +kernel⟩

end Bundled

end Template

namespace Generate

open Text Template

variable {package entity z : String} {insertion : List Char} {p : Patch}

/-- The text of an interface: the package, the imports after it, and a last brace in a line of its
own. -/
structure Interface (package z : String) : Prop where
  no_return : '\r' ∉ z.toList
  opens : (packageLines package).toList ++ "import ".toList <+: z.toList
  closes : ∃ front rest, z.toList = front ++ '}' :: rest ∧ Whole front ∧ '}' ∉ rest ∧
    (packageLines package).toList ++ "import ".toList <+: front

/-- The repository of the library is such an interface. -/
theorem interface_of_repository {b : Bindings} {inks : List Ink} (hb : Fits [] [] b)
    (hprint : Bundled.repository.print b = .ok inks) :
    Interface (b.written "package_name") (Ink.text inks) := by
  obtain ⟨front, rest, hrepository, hfront, himporting⟩ := Bundled.repository_parts
  rw [hrepository] at hprint
  obtain ⟨before, back, hbefore, hback, rfl⟩ := print_followedBy hprint
  obtain ⟨nothing, hdone, rfl⟩ := print_text_ok hback
  cases hdone
  have hown := himporting.ownEnds hb hbefore
  have hwhole : Whole (before.map Ink.char) := by
    obtain ⟨sp, -, hdrafts⟩ := himporting
    obtain ⟨drafts, hscan, hall⟩ := (Option.any_eq_true _ _).1 hdrafts
    have hended : ∀ d ∈ drafts, d.last = .blank := by
      intro d hd
      have hd' := List.all_eq_true.1 hall d hd
      rw [Bool.and_eq_true, decide_eq_true_eq] at hd'
      exact hd'.1
    obtain ⟨d, -, -, hlast, -⟩ := scan_lines (by decide) hscan hended hbefore
    exact whole_of_last hlast
  have hopens : (packageLines (b.written "package_name")).toList ++ "import ".toList
      <+: before.map Ink.char := by
    rw [hfront] at hbefore
    obtain ⟨afterWord, hput, rfl⟩ := print_text_ok hbefore
    obtain ⟨afterName, hend, rfl⟩ := print_put_ok hput
    obtain ⟨afterLine, hempty, rfl⟩ := print_text_ok hend
    obtain ⟨afterEmpty, himport, rfl⟩ := print_text_ok hempty
    obtain ⟨later, -, rfl⟩ := print_text_ok himport
    have hchars (own : Bool) (s : String) : (Ink.ofText own s).map Ink.char = s.toList := by
      simp [Ink.ofText, Ink.ofChars, Function.comp_def]
    have hends : ";\n\n" = ";\n" ++ "\n" := rfl
    refine ⟨later.map Ink.char, ?_⟩
    rw [packageLines, hends]
    simp only [List.map_append, hchars, String.toList_append, List.append_assoc]
  have hclose : "\x7d\n".toList = ['}', '\n'] := by decide
  have htext : (Ink.text (before ++ (Ink.ofText true "\x7d\n" ++ []))).toList
      = before.map Ink.char ++ '}' :: ['\n'] := by
    rw [List.append_nil, Ink.text_append, Ink.text_ofText, String.toList_append, hclose, Ink.text,
      String.toList_ofList]
  refine ⟨?_, ?_, before.map Ink.char, ['\n'], htext, hwhole, by decide, hopens⟩
  · rw [htext, List.mem_append, not_or]
    have hbefore' := hown.no_return
    rw [Ink.text, String.toList_ofList] at hbefore'
    exact ⟨hbefore', by decide⟩
  · rw [htext]
    exact hopens.trans (List.prefix_append _ _)

/-- The text after whole lines were put into it brings their imports and no others. -/
def Extends (more : List (List Char)) (z y : String) : Prop :=
  ∀ line ∈ importLines y.toList, line ∈ importLines z.toList ∨ line ∈ more

theorem Extends.refl (more : List (List Char)) (z : String) : Extends more z z :=
  fun _ h => .inl h

theorem Extends.trans {more : List (List Char)} {x y : String} (h : Extends more x y)
    (h' : Extends more y z) : Extends more x z := by
  intro line hline
  rcases h' line hline with hy | hmore
  · exact h line hy
  · exact .inr hmore

theorem Extends.mono {more others : List (List Char)} {y : String} (h : Extends more z y)
    (hsub : more ⊆ others) : Extends others z y :=
  fun line hline => (h line hline).imp_right fun hmore => hsub hmore

theorem extends_insert {y : String} {l r : List Char} (hz : z.toList = l ++ r)
    (hy : y.toList = l ++ insertion ++ r) (hl : Whole l) (hm : Whole insertion) :
    Extends (importLines insertion) z y := by
  intro line hline
  rw [hy, List.append_assoc, importLines_append hl, importLines_append hm] at hline
  rw [hz, importLines_append hl]
  simp only [List.mem_append] at hline ⊢
  rcases hline with h | h | h
  · exact .inl (.inl h)
  · exact .inr h
  · exact .inl (.inr h)

/-- A look-up goes in front of the last brace. -/
theorem Interface.method {method ins : String} (h : Interface package z) (hins : Whole ins.toList)
    (hreturn : '\r' ∉ ins.toList) :
    Interface package ((methodPatch method ins).after z) ∧
      Extends (importLines ins.toList) z ((methodPatch method ins).after z) := by
  by_cases hpresent : (methodPatch method ins).isPresent z
  · rw [Patch.Done.after_eq (.inl hpresent)]
    exact ⟨h, .refl _ z⟩
  · obtain ⟨front, rest, hz, hfront, hrest, hopens⟩ := h.closes
    have hno : '\r' ∉ front ++ ins.toList ++ '}' :: rest := by
      have hold := h.no_return
      rw [hz] at hold
      simp only [List.mem_append, not_or] at hold ⊢
      exact ⟨⟨hold.1, hreturn⟩, hold.2⟩
    rw [Patch.after_of_applyTo? hpresent (methodPatch_applyTo? hz hrest method ins)
      (by rwa [String.toList_ofList])]
    have hnew : (String.ofList (front ++ ins.toList ++ '}' :: rest)).toList
        = front ++ ins.toList ++ '}' :: rest := String.toList_ofList
    have hwider := hopens.trans (List.prefix_append front ins.toList)
    refine ⟨⟨?_, ?_, front ++ ins.toList, rest, hnew, hfront.append hins, hrest, hwider⟩, ?_⟩
    · rwa [hnew]
    · rw [hnew]
      exact hwider.trans (List.prefix_append _ _)
    · exact extends_insert hz hnew hfront hins

/-- The first import is where the lines with the package end. -/
theorem cut_import (hpackage : ¬ "import ".toList <:+: package.toList) (later : List Char) :
    cutFirst? "import ".toList ((packageLines package).toList ++ ("import ".toList ++ later))
      = some ((packageLines package).toList, "import ".toList ++ later) := by
  have hsplit : (packageLines package).toList
      = "package ".toList ++ (package.toList ++ ";\n\n".toList) := by
    rw [packageLines, String.append_assoc, String.toList_append, String.toList_append]
  have hblunt : Blunt "import ".toList "package ".toList := by decide
  have hclear : Clear "import ".toList ";\n\n".toList := by decide
  refine cutFirst?_append (by decide) ?_ ?_
  · rw [hsplit, infix_append_iff (hblunt.uncut _),
      infix_append_iff (hclear.uncut List.prefix_rfl _)]
    have hfront : ¬ "import ".toList <:+: "package ".toList := by
      rw [String.toList_ofList, String.toList_ofList]
      decide
    have hback : ¬ "import ".toList <:+: ";\n\n".toList := by
      rw [String.toList_ofList, String.toList_ofList]
      decide
    rintro (h | h | h)
    · exact hfront h
    · exact hpackage h
    · exact hback h
  · have hend : '\n' ∉ "import ".toList := by decide
    rw [packageLines_toList]
    exact uncut_of_not_mem hend _ _

/-- The import for optional values goes in front of the first one. -/
theorem Interface.imports (h : Interface package z)
    (hpackage : ¬ "import ".toList <:+: package.toList) :
    Interface package (afterImports z) ∧ Extends [optionalImport.toList] z (afterImports z) := by
  obtain ⟨later, hlater⟩ := h.opens
  have hz : z.toList = (packageLines package).toList ++ ("import ".toList ++ later) := by
    rw [← hlater, List.append_assoc]
  have hcut : Patch.cut? importPatch.occurrence importPatch.anchor.toList z.toList
      = some ((packageLines package).toList, "import ".toList ++ later) := by
    rw [hz]
    exact cut_import hpackage later
  have happly : importPatch.applyTo? z = some (.ofList ((packageLines package).toList
      ++ (optionalImport ++ "\n").toList ++ ("import ".toList ++ later))) :=
    Patch.applyTo?_of_cut rfl hcut
  rw [afterImports_eq happly]
  by_cases hpresent : importPatch.isPresent z
  · rw [Patch.Done.after_eq (.inl hpresent)]
    exact ⟨h, .refl _ z⟩
  · have hline : (optionalImport ++ "\n").toList = optionalImport.toList ++ ['\n'] :=
      String.toList_append
    have hopens : optionalImport.toList = "import ".toList ++ "java.util.Optional;".toList := by
      decide
    have hnew : (String.ofList ((packageLines package).toList ++ (optionalImport ++ "\n").toList
        ++ ("import ".toList ++ later))).toList
        = (packageLines package).toList ++ (optionalImport ++ "\n").toList
          ++ ("import ".toList ++ later) := String.toList_ofList
    have hins : Whole (optionalImport ++ "\n").toList := .inr ⟨_, hline⟩
    have hreturn : '\r' ∉ (packageLines package).toList ++ (optionalImport ++ "\n").toList
        ++ ("import ".toList ++ later) := by
      have hold := h.no_return
      have hopt : '\r' ∉ (optionalImport ++ "\n").toList := by decide
      rw [hz] at hold
      rw [List.mem_append, not_or] at hold
      rw [List.mem_append, List.mem_append, not_or, not_or]
      exact ⟨⟨hold.1, hopt⟩, hold.2⟩
    have hprefix : (packageLines package).toList ++ "import ".toList
        <+: (packageLines package).toList ++ (optionalImport ++ "\n").toList := by
      rw [hline, hopens]
      exact ⟨"java.util.Optional;".toList ++ ['\n'], by simp⟩
    rw [Patch.after_of_applyTo? hpresent happly (by rwa [String.toList_ofList])]
    obtain ⟨front, rest, hparts, hfront, hrest, more, hmore⟩ := h.closes
    -- what follows the package is the same text on both sides
    have hlater : later = more ++ '}' :: rest := by
      have hboth := hz.symm.trans hparts
      rw [← hmore, List.append_assoc, List.append_assoc] at hboth
      exact List.append_cancel_left (List.append_cancel_left hboth)
    have hwhole : Whole ("import ".toList ++ more) := by
      rw [← hmore, List.append_assoc] at hfront
      exact hfront.right
    refine ⟨⟨?_, ?_, (packageLines package).toList ++ (optionalImport ++ "\n").toList
      ++ ("import ".toList ++ more), rest, ?_, ?_, hrest, ?_⟩, ?_⟩
    · rwa [hnew]
    · rw [hnew]
      exact hprefix.trans (List.prefix_append _ _)
    · rw [hnew, hlater]
      simp only [List.append_assoc]
    · exact ((whole_packageLines package).append hins).append hwhole
    · exact hprefix.trans (List.prefix_append _ _)
    · have hone : importLines (optionalImport ++ "\n").toList = [optionalImport.toList] := by
        rw [hline, optionalImport, String.toList_ofList]
        decide
      rw [← hone]
      exact extends_insert hz hnew (whole_packageLines package) hins

/-- The first look-up comes as two lines, after an empty one. -/
theorem find_lines (hentity : OneLine entity) :
    let ins := (findPatch entity).insertion.toList
    Whole ins ∧ '\r' ∉ ins ∧ importLines ins = [] := by
  intro ins
  let comment := "\n    // JWT authentication lookups\n"
  let line := "    Optional<" ++ entity ++ "> findByUsername(String username);"
  have hins : ins = comment.toList ++ (line.toList ++ ['\n']) := by
    have hend : "> findByUsername(String username);\n"
        = "> findByUsername(String username);" ++ "\n" := by decide
    have hstart : ins = (comment ++ "    Optional<" ++ entity
        ++ "> findByUsername(String username);\n").toList := rfl
    have hline : "\n".toList = ['\n'] := rfl
    rw [hstart, hend, ← hline, ← String.toList_append, ← String.toList_append]
    simp only [line, String.append_assoc]
  have hcomment : Whole comment.toList ∧ importLines comment.toList = [] ∧ '\r' ∉ comment.toList := by
    have hlines : comment.toList = "\n    // JWT authentication lookups".toList ++ ['\n'] := by
      decide
    refine ⟨.inr ⟨_, hlines⟩, ?_, ?_⟩
    · rw [String.toList_ofList]
      decide
    · rw [String.toList_ofList]
      decide
  have hno : '\n' ∉ line.toList ∧ '\r' ∉ line.toList := by
    simp only [line, String.toList_append, List.mem_append, not_or]
    have hleft : '\n' ∉ "    Optional<".toList ∧ '\r' ∉ "    Optional<".toList := by decide
    have hright : '\n' ∉ "> findByUsername(String username);".toList ∧
        '\r' ∉ "> findByUsername(String username);".toList := by decide
    exact ⟨⟨⟨hleft.1, hentity.no_end⟩, hright.1⟩, ⟨hleft.2, hentity.no_return⟩, hright.2⟩
  have hword : "import ".toList.isPrefixOf line.toList = false := by
    have himport : "import ".toList = 'i' :: "mport ".toList := rfl
    have hspace : "    Optional<".toList = ' ' :: "   Optional<".toList := rfl
    simp only [line, String.toList_append]
    rw [himport, hspace, List.cons_append, List.cons_append, List.isPrefixOf]
    rfl
  rw [hins]
  refine ⟨hcomment.1.append (.inr ⟨_, rfl⟩), ?_, ?_⟩
  · simp [hcomment.2.2, hno.2]
  · rw [importLines_append hcomment.1, hcomment.2.1, importLines_line hno.1, hword]
    rfl

/-- The user repository after all its patches: it keeps its form, and the import for optional values
is the only one that comes in. -/
theorem Interface.lookups (h : Interface package z)
    (hpackage : ¬ "import ".toList <:+: package.toList) (hentity : OneLine entity) :
    Interface package (afterImports (existsPatch.after ((findPatch entity).after z))) ∧
      Extends [optionalImport.toList] z
        (afterImports (existsPatch.after ((findPatch entity).after z))) := by
  obtain ⟨hwhole, hreturn, hlines⟩ := find_lines hentity
  have hfind : Interface package ((findPatch entity).after z) ∧
      Extends (importLines (findPatch entity).insertion.toList) z ((findPatch entity).after z) :=
    h.method hwhole hreturn
  have hexists : Interface package (existsPatch.after ((findPatch entity).after z)) ∧
      Extends (importLines existsPatch.insertion.toList) ((findPatch entity).after z)
        (existsPatch.after ((findPatch entity).after z)) := by
    refine hfind.1.method (.inr ⟨"    Boolean existsByUsername(String username);".toList, ?_⟩) ?_
    · decide
    · decide
  have hnone : importLines existsPatch.insertion.toList = [] := by
    show importLines "    Boolean existsByUsername(String username);\n".toList = []
    rw [String.toList_ofList]
    decide
  have himports := hexists.1.imports hpackage
  rw [hlines] at hfind
  rw [hnone] at hexists
  exact ⟨himports.1, ((hfind.2.trans hexists.2).mono (List.nil_subset _)).trans himports.2⟩

end Generate

end Groundwork
