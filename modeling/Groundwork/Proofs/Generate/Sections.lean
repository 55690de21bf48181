import Groundwork.Generate.Security
import Groundwork.Proofs.Template.Settle
import Groundwork.Proofs.Text.OneLine

/-!
# The sections of a repository

Whatever is switched on, a repository names its package, imports its model, declares an interface
and closes it with a brace in a line of its own. What stands in between depends on the choices, but
all kinds have in common what does not stand there.
-/

namespace Groundwork

open Template Text Generate

/-- A text in one line without the words that the look-ups go by. -/
structure Text.Unobtrusive (s : String) : Prop where
  line : OneLine s
  words : ∀ w ∈ ["import ", "findByUsername", "existsByUsername"], ¬ occursIn w s

instance (s : String) : Decidable (Unobtrusive s) :=
  decidable_of_iff (OneLine s ∧ _) ⟨fun h => ⟨h.1, h.2⟩, fun h => ⟨h.line, h.words⟩⟩

theorem Text.Unobtrusive.left {s s' : String} (h : Unobtrusive (s ++ s')) : Unobtrusive s where
  line := by
    refine ⟨fun hc => h.line.no_end ?_, fun hc => h.line.no_return ?_⟩
    · rw [String.toList_append]
      exact List.mem_append_left _ hc
    · rw [String.toList_append]
      exact List.mem_append_left _ hc
  words w hw hin := by
    refine h.words w hw (occursIn_iff.2 ?_)
    rw [String.toList_append]
    exact (occursIn_iff.1 hin).trans (List.prefix_append _ _).isInfix

namespace RepositorySheet

/-- The texts that go into a repository. -/
def texts (s : RepositorySheet) : List String :=
  [s.package, s.name, s.model, s.modelPackage.written, s.idType.written]

def modelImport (s : RepositorySheet) : String :=
  "import " ++ s.modelPackage.written ++ "." ++ s.model ++ ";"

def declaration (s : RepositorySheet) : String :=
  "public interface " ++ s.name ++ " extends " ++ s.kind.baseType ++ "<" ++ s.model ++ ", "
    ++ s.idType.written ++ "> \x7b"

/-- The lines of a repository: the package, what stands above the declaration, and the members. -/
def lines (s : RepositorySheet) (above members : List String) : List String :=
  ["package " ++ s.package ++ ";", ""] ++ above ++ [s.declaration] ++ members ++ ["\x7d"]

/-- The values that the template of a repository chooses by. -/
def choices (kind : RepositoryKind) (customQueries pagination : Bool) : Bindings :=
  [("repository_type", .text kind.name),
    ("base_type", .text kind.baseType),
    ("reactive", .bool kind.isReactive),
    ("include_custom_queries", .bool customQueries),
    ("include_pagination", .bool pagination)]

theorem knows_choices (s : RepositorySheet) :
    Knows (choices s.kind s.customQueries s.pagination) s.bindings := by
  intro n v h
  have hmem := mem_of_lookup h
  simp only [choices, List.mem_cons, List.not_mem_nil, or_false, Prod.mk.injEq] at hmem
  rcases hmem with ⟨rfl, rfl⟩ | ⟨rfl, rfl⟩ | ⟨rfl, rfl⟩ | ⟨rfl, rfl⟩ | ⟨rfl, rfl⟩ <;> rfl

/-- The names of the texts that go into a repository. -/
def textNames : List String :=
  ["package_name", "repository_name", "model_name", "model_package", "id_type"]

theorem mem_texts {s : RepositorySheet} {n : String} (h : n ∈ textNames) :
    s.bindings.written n ∈ s.texts := by
  simp only [textNames, List.mem_cons, List.not_mem_nil, or_false] at h
  simp only [texts, List.mem_cons]
  rcases h with rfl | rfl | rfl | rfl | rfl
  · exact .inl rfl
  · exact .inr (.inl rfl)
  · exact .inr (.inr (.inl rfl))
  · exact .inr (.inr (.inr (.inl rfl)))
  · exact .inr (.inr (.inr (.inr (.inl rfl))))

end RepositorySheet

namespace Template.Bundled

def packageShape : Shape :=
  [.own "package ".toList, .named "package_name", .own ";".toList]

/-- The name of the model with its package. -/
def modelShape : Shape :=
  [.named "model_package", .own ".".toList, .named "model_name", .own ";".toList]

def modelImportShape : Shape :=
  .own "import ".toList :: modelShape

def declarationShape (kind : RepositoryKind) : Shape :=
  [.own "public interface ".toList, .named "repository_name",
    .own (" extends " ++ kind.baseType ++ "<").toList, .named "model_name", .own ", ".toList,
    .named "id_type", .own "> \x7b".toList]

def closingShape : Shape :=
  [.own "\x7d".toList]

def optionalShape : Shape :=
  [.own optionalImport.toList]

/-- The lines of a repository, as its template has them. -/
def sections (kind : RepositoryKind) (above members : List Shape) : List Shape :=
  [packageShape, []] ++ above ++ [declarationShape kind] ++ members ++ [closingShape]

theorem sections_subset (kind : RepositoryKind) (above members : List Shape) :
    sections kind [] members ⊆ sections kind above members := by
  intro line h
  simp only [sections, List.append_assoc, List.mem_append, List.not_mem_nil, false_or] at h ⊢
  exact h.imp_right .inr

theorem mem_sections {above : List Shape} {line : Shape} (kind : RepositoryKind)
    (members : List Shape) (h : line ∈ above) : line ∈ sections kind above members := by
  simp only [sections, List.append_assoc, List.mem_append]
  exact .inr (.inl h)

/-- What stands between the import of the model and the declaration. -/
def aboveOf (kind : RepositoryKind) (ls : List Shape) : List Shape :=
  (ls.takeWhile (· ≠ declarationShape kind)).drop 3

/-- What stands after the declaration, up to the closing brace and an empty line. -/
def membersOf (kind : RepositoryKind) (ls : List Shape) : List Shape :=
  (ls.dropWhile (· ≠ declarationShape kind)).tail.dropLast.dropLast

/-- The line does not read like the import of optional values, if no value of it brings an import. -/
def silent (shape : Shape) : Bool :=
  shape.spares optionalImport.toList || shape.spares "import ".toList

/-- What all kinds of repository have in common. The import of optional values is a matter of their
own, apart from the import of the model. -/
structure Sectioned (kind : RepositoryKind) (shape : Shape) (above members : List Shape) :
    Prop where
  lines : shape.lines = sections kind (modelImportShape :: above) members ++ [[]]
  spares : ∀ w ∈ [['\r'], "findByUsername".toList, "existsByUsername".toList], shape.spares w
  names : ∀ line ∈ shape :: shape.lines, ∀ n ∈ line.names, n ∈ RepositorySheet.textNames
  closed : ∀ line ∈ shape.lines, line.spares ['\n']
  imports : ∀ line ∈ above, line = optionalShape ∨ silent line
  count : above.count optionalShape = if kind.isReactive then 0 else 1
  others : ∀ line ∈ sections kind [] members, silent line

instance (kind : RepositoryKind) (shape : Shape) (above members : List Shape) :
    Decidable (Sectioned kind shape above members) :=
  decidable_of_iff (_ ∧ _ ∧ _ ∧ _ ∧ _ ∧ _ ∧ _)
    ⟨fun ⟨h₁, h₂, h₃, h₄, h₅, h₆, h₇⟩ => ⟨h₁, h₂, h₃, h₄, h₅, h₆, h₇⟩,
      fun h => ⟨h.lines, h.spares, h.names, h.closed, h.imports, h.count, h.others⟩⟩

theorem repository_settles : ∃ sp : Spelling repository,
    ∀ kind ∈ RepositoryKind.all, ∀ queries pages : Bool,
      (settle (RepositorySheet.choices kind queries pages) sp []).any fun shape =>
        Sectioned kind shape (aboveOf kind shape.lines) (membersOf kind shape.lines) :=
  ⟨by repeat' constructor, by decide +kernel⟩

/-- The repository has its sections, whatever the choices are. -/
theorem sectioned (kind : RepositoryKind) (queries pages : Bool) :
    ∃ (sp : Spelling repository) (shape : Shape) (above members : List Shape),
      settle (RepositorySheet.choices kind queries pages) sp [] = some shape ∧
      Sectioned kind shape above members := by
  obtain ⟨sp, hall⟩ := repository_settles
  have hkind : kind ∈ RepositoryKind.all := by cases kind <;> decide
  obtain ⟨shape, hshape, hsections⟩ := (Option.any_eq_true _ _).1
    (hall kind hkind queries pages)
  exact ⟨sp, shape, _, _, hshape, of_decide_eq_true hsections⟩

end Template.Bundled

namespace RepositorySheet

open Template.Bundled

variable {s : RepositorySheet} {inks : List Ink} {shape : Shape}

/-- The text of a repository, as far as the look-ups are concerned. -/
structure Prints (s : RepositorySheet) (x : List Char) (above members : List String) : Prop where
  text : x = linesText (s.lines (s.modelImport :: above) members)
  closed : ∀ line ∈ s.lines (s.modelImport :: above) members, '\n' ∉ line.toList
  no_return : '\r' ∉ x
  no_find : ¬ "findByUsername".toList <:+: x
  no_exists : ¬ "existsByUsername".toList <:+: x
  imports : ∀ line ∈ above, line = optionalImport ∨ ¬ occursIn optionalImport line
  count : above.count optionalImport = if s.kind.isReactive then 0 else 1
  others : ∀ line ∈ s.lines [] members, ¬ occursIn optionalImport line

theorem line_modelImport (s : RepositorySheet) :
    Shape.line s.bindings modelImportShape = s.modelImport := by
  have hmodel : s.bindings.written "model_name" = s.model := rfl
  have hvalue : s.bindings.written "model_package" = s.modelPackage.written := rfl
  unfold modelImportShape modelShape modelImport
  simp only [Shape.line_own, Shape.line_named, Shape.line_nil, String.ofList_toList,
    String.append_empty, String.append_assoc]
  rw [hvalue, hmodel]

theorem line_declaration (s : RepositorySheet) :
    Shape.line s.bindings (declarationShape s.kind) = s.declaration := by
  have hname : s.bindings.written "repository_name" = s.name := rfl
  have hmodel : s.bindings.written "model_name" = s.model := rfl
  have hvalue : s.bindings.written "id_type" = s.idType.written := rfl
  unfold declarationShape declaration
  simp only [Shape.line_own, Shape.line_named, Shape.line_nil, String.ofList_toList,
    String.append_empty, String.append_assoc]
  rw [hname, hvalue, hmodel]

theorem map_sections (s : RepositorySheet) (above members : List Shape) :
    (sections s.kind above members).map (Shape.line s.bindings)
      = s.lines (above.map (Shape.line s.bindings)) (members.map (Shape.line s.bindings)) := by
  have hpackage : Shape.line s.bindings packageShape = "package " ++ s.package ++ ";" := by
    have hvalue : s.bindings.written "package_name" = s.package := rfl
    unfold packageShape
    simp only [Shape.line_own, Shape.line_named, Shape.line_nil, String.ofList_toList,
      String.append_empty, String.append_assoc]
    rw [hvalue]
  have hclosing : Shape.line s.bindings closingShape = "\x7d" := by
    unfold closingShape
    simp only [Shape.line_own, Shape.line_nil, String.ofList_toList, String.append_empty]
  simp only [sections, lines, List.map_append, List.map_cons, List.map_nil, hpackage,
    line_declaration, hclosing, Shape.line_nil]

/-- A silent line does not read like the import of optional values. -/
theorem not_occursIn_line {line : Shape} (h : silent line)
    (himport : ∀ n ∈ line.names, ¬ occursIn "import " (s.bindings.written n)) :
    ¬ occursIn optionalImport (line.line s.bindings) := by
  have hword : "import ".toList <:+: optionalImport.toList := by decide +kernel
  have hvalues : ∀ n ∈ line.names, ¬ "import ".toList <:+: (s.bindings.written n).toList := by
    intro n hn hin
    exact himport n hn (occursIn_iff.2 hin)
  rw [occursIn_iff, Shape.line, String.toList_ofList]
  rcases (Bool.or_eq_true _ _).mp h with hspares | hspares
  · exact Shape.not_infix_chars (by decide) hspares fun n hn hin =>
      hvalues n hn (hword.trans hin)
  · exact fun hin => Shape.not_infix_chars (by decide) hspares hvalues (hword.trans hin)

theorem line_optional (b : Bindings) : Shape.line b optionalShape = optionalImport := by
  unfold optionalShape
  simp only [Shape.line_own, Shape.line_nil, String.ofList_toList, String.append_empty]

section Values

variable {above members : List Shape} {line : Shape} {c : Char} {n w : String}
  (htexts : ∀ t ∈ s.texts, Unobtrusive t) (hc : Sectioned s.kind shape above members)

include htexts hc

theorem unobtrusive_value (hline : line ∈ shape :: shape.lines) (hn : n ∈ line.names) :
    Unobtrusive (s.bindings.written n) :=
  htexts _ (mem_texts (hc.names line hline n hn))

theorem lookup_not_printed (hw : w ∈ ["findByUsername", "existsByUsername"]) :
    ¬ w.toList <:+: shape.chars s.bindings := by
  have hplain : w.toList ≠ [] ∧ w ∈ ["import ", "findByUsername", "existsByUsername"] ∧
      w.toList ∈ [['\r'], "findByUsername".toList, "existsByUsername".toList] := by
    revert w
    decide
  obtain ⟨hne, hword, hspared⟩ := hplain
  refine Shape.not_infix_chars hne (hc.spares _ hspared) fun n hn hin => ?_
  exact (unobtrusive_value htexts hc List.mem_cons_self hn).words w hword (occursIn_iff.2 hin)

/-- Line ends do not come from values. -/
theorem not_mem_line (hend : c ∈ ['\n', '\r']) (hline : line ∈ shape :: shape.lines)
    (hspares : line.spares [c]) : c ∉ line.chars s.bindings := by
  refine Shape.not_mem_chars hspares fun n hn hin => ?_
  have hvalue := (unobtrusive_value htexts hc hline hn).line
  simp only [List.mem_cons, List.not_mem_nil, or_false] at hend
  rcases hend with rfl | rfl
  · exact hvalue.no_end hin
  · exact hvalue.no_return hin

theorem silent_section (hline : line ∈ sections s.kind (modelImportShape :: above) members)
    (h : silent line) : ¬ occursIn optionalImport (line.line s.bindings) := by
  have hmem : line ∈ shape :: shape.lines := by
    rw [hc.lines]
    exact List.mem_cons_of_mem _ (List.mem_append_left _ hline)
  exact not_occursIn_line h fun n hn => (unobtrusive_value htexts hc hmem hn).words _ (by decide)

theorem above_or_silent (hline : line ∈ above) :
    line = optionalShape ∨ ¬ occursIn optionalImport (line.line s.bindings) :=
  (hc.imports line hline).imp_right
    (silent_section htexts hc (mem_sections _ _ (.tail _ hline)))

theorem count_above : (above.map (Shape.line s.bindings)).count optionalImport
    = if s.kind.isReactive then 0 else 1 := by
  rw [List.count, List.countP_map, ← hc.count, List.count]
  refine List.countP_congr fun line hline => ?_
  rw [Function.comp, beq_iff_eq, beq_iff_eq]
  constructor
  · intro h
    refine (above_or_silent htexts hc hline).resolve_right fun hno => hno ?_
    rw [h]
    decide +kernel
  · rintro rfl
    exact line_optional s.bindings

end Values

/-- What the template of a repository prints. -/
theorem prints_of_print (htexts : ∀ t ∈ s.texts, Unobtrusive t)
    (hprint : repository.print s.bindings = .ok inks) :
    ∃ above members, s.Prints (inks.map Ink.char) above members := by
  obtain ⟨sp, shape, above, members, hsettle, hc⟩ :=
    sectioned s.kind s.customQueries s.pagination
  have hchars : inks.map Ink.char = shape.chars s.bindings := by
    rw [settle_chars s.knows_choices sp hsettle hprint, Shape.chars_nil, List.append_nil]
  have hlines := map_sections s (modelImportShape :: above) members
  have hothers := map_sections s [] members
  rw [List.map_cons, line_modelImport] at hlines
  rw [List.map_nil] at hothers
  refine ⟨above.map (Shape.line s.bindings), members.map (Shape.line s.bindings), ?_⟩
  rw [hchars]
  constructor
  case text =>
    have htext : (Shape.line s.bindings · |>.toList) = Shape.chars s.bindings :=
      funext fun line => String.toList_ofList
    rw [Shape.chars_of_lines hc.lines, ← hlines, linesText, List.map_map]
    exact congrArg (fun f => unlines ((sections s.kind _ members).map f)) htext.symm
  case closed =>
    rw [← hlines]
    intro line hline
    obtain ⟨shape', hshape', rfl⟩ := List.mem_map.1 hline
    have hmem : shape' ∈ shape.lines := by
      rw [hc.lines]
      exact List.mem_append_left _ hshape'
    rw [Shape.line, String.toList_ofList]
    exact not_mem_line htexts hc (by decide) (.tail _ hmem) (hc.closed shape' hmem)
  case no_return =>
    exact not_mem_line htexts hc (by decide) List.mem_cons_self (hc.spares _ List.mem_cons_self)
  case no_find => exact lookup_not_printed htexts hc (by decide)
  case no_exists => exact lookup_not_printed htexts hc (by decide)
  case imports =>
    intro line hline
    obtain ⟨shape', hshape', rfl⟩ := List.mem_map.1 hline
    refine (above_or_silent htexts hc hshape').imp_left fun h => ?_
    rw [h, line_optional]
  case count => exact count_above htexts hc
  case others =>
    rw [← hothers]
    intro line hline
    obtain ⟨shape', hshape', rfl⟩ := List.mem_map.1 hline
    exact silent_section htexts hc (sections_subset s.kind _ members hshape')
      (hc.others shape' hshape')

/-- The import of the model reads like the import of optional values only from its beginning. -/
theorem occursIn_modelImport (htexts : ∀ t ∈ s.texts, Unobtrusive t) :
    occursIn optionalImport s.modelImport ↔ optionalImport.toList <+: s.modelImport.toList := by
  have hmodel : s.modelImport.toList = "import ".toList ++ modelShape.chars s.bindings := by
    rw [← line_modelImport, Shape.line, String.toList_ofList, modelImportShape, Shape.chars_own]
  have hoptional : optionalImport.toList = "import ".toList ++ "java.util.Optional;".toList := by
    decide
  have hlater : ¬ "import ".toList <:+: modelShape.chars s.bindings := by
    have hnames : ∀ n ∈ modelShape.names, n ∈ textNames := by decide
    refine Shape.not_infix_chars (by decide) (by decide +kernel) fun n hn hin => ?_
    have hvalue := htexts _ (mem_texts (hnames n hn))
    exact hvalue.words "import " List.mem_cons_self (occursIn_iff.2 hin)
  have hblunt : Blunt "import ".toList "import ".toList := by decide
  rw [occursIn_iff]
  constructor
  · rintro ⟨l, r, h⟩
    rw [hmodel, hoptional, ← List.append_assoc, List.append_assoc] at h
    rcases occurrence_cases (hblunt.uncut _) h with ⟨rest, hfirst⟩ | ⟨front, -, hlast⟩
    · have hl : l = [] := by
        have hlength := congrArg List.length hfirst
        simp only [List.length_append] at hlength
        exact List.length_eq_zero_iff.1 (by omega)
      subst hl
      rw [hmodel, ← h, hoptional]
      exact ⟨r, by simp⟩
    · exact absurd ⟨front, _, hlast.symm⟩ hlater
  · exact fun h => h.isInfix

end RepositorySheet

end Groundwork
