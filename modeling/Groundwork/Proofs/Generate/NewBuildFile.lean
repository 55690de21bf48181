import Groundwork.Proofs.Generate.BuildFile

/-!
# The build file of a new project

In front of its list of dependencies the build file of a new project has what the blueprint says of
the project; the list has one element for each of its libraries, and what follows is the library's
own.
-/

namespace Groundwork

open Template Text Generate

namespace Dependency

/-- What a build file says of a dependency. -/
def inner (d : Dependency) : List Char :=
  "\n            <groupId>".toList ++ d.group.toList ++ "</groupId>\n            <artifactId>".toList
    ++ d.artifact.toList ++ "</artifactId>\n".toList
    ++ (match d.scope with
      | some s => "            <scope>".toList ++ s.toList ++ "</scope>\n".toList
      | none => [])
    ++ (if d.optional then "            <optional>true</optional>\n".toList else [])
    ++ "        ".toList

def element (d : Dependency) : Element :=
  ⟨"\n        ".toList, d.inner⟩

/-- The lines of a dependency. -/
def lines (d : Dependency) : List Char :=
  "        ".toList ++ openTag "dependency" ++ d.inner ++ closeTag "dependency" ++ ['\n']

theorem cons_lines (d : Dependency) :
    '\n' :: d.lines = (Element.texts "dependency" d.element).flatten ++ ['\n'] := by
  have hgap : "\n        ".toList = '\n' :: "        ".toList := by decide
  unfold lines element Element.texts
  generalize d.inner = inner
  generalize openTag "dependency" = before
  generalize closeTag "dependency" = after
  simp only [hgap, List.flatten_cons, List.flatten_nil, List.append_assoc, List.cons_append,
    List.append_nil]

/-- The lines of a list are its elements, each from the end of the line before. -/
theorem flatten_elements (ds : List Dependency) : '\n' :: ds.flatMap lines
    = ((ds.map element).flatMap (Element.texts "dependency")).flatten ++ ['\n'] := by
  induction ds with
  | nil => rfl
  | cons d rest ih =>
    rw [List.flatMap_cons, List.map_cons, List.flatMap_cons, List.flatten_append, List.append_assoc,
      ← ih, ← List.cons_append, cons_lines, List.append_assoc]
    rfl

theorem sound_element : ∀ d ∈ catalogue, Sound d.element := by
  decide +kernel

end Dependency

/-- What a build file says of a library. -/
structure Coordinates where
  group : Option String
  artifact : Option String
  scope : Option String
  optional : Bool
  deriving DecidableEq

/-- What is read in the element on a library. -/
def coordinatesOf (inner : List Char) : Coordinates where
  group := inner? "groupId" inner
  artifact := inner? "artifactId" inner
  scope := inner? "scope" inner
  optional := inner? "optional" inner = some "true"

/-- The library that a build file excludes from what is packed. -/
def exclusionOf (cs : List Char) : Option Coordinates :=
  (firstElement? "exclude" cs).map fun (inner, _) => coordinatesOf inner

def exclusion : Coordinates where
  group := some "org.projectlombok"
  artifact := some "lombok"
  scope := none
  optional := false

namespace ProjectSheet

/-- The texts that go into a build file. -/
def texts (s : ProjectSheet) : List String :=
  [s.bootVersion.written, s.group.written, s.artifact, s.name, s.javaVersion]

def textNames : List String :=
  ["spring_boot_version", "group_id", "artifact_id", "project_name", "java_version"]

theorem texts_eq (s : ProjectSheet) : s.texts = textNames.map s.bindings.written := rfl

/-- The build file of a project between what its values bring and what is the same for all. -/
def layout (s : ProjectSheet) (front back : List Char) : Layout where
  front := front
  elements := s.resolution.dependencies.map Dependency.element
  last := "\n    ".toList
  back := back

end ProjectSheet

namespace Template.Bundled

/-- A template without its list and what follows. -/
def upToList : Template → Template
  | done => done
  | text _ (loop ..) => done
  | text s next => text s (upToList next)
  | value e next => value e (upToList next)
  | branch test yes no next => branch test yes no (upToList next)
  | loop name source body otherwise next => loop name source body otherwise (upToList next)

def buildValues (p : Packaging) : Bindings :=
  [("packaging", .text p.name)]

/-- What is looked for in front of the list. -/
def frontWords : List (List Char) :=
  listTags ++ libraries.map String.toList ++ [openTag "excludes", openTag "exclude"]

/-- What is checked of the text in front of the list. -/
structure Fronted (shape : Shape) : Prop where
  ended : shape.lines.getLast? = some []
  spares : ∀ w ∈ frontWords, shape.spares w
  names : ∀ n, n ∈ shape.names ↔ n ∈ ProjectSheet.textNames

instance (shape : Shape) : Decidable (Fronted shape) :=
  decidable_of_iff (_ ∧ _ ∧ (∀ n ∈ shape.names, n ∈ ProjectSheet.textNames) ∧
      ∀ n ∈ ProjectSheet.textNames, n ∈ shape.names)
    ⟨fun ⟨h₁, h₂, h₃, h₄⟩ => ⟨h₁, h₂, fun n => ⟨h₃ n, h₄ n⟩⟩,
      fun h => ⟨h.ended, h.spares, fun n => (h.names n).1, fun n => (h.names n).2⟩⟩

/-- A text of the library's own that follows the list. -/
def Closing (t : List Char) : Prop :=
  t.getLast? = some '\n' ∧ '\r' ∉ t ∧ ∀ a ∈ libraries, ¬ a.toList <:+: t

instance (t : List Char) : Decidable (Closing t) :=
  inferInstanceAs (Decidable (_ ∧ _ ∧ _))

/-- What the plugin of a build file goes by. -/
def excluding : Expr :=
  .within (.literal (.text "lombok")) (.name "dependency_names")

/-- The smallest lists of names with and without the library. -/
def listing (listed : Bool) : Bindings :=
  [("dependency_names", .list (if listed then [.text "lombok"] else []))]

/-- A text that excludes the library, or nothing at all. -/
def Excludes (listed : Bool) : Shape → Bool
  | [.own cs] => (cutFirst? (openTag "excludes") cs).isSome = listed &&
    exclusionOf cs = if listed then some exclusion else none
  | _ => false

/-- The build file in front of its list, in one round of its list, and after its list. -/
theorem buildFile_parts : ∃ front body rest : Template,
    buildFile = front.followedBy (.text "    <dependencies>\n" <|
      .loop "dependency" (.name "dependencies") body .done <|
      .text "    </dependencies>\n" rest) ∧
    (∃ sp : Spelling front, ∀ p ∈ Packaging.all,
      (settle (buildValues p) sp []).any fun shape => Fronted shape) ∧
    (∃ sp : Spelling body, ∀ d ∈ Dependency.catalogue,
      settle [("dependency", d.entry)] sp [] = some [.own d.lines]) ∧
    ∃ sp : Spelling rest, ((texts? sp).any fun texts => ∀ t ∈ texts, Closing t) ∧
      (∀ listed : Bool, (settle (listing listed) sp []).any (Excludes listed)) ∧
      ∀ b b' : Bindings, excluding.eval b = excluding.eval b' → AgreeOn rest b b' :=
  ⟨upToList buildFile, _, _, rfl, ⟨by repeat' constructor, by decide +kernel⟩,
    ⟨by repeat' constructor, by decide +kernel⟩,
    ⟨by repeat' constructor, by decide +kernel, by decide +kernel,
      fun _ _ h => ⟨h, trivial, trivial, trivial⟩⟩⟩

end Template.Bundled

namespace ProjectSheet

open Template.Bundled

variable {s : ProjectSheet} {inks : List Ink}

theorem mem_catalogue {d : Dependency} (h : d ∈ s.resolution.dependencies) :
    d ∈ Dependency.catalogue := by
  obtain ⟨name, -, hname⟩ := List.mem_filterMap.1 h
  exact List.mem_of_find?_eq_some hname

theorem knows_buildValues (s : ProjectSheet) : Knows (buildValues s.packaging) s.bindings := by
  intro n v h
  have hmem := mem_of_lookup h
  simp only [buildValues, List.mem_singleton, Prod.mk.injEq] at hmem
  obtain ⟨rfl, rfl⟩ := hmem
  rfl

/-- What the template of the build file prints in front of the list comes of a shape, in which only
the packaging is settled. -/
theorem settled_front {front : Template} {sp : Spelling front} {check : Shape → Bool}
    (hsettle : ∀ p ∈ Packaging.all, (settle (buildValues p) sp []).any check)
    (hprint : front.print s.bindings = .ok inks) :
    ∃ shape, check shape ∧ inks.map Ink.char = shape.chars s.bindings := by
  have hpackaging : s.packaging ∈ Packaging.all := by cases s.packaging <;> decide
  obtain ⟨shape, hshape, hcheck⟩ := (Option.any_eq_true _ _).1 (hsettle _ hpackaging)
  refine ⟨shape, hcheck, ?_⟩
  rw [settle_chars s.knows_buildValues sp hshape hprint, Shape.chars_nil, List.append_nil]

/-- What the template of the build file prints in front of the list. -/
theorem front_of_print {front : Template} {sp : Spelling front}
    (hsettle : ∀ p ∈ Packaging.all, (settle (buildValues p) sp []).any fun shape => Fronted shape)
    (hprint : front.print s.bindings = .ok inks) :
    Whole (inks.map Ink.char) ∧ ∀ w ∈ frontWords,
      (w <:+: inks.map Ink.char ↔ ∃ t ∈ s.texts, w <:+: t.toList) := by
  obtain ⟨shape, hfronted, hchars⟩ := settled_front hsettle hprint
  have hf : Fronted shape := of_decide_eq_true hfronted
  rw [hchars]
  constructor
  · rw [Shape.chars_of_lines (List.dropLast_append_getLast? _ hf.ended).symm]
    exact whole_unlines _
  · intro w hw
    have hne : w ≠ [] := by
      revert w
      decide
    rw [Shape.infix_chars hne (hf.spares w hw), texts_eq]
    simp [hf.names]

/-- What the template of the build file prints after the list. -/
theorem back_of_print {rest : Template} {sp : Spelling rest}
    (htexts : (texts? sp).any fun texts => ∀ t ∈ texts, Closing t)
    (hprint : rest.print s.bindings = .ok inks) :
    Ended ('\n' :: inks.map Ink.char) ∧ '\r' ∉ inks.map Ink.char ∧
      ∀ a ∈ libraries, ¬ a.toList <:+: '\n' :: inks.map Ink.char := by
  obtain ⟨texts, hspelt, hall⟩ := (Option.any_eq_true _ _).1 htexts
  have hclosing : ∀ t ∈ texts, Closing t := of_decide_eq_true hall
  obtain ⟨parts, hparts, hsub⟩ := parts_of_texts? sp hspelt hprint
  have hended : ∀ t ∈ ['\n'] :: parts, Ended t := by
    intro t ht
    rcases List.mem_cons.1 ht with rfl | ht
    · exact .inr rfl
    · exact .inr (hclosing t (hsub ht)).1
  have hflat : '\n' :: parts.flatten = (['\n'] :: parts).flatten := rfl
  rw [hparts, hflat]
  refine ⟨?_, ?_, ?_⟩
  · rcases List.eq_nil_or_concat parts with rfl | ⟨front, last, rfl⟩
    · exact .inr rfl
    · rw [List.concat_eq_append, ← List.cons_append, List.flatten_append, List.flatten_singleton]
      exact (hended last (by simp)).append _
  · intro hin
    obtain ⟨t, ht, hmem⟩ := List.mem_flatten.1 hin
    exact (hclosing t (hsub ht)).2.1 hmem
  · intro a ha hin
    have hw : a.toList ∈ buildWords := List.mem_append_right _ (List.mem_map_of_mem ha)
    have hline : ∀ a ∈ libraries, ¬ a.toList <:+: ['\n'] := by decide +kernel
    rw [infix_flatten_iff (ne_nil_of_buildWord hw) fun t ht => blunt_of_ended hw (hended t ht)] at hin
    obtain ⟨t, ht, hin⟩ := hin
    rcases List.mem_cons.1 ht with rfl | ht
    · exact hline a ha hin
    · exact (hclosing t (hsub ht)).2.2 a ha hin

theorem no_return_lines : ∀ d ∈ Dependency.catalogue, '\r' ∉ d.lines := by
  decide +kernel

/-- The blanks in front of the list bring no word, and line ends of one kind bring none either. -/
theorem infix_blanks {w cs : List Char} (hne : w ≠ []) (hblank : ' ' ∉ w) :
    w <:+: cs ++ "    ".toList ↔ w <:+: cs := by
  have hforeign : Foreign w "    ".toList := foreign_of_not_mem hblank _
  rw [infix_append_iff (hforeign.clear.uncut List.prefix_rfl _)]
  refine or_iff_left fun hin => ?_
  have hblanks : "    ".toList = List.replicate 4 ' ' := by decide
  obtain ⟨c, rest, rfl⟩ := List.exists_cons_of_ne_nil hne
  have hc := hin.subset List.mem_cons_self
  rw [hblanks] at hc
  exact hblank (List.eq_of_mem_replicate hc ▸ List.mem_cons_self)

theorem infix_unified {w cs : List Char} (hw : w ∈ buildWords) :
    w <:+: unifyLineEnds cs ↔ w <:+: cs := by
  have hnone : ∀ w ∈ buildWords, '\n' ∉ w ∧ '\r' ∉ w := by decide
  exact infix_unifyLineEnds_iff (hnone w hw).1 (hnone w hw).2

theorem eval_excluding (s : ProjectSheet) :
    excluding.eval s.bindings
      = .ok (.value (.bool (s.dependencyNames.contains "lombok"))) := by
  have hnames : s.bindings.find? "dependency_names"
      = some (.list (s.dependencyNames.map .text)) := rfl
  have hwithin : (Operand.value (.text "lombok")).within
      (.value (.list (s.dependencyNames.map .text)))
      = .ok (s.dependencyNames.contains "lombok") := by
    rw [Operand.within, List.any_map, List.contains_eq_any_beq]
    rfl
  rw [excluding, Expr.eval, Expr.eval, Expr.eval, hnames]
  exact congrArg (· >>= fun found => Except.ok (Operand.value (.bool found))) hwithin

/-- What the template of the build file prints after the list goes by whether the names of the
project have the library, and by nothing else. -/
theorem settled_rest {rest : Template} {sp : Spelling rest} {check : Bool → Shape → Bool}
    (hsettle : ∀ listed : Bool, (settle (listing listed) sp []).any (check listed))
    (hagree : ∀ b b' : Bindings, excluding.eval b = excluding.eval b' → rest.AgreeOn b b')
    (hprint : rest.print s.bindings = .ok inks) :
    ∃ listed shape, s.dependencyNames.contains "lombok" = listed ∧ check listed shape ∧
      inks.map Ink.char = shape.chars (listing listed) := by
  generalize hlisted : s.dependencyNames.contains "lombok" = listed
  have hsame : excluding.eval s.bindings = excluding.eval (listing listed) := by
    rw [eval_excluding, hlisted]
    cases listed <;> rfl
  rw [print_congr (hagree _ _ hsame)] at hprint
  obtain ⟨shape, hshape, hcheck⟩ := (Option.any_eq_true _ _).1 (hsettle listed)
  refine ⟨listed, shape, rfl, hcheck, ?_⟩
  rw [settle_chars (fun _ _ h => h) sp hshape hprint, Shape.chars_nil, List.append_nil]

/-- What the template of the build file prints after the list excludes the library where the names
of the project have it. -/
theorem excludes_of_print {rest : Template} {sp : Spelling rest}
    (hsettle : ∀ listed : Bool, (settle (listing listed) sp []).any (Excludes listed))
    (hagree : ∀ b b' : Bindings, excluding.eval b = excluding.eval b' → rest.AgreeOn b b')
    (hprint : rest.print s.bindings = .ok inks) :
    (cutFirst? (openTag "excludes") (inks.map Ink.char)).isSome
        = s.dependencyNames.contains "lombok" ∧
      exclusionOf (inks.map Ink.char)
        = if s.dependencyNames.contains "lombok" then some exclusion else none := by
  obtain ⟨listed, shape, hlisted, hexcludes, hchars⟩ := settled_rest hsettle hagree hprint
  rw [hlisted, hchars]
  unfold Excludes at hexcludes
  split at hexcludes
  · rename_i cs
    rw [Shape.chars_own, Shape.chars_nil, List.append_nil]
    rw [Bool.and_eq_true, decide_eq_true_eq, decide_eq_true_eq] at hexcludes
    exact hexcludes
  · cases hexcludes

/-- The list with its elements, line by line. -/
theorem flatten_items (s : ProjectSheet) (front back : List Char) :
    (s.layout front back).items.flatten
      = '\n' :: s.resolution.dependencies.flatMap Dependency.lines ++ "    ".toList := by
  have hlast : "\n    ".toList = ['\n'] ++ "    ".toList := by decide
  rw [Layout.items, List.flatten_append, List.flatten_singleton, Dependency.flatten_elements,
    layout, hlast, List.append_assoc]

/-- What the template of the build file prints of the list, and after it. -/
theorem list_of_print {body rest : Template} {sp : Spelling body}
    (hbody : ∀ d ∈ Dependency.catalogue,
      settle [("dependency", d.entry)] sp [] = some [.own d.lines])
    (hprint : (Template.text "    <dependencies>\n" <| .loop "dependency" (.name "dependencies")
      body .done <| .text "    </dependencies>\n" rest).print s.bindings = .ok inks) :
    ∃ after, rest.print s.bindings = .ok after ∧
      inks.map Ink.char = "    ".toList ++ (openTag "dependencies"
        ++ ('\n' :: s.resolution.dependencies.flatMap Dependency.lines ++ "    ".toList
          ++ (closeTag "dependencies" ++ '\n' :: after.map Ink.char))) := by
  have hround : ∀ d ∈ s.resolution.dependencies, ∀ part,
      body.print (("dependency", d.entry) :: s.bindings) = .ok part →
      part.map Ink.char = d.lines := by
    intro d hd part hpart
    have hknows : Knows [("dependency", d.entry)] (("dependency", d.entry) :: s.bindings) := by
      intro n v h
      have hmem := mem_of_lookup h
      simp only [List.mem_singleton, Prod.mk.injEq] at hmem
      obtain ⟨rfl, rfl⟩ := hmem
      rfl
    have hchars := settle_chars hknows sp (hbody d (mem_catalogue hd)) hpart
    rw [Shape.chars_own, Shape.chars_nil, List.append_nil, List.append_nil] at hchars
    exact hchars.symm
  obtain ⟨listed, hlisted, rfl⟩ := print_text_ok hprint
  obtain ⟨closing, hclosing, hlist⟩ := print_loop_chars hlisted rfl rfl hround
  obtain ⟨after, hafter, rfl⟩ := print_text_ok hclosing
  have hopen : "    <dependencies>\n".toList
      = "    ".toList ++ (openTag "dependencies" ++ ['\n']) := by decide
  have hclose : "    </dependencies>\n".toList
      = "    ".toList ++ (closeTag "dependencies" ++ ['\n']) := by decide
  have hchars (own : Bool) (text : String) : (Ink.ofText own text).map Ink.char = text.toList := by
    simp [Ink.ofText, Ink.ofChars, Function.comp_def]
  refine ⟨after, hafter, ?_⟩
  rw [List.map_append, hlist, List.map_append, hchars, hchars, hopen, hclose]
  simp only [List.append_assoc, List.cons_append, List.nil_append]

/-- What is in front of the list of a build file and what comes after it. -/
structure Parted (s : ProjectSheet) (before after : List Char) : Prop where
  whole : Whole before
  values : ∀ w ∈ frontWords, (w <:+: before ↔ ∃ t ∈ s.texts, w <:+: t.toList)
  ended : Ended ('\n' :: after)
  no_return : '\r' ∉ after
  libraries : ∀ a ∈ libraries, ¬ a.toList <:+: '\n' :: after
  excludes : (cutFirst? (openTag "excludes") after).isSome = s.dependencyNames.contains "lombok"
  excluded : exclusionOf after
    = if s.dependencyNames.contains "lombok" then some exclusion else none

/-- The build file of a project in its parts. -/
theorem parted_of_print (hprint : buildFile.print s.bindings = .ok inks) :
    ∃ before after, Parted s before after ∧ inks.map Ink.char
      = (s.layout (before ++ "    ".toList) ('\n' :: after)).text := by
  obtain ⟨front, body, rest, hbuildFile, ⟨spFront, hfront⟩, ⟨spBody, hbody⟩, spRest, htexts,
    hsettle, hagree⟩ := buildFile_parts
  rw [hbuildFile] at hprint
  obtain ⟨before, following, hbefore, hfollowing, rfl⟩ := print_followedBy hprint
  obtain ⟨after, hafter, hlist⟩ := list_of_print hbody hfollowing
  obtain ⟨hwhole, hnamed⟩ := front_of_print hfront hbefore
  obtain ⟨hended, hreturn, hnone⟩ := back_of_print htexts hafter
  obtain ⟨hexcludes, hexclusion⟩ := excludes_of_print hsettle hagree hafter
  refine ⟨before.map Ink.char, after.map Ink.char,
    ⟨hwhole, hnamed, hended, hreturn, hnone, hexcludes, hexclusion⟩, ?_⟩
  rw [List.map_append, hlist, Layout.text, flatten_items, layout]
  simp only [List.append_assoc, List.cons_append]

/-- The parts of a build file are put together as they should be. -/
theorem proper_layout {front back : List Char} (hfront : ∀ w ∈ listTags, ¬ w <:+: front)
    (hended : Ended back) (hnone : ∀ a ∈ libraries, ¬ a.toList <:+: back) :
    (s.layout (front ++ "    ".toList) back).Proper where
  front_ended := Ended.append (by decide) _
  last_ended := show Ended "\n    ".toList by decide
  back_ended := hended
  front w hw hin := by
    have hplain : ∀ w ∈ listTags, w ≠ [] ∧ ' ' ∉ w := by decide
    exact hfront w hw ((infix_blanks (hplain w hw).1 (hplain w hw).2).1 hin)
  elements e he := by
    obtain ⟨d, hd, rfl⟩ := List.mem_map.1 he
    exact Dependency.sound_element d (mem_catalogue hd)
  last := show ∀ w ∈ buildWords, ¬ w <:+: "\n    ".toList by decide +kernel
  back := hnone

/-- Line ends of one kind change nothing behind the front of a build file. -/
theorem Parted.unified {before after : List Char} (h : Parted s before after) :
    unifyLineEnds (s.layout (before ++ "    ".toList) ('\n' :: after)).text
      = (s.layout (unifyLineEnds before ++ "    ".toList) ('\n' :: after)).text := by
  have hlines : '\r' ∉ s.resolution.dependencies.flatMap Dependency.lines := by
    intro hin
    obtain ⟨d, hd, hin⟩ := List.mem_flatMap.1 hin
    exact no_return_lines d (mem_catalogue hd) hin
  have hfixed : ∀ t ∈ ["    ".toList, openTag "dependencies", closeTag "dependencies"],
      '\r' ∉ t := by decide
  have hrest : '\r' ∉ "    ".toList ++ (openTag "dependencies"
      ++ ((s.layout before ('\n' :: after)).items.flatten
        ++ (closeTag "dependencies" ++ '\n' :: after))) := by
    rw [flatten_items]
    simp only [List.mem_append, List.mem_cons, not_or]
    exact ⟨hfixed _ (by decide), hfixed _ (by decide),
      ⟨⟨by decide, hlines⟩, hfixed _ (by decide)⟩, hfixed _ (by decide), by decide, h.no_return⟩
  have hlast : before.getLast? ≠ some '\r' := by
    rcases h.whole with h | ⟨l, h⟩
    · rw [h]
      decide
    · rw [h, List.getLast?_concat]
      decide
  have htext (front : List Char) : (s.layout front ('\n' :: after)).text
      = front ++ (openTag "dependencies" ++ ((s.layout before ('\n' :: after)).items.flatten
        ++ (closeTag "dependencies" ++ '\n' :: after))) := rfl
  rw [htext, htext, List.append_assoc, List.append_assoc, unifyLineEnds_append hlast,
    unifyLineEnds_of_not_mem hrest]

/-- The build file of a project, as it is read: its list has the libraries of the project, and the
names of the libraries for the security classes occur in front of it where a value of the project
brings them. -/
theorem layout_of_print (htags : ∀ t ∈ s.texts, ∀ w ∈ listTags, ¬ w <:+: t.toList)
    (hprint : buildFile.print s.bindings = .ok inks) :
    ∃ front back, (s.layout front back).Proper ∧
      unifyLineEnds (inks.map Ink.char) = (s.layout front back).text ∧
      ∀ a ∈ libraries, (a.toList <:+: front ↔ ∃ t ∈ s.texts, a.toList <:+: t.toList) := by
  obtain ⟨before, after, hparted, htext⟩ := parted_of_print hprint
  have hfront {w : List Char} (hw : w ∈ frontWords) (hword : w ∈ buildWords) :
      w <:+: unifyLineEnds before ↔ ∃ t ∈ s.texts, w <:+: t.toList := by
    rw [infix_unified hword, hparted.values w hw]
  refine ⟨unifyLineEnds before ++ "    ".toList, '\n' :: after,
    proper_layout (fun w hw hin => ?_) hparted.ended hparted.libraries, ?_, fun a ha => ?_⟩
  · obtain ⟨t, ht, hin⟩ := (hfront (List.mem_append_left _ (List.mem_append_left _ hw))
      (List.mem_append_left _ (List.mem_append_left _ hw))).1 hin
    exact htags t ht w hw hin
  · rw [htext, hparted.unified]
  · have hw := List.mem_map_of_mem (f := String.toList) ha
    have hplain : ∀ w ∈ libraries.map String.toList, w ≠ [] ∧ ' ' ∉ w := by decide
    rw [infix_blanks (hplain _ hw).1 (hplain _ hw).2]
    exact hfront (List.mem_append_left _ (List.mem_append_right _ hw))
      (List.mem_append_right _ hw)

end ProjectSheet

end Groundwork
