import Groundwork.Proofs.Template.Heading
import Groundwork.Proofs.Text.Lines
import Groundwork.Proofs.Text.OneLine

/-!
# What a source imports

Most imports of a source are spelt out by its template and name classes of libraries; the others are
printed from values. It is known before there are values which names those are printed from, and
while every value fits in one line, they are the only other imports of the text.
-/

namespace Groundwork

/-- The text of an import. -/
def importLine (package className : String) : String :=
  "import " ++ package ++ "." ++ className ++ ";"

namespace Template

/-- What an import begins with. -/
def importing : List String := ["import "]

/-- A class that a template imports: the name its package is printed from, and its own name. -/
structure Reference where
  package : String
  name : Piece
  deriving Repr, DecidableEq

namespace Reference

def line : Reference → Shape
  | ⟨package, .named name⟩ =>
    [.own "import ".toList, .named package, .own ['.'], .named name, .own [';']]
  | ⟨package, .own cs⟩ =>
    [.own "import ".toList, .named package, .own ('.' :: cs ++ [';'])]

/-- The import as it is printed. -/
def written (b : Bindings) (r : Reference) : String :=
  importLine (b.written r.package) (Ink.text (r.name.inks b))

theorem text_line (b : Bindings) (r : Reference) : Ink.text (r.line.inks b) = r.written b := by
  obtain ⟨package, name⟩ := r
  cases name with
  | named name => simp [line, written, importLine, Shape.inks, Piece.inks, String.append_assoc]
  | own cs => simp [line, written, importLine, Shape.inks, Piece.inks, String.append_assoc]

end Reference

/-- The texts of a template's own. -/
def texts : Template → List String
  | done => []
  | text s next => s :: texts next
  | value _ next => texts next
  | branch _ yes no next => texts yes ++ texts no ++ texts next
  | loop _ _ body otherwise next => texts body ++ texts otherwise ++ texts next

variable {t : Template} {b : Bindings} {inks : List Ink} {empty full : List String} {cs : List Char}

namespace Spelling

def texts {t : Template} : Spelling t → List (List Char)
  | done => []
  | text cs rest => cs :: texts rest
  | value _ rest => texts rest
  | branch _ yes no rest => texts yes ++ texts no ++ texts rest
  | loop _ _ round instead rest => texts round ++ texts instead ++ texts rest

theorem mem_texts (sp : Spelling t) (h : cs ∈ sp.texts) : .ofList cs ∈ t.texts := by
  induction sp with
  | done => cases h
  | text cs' rest ih =>
    rcases List.mem_cons.1 h with rfl | h
    · exact List.mem_cons_self
    · exact List.mem_cons_of_mem _ (ih h)
  | value e rest ih => exact ih h
  | branch test yes no rest ihyes ihno ih =>
    simp only [texts, List.mem_append] at h
    simp only [Template.texts, List.mem_append]
    exact h.imp (Or.imp ihyes ihno) ih
  | loop name source round instead rest ihround ihinstead ih =>
    simp only [texts, List.mem_append] at h
    simp only [Template.texts, List.mem_append]
    exact h.imp (Or.imp ihround ihinstead) ih

/-- Own texts without carriage returns, values of names that are no lists, and repetitions over
empty lists only. -/
def plain (empty full : List String) {t : Template} : Spelling t → Bool
  | done => true
  | text cs rest => !cs.contains '\r' && plain empty full rest
  | value (.name n) rest => !(empty ++ full).contains n && plain empty full rest
  | value _ _ => false
  | branch _ yes no rest => plain empty full yes && plain empty full no && plain empty full rest
  | loop _ (.name n) _ instead rest =>
    empty.contains n && plain empty full instead && plain empty full rest
  | loop _ _ _ _ _ => false

end Spelling

/-- Lines end in the template's own ink, and in one way. -/
def OwnEnds (inks : List Ink) : Prop :=
  ∀ i ∈ inks, i.char ≠ '\r' ∧ (i.char = '\n' → i.own)

theorem OwnEnds.append {inks' : List Ink} (h : OwnEnds inks) (h' : OwnEnds inks') :
    OwnEnds (inks ++ inks') := by
  intro i hi
  rcases List.mem_append.1 hi with hi | hi
  · exact h i hi
  · exact h' i hi

theorem ownEnds_value {s : String} (h : Text.OneLine s) : OwnEnds (Ink.ofText false s) := by
  intro i hi
  obtain ⟨c, hc, rfl⟩ := List.mem_map.1 hi
  refine ⟨?_, ?_⟩
  · rintro rfl
    exact h.no_return hc
  · rintro rfl
    exact absurd hc h.no_end

theorem ownEnds_own (h : '\r' ∉ cs) : OwnEnds (Ink.ofChars true cs) := by
  intro i hi
  obtain ⟨c, hc, rfl⟩ := List.mem_map.1 hi
  refine ⟨?_, fun _ => rfl⟩
  rintro rfl
  exact h hc

/-- The values that a plain template prints fit in one line each. -/
structure Fits (empty full : List String) (b : Bindings) : Prop where
  value : ∀ n ∉ empty ++ full, Text.OneLine (b.written n)
  list : ∀ n ∈ empty, b.find? n = some (.list [])

theorem Spelling.ownEnds (sp : Spelling t) (h : sp.plain empty full) (hb : Fits empty full b)
    (hprint : t.print b = .ok inks) : OwnEnds inks := by
  induction sp generalizing inks with
  | done =>
    cases hprint
    intro i hi
    cases hi
  | text cs rest ih =>
    rw [plain, Bool.and_eq_true] at h
    obtain ⟨rest, hrest, rfl⟩ := print_text_ok hprint
    rw [Ink.ofText, String.toList_ofList]
    refine (ownEnds_own ?_).append (ih h.2 hrest)
    simpa using h.1
  | value e rest ih =>
    cases e with
    | name n =>
      rw [plain, Bool.and_eq_true] at h
      obtain ⟨rest, hrest, rfl⟩ := print_put_ok hprint
      refine (ownEnds_value (hb.value n ?_)).append (ih h.2 hrest)
      simpa using h.1
    | _ => cases h
  | branch test yes no rest ihyes ihno ih =>
    rw [plain, Bool.and_eq_true, Bool.and_eq_true] at h
    obtain ⟨chosen, rest, hchosen, hrest, rfl⟩ := print_branch_ok hprint
    refine OwnEnds.append ?_ (ih h.2 hrest)
    rcases hchosen with hyes | hno
    · exact ihyes h.1.1 hyes
    · exact ihno h.1.2 hno
  | loop name source round instead rest _ ihinstead ih =>
    cases source with
    | name n =>
      rw [plain, Bool.and_eq_true, Bool.and_eq_true] at h
      obtain ⟨o, items, parts, other, rest, ho, hitems, hparts, hother, hrest, rfl⟩ :=
        print_loop_ok hprint
      -- nothing is repeated, since the list is empty
      have hfind := hb.list n (by simpa using h.1.1)
      rw [Expr.eval, hfind] at ho
      cases ho
      cases hitems
      have hnone : parts = [] := by
        refine List.eq_nil_iff_forall_not_mem.2 fun part hpart => ?_
        obtain ⟨v, hv, -⟩ := hparts part hpart
        cases hv
      rw [hnone, List.flatten_nil, List.nil_append]
      refine OwnEnds.append ?_ (ih h.2 hrest)
      rcases hother with rfl | hother
      · intro i hi
        cases hi
      · exact ihinstead h.1.2 hother
    | _ => cases h

/-- The lines of a page are those of its text, if only the template ends them. -/
theorem pieceChars_feed (h : OwnEnds inks) (p : Page) (hlast : '\n' ∉ p.last.map Ink.char) :
    p.lines.map (·.map Ink.char) ++ Text.pieceChars '\n' (p.last.map Ink.char ++ inks.map Ink.char)
      = ((p.feed inks).lines ++ [(p.feed inks).last]).map (·.map Ink.char) := by
  induction inks generalizing p with
  | nil =>
    rw [List.map_nil, List.append_nil, Text.pieceChars_of_not_mem hlast]
    simp
  | cons i rest ih =>
    have hrest : OwnEnds rest := fun j hj => h j (List.mem_cons_of_mem i hj)
    have hfeed : p.feed (i :: rest) = (p.put i).feed rest := rfl
    rw [hfeed]
    by_cases hi : i.char = '\n'
    · have hput : p.put i = ⟨p.lines ++ [p.last], []⟩ := by
        rw [Page.put, (h i List.mem_cons_self).2 hi, hi]
        rfl
      have hnext := ih hrest ⟨p.lines ++ [p.last], []⟩ (by simp)
      rw [hput, ← hnext, List.map_cons, hi, Text.pieceChars_append_sep hlast]
      simp
    · have hput : p.put i = ⟨p.lines, p.last ++ [i]⟩ := by
        rw [Page.put, if_neg (by simp [hi])]
      have hnext := ih hrest ⟨p.lines, p.last ++ [i]⟩ (by simpa [Ne.symm hi] using hlast)
      rw [hput, ← hnext]
      simp

theorem importLines_text (h : OwnEnds inks) :
    Text.importLines (inks.map Ink.char)
      = ((lines inks).filter (reads importing)).map (·.map Ink.char) := by
  have hpieces : Text.pieceChars '\n' (inks.map Ink.char)
      = (lines inks).map (·.map Ink.char) := by
    have hfeed := pieceChars_feed h .blank (by simp [Page.blank])
    simpa [Page.blank, lines] using hfeed
  rw [Text.importLines, hpieces, List.filter_map]
  refine congrArg _ (List.filter_congr fun line _ => ?_)
  simp [reads, importing]

/-- What a page holds is what was fed to it. -/
theorem unlines_feed (inks : List Ink) (p : Page) :
    Text.unlines ((p.feed inks).lines.map (·.map Ink.char)) ++ (p.feed inks).last.map Ink.char
      = Text.unlines (p.lines.map (·.map Ink.char)) ++ p.last.map Ink.char
        ++ inks.map Ink.char := by
  induction inks generalizing p with
  | nil => rw [Page.feed_nil, List.map_nil, List.append_nil]
  | cons i rest ih =>
    have hfeed : p.feed (i :: rest) = (p.put i).feed rest := rfl
    rw [hfeed, ih, Page.put]
    split
    · rename_i hend
      rw [Bool.and_eq_true, decide_eq_true_eq] at hend
      rw [List.map_append, Text.unlines_append]
      simp [Text.unlines, hend.2]
    · simp

/-- The text of a page whose lines are all ended. -/
theorem linesText_of_last {inks : List Ink} (h : (Page.blank.feed inks).last = []) :
    (Ink.text inks).toList = Text.linesText ((Page.blank.feed inks).lines.map Ink.text) := by
  have hchars := unlines_feed inks .blank
  have hempty : Text.unlines (Page.blank.lines.map (·.map Ink.char))
      ++ Page.blank.last.map Ink.char = [] := rfl
  rw [h, List.map_nil, List.append_nil, hempty, List.nil_append] at hchars
  have htext : String.toList ∘ Ink.text = (·.map Ink.char) :=
    funext fun line => String.toList_ofList
  rw [Ink.text, String.toList_ofList, Text.linesText, List.map_map, htext, hchars]

/-- Lines that are all ended make whole lines of text. -/
theorem whole_of_last {inks : List Ink} (h : (Page.blank.feed inks).last = []) :
    Text.Whole (inks.map Ink.char) := by
  rcases List.eq_nil_or_concat inks with rfl | ⟨front, i, rfl⟩
  · exact .inl rfl
  · rw [List.concat_eq_append] at h ⊢
    rw [Page.feed_append] at h
    change ((Page.blank.feed front).put i).last = [] at h
    unfold Page.put at h
    split at h
    · rename_i hend
      rw [Bool.and_eq_true, decide_eq_true_eq] at hend
      exact .inr ⟨front.map Ink.char, by simp [hend.2]⟩
    · simp at h

namespace Spelling

/-- The line is a text of the template's own. -/
def spells {t : Template} (sp : Spelling t) : Shape → Bool
  | [.own cs] => sp.texts.contains (cs ++ ['\n'])
  | _ => false

/-- All imports of the draft are references or own texts, and no reference is missing. -/
def accounts {t : Template} (sp : Spelling t) (refs : List Reference) (d : Draft) : Bool :=
  d.lines.all (fun shape => (refs.map Reference.line).contains shape || sp.spells shape)
    && refs.all fun r => d.lines.contains r.line

end Spelling

/-- Besides its own texts a template imports the references of one of the alternatives, whatever the
values are. -/
def Importing (empty full : List String) (t : Template) (alternatives : List (List Reference)) :
    Prop :=
  ∃ sp : Spelling t, sp.plain empty full = true ∧
    (scan importing sp [⟨[], .blank⟩]).any fun drafts =>
      drafts.all fun d => d.last = .blank && alternatives.any fun refs => sp.accounts refs d

variable {alternatives : List (List Reference)}

theorem Importing.ownEnds (h : Importing empty full t alternatives) (hb : Fits empty full b)
    (hprint : t.print b = .ok inks) : OwnEnds inks := by
  obtain ⟨sp, hplain, -⟩ := h
  exact sp.ownEnds hplain hb hprint

theorem OwnEnds.no_return (h : OwnEnds inks) : '\r' ∉ (Ink.text inks).toList := by
  rw [Ink.text, String.toList_ofList]
  intro hmem
  obtain ⟨i, hi, hchar⟩ := List.mem_map.1 hmem
  exact (h i hi).1 hchar

/-- The draft that a source came out as accounts for the references of one of the alternatives. -/
theorem Importing.exists_draft (h : Importing empty full t alternatives)
    (hprint : t.print b = .ok inks) :
    ∃ sp : Spelling t, sp.plain empty full = true ∧ ∃ d : Draft, ∃ refs ∈ alternatives,
      sp.accounts refs d = true ∧
      (lines inks).filter (begins importing) = d.lines.map (Shape.inks b) ∧
      (Page.blank.feed inks).last = [] ∧
      ∀ line ∈ lines inks, reads importing line → begins importing line := by
  obtain ⟨sp, hplain, hdrafts⟩ := h
  obtain ⟨drafts, hscan, hall⟩ := (Option.any_eq_true _ _).1 hdrafts
  have hdraft : ∀ d ∈ drafts, d.last = .blank ∧
      ∃ refs ∈ alternatives, sp.accounts refs d := by
    intro d hd
    simpa using List.all_eq_true.1 hall d hd
  obtain ⟨d, hd, hlines⟩ := scan_lines (by decide) hscan (fun d hd => (hdraft d hd).1) hprint
  obtain ⟨refs, hrefs, haccounts⟩ := (hdraft d hd).2
  exact ⟨sp, hplain, d, refs, hrefs, haccounts, hlines⟩

/-- The imports of a source that was printed. -/
theorem imports_of_print (h : Importing empty full t alternatives) (hb : Fits empty full b)
    (hprint : t.print b = .ok inks) :
    ∃ refs ∈ alternatives,
      (∀ line ∈ Text.imports (Ink.text inks),
        line ++ "\n" ∈ t.texts ∨ ∃ r ∈ refs, line = r.written b) ∧
      ∀ r ∈ refs, r.written b ∈ Text.imports (Ink.text inks) := by
  obtain ⟨sp, hplain, d, refs, hrefs, haccounts, hlines, -, hown⟩ := h.exists_draft hprint
  have himports : Text.imports (Ink.text inks)
      = d.lines.map fun shape => Ink.text (Shape.inks b shape) := by
    have hsame : (lines inks).filter (reads importing) = (lines inks).filter (begins importing) :=
      List.filter_congr fun line hline =>
        Bool.eq_iff_iff.2 ⟨hown line hline, reads_of_begins⟩
    rw [Text.imports, Ink.text, String.toList_ofList,
      importLines_text (sp.ownEnds hplain hb hprint), hsame, hlines, List.map_map, List.map_map]
    rfl
  rw [Spelling.accounts, Bool.and_eq_true, List.all_eq_true, List.all_eq_true] at haccounts
  refine ⟨refs, hrefs, fun line hline => ?_, fun r hr => ?_⟩
  · rw [himports] at hline
    obtain ⟨shape, hshape, rfl⟩ := List.mem_map.1 hline
    have hkind := haccounts.1 shape hshape
    rw [Bool.or_eq_true] at hkind
    rcases hkind with href | hspelt
    · obtain ⟨r, hr, rfl⟩ := List.mem_map.1 (List.contains_iff_mem.1 href)
      exact .inr ⟨r, hr, r.text_line b⟩
    · unfold Spelling.spells at hspelt
      split at hspelt
      · rename_i cs
        refine .inl ?_
        have hmem := sp.mem_texts (List.contains_iff_mem.1 hspelt)
        have htext : Ink.text (Shape.inks b [.own cs]) ++ "\n" = .ofList (cs ++ ['\n']) := by
          rw [← String.toList_inj]
          simp [Shape.inks, Piece.inks]
        rwa [htext]
      · cases hspelt
  · rw [himports, ← r.text_line b]
    exact List.mem_map_of_mem (List.contains_iff_mem.1 (haccounts.2 r hr))

/-- Whatever the values are, a source has a line for each reference of one of the alternatives. -/
theorem lines_of_print (h : Importing empty full t alternatives) (hprint : t.print b = .ok inks) :
    ∃ refs ∈ alternatives, ∃ ls : List String, (Ink.text inks).toList = Text.linesText ls ∧
      ∀ r ∈ refs, r.written b ∈ ls := by
  obtain ⟨sp, -, d, refs, hrefs, haccounts, hlines, hlast, -⟩ := h.exists_draft hprint
  rw [Spelling.accounts, Bool.and_eq_true, List.all_eq_true, List.all_eq_true] at haccounts
  refine ⟨refs, hrefs, _, linesText_of_last hlast, fun r hr => ?_⟩
  have hshape : r.line ∈ d.lines := List.contains_iff_mem.1 (haccounts.2 r hr)
  have hmarked : r.line.inks b ∈ (lines inks).filter (begins importing) := by
    rw [hlines]
    exact List.mem_map_of_mem hshape
  obtain ⟨hmem, hbegins⟩ := List.mem_filter.1 hmarked
  rw [lines, hlast, List.mem_append, List.mem_singleton] at hmem
  rcases hmem with hmem | hempty
  · rw [← r.text_line b]
    exact List.mem_map_of_mem hmem
  · rw [hempty] at hbegins
    exact absurd hbegins (by decide)

namespace Bundled

/-- The templates of sources but for the model, with what they import from the project. -/
def references : List (String × List (List Reference)) :=
  [("controller.java.j2",
      [[⟨"model_package", .named "model_name"⟩, ⟨"service_package", .named "service_name"⟩]]),
    ("repository.java.j2", [[⟨"model_package", .named "model_name"⟩]]),
    ("service.java.j2",
      [[⟨"model_package", .named "model_name"⟩, ⟨"repository_package", .named "repository_name"⟩]]),
    ("service_interface.java.j2", [[⟨"model_package", .named "model_name"⟩]]),
    ("service_impl.java.j2",
      [[⟨"model_package", .named "model_name"⟩, ⟨"repository_package", .named "repository_name"⟩]]),
    ("security/auth_controller.java.j2",
      [["JwtRequest", "JwtResponse", "JwtUtils", "UserPrincipal"].map fun name =>
        ⟨"package_name", .own name.toList⟩, []]),
    ("security/user_details_service_impl.java.j2",
      [[⟨"user_package", .named "user_entity"⟩,
        ⟨"user_repository_package", .named "user_repository_name"⟩]]),
    ("security/user_principal.java.j2", [[⟨"user_package", .named "user_entity"⟩]]),
    ("security/security_config.java.j2", [[]]),
    ("security/jwt_utils.java.j2", [[]]),
    ("security/jwt_authentication_entry_point.java.j2", [[]]),
    ("security/jwt_authentication_filter.java.j2", [[]]),
    ("security/jwt_request.java.j2", [[]]),
    ("security/jwt_response.java.j2", [[]])]

theorem importing_of_mem : ∀ entry ∈ references,
    ∃ t, catalogue.lookup entry.1 = some t ∧ Importing [] [] t entry.2 := by
  intro entry h
  simp only [references, List.mem_cons, List.not_mem_nil, or_false] at h
  rcases h with rfl | rfl | rfl | rfl | rfl | rfl | rfl | rfl | rfl | rfl | rfl | rfl | rfl | rfl
  all_goals
    exact ⟨_, rfl, by repeat' constructor, by decide +kernel, by decide +kernel⟩

/-- The model prints one import for each item of its list, and has no others of its own. -/
theorem model_parts : ∃ rest,
    model = .text "package " (.put "package_name" <| .text ";\n" <| .text "\n" <|
      .loop "qualified" (.name "imports")
        (.text "import " <| .put "qualified" <| .text ";\n" .done) .done rest) ∧
    Importing ["fields"] ["imports"] rest [[]] :=
  ⟨_, rfl, by repeat' constructor, by decide +kernel, by decide +kernel⟩

/-- One import of the list. -/
theorem importLines_part {q : String} {part : List Ink} (hq : Text.OneLine q)
    (h : Template.print (("qualified", .text q) :: b)
      (.text "import " <| .put "qualified" <| .text ";\n" .done) = .ok part) :
    OwnEnds part ∧ Text.Whole (part.map Ink.char) ∧
      Text.importLines (part.map Ink.char) = [("import " ++ q ++ ";").toList] := by
  obtain ⟨afterWord, hput, rfl⟩ := print_text_ok h
  obtain ⟨afterName, hend, rfl⟩ := print_put_ok hput
  obtain ⟨rest, hdone, rfl⟩ := print_text_ok hend
  cases hdone
  have hwritten : Bindings.written (("qualified", .text q) :: b) "qualified" = q := rfl
  have hchars : (Ink.ofText true "import " ++ (Ink.ofText false q ++ (Ink.ofText true ";\n" ++ []))).map
      Ink.char = ("import " ++ q ++ ";").toList ++ ['\n'] := by
    have hend : ";\n".toList = [';', '\n'] := by decide
    simp [Ink.ofText, Ink.ofChars, Function.comp_def, hend]
  have hline : '\n' ∉ ("import " ++ q ++ ";").toList := by
    simp only [String.toList_append, List.mem_append, not_or]
    exact ⟨⟨by decide, hq.no_end⟩, by decide⟩
  have hword : "import ".toList.isPrefixOf ("import " ++ q ++ ";").toList = true := by
    rw [String.append_assoc, String.toList_append, List.isPrefixOf_iff_prefix]
    exact List.prefix_append _ _
  rw [hwritten, hchars, Text.importLines_line hline, if_pos hword]
  refine ⟨?_, .inr ⟨_, rfl⟩, rfl⟩
  have hempty : OwnEnds [] := by
    intro i hi
    cases hi
  exact (ownEnds_own (by decide)).append ((ownEnds_value hq).append
    ((ownEnds_own (by decide)).append hempty))

/-- The imports of a model. -/
theorem imports_of_model {qs : List String} (hb : Fits ["fields"] ["imports"] b)
    (hlist : b.find? "imports" = some (.list (qs.map .text))) (hqs : ∀ q ∈ qs, Text.OneLine q)
    (hprint : model.print b = .ok inks) :
    OwnEnds inks ∧ ∀ line ∈ Text.imports (Ink.text inks),
      line ++ "\n" ∈ model.texts ∨ ∃ q ∈ qs, line = "import " ++ q ++ ";" := by
  obtain ⟨rest, hmodel, himporting⟩ := model_parts
  rw [hmodel] at hprint
  obtain ⟨afterWord, hput, rfl⟩ := print_text_ok hprint
  obtain ⟨afterName, hend, rfl⟩ := print_put_ok hput
  obtain ⟨afterLine, hempty, rfl⟩ := print_text_ok hend
  obtain ⟨afterEmpty, hloop, rfl⟩ := print_text_ok hempty
  obtain ⟨o, items, parts, instead, back, ho, hitems, hparts, hinstead, hback, rfl⟩ :=
    print_loop_ok hloop
  have hnone : instead = [] := by
    rcases hinstead with h | h
    · exact h
    · cases h
      rfl
  subst hnone
  rw [Expr.eval, hlist] at ho
  cases ho
  cases hitems
  have hpart : ∀ part ∈ parts, OwnEnds part ∧ Text.Whole (part.map Ink.char) ∧
      ∃ q ∈ qs, Text.importLines (part.map Ink.char) = [("import " ++ q ++ ";").toList] := by
    intro part h
    obtain ⟨v, hv, hprinted⟩ := hparts part h
    obtain ⟨q, hq, rfl⟩ := List.mem_map.1 hv
    obtain ⟨hown, hwhole, hline⟩ := importLines_part (hqs q hq) hprinted
    exact ⟨hown, hwhole, q, hq, hline⟩
  have hname := hb.value "package_name" (by decide)
  refine ⟨?_, fun line hline => ?_⟩
  · have hflat : OwnEnds parts.flatten := by
      intro i hi
      obtain ⟨part, h, hi⟩ := List.mem_flatten.1 hi
      exact (hpart part h).1 i hi
    refine (ownEnds_own (by decide)).append ((ownEnds_value hname).append ?_)
    refine (ownEnds_own (by decide)).append ((ownEnds_own (by decide)).append ?_)
    rw [List.append_nil]
    exact hflat.append (himporting.ownEnds hb hback)
  · obtain ⟨refs, hrefs, hown, -⟩ := imports_of_print himporting hb hback
    cases List.mem_singleton.1 hrefs
    have htext : Ink.text (Ink.ofText true "package " ++
        (Ink.ofText false (b.written "package_name") ++ (Ink.ofText true ";\n" ++
          (Ink.ofText true "\n" ++ (parts.flatten ++ [] ++ back)))))
        = Text.packageLines (b.written "package_name")
          ++ .ofList ((parts.map (·.map Ink.char)).flatten ++ back.map Ink.char) := by
      have hends : ";\n\n" = ";\n" ++ "\n" := rfl
      have hlater : Ink.text (parts.flatten ++ [] ++ back)
          = .ofList ((parts.map (·.map Ink.char)).flatten ++ back.map Ink.char) := by
        rw [Ink.text, List.append_nil, List.map_append, List.map_flatten]
      rw [Ink.text_append, Ink.text_append, Ink.text_append, Ink.text_append, hlater,
        Ink.text_ofText, Ink.text_ofText, Ink.text_ofText, Ink.text_ofText, Text.packageLines,
        hends, String.append_assoc, String.append_assoc, String.append_assoc]
    have hwhole : ∀ l ∈ parts.map (·.map Ink.char), Text.Whole l := by
      intro l hl
      obtain ⟨part, h, rfl⟩ := List.mem_map.1 hl
      exact (hpart part h).2.1
    rw [Text.mem_imports, htext, String.toList_append, String.toList_ofList,
      Text.importLines_append (Text.whole_packageLines _),
      Text.importLines_packageLines hname.no_end, List.nil_append,
      Text.importLines_append (.flatten hwhole), List.mem_append] at hline
    rcases hline with hline | hline
    · obtain ⟨l, hl, hline⟩ := Text.mem_importLines_flatten hwhole hline
      obtain ⟨part, h, rfl⟩ := List.mem_map.1 hl
      obtain ⟨-, -, q, hq, hone⟩ := hpart part h
      rw [hone, List.mem_singleton, String.toList_inj] at hline
      exact .inr ⟨q, hq, hline⟩
    · have hback' : line ∈ Text.imports (Ink.text back) := by
        rw [Text.mem_imports, Ink.text, String.toList_ofList]
        exact hline
      rcases hown line hback' with htext | ⟨r, hr, -⟩
      · refine .inl ?_
        rw [hmodel]
        simp only [texts, List.mem_cons, List.mem_append]
        exact .inr (.inr (.inr (.inr htext)))
      · cases hr

end Bundled

end Template

end Groundwork
