import Groundwork.Proofs.Template.Print
import Groundwork.Proofs.Text.Utf8
import Groundwork.Template.Store

/-!
# A template in a file and the same template in a text

Both ways of rendering read the template alike, evaluate it alike and fail alike. They differ in
what is done to the values: a template that is given as a text has them escaped for markup, a
template in a file has not. So the two texts are the same exactly where nothing is escaped.
-/

namespace Groundwork.Template

/-- The characters that mean something in markup. -/
def markupChars : List Char := ['&', '<', '>', '\x27', '\x22']

namespace Ink

theorem length_escapeChar {c : Char} (h : c ∈ markupChars) : 1 < (escapeChar c).length := by
  simp only [markupChars, List.mem_cons, List.not_mem_nil, or_false] at h
  rcases h with rfl | rfl | rfl | rfl | rfl <;> decide

theorem escapeChar_of_not_mem {c : Char} (h : c ∉ markupChars) : escapeChar c = [c] := by
  simp only [markupChars, List.mem_cons, List.not_mem_nil, or_false, not_or] at h
  obtain ⟨hamp, hlt, hgt, hquote, hdouble⟩ := h
  rw [escapeChar, if_neg hamp, if_neg hlt, if_neg hgt, if_neg hquote, if_neg hdouble]

/-- The character is printed as it is. -/
def Plain (i : Ink) : Prop :=
  i.own = false → i.char ∉ markupChars

theorem shown_of_plain {i : Ink} (h : i.Plain) : shown .markup i = [i.char] := by
  rw [shown]
  cases hown : i.own with
  | true => rfl
  | false => exact escapeChar_of_not_mem (h hown)

theorem length_shown_of_not_plain {i : Ink} (h : ¬ i.Plain) : 1 < (shown .markup i).length := by
  obtain ⟨hown, hmem⟩ := Classical.not_imp.1 h
  rw [shown, hown]
  exact length_escapeChar (Classical.not_not.1 hmem)

theorem length_shown_pos (i : Ink) : 1 ≤ (shown .markup i).length := by
  by_cases h : i.Plain
  · rw [shown_of_plain h]
    exact Nat.le_refl 1
  · exact Nat.le_of_lt (length_shown_of_not_plain h)

theorem length_le_shown (inks : List Ink) : inks.length ≤ (inks.flatMap (shown .markup)).length := by
  induction inks with
  | nil => exact Nat.le_refl 0
  | cons i rest ih =>
    have hi := length_shown_pos i
    rw [List.flatMap_cons, List.length_append, List.length_cons]
    omega

/-- Escaping lengthens whatever it changes, so a changed character is not made up for later. -/
theorem shown_eq_iff (inks : List Ink) :
    inks.flatMap (shown .markup) = inks.map char ↔ ∀ i ∈ inks, i.Plain := by
  induction inks with
  | nil => simp
  | cons i rest ih =>
    rw [List.flatMap_cons, List.map_cons, List.forall_mem_cons]
    constructor
    · intro h
      have hplain : i.Plain := by
        apply Classical.byContradiction
        intro hi
        have hlong := length_shown_of_not_plain hi
        have hrest := length_le_shown rest
        have hlength := congrArg List.length h
        rw [List.length_append, List.length_cons, List.length_map] at hlength
        omega
      rw [shown_of_plain hplain] at h
      exact ⟨hplain, ih.1 (List.cons.inj h).2⟩
    · rintro ⟨hplain, hrest⟩
      rw [shown_of_plain hplain, ih.2 hrest]
      rfl

theorem shownText_eq_text_iff (inks : List Ink) :
    shownText .markup inks = text inks ↔ ∀ i ∈ inks, i.Plain := by
  rw [shownText, text, String.ofList_inj]
  exact shown_eq_iff inks

end Ink

section

variable {source name : String} {parts : List String} {tree : Tree} {dir : Path}

/-- A file that holds the text is read as the text is. -/
theorem load_of_holds (hname : nameParts? name = some parts)
    (hfile : Store.source? tree dir parts = some (Text.Utf8.encode source.toList)) :
    (Store.directory dir).load tree name =
      (Template.ofText source).mapError fun fault => .template name (.badSyntax fault) := by
  simp only [Store.load, hname, hfile, Text.Utf8.decode_encode, String.ofList_toList]

/-- How the two ways of rendering a template end: with the same fault, or with what the template
prints, where only the text that was given inline has its values escaped. -/
theorem inline_and_file (bindings : Bindings) (hname : nameParts? name = some parts)
    (hfile : Store.source? tree dir parts = some (Text.Utf8.encode source.toList)) :
    (∃ fault,
      (Store.directory dir).render tree name bindings = .error (.ofTemplate name fault) ∧
      renderText source bindings = .error (.ofTemplate "<string>" fault)) ∨
    (∃ template inks, Template.ofText source = .ok template ∧ template.print bindings = .ok inks ∧
      (Store.directory dir).render tree name bindings = .ok (Ink.text inks) ∧
      renderText source bindings = .ok (Ink.shownText .markup inks) ∧
      (Ink.shownText .markup inks = Ink.text inks ↔
        ∀ i ∈ inks, i.own = false → i.char ∉ markupChars)) := by
  rw [Store.render, load_of_holds hname hfile, renderText]
  cases hread : Template.ofText source with
  | error fault => exact .inl ⟨.badSyntax fault, rfl, rfl⟩
  | ok template =>
    simp only [mapError_ok, bind, Except.bind]
    rw [Template.render, Template.render]
    cases hmissing : template.unknownFilter? false with
    | some filter => exact .inl ⟨.noFilter filter, rfl, rfl⟩
    | none =>
      rw [fill_off, fill_eq]
      cases hprint : template.print bindings with
      | error fault => exact .inl ⟨fault, rfl, rfl⟩
      | ok inks =>
        exact .inr ⟨template, inks, rfl, hprint, rfl, rfl, Ink.shownText_eq_text_iff inks⟩

end

/-- A template of one line that prints a type. -/
def typeLine : String := "private \x7b\x7b type \x7d\x7d value;\n"

/-- A directory that holds it. -/
def typeTree : Tree :=
  let t := (Tree.empty.ensureDirectory (.ofText "t")).1
  ((t.create (.ofText "t/field.j2") (.file (Text.Utf8.encode typeLine.toList))).toOption).getD t

theorem typeLine_found : nameParts? "field.j2" = some ["field.j2"] ∧
    Store.source? typeTree (.ofText "t") ["field.j2"] =
      some (Text.Utf8.encode typeLine.toList) := by
  decide +kernel

theorem render_typeLine :
    (Store.directory (.ofText "t")).render typeTree "field.j2" [("type", .text "List<String>")] =
        .ok "private List<String> value;\n" ∧
      renderText typeLine [("type", .text "List<String>")] =
        .ok "private List&lt;String&gt; value;\n" := by
  have hboth : ((Store.directory (.ofText "t")).render typeTree "field.j2"
        [("type", .text "List<String>")]).toOption = some "private List<String> value;\n" ∧
      (renderText typeLine [("type", .text "List<String>")]).toOption =
        some "private List&lt;String&gt; value;\n" := by
    decide +kernel
  exact ⟨ok_of_toOption hboth.1, ok_of_toOption hboth.2⟩

/-- A generic type has two of the characters. -/
theorem inline_and_file_of_generic_type : ∃ template inks, Template.ofText typeLine = .ok template ∧
    template.print [("type", .text "List<String>")] = .ok inks ∧
    Ink.text inks = "private List<String> value;\n" ∧
    Ink.shownText .markup inks = "private List&lt;String&gt; value;\n" ∧
    ¬ ∀ i ∈ inks, i.own = false → i.char ∉ markupChars := by
  obtain ⟨hfile, hinline⟩ := render_typeLine
  rcases inline_and_file [("type", .text "List<String>")] typeLine_found.1 typeLine_found.2 with
    ⟨fault, hfault, -⟩ | ⟨template, inks, hread, hprint, hraw, hescaped, hsame⟩
  · rw [hfile] at hfault
    cases hfault
  · obtain hraw := Except.ok.inj (hraw.symm.trans hfile)
    obtain hescaped := Except.ok.inj (hescaped.symm.trans hinline)
    rw [hraw, hescaped] at hsame
    exact ⟨template, inks, hread, hprint, hraw, hescaped,
      fun hall => absurd (hsame.2 hall) (by decide)⟩

/-- One template and one value, and two texts. -/
theorem generic_type_escaped_inline :
    ∃ text inline,
      (Store.directory (.ofText "t")).render typeTree "field.j2" [("type", .text "List<String>")] =
        .ok text ∧
      renderText typeLine [("type", .text "List<String>")] = .ok inline ∧ text ≠ inline :=
  ⟨_, _, render_typeLine.1, render_typeLine.2, by decide⟩

end Groundwork.Template
