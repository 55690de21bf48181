import Groundwork.Proofs.Template.Scan
import Groundwork.Generate.Security

/-!
# What a source says of itself

A source names its package in the first line, and its class or interface in the line that declares
it at the top level. For the templates that come with the library both are known before there are
values: the name that the package is printed from, and the parts of the name that is declared.
-/

namespace Groundwork

/-- The text in front of the first line end. -/
def Text.firstLine (s : String) : String :=
  .ofList (s.toList.takeWhile (· ≠ '\n'))

namespace Template

/-- What a line at the top level begins with that declares a class or an interface. -/
def declaring : List String :=
  ["public class ", "public interface ", "class ", "interface "]

/-- The name that a line declares: what follows, up to the next space. -/
def declaredName? (line : List Ink) : Option String :=
  (declaring.find? fun w => (Ink.ofText true w).isPrefixOf line).map fun w =>
    Ink.text ((line.drop w.toList.length).takeWhile (·.char ≠ ' '))

/-- The classes and interfaces that are declared at the top level. -/
def declared (inks : List Ink) : List String :=
  (lines inks).filterMap declaredName?

namespace Shape

def upToSpace : Shape → Shape
  | [] => []
  | .named name :: rest => .named name :: upToSpace rest
  | .own cs :: rest =>
    if ' ' ∈ cs then [.own (cs.takeWhile (· ≠ ' '))] else .own cs :: upToSpace rest

/-- The parts of the name that a line declares. -/
def declaredName? : Shape → Option Shape
  | .own cs :: rest =>
    (declaring.find? fun w => w.toList.isPrefixOf cs).map fun w =>
      (upToSpace (.own (cs.drop w.toList.length) :: rest)).filter (· ≠ .own [])
  | _ => none

end Shape

/-- The name that the only marked line of a draft declares. -/
def Draft.declaredName? : Draft → Option Shape
  | ⟨[shape], .blank⟩ => shape.declaredName?
  | _ => none

/-- The name that a source prints as its package, and the parts of the name that it declares. -/
structure Heading where
  package : String
  name : Shape
  deriving Repr, DecidableEq

/-- Whatever the values are, the template names its package first and declares one thing. -/
structure Headed (t : Template) (heading : Heading) : Prop where
  package : ∃ next, t = .text "package " (put heading.package (.text ";\n" next))
  name : ∃ sp : Spelling t, (scan declaring sp [⟨[], .blank⟩]).any fun drafts =>
    drafts.all fun d => d.declaredName? = some heading.name

variable {b : Bindings} {line : List Ink} {t : Template} {shape name : Shape}
  {heading : Heading} {w : String} {cs : List Char}

theorem declaring_apart : ∀ w ∈ declaring, ∀ w' ∈ declaring,
    w.toList <+: w'.toList → w = w' := by
  decide

theorem declaredName?_of_start (hw : w ∈ declaring) (h : Ink.ofText true w <+: line) :
    declaredName? line = some (Ink.text ((line.drop w.toList.length).takeWhile (·.char ≠ ' '))) := by
  have hfits : (Ink.ofText true w).isPrefixOf line = true := List.isPrefixOf_iff_prefix.2 h
  cases hfound : declaring.find? fun w => (Ink.ofText true w).isPrefixOf line with
  | none => exact absurd hfits (List.find?_eq_none.1 hfound w hw)
  | some w' =>
    have hw' := List.mem_of_find?_eq_some hfound
    have hfits' : (Ink.ofText true w').isPrefixOf line = true :=
      List.find?_some (p := fun w => (Ink.ofText true w).isPrefixOf line) hfound
    have h' := List.isPrefixOf_iff_prefix.1 hfits'
    have hsame : w = w' := by
      rcases List.prefix_or_prefix_of_prefix h h' with hp | hp
      · exact declaring_apart w hw w' hw' (ofChars_prefix_iff.1 hp)
      · exact (declaring_apart w' hw' w hw (ofChars_prefix_iff.1 hp)).symm
    rw [declaredName?, hfound, hsame]
    rfl

theorem begins_of_declaredName? (h : (declaredName? line).isSome) : begins declaring line := by
  rw [declaredName?, Option.isSome_map, List.find?_isSome] at h
  rw [begins, List.any_eq_true]
  exact h

/-- Only marked lines declare anything. -/
theorem declared_eq (inks : List Ink) :
    declared inks = ((lines inks).filter (begins declaring)).filterMap declaredName? := by
  rw [declared, List.filterMap_filter]
  have hsame : declaredName? = fun line =>
      if begins declaring line = true then declaredName? line else none := by
    funext line
    split
    · rfl
    · rename_i hno
      cases hn : declaredName? line with
      | none => rfl
      | some name => exact absurd (begins_of_declaredName? (by rw [hn]; rfl)) hno
  rw [← hsame]

namespace Shape

theorem inks_filter (b : Bindings) (shape : Shape) :
    inks b (shape.filter (· ≠ .own [])) = inks b shape := by
  induction shape with
  | nil => rfl
  | cons p rest ih =>
    have hcons (more : Shape) : inks b (p :: more) = p.inks b ++ inks b more := rfl
    by_cases hp : p = .own []
    · rw [List.filter_cons_of_neg (by simpa using hp), ih, hcons, hp]
      rfl
    · rw [List.filter_cons_of_pos (by simpa using hp), hcons, hcons, ih]

/-- Values without spaces do not end a name. -/
theorem takeWhile_inks (h : ∀ n, .named n ∈ upToSpace shape → ' ' ∉ (b.written n).toList) :
    (inks b shape).takeWhile (·.char ≠ ' ') = inks b (upToSpace shape) := by
  induction shape with
  | nil => rfl
  | cons p rest ih =>
    have hcons (more : Shape) : inks b (p :: more) = p.inks b ++ inks b more := rfl
    have hpass {own : Bool} {cs : List Char} (hs : ' ' ∉ cs) :
        ∀ i ∈ Ink.ofChars own cs, decide (i.char ≠ ' ') = true := by
      intro i hi
      obtain ⟨c, hc, rfl⟩ := List.mem_map.1 hi
      rw [decide_eq_true_eq]
      rintro rfl
      exact hs hc
    cases p with
    | named n =>
      have hrest := ih fun m hm => h m (List.mem_cons_of_mem _ hm)
      rw [hcons, Piece.inks, Ink.ofText,
        List.takeWhile_append_of_pos (hpass (h n List.mem_cons_self)), hrest]
      rfl
    | own cs =>
      by_cases hs : ' ' ∈ cs
      · have hend : (Ink.ofChars true cs).takeWhile (·.char ≠ ' ')
            = Ink.ofChars true (cs.takeWhile (· ≠ ' ')) := by
          rw [Ink.ofChars, List.takeWhile_map]
          rfl
        have hshort : ((Ink.ofChars true cs).takeWhile (·.char ≠ ' ')).length
            ≠ (Ink.ofChars true cs).length := by
          intro hlength
          have hall := List.all_takeWhile (l := Ink.ofChars true cs) (p := (·.char ≠ ' '))
          rw [(List.takeWhile_prefix _).eq_of_length hlength, List.all_eq_true] at hall
          have hspace := hall ⟨' ', true⟩ (List.mem_map_of_mem hs)
          simp at hspace
        rw [upToSpace, if_pos hs, hcons, Piece.inks, List.takeWhile_append, if_neg hshort, hend]
        simp [inks, Piece.inks]
      · have hrest := ih fun m hm => h m (by
          rw [upToSpace, if_neg hs]
          exact List.mem_cons_of_mem _ hm)
        rw [upToSpace, if_neg hs, hcons, hcons, Piece.inks, List.takeWhile_append_of_pos (hpass hs),
          hrest]

/-- The name that a line declares, once there are values. -/
theorem declaredName?_inks (h : shape.declaredName? = some name)
    (hspace : ∀ n, .named n ∈ name → ' ' ∉ (b.written n).toList) :
    Template.declaredName? (shape.inks b) = some (Ink.text (name.inks b)) := by
  cases shape with
  | nil => cases h
  | cons p rest =>
    cases p with
    | named n => cases h
    | own cs =>
      obtain ⟨w, hfound, rfl⟩ := Option.map_eq_some_iff.1 h
      have hw := List.mem_of_find?_eq_some hfound
      have hfits : w.toList.isPrefixOf cs = true :=
        List.find?_some (p := fun w : String => w.toList.isPrefixOf cs) hfound
      obtain ⟨after, rfl⟩ := List.isPrefixOf_iff_prefix.1 hfits
      have hline : inks b (.own (w.toList ++ after) :: rest)
          = Ink.ofText true w ++ inks b (.own after :: rest) := by
        show Ink.ofChars true _ ++ inks b rest = _ ++ (Ink.ofChars true after ++ inks b rest)
        rw [Ink.ofChars_append, List.append_assoc]
        rfl
      have hname : ∀ n, .named n ∈ upToSpace (.own after :: rest) →
          ' ' ∉ (b.written n).toList := by
        intro n hn
        refine hspace n (List.mem_filter.2 ⟨?_, by simp⟩)
        rw [List.drop_left]
        exact hn
      have hlength : w.toList.length = (Ink.ofText true w).length := by
        rw [Ink.ofText, Ink.ofChars, List.length_map]
      rw [declaredName?_of_start hw (hline ▸ List.prefix_append _ _), hline, List.drop_left,
        inks_filter, hlength, List.drop_left, takeWhile_inks hname]

end Shape

theorem Draft.declaredName?_eq {d : Draft} (h : d.declaredName? = some name) :
    ∃ shape, d = ⟨[shape], .blank⟩ ∧ shape.declaredName? = some name := by
  unfold Draft.declaredName? at h
  split at h
  · exact ⟨_, rfl, h⟩
  · cases h

/-- A source with a heading declares the name of its heading, and nothing else. -/
theorem Headed.declared {inks : List Ink} (h : Headed t heading) (hprint : t.print b = .ok inks)
    (hspace : ∀ n, .named n ∈ heading.name → ' ' ∉ (b.written n).toList) :
    Template.declared inks = [Ink.text (heading.name.inks b)] := by
  obtain ⟨sp, hdrafts⟩ := h.name
  obtain ⟨drafts, hscan, hall⟩ := (Option.any_eq_true _ _).1 hdrafts
  have hname : ∀ d ∈ drafts, d.declaredName? = some heading.name := by
    intro d hd
    simpa using List.all_eq_true.1 hall d hd
  have hended : ∀ d ∈ drafts, d.last = .blank := by
    intro d hd
    obtain ⟨shape, rfl, -⟩ := Draft.declaredName?_eq (hname d hd)
    rfl
  obtain ⟨d, hd, hlines, -⟩ := scan_lines (by decide) hscan hended hprint
  obtain ⟨shape, rfl, hshape⟩ := Draft.declaredName?_eq (hname d hd)
  rw [declared_eq, hlines, List.map_singleton, List.filterMap_cons,
    Shape.declaredName?_inks hshape hspace]
  rfl

/-- A source with a heading names its package in its first line. -/
theorem Headed.firstLine {inks : List Ink} (h : Headed t heading) (hprint : t.print b = .ok inks)
    (hline : '\n' ∉ (b.written heading.package).toList) :
    Text.firstLine (Ink.text inks) = "package " ++ b.written heading.package ++ ";" := by
  obtain ⟨next, rfl⟩ := h.package
  obtain ⟨afterWord, hput, rfl⟩ := print_text_ok hprint
  obtain ⟨afterName, htext, rfl⟩ := print_put_ok hput
  obtain ⟨rest, -, rfl⟩ := print_text_ok htext
  have hfirst : '\n' ∉ ("package " ++ b.written heading.package ++ ";").toList := by
    simp only [String.toList_append, List.mem_append, not_or]
    exact ⟨⟨by decide, hline⟩, by decide⟩
  have hend : ";\n" = ";" ++ "\n" := rfl
  simp only [Ink.text_append, Ink.text_ofText]
  rw [hend, ← String.append_assoc, ← String.append_assoc, ← String.append_assoc]
  rw [Text.firstLine, String.toList_append, String.toList_append, List.append_assoc,
    List.takeWhile_append_of_pos]
  · have hstop (more : List Char) : ("\n".toList ++ more).takeWhile (· ≠ '\n') = [] := rfl
    rw [hstop, List.append_nil, String.ofList_toList]
  · intro c hc
    rw [decide_eq_true_eq]
    rintro rfl
    exact hfirst hc

namespace Bundled

/-- The templates of sources, with their headings. -/
def headings : List (String × Heading) :=
  [("model.java.j2", ⟨"package_name", [.named "class_name"]⟩),
    ("controller.java.j2", ⟨"package_name", [.named "controller_name"]⟩),
    ("repository.java.j2", ⟨"package_name", [.named "repository_name"]⟩),
    ("service.java.j2", ⟨"package_name", [.named "service_name"]⟩),
    ("service_interface.java.j2", ⟨"package_name", [.named "interface_name"]⟩),
    ("service_impl.java.j2", ⟨"package_name", [.named "implementation_name"]⟩),
    ("project/main.java.j2", ⟨"base_package", [.named "main_class_name"]⟩),
    ("project/test.java.j2", ⟨"base_package", [.named "main_class_name", .own "Tests".toList]⟩),
    ("security/auth_controller.java.j2", ⟨"controller_package", [.own "AuthController".toList]⟩)]
      ++ Generate.securityClasses.map fun (className, template) =>
        (template, ⟨"package_name", [.own className.toList]⟩)

theorem nameParts?_of_mem_catalogue : ∀ entry ∈ catalogue,
    (nameParts? entry.1).map ("/".intercalate ·) = some entry.1 := by
  decide +kernel

theorem headed_of_mem : ∀ entry ∈ headings,
    ∃ t, catalogue.lookup entry.1 = some t ∧ Headed t entry.2 := by
  intro entry h
  simp only [headings, Generate.securityClasses, List.map_cons, List.map_nil, List.cons_append,
    List.nil_append, List.mem_cons, List.not_mem_nil, or_false] at h
  rcases h with rfl | rfl | rfl | rfl | rfl | rfl | rfl | rfl | rfl | rfl | rfl | rfl | rfl | rfl
    | rfl | rfl | rfl
  all_goals
    exact ⟨_, rfl, ⟨_, rfl⟩, by repeat' constructor, by decide +kernel⟩

/-- Every template of the library is found under its name. -/
theorem load_eq {template : String} (h : catalogue.lookup template = some t) (tree : Tree) :
    Store.bundled.load tree template = .ok t := by
  obtain ⟨parts, hparts, hname⟩ :=
    Option.map_eq_some_iff.1 (nameParts?_of_mem_catalogue _ (mem_of_lookup h))
  simp only [Store.load, hparts, hname, h]

theorem print_of_render {template text : String} {tree : Tree}
    (h : catalogue.lookup template = some t)
    (hrender : Store.bundled.render tree template b = .ok text) :
    ∃ inks, t.print b = .ok inks ∧ text = Ink.text inks := by
  rw [Store.render, load_eq h] at hrender
  change (t.render .off b).mapError _ = .ok text at hrender
  unfold render at hrender
  split at hrender
  · cases hrender
  · rw [fill_off] at hrender
    cases hprint : t.print b with
    | error fault =>
      rw [hprint] at hrender
      cases hrender
    | ok inks =>
      rw [hprint] at hrender
      cases hrender
      exact ⟨inks, rfl, rfl⟩

end Bundled

end Template

end Groundwork
