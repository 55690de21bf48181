import Groundwork.Proofs.Printed
import Groundwork.Proofs.Template.Heading
import Groundwork.Proofs.Template.Lines
import Groundwork.Proofs.Template.Yields

/-!
# The lines of sources

Controllers and services have no repetitions, so a few switches settle all their lines. Where no
text of a blueprint ends a line, the lines of a source are those of its settled template, with the
values of the sheet in their places.
-/

namespace Groundwork

open Template Text

/-- What is checked of an outcome holds of some outcome. -/
theorem Template.exists_of_any {α : Type} {o : Option α} {P : α → Prop} [DecidablePred P]
    (h : o.any fun a => P a) : ∃ a, o = some a ∧ P a := by
  obtain ⟨a, ha, hP⟩ := (Option.any_eq_true _ _).1 h
  exact ⟨a, ha, of_decide_eq_true hP⟩

/-- Lines that print some values only, and that the template does not end elsewhere. -/
structure Template.Lined (printed : List String) (ls : List Shape) : Prop where
  names : ∀ line ∈ ls, ∀ n ∈ line.names, n ∈ printed
  closed : ∀ line ∈ ls, line.spares ['\n']

instance (printed : List String) (ls : List Shape) : Decidable (Lined printed ls) :=
  decidable_of_iff (_ ∧ _) ⟨fun ⟨h₁, h₂⟩ => ⟨h₁, h₂⟩, fun h => ⟨h.names, h.closed⟩⟩

/-- The lines of a source that begin with a word are known in advance. -/
structure Template.Begun (w : String) (picked ls : List Shape) : Prop where
  begun : ∀ line ∈ ls, (line.begins? w.toList).isSome
  picked : ls.filter (Shape.begins? w.toList · = some true) = picked

instance (w : String) (picked ls : List Shape) : Decidable (Begun w picked ls) :=
  decidable_of_iff (_ ∧ _) ⟨fun ⟨h₁, h₂⟩ => ⟨h₁, h₂⟩, fun h => ⟨h.begun, h.picked⟩⟩

/-- Where only lines are read that begin with a word, those that are known are read. -/
theorem Template.Begun.filterMap_pieces {α : Type} {w x : String} {f : String → Option α}
    {picked ls : List Shape} {b : Bindings} (h : Begun w picked ls) (hw : w ≠ "")
    (hf : ∀ line, (f line).isSome → w.toList <+: line.toList)
    (hx : pieces '\n' x = ls.map (Shape.line b) ++ [""]) :
    (pieces '\n' x).filterMap f = (picked.map (Shape.line b)).filterMap f := by
  have hlast : f "" = none := by
    rw [← Option.not_isSome_iff_eq_none]
    exact fun hsome => hw (String.toList_inj.1 (List.prefix_nil.1 (hf "" hsome)))
  rw [hx, List.filterMap_append, Shape.filterMap_begins hf h.begun, h.picked]
  simp [hlast]

/-- What is printed for a value lacks the line ends that the value lacks. -/
theorem Template.lacks_printed {marks : List Char} {b : Bindings} {n : String}
    (hmarks : marks ⊆ ['\n', '\r']) (h : ∀ v, b.find? n = some v → v.Lacks marks) :
    Text.Lacks marks (b.written n) := by
  unfold Bindings.written
  split
  · rename_i v hv
    exact (h v hv).written hmarks
  · exact fun _ _ => List.not_mem_nil

namespace Sheet

variable {marks : List Char} {b : Blueprint} {s : Sheet} {tree : Tree} {name x n : String}
  {known : Bindings} {t : Template} {sp : Spelling t} {ls : List Shape}

/-- The values that a source prints have the line ends that the texts of the blueprint have. -/
theorem lacks_value (hsheet : ofBlueprint b = .ok s) (hmarks : marks ⊆ ['\n', '\r'])
    (hb : ∀ t ∈ b.texts, Text.Lacks marks t) (hn : n ∈ s.kind.printed) :
    Text.Lacks marks (s.bindings.written n) :=
  Template.lacks_printed hmarks <|
    lacks_printed (List.Subset.trans hmarks (List.subset_append_left _ ['\x7b', '\x7d'])) hb hsheet
      n hn

/-- The lines of a rendered source are those of its settled template. -/
theorem pieces_of_render (hsheet : ofBlueprint b = .ok s)
    (hb : ∀ t ∈ b.texts, Text.Lacks ['\n'] t) (hlookup : Bundled.catalogue.lookup name = some t)
    (hk : Knows known s.bindings) (hsettled : settledLines known sp = some ls)
    (hlined : Lined s.kind.printed ls)
    (hrender : Store.bundled.render tree name s.bindings = .ok x) :
    pieces '\n' x = ls.map (Shape.line s.bindings) ++ [""] := by
  obtain ⟨inks, hprint, rfl⟩ := Bundled.print_of_render hlookup hrender
  have htext : (Ink.text inks).toList = linesText (ls.map (Shape.line s.bindings)) := by
    rw [Ink.text, String.toList_ofList, Yields.of_settledLines hk hsettled inks hprint]
  refine pieces_linesText htext fun line hline => ?_
  obtain ⟨shape, hshape, rfl⟩ := List.mem_map.1 hline
  rw [Shape.line, String.toList_ofList]
  exact Shape.not_mem_chars (hlined.closed shape hshape) fun n hn =>
    lacks_value hsheet (by decide) hb (hlined.names shape hshape n hn) _ List.mem_cons_self

end Sheet

namespace ControllerSheet

/-- What the template of a controller chooses by. -/
def choices (crud swagger validation : Bool) : Bindings :=
  [("include_crud", .bool crud), ("include_swagger", .bool swagger),
    ("include_validation", .bool validation)]

theorem knows_choices (s : ControllerSheet) :
    Knows (choices s.crud s.swagger s.validation) s.bindings := by
  intro n v h
  have hmem := mem_of_lookup h
  simp only [choices, List.mem_cons, List.not_mem_nil, or_false, Prod.mk.injEq] at hmem
  rcases hmem with ⟨rfl, rfl⟩ | ⟨rfl, rfl⟩ | ⟨rfl, rfl⟩ <;> rfl

end ControllerSheet

end Groundwork
