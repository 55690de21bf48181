import Groundwork.Proofs.Generate.Patches
import Groundwork.Proofs.Template.Settle
import Groundwork.Proofs.Text.Elements
import Groundwork.Sheet.Project
import Groundwork.Template.Bundled.Project

/-!
# The build file and its dependencies

The dependencies of a build file are the elements of its first list of dependencies. The build file
of a new project has one for each of its libraries, and a patch adds one at the end of the list
unless the name of its artifact occurs anywhere in the file.
-/

namespace Groundwork

open Text

/-- What is in the dependencies of a build file. -/
def dependenciesOf (cs : List Char) : List (List Char) :=
  match firstElement? "dependencies" cs with
  | some (list, _) => elements "dependency" list
  | none => []

namespace Generate

/-- The tags around the list of dependencies. -/
def listTags : List (List Char) :=
  [openTag "dependencies", closeTag "dependencies"]

def buildTags : List (List Char) :=
  listTags ++ [openTag "dependency", closeTag "dependency"]

/-- The artifacts that the security classes need. -/
def libraries : List String :=
  ["spring-boot-starter-security", "jjwt"]

/-- What a build file is read and patched by. -/
def buildWords : List (List Char) :=
  buildTags ++ libraries.map String.toList

/-- A text that ends with a blank or a line end, so that no word goes on from it. -/
def Ended (t : List Char) : Prop :=
  t.getLast? = some ' ' ∨ t.getLast? = some '\n'

instance (t : List Char) : Decidable (Ended t) :=
  inferInstanceAs (Decidable (_ ∨ _))

theorem Ended.append {t : List Char} (h : Ended t) (l : List Char) : Ended (l ++ t) := by
  unfold Ended at h ⊢
  rcases h with h | h
  · exact .inl (by rw [List.getLast?_append, h]; rfl)
  · exact .inr (by rw [List.getLast?_append, h]; rfl)

variable {w t : List Char}

theorem Ended.blunt (h : Ended t) (hblank : ' ' ∉ w) (hend : '\n' ∉ w) : Blunt w t := by
  have hlast : ∀ c ∉ w, t.getLast? = some c → Blunt w t := by
    intro c hc hlast
    rw [← List.dropLast_append_getLast? c hlast]
    exact blunt_of_not_mem hc _
  rcases h with h | h
  · exact hlast _ hblank h
  · exact hlast _ hend h

theorem blunt_of_ended (hw : w ∈ buildWords) (h : Ended t) : Blunt w t := by
  have hnone : ∀ w ∈ buildWords, ' ' ∉ w ∧ '\n' ∉ w := by decide
  exact h.blunt (hnone w hw).1 (hnone w hw).2

theorem blunt_tag (hw : w ∈ buildWords) (ht : t ∈ buildTags) : Blunt w t := by
  have hall : ∀ w ∈ buildWords, ∀ t ∈ buildTags, Blunt w t := by decide +kernel
  exact hall w hw t ht

theorem ne_nil_of_buildWord (hw : w ∈ buildWords) : w ≠ [] := by
  revert w
  decide

/-- An element of the list that is read as it was written. -/
structure Sound (e : Element) : Prop where
  gap_ended : Ended e.gap
  inner_ended : Ended e.inner
  gap : ∀ w ∈ buildWords, ¬ w <:+: e.gap
  inner : ∀ w ∈ buildTags, ¬ w <:+: e.inner

instance (e : Element) : Decidable (Sound e) :=
  decidable_of_iff (_ ∧ _ ∧ _ ∧ _) ⟨fun ⟨h₁, h₂, h₃, h₄⟩ => ⟨h₁, h₂, h₃, h₄⟩,
    fun h => ⟨h.gap_ended, h.inner_ended, h.gap, h.inner⟩⟩

theorem Sound.plain {e : Element} (h : Sound e) : e.Plain "dependency" where
  gap := ⟨h.gap _ (by decide), blunt_of_ended (by decide) h.gap_ended⟩
  inner := ⟨h.inner _ (by decide), blunt_of_ended (by decide) h.inner_ended⟩

/-- The parts of a build file: the text up to its list, the elements, the text after them in the
list, and the text after the list. -/
structure Layout where
  front : List Char
  elements : List Element
  last : List Char
  back : List Char

namespace Layout

/-- What is between the tags of the list, in parts. -/
def items (l : Layout) : List (List Char) :=
  l.elements.flatMap (Element.texts "dependency") ++ [l.last]

def text (l : Layout) : List Char :=
  l.front ++ (openTag "dependencies" ++ (l.items.flatten ++ (closeTag "dependencies" ++ l.back)))

/-- The build file with one more element at the end of its list. -/
def add (l : Layout) (e : Element) : Layout where
  front := l.front
  elements := l.elements ++ [⟨l.last ++ e.gap, e.inner⟩]
  last := ['\n']
  back := l.back

/-- The tags of the build file are where they were put, and its libraries are named before the list
or in its elements. -/
structure Proper (l : Layout) : Prop where
  front_ended : Ended l.front
  last_ended : Ended l.last
  back_ended : Ended l.back
  front : ∀ w ∈ listTags, ¬ w <:+: l.front
  elements : ∀ e ∈ l.elements, Sound e
  last : ∀ w ∈ buildWords, ¬ w <:+: l.last
  back : ∀ a ∈ libraries, ¬ a.toList <:+: l.back

variable {l : Layout} {e : Element} {x artifact insertion : String}

theorem text_eq_flatten (l : Layout) : l.text
    = ([l.front, openTag "dependencies"] ++ l.items ++ [closeTag "dependencies", l.back]).flatten := by
  simp [text]

theorem mem_items (h : t ∈ l.items) :
    (∃ e ∈ l.elements, t = e.gap ∨ t = e.inner) ∨ t = l.last ∨
      t ∈ [openTag "dependency", closeTag "dependency"] := by
  rcases List.mem_append.1 h with h | h
  · obtain ⟨e, he, ht⟩ := List.mem_flatMap.1 h
    simp only [Element.texts, List.mem_cons, List.not_mem_nil, or_false] at ht ⊢
    rcases ht with rfl | rfl | rfl | rfl
    · exact .inl ⟨e, he, .inl rfl⟩
    · exact .inr (.inr (.inl rfl))
    · exact .inl ⟨e, he, .inr rfl⟩
    · exact .inr (.inr (.inr rfl))
  · exact .inr (.inl (List.mem_singleton.1 h))

theorem Proper.blunt_item (h : l.Proper) (hw : w ∈ buildWords) : ∀ t ∈ l.items, Blunt w t := by
  intro t ht
  rcases mem_items ht with ⟨e, he, rfl | rfl⟩ | rfl | htag
  · exact blunt_of_ended hw (h.elements e he).gap_ended
  · exact blunt_of_ended hw (h.elements e he).inner_ended
  · exact blunt_of_ended hw h.last_ended
  · exact blunt_tag hw (List.mem_append_right listTags htag)

/-- No tag of the list stands between its tags. -/
theorem Proper.not_infix_items (h : l.Proper) (hw : w ∈ listTags) : ¬ w <:+: l.items.flatten := by
  have hword : w ∈ buildTags := List.mem_append_left _ hw
  have hbuild : w ∈ buildWords := List.mem_append_left _ hword
  have htags : ∀ w ∈ listTags, ∀ t ∈ [openTag "dependency", closeTag "dependency"],
      ¬ w <:+: t := by
    decide +kernel
  rw [infix_flatten_iff (ne_nil_of_buildWord hbuild) (h.blunt_item hbuild)]
  rintro ⟨t, ht, hin⟩
  rcases mem_items ht with ⟨e, he, rfl | rfl⟩ | rfl | htag
  · exact (h.elements e he).gap w hbuild hin
  · exact (h.elements e he).inner w hword hin
  · exact h.last w hbuild hin
  · exact htags w hw t htag hin

theorem Proper.items_ended (h : l.Proper) : Ended l.items.flatten := by
  rw [items, List.flatten_append, List.flatten_singleton]
  exact h.last_ended.append _

/-- The elements of the list are read as they were written. -/
theorem Proper.dependenciesOf (h : l.Proper) :
    dependenciesOf l.text = l.elements.map Element.inner := by
  have hfront : Untagged (openTag "dependencies") l.front :=
    ⟨h.front _ (by decide), blunt_of_ended (by decide) h.front_ended⟩
  have hitems : Untagged (closeTag "dependencies") l.items.flatten :=
    ⟨h.not_infix_items (by decide), blunt_of_ended (by decide) h.items_ended⟩
  rw [Groundwork.dependenciesOf, text, firstElement?_append hfront hitems]
  dsimp only
  rw [items, List.flatten_append, List.flatten_singleton]
  exact elements_flatten (fun e he => (h.elements e he).plain) (h.last _ (by decide))

/-- A word that the tags of a build file have no part of. -/
structure Findable (w : List Char) : Prop where
  ne_nil : w ≠ []
  no_blank : ' ' ∉ w
  no_end : '\n' ∉ w
  tags : ∀ t ∈ buildTags, Blunt w t ∧ ¬ w <:+: t

instance (w : List Char) : Decidable (Findable w) :=
  decidable_of_iff (_ ∧ _ ∧ _ ∧ _) ⟨fun ⟨h₁, h₂, h₃, h₄⟩ => ⟨h₁, h₂, h₃, h₄⟩,
    fun h => ⟨h.ne_nil, h.no_blank, h.no_end, h.tags⟩⟩

/-- A word occurs in a build file where it occurs in one of the parts. -/
theorem Proper.infix_text_iff (h : l.Proper) (hw : Findable w) :
    w <:+: l.text ↔ w <:+: l.front ∨ (∃ e ∈ l.elements, w <:+: e.gap ∨ w <:+: e.inner) ∨
      w <:+: l.last ∨ w <:+: l.back := by
  have hblunt {t : List Char} (ht : Ended t) : Blunt w t := ht.blunt hw.no_blank hw.no_end
  have htag {t : List Char} (ht : t ∈ [openTag "dependency", closeTag "dependency"]) :
      Blunt w t ∧ ¬ w <:+: t := hw.tags t (List.mem_append_right listTags ht)
  rw [text_eq_flatten, infix_flatten_iff hw.ne_nil]
  · constructor
    · rintro ⟨t, ht, hin⟩
      simp only [List.mem_append, List.mem_cons, List.not_mem_nil, or_false] at ht
      rcases ht with ((rfl | rfl) | ht) | rfl | rfl
      · exact .inl hin
      · exact absurd hin (hw.tags _ (by decide)).2
      · rcases mem_items ht with ⟨e, he, rfl | rfl⟩ | rfl | ht
        · exact .inr (.inl ⟨e, he, .inl hin⟩)
        · exact .inr (.inl ⟨e, he, .inr hin⟩)
        · exact .inr (.inr (.inl hin))
        · exact absurd hin (htag ht).2
      · exact absurd hin (hw.tags _ (by decide)).2
      · exact .inr (.inr (.inr hin))
    · have hitem {e : Element} {t : List Char} (he : e ∈ l.elements)
          (ht : t ∈ e.texts "dependency") : t ∈ l.items :=
        List.mem_append_left _ (List.mem_flatMap.2 ⟨e, he, ht⟩)
      rintro (hin | ⟨e, he, hin | hin⟩ | hin | hin)
      · exact ⟨l.front, by simp, hin⟩
      · exact ⟨e.gap, by simp [hitem he (t := e.gap) (by simp [Element.texts])], hin⟩
      · exact ⟨e.inner, by simp [hitem he (t := e.inner) (by simp [Element.texts])], hin⟩
      · exact ⟨l.last, by simp [items], hin⟩
      · exact ⟨l.back, by simp, hin⟩
  · intro t ht
    simp only [List.mem_append, List.mem_cons, List.not_mem_nil, or_false] at ht
    rcases ht with ((rfl | rfl) | ht) | rfl | rfl
    · exact hblunt h.front_ended
    · exact (hw.tags _ (by decide)).1
    · rcases mem_items ht with ⟨e, he, rfl | rfl⟩ | rfl | ht
      · exact hblunt (h.elements e he).gap_ended
      · exact hblunt (h.elements e he).inner_ended
      · exact hblunt h.last_ended
      · exact (htag ht).1
    · exact (hw.tags _ (by decide)).1
    · exact hblunt h.back_ended

/-- Where the name of a library occurs. -/
theorem Proper.mentions_iff (h : l.Proper) (ha : artifact ∈ libraries) :
    artifact.toList <:+: l.text ↔
      artifact.toList <:+: l.front ∨ ∃ e ∈ l.elements, artifact.toList <:+: e.inner := by
  have hw : artifact.toList ∈ buildWords :=
    List.mem_append_right _ (List.mem_map_of_mem ha)
  have hfindable : ∀ a ∈ libraries, Findable a.toList := by decide +kernel
  rw [h.infix_text_iff (hfindable artifact ha)]
  refine or_congr_right ⟨?_, ?_⟩
  · rintro (⟨e, he, hin | hin⟩ | hin | hin)
    · exact absurd hin ((h.elements e he).gap _ hw)
    · exact ⟨e, he, hin⟩
    · exact absurd hin (h.last _ hw)
    · exact absurd hin (h.back _ ha)
  · rintro ⟨e, he, hin⟩
    exact .inl ⟨e, he, .inr hin⟩

theorem Proper.add (h : l.Proper) (he : Sound e) : (l.add e).Proper where
  front_ended := h.front_ended
  last_ended := .inr rfl
  back_ended := h.back_ended
  front := h.front
  elements e' he' := by
    rcases List.mem_append.1 he' with he' | he'
    · exact h.elements e' he'
    · obtain rfl := List.mem_singleton.1 he'
      refine ⟨he.gap_ended.append _, he.inner_ended, fun w hw => ?_, he.inner⟩
      rw [infix_append_iff ((blunt_of_ended hw h.last_ended).uncut _), not_or]
      exact ⟨h.last w hw, he.gap w hw⟩
  last := by
    show ∀ w ∈ buildWords, ¬ w <:+: ['\n']
    decide +kernel
  back := h.back

theorem text_add (l : Layout) (e : Element) : (l.add e).text
    = l.front ++ (openTag "dependencies" ++ l.items.flatten)
      ++ ((e.texts "dependency").flatten ++ ['\n']) ++ (closeTag "dependencies" ++ l.back) := by
  simp [text, add, items, Element.texts]

/-- A patch of the build file adds its element. -/
theorem Proper.applyTo? (h : l.Proper) (hx : x.toList = l.text)
    (hins : insertion.toList = (e.texts "dependency").flatten ++ ['\n']) (artifact : String) :
    (dependencyPatch artifact insertion).applyTo? x = some (.ofList (l.add e).text) := by
  let start := l.front ++ (openTag "dependencies" ++ l.items.flatten)
  have hclose : closeTag "dependencies" ∈ buildWords := by decide
  have hstart : ¬ closeTag "dependencies" <:+: start := by
    rw [infix_append_iff ((blunt_of_ended hclose h.front_ended).uncut _),
      infix_append_iff ((blunt_tag hclose (by decide)).uncut _), not_or, not_or]
    exact ⟨h.front _ (by decide), by decide +kernel, h.not_infix_items (by decide)⟩
  have hended : Ended start := (h.items_ended.append _).append l.front
  have hanchor : (dependencyPatch artifact insertion).anchor.toList = closeTag "dependencies" :=
    show "</dependencies>".toList = _ by decide
  have hsplit : x.toList = start ++ (closeTag "dependencies" ++ l.back) := by
    rw [hx, text]
    simp only [start, List.append_assoc]
  have hcut : Patch.cut? (dependencyPatch artifact insertion).occurrence
      (dependencyPatch artifact insertion).anchor.toList x.toList
        = some (start, closeTag "dependencies" ++ l.back) := by
    rw [hanchor, hsplit]
    exact cutFirst?_append (ne_nil_of_buildWord hclose) hstart
      ((blunt_of_ended hclose hended).uncut _)
  have hinsertion : (dependencyPatch artifact insertion).insertion = insertion := rfl
  rw [Patch.applyTo?_of_cut rfl hcut, hinsertion, hins, text_add]

/-- The text after a patch of the build file. -/
theorem Proper.after (h : l.Proper) (hx : x.toList = l.text) (hreturn : '\r' ∉ x.toList)
    (hins : insertion.toList = (e.texts "dependency").flatten ++ ['\n'])
    (hreturn' : '\r' ∉ insertion.toList) (artifact : String) :
    ((dependencyPatch artifact insertion).after x).toList
      = (if occursIn artifact x then l else l.add e).text := by
  have hpresent : (dependencyPatch artifact insertion).isPresent x = occursIn artifact x := rfl
  by_cases hmentions : occursIn artifact x
  · rw [if_pos hmentions, Patch.Done.after_eq (.inl (hpresent.trans hmentions)), hx]
  · have happly := h.applyTo? hx hins artifact
    have hno : '\r' ∉ (l.add e).text := by
      have hold := hreturn
      rw [hx, text] at hold
      rw [hins] at hreturn'
      rw [text_add]
      simp only [List.mem_append, not_or] at hold hreturn' ⊢
      exact ⟨⟨⟨hold.1, hold.2.1, hold.2.2.1⟩, hreturn'⟩, hold.2.2.2⟩
    rw [if_neg hmentions, Patch.after_of_applyTo? (by rwa [hpresent]) happly,
      String.toList_ofList]
    rwa [String.toList_ofList]

end Layout

end Generate

end Groundwork
