import Groundwork.Proofs.Template.Lines
import Groundwork.Proofs.Text.Signature

/-!
# Calls in settled lines

A call is seen by its open parenthesis. Where no value of a shape has one, every parenthesis of its
text is one of the shape, and what stands around it in the shape tells whether it opens the
arguments of a call of some object, which method is called, and with what.
-/

namespace Groundwork.Template.Shape

open Text

/-- A place in a shape where a character stands in a piece of own text: the pieces before that one,
from the last to the first, the part of the piece before the place, and all that comes after it. -/
structure Spot where
  before : Shape
  front : List Char
  after : Shape

/-- All that stands before and after the places of a character. -/
def cuts (c : Char) : List Char → List (List Char × List Char)
  | [] => []
  | d :: cs =>
    (if d = c then [([], cs)] else []) ++ (cuts c cs).map fun (front, back) => (d :: front, back)

/-- The places of a character in the own text of a shape, with some pieces before it. -/
def spots (c : Char) (before : Shape) : Shape → List Spot
  | [] => []
  | .own cs :: rest =>
    ((cuts c cs).map fun (front, back) => ⟨before, front, write back rest⟩)
      ++ spots c (.own cs :: before) rest
  | .named n :: rest => spots c (.named n :: before) rest

/-- The second shape begins like the first one. -/
def leads : Shape → Shape → Bool
  | [], _ => true
  | [.own cs], .own cs' :: _ => cs.isPrefixOf cs'
  | p :: rest, p' :: rest' => p = p' && leads rest rest'
  | _ :: _, [] => false

/-- At this open parenthesis one of the known methods of an object is called, or none of any object
whose name ends in `e`. The object is named by a value. -/
def answers (object : String) (known : List (List Char × Shape)) (spot : Spot) : Bool :=
  match cutLast? ['.'] spot.front with
  | none => spot.before = []
  | some ([], called) =>
    spot.before.head? = some (.named object) && known.any fun (name, arguments) =>
      called = '.' :: name && leads arguments spot.after
  | some (c :: cs, _) => (c :: cs).getLast? ≠ some 'e'

/-- All calls of an object in a line are calls of known methods. -/
def callsOnly (object : String) (known : List (List Char × Shape)) (line : Shape) : Bool :=
  (spots '(' [] line).all (answers object known)

variable {b : Bindings} {shape before rest : Shape} {c : Char} {cs l r : List Char}
  {object : String} {known : List (List Char × Shape)}

theorem mem_cuts (h : cs = l ++ c :: r) : (l, r) ∈ cuts c cs := by
  induction l generalizing cs with
  | nil =>
    subst h
    simp [cuts]
  | cons d l ih =>
    subst h
    rw [List.cons_append, cuts, List.mem_append]
    exact .inr (List.mem_map.2 ⟨(l, r), ih rfl, rfl⟩)

/-- A character that no value has stands at one of its spots. -/
theorem exists_spot (hvalues : ∀ n ∈ names shape, c ∉ (b.written n).toList)
    (h : chars b shape = l ++ c :: r) (before : Shape) :
    ∃ spot ∈ spots c before shape,
      chars b spot.before.reverse ++ spot.front = chars b before.reverse ++ l ∧
        chars b spot.after = r := by
  induction shape generalizing before l with
  | nil =>
    have hlength := congrArg List.length h
    simp at hlength
  | cons p rest ih =>
    have hrest : ∀ n ∈ names rest, c ∉ (b.written n).toList := by
      cases p with
      | own cs => exact hvalues
      | named n => exact fun m hm => hvalues m (.tail _ hm)
    have hpassed : spots c (p :: before) rest ⊆ spots c before (p :: rest) := by
      cases p with
      | own cs => exact List.subset_append_right _ _
      | named n => exact List.Subset.refl _
    have hlater (more : List Char) (hl : l = chars b [p] ++ more)
        (hmore : chars b rest = more ++ c :: r) : ∃ spot ∈ spots c before (p :: rest),
          chars b spot.before.reverse ++ spot.front = chars b before.reverse ++ l ∧
            chars b spot.after = r := by
      obtain ⟨spot, hspot, hbefore, hafter⟩ := ih hrest hmore (p :: before)
      refine ⟨spot, hpassed hspot, ?_, hafter⟩
      rw [hbefore, hl, List.reverse_cons, chars_append, List.append_assoc]
    rw [chars_cons] at h
    rcases List.append_eq_append_iff.1 h with ⟨more, hl, hmore⟩ | ⟨more, hshort, hmore⟩
    · exact hlater more hl hmore
    · cases more with
      | nil => exact hlater [] (by rw [hshort, List.append_nil, List.append_nil]) hmore.symm
      | cons d more =>
        obtain ⟨rfl, hafter⟩ := List.cons.inj hmore
        cases p with
        | named n =>
          have hin : c ∈ (b.written n).toList := by
            rw [chars_named, chars_nil, List.append_nil] at hshort
            rw [hshort]
            exact List.mem_append_right _ List.mem_cons_self
          exact absurd hin (hvalues n List.mem_cons_self)
        | own cs =>
          rw [chars_own, chars_nil, List.append_nil] at hshort
          refine ⟨⟨before, l, write more rest⟩, ?_, rfl, ?_⟩
          · exact List.mem_append_left _ (List.mem_map.2 ⟨(l, more), mem_cuts hshort, rfl⟩)
          · rw [chars_write]
            exact hafter.symm

theorem prefix_of_leads {shape' : Shape} (h : leads shape shape') :
    chars b shape <+: chars b shape' := by
  induction shape, shape' using leads.induct with
  | case1 shape' => exact List.nil_prefix
  | case2 cs cs' rest =>
    rw [chars_own, chars_own, chars_nil, List.append_nil]
    exact (List.isPrefixOf_iff_prefix.1 h).trans (List.prefix_append _ _)
  | case3 p rest p' rest' hne ih =>
    rw [leads, Bool.and_eq_true, decide_eq_true_eq] at h
    · obtain ⟨rfl, hrest⟩ := h
      rw [chars_cons b p rest, chars_cons b p rest']
      exact (List.prefix_append_right_inj _).2 (ih hrest)
    · exact hne
  | case4 p rest =>
    rw [leads] at h
    cases h

/-- A line that only calls known methods of an object calls one of them wherever it calls the
object at all. -/
theorem known_of_call {name rest : String} (honly : callsOnly object known shape)
    (hobject : (b.written object).toList.getLast? = some 'e')
    (hvalues : ∀ n ∈ names shape, '(' ∉ (b.written n).toList)
    (h : Calls (b.written object) name rest (line b shape)) :
    ∃ k ∈ known, name.toList = k.1 ∧ chars b k.2 <+: rest.toList := by
  obtain ⟨hname, front, hline⟩ := h
  have hchars : chars b shape
      = (front.toList ++ (b.written object).toList ++ '.' :: name.toList) ++ '(' :: rest.toList := by
    have hsplit := congrArg String.toList hline
    rw [line, String.toList_ofList] at hsplit
    rw [hsplit]
    simp
  obtain ⟨spot, hspot, hbefore, hafter⟩ := exists_spot hvalues hchars []
  have hanswer := List.all_eq_true.1 honly spot hspot
  rw [List.reverse_nil, chars_nil, List.nil_append] at hbefore
  have hcut := cutLast?_append_cons hname (front.toList ++ (b.written object).toList)
  rw [← hbefore] at hcut
  unfold answers at hanswer
  split at hanswer
  · rename_i hnone
    rw [of_decide_eq_true hanswer, List.reverse_nil, chars_nil, List.nil_append, hnone] at hcut
    cases hcut
  · rename_i called hfound
    rw [cutLast?_append hfound] at hcut
    obtain ⟨-, rfl⟩ := Prod.mk.inj (Option.some.inj hcut)
    rw [Bool.and_eq_true] at hanswer
    obtain ⟨⟨word, arguments⟩, hknown, hcalled⟩ := List.any_eq_true.1 hanswer.2
    rw [Bool.and_eq_true, decide_eq_true_eq] at hcalled
    refine ⟨_, hknown, (List.cons.inj hcalled.1).2, ?_⟩
    rw [← hafter]
    exact prefix_of_leads hcalled.2
  · rename_i c cs called hfound
    rw [cutLast?_append hfound] at hcut
    have hlast := congrArg List.getLast? (Prod.mk.inj (Option.some.inj hcut)).1
    rw [List.getLast?_append, List.getLast?_append, hobject] at hlast
    have hother := of_decide_eq_true hanswer
    cases hd : (c :: cs).getLast? with
    | none =>
      rw [List.getLast?_eq_none_iff] at hd
      cases hd
    | some d =>
      rw [hd] at hlast hother
      exact absurd hlast hother

end Groundwork.Template.Shape
