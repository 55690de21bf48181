import Groundwork.Proofs.Generate.Unfailing
import Groundwork.Proofs.Printed
import Groundwork.Proofs.Template.Follow
import Groundwork.Proofs.Text.Braces
import Groundwork.Proofs.Text.Imports

/-!
# The braces of a source

A source declares one class or interface, and ends when it is closed. What stands above the
declaration, in its heading and inside it is balanced. Braces are in a source for its layout, in its
comments and in its literals, but where the texts of the blueprint have none, all of them come from
the template, or in pairs from values that are lists or objects.
-/

namespace Groundwork

open Template Text

/-- The templates of a kind that are Java sources. -/
def Artifact.sources (kind : Artifact) : List String :=
  kind.templates.filter (".java.j2".toList.isSuffixOf ·.toList)

namespace Template

/-- How far a source has been read. Above the declaration it matters whether a line is about to
begin. -/
inductive Reached where
  | above (fresh : Bool) (opened : Nat)
  | heading
  | inside (opened : Nat)
  | closed
  deriving Repr, DecidableEq

namespace Reached

/-- A heading goes up to the brace that opens the declaration. -/
def readHeading (cs : List Char) : Option Reached :=
  match cs.dropWhile (· ≠ '\x7b') with
  | [] => (openAfter? 0 cs).bind fun n => if n = 0 then some heading else none
  | _ :: body =>
    (openAfter? 0 (cs.takeWhile (· ≠ '\x7b'))).bind fun n =>
      if n = 0 then (openAfter? 0 body).map inside else none

def read : Reached → List Char → Option Reached
  | above fresh n, cs =>
    match if fresh && n = 0 then declaring.find? (·.toList.isPrefixOf cs) else none with
    | some w => readHeading (cs.drop w.toList.length)
    | none => (openAfter? n cs).map (above (cs.getLast? = some '\n'))
  | heading, cs => readHeading cs
  | inside n, cs =>
    if n = 0 && cs = ['\x7d', '\n'] then some closed else (openAfter? n cs).map inside
  | closed, _ => none

def pass : Reached → Option Reached
  | above _ n => some (above false n)
  | heading => some heading
  | inside n => some (inside n)
  | closed => none

end Reached

def reading : Follower Reached where
  read := Reached.read
  pass := Reached.pass

end Template

namespace Text

/-- Whole lines and the heading of a declaration, up to the brace that opens it. -/
def Introduces (head : List Char) : Prop :=
  ∃ above, ∃ w ∈ declaring, ∃ rest, head = above ++ (w.toList ++ rest) ∧
    Whole above ∧ Balanced above ∧ Balanced rest

/-- A text that ends with the brace that closes its declaration, in a line of its own. -/
def Encloses (head body cs : List Char) : Prop :=
  cs = head ++ '\x7b' :: (body ++ ['\x7d', '\n']) ∧ Introduces head ∧ Balanced body

variable {head body cs rest : List Char}

theorem balanced_declaring : ∀ w ∈ declaring, Balanced w.toList := by
  have hall : ∀ w ∈ declaring, Text.Lacks ['\x7b', '\x7d'] w := by decide
  exact fun w hw => (hall w hw).balanced (List.Subset.refl _)

theorem Introduces.balanced (h : Introduces head) : Balanced head := by
  obtain ⟨above, w, hw, rest, rfl, -, habove, hrest⟩ := h
  exact habove.append ((balanced_declaring w hw).append hrest)

theorem Introduces.append (h : Introduces head) (hrest : Balanced rest) :
    Introduces (head ++ rest) := by
  obtain ⟨above, w, hw, more, rfl, hwhole, habove, hmore⟩ := h
  refine ⟨above, w, hw, more ++ rest, ?_, hwhole, habove, hmore.append hrest⟩
  simp only [List.append_assoc]

theorem Encloses.balanced (h : Encloses head body cs) : Balanced cs := by
  obtain ⟨rfl, hhead, hbody⟩ := h
  have hend : Balanced ['\n'] := .of_lacks (by simp)
  have hsplit : head ++ '\x7b' :: (body ++ ['\x7d', '\n'])
      = head ++ ('\x7b' :: body ++ ['\x7d']) ++ ['\n'] := by
    simp
  rw [hsplit]
  exact (hhead.balanced.append hbody.braced).append hend

/-- What is put in front of the last closing brace comes into the declaration. -/
theorem Encloses.splice {x : String} (h : Encloses head body x.toList) (insertion : String) :
    Patch.splice? .last .before "\x7d" insertion x
      = some (.ofList (head ++ '\x7b' :: (body ++ insertion.toList ++ ['\x7d', '\n']))) := by
  have hcut : cutLast? ['\x7d'] x.toList = some (head ++ '\x7b' :: body, ['\x7d', '\n']) := by
    have hsplit : head ++ '\x7b' :: (body ++ ['\x7d', '\n'])
        = (head ++ '\x7b' :: body) ++ '\x7d' :: ['\n'] := by
      simp
    rw [h.1, hsplit]
    exact cutLast?_append_cons (by decide) _
  have hanchor : "\x7d".toList = ['\x7d'] := by decide
  rw [Patch.splice?, Patch.cut?, hanchor, hcut]
  simp only [Option.map_some, List.append_assoc, List.cons_append]

end Text

namespace Template

/-- What is known of a source that has been read so far. -/
def Reached.Known : Reached → List Char → Prop
  | above fresh n, cs => openAfter? 0 cs = some n ∧ (fresh → Whole cs)
  | heading, cs => Introduces cs
  | inside n, cs => ∃ head body, cs = head ++ '\x7b' :: body ∧ Introduces head ∧
      openAfter? 0 body = some n
  | closed, cs => ∃ head body, Encloses head body cs

namespace Reached

variable {r r' : Reached} {cs more : List Char}

theorem whole_append_of_end (hend : more.getLast? = some '\n') (cs : List Char) :
    Whole (cs ++ more) := by
  obtain ⟨front, rfl⟩ := List.getLast?_eq_some_iff.1 hend
  exact .inr ⟨cs ++ front, (List.append_assoc _ _ _).symm⟩

theorem known_readHeading (h : readHeading more = some r) (hcs : Introduces cs) :
    r.Known (cs ++ more) := by
  unfold readHeading at h
  split at h
  · obtain ⟨n, hn, h⟩ := Option.bind_eq_some_iff.1 h
    split at h
    · rename_i hzero
      subst hzero
      cases h
      exact hcs.append (balanced_of_openAfter? hn)
    · cases h
  · rename_i brace body hbody
    obtain ⟨n, hn, h⟩ := Option.bind_eq_some_iff.1 h
    split at h
    · rename_i hzero
      subst hzero
      obtain ⟨m, hm, rfl⟩ := Option.map_eq_some_iff.1 h
      have hbrace : brace = '\x7b' := by
        have hne : more.dropWhile (· ≠ '\x7b') ≠ [] := by
          rw [hbody]
          exact List.cons_ne_nil _ _
        have hhead := List.head_dropWhile_not (· ≠ '\x7b') hne
        simp only [hbody, List.head_cons, decide_eq_false_iff_not, Decidable.not_not] at hhead
        exact hhead
      subst hbrace
      have hsplit := List.takeWhile_append_dropWhile (p := (· ≠ '\x7b')) (l := more)
      rw [hbody] at hsplit
      refine ⟨cs ++ more.takeWhile (· ≠ '\x7b'), body, ?_, hcs.append (balanced_of_openAfter? hn),
        hm⟩
      rw [List.append_assoc, hsplit]
    · cases h

theorem known_read (h : r.read more = some r') (hr : r.Known cs) : r'.Known (cs ++ more) := by
  cases r with
  | above fresh n =>
    obtain ⟨hn, hfresh⟩ := hr
    rw [read] at h
    split at h
    · rename_i w hfound
      split at hfound
      · rename_i hstart
        rw [Bool.and_eq_true, decide_eq_true_eq] at hstart
        obtain ⟨hfresh', hzero⟩ := hstart
        subst hzero
        have hw := List.mem_of_find?_eq_some hfound
        have hfits := List.find?_some hfound
        obtain ⟨rest, rfl⟩ := List.isPrefixOf_iff_prefix.1 hfits
        rw [List.drop_left] at h
        have hintroduces : Introduces (cs ++ (w.toList ++ [])) :=
          ⟨cs, w, hw, [], rfl, hfresh hfresh', balanced_of_openAfter? hn, .nil⟩
        rw [List.append_nil] at hintroduces
        rw [← List.append_assoc]
        exact known_readHeading h hintroduces
      · cases hfound
    · obtain ⟨m, hm, rfl⟩ := Option.map_eq_some_iff.1 h
      refine ⟨?_, fun hend => whole_append_of_end (of_decide_eq_true hend) cs⟩
      rw [openAfter?_append, hn]
      exact hm
  | heading => exact known_readHeading h hr
  | inside n =>
    obtain ⟨head, body, rfl, hhead, hbody⟩ := hr
    rw [read] at h
    split at h
    · rename_i hlast
      rw [Bool.and_eq_true, decide_eq_true_eq, decide_eq_true_eq] at hlast
      obtain ⟨rfl, rfl⟩ := hlast
      cases h
      exact ⟨head, body, by simp, hhead, balanced_of_openAfter? hbody⟩
    · obtain ⟨m, hm, rfl⟩ := Option.map_eq_some_iff.1 h
      refine ⟨head, body ++ more, by simp, hhead, ?_⟩
      rw [openAfter?_append, hbody]
      exact hm
  | closed => cases h

theorem known_pass (h : r.pass = some r') (hmore : Balanced more) (hr : r.Known cs) :
    r'.Known (cs ++ more) := by
  cases r with
  | above fresh n =>
    cases h
    refine ⟨?_, nofun⟩
    rw [openAfter?_append, hr.1]
    exact hmore.openAfter? n
  | heading =>
    cases h
    exact Introduces.append hr hmore
  | inside n =>
    cases h
    obtain ⟨head, body, rfl, hhead, hbody⟩ := hr
    refine ⟨head, body ++ more, by simp, hhead, ?_⟩
    rw [openAfter?_append, hbody]
    exact hmore.openAfter? n
  | closed => cases h

end Reached

theorem reading_knows :
    reading.Knows ['\x7b', '\x7d'] fun r inks => r.Known (inks.map Ink.char) := by
  have hchars (own : Bool) (cs : List Char) : (Ink.ofChars own cs).map Ink.char = cs := by
    simp [Ink.ofChars, Function.comp_def]
  constructor
  case read =>
    intro r r' inks cs hread hknown
    rw [List.map_append, hchars]
    exact Reached.known_read hread hknown
  case pass =>
    intro r r' inks v hpass hv hknown
    rw [List.map_append, Ink.ofText, hchars]
    exact Reached.known_pass hpass hv.balanced hknown

namespace Bundled

/-- Every source of a kind is followed to its end. -/
theorem follows_of_mem : ∀ kind : Artifact, ∀ name ∈ kind.sources,
    ∃ t, catalogue.lookup name = some t ∧ ∃ sp : Spelling t,
      reading.follow kind.printed sp (.above true 0) = some .closed := by
  intro kind name hname
  cases kind with
  | model =>
    have hsources : Artifact.model.sources = ["model.java.j2"] := by decide +kernel
    rw [hsources, List.mem_singleton] at hname
    subst hname
    exact ⟨_, rfl, by repeat' constructor, by decide +kernel⟩
  | controller =>
    have hsources : Artifact.controller.sources = ["controller.java.j2"] := by decide +kernel
    rw [hsources, List.mem_singleton] at hname
    subst hname
    exact ⟨_, rfl, by repeat' constructor, by decide +kernel⟩
  | service =>
    have hsources : Artifact.service.sources
        = ["service_interface.java.j2", "service_impl.java.j2", "service.java.j2"] := by
      decide +kernel
    rw [hsources] at hname
    simp only [List.mem_cons, List.not_mem_nil, or_false] at hname
    rcases hname with rfl | rfl | rfl
    all_goals exact ⟨_, rfl, by repeat' constructor, by decide +kernel⟩
  | repository =>
    have hsources : Artifact.repository.sources = ["repository.java.j2"] := by decide +kernel
    rw [hsources, List.mem_singleton] at hname
    subst hname
    exact ⟨_, rfl, by repeat' constructor, by decide +kernel⟩
  | security =>
    have hsources : Artifact.security.sources = Artifact.security.templates := by decide +kernel
    rw [hsources] at hname
    simp only [Artifact.templates, Generate.securityClasses, List.map_cons, List.map_nil,
      List.cons_append, List.nil_append, List.mem_cons, List.not_mem_nil, or_false] at hname
    rcases hname with rfl | rfl | rfl | rfl | rfl | rfl | rfl | rfl | rfl
    all_goals exact ⟨_, rfl, by repeat' constructor, by decide +kernel⟩
  | project =>
    have hsources : Artifact.project.sources
        = ["project/main.java.j2", "project/test.java.j2"] := by
      decide +kernel
    rw [hsources] at hname
    simp only [List.mem_cons, List.not_mem_nil, or_false] at hname
    rcases hname with rfl | rfl
    all_goals exact ⟨_, rfl, by repeat' constructor, by decide +kernel⟩

end Bundled

end Template

/-- Where no text of a blueprint has a brace, every source of its sheet has balanced braces, and ends
with the one that closes what it declares. What is put in front of that one comes into the
declaration. -/
theorem sources_balanced (b : Blueprint) (s : Sheet) (h : Sheet.ofBlueprint b = .ok s)
    (hb : ∀ t ∈ b.texts, Text.Lacks ['\x7b', '\x7d'] t) (tree : Tree) :
    ∀ name ∈ b.kind.sources, ∃ x, Store.bundled.render tree name s.bindings = .ok x ∧
      Balanced x.toList ∧
      ∃ head body, Encloses head body x.toList ∧
        ∀ insertion, Patch.splice? .last .before "\x7d" insertion x
          = some (.ofList (head ++ '\x7b' :: (body ++ insertion.toList ++ ['\x7d', '\n']))) := by
  intro name hname
  have hkind := Sheet.kind_of_ofBlueprint h
  rw [← hkind] at hname
  obtain ⟨x, hx⟩ := Sheet.renders (List.mem_of_mem_filter hname) tree
  obtain ⟨t, hlookup, sp, hfollow⟩ := Bundled.follows_of_mem s.kind name hname
  obtain ⟨inks, hprint, rfl⟩ := Bundled.print_of_render hlookup hx
  have hlacking : Lacking ['\x7b', '\x7d'] s.kind.printed s.bindings :=
    Sheet.lacks_printed (by decide) hb h
  have hstart : (Reached.above true 0).Known ([].map Ink.char) := ⟨rfl, fun _ => .inl rfl⟩
  obtain ⟨head, body, henclosed⟩ := reading_knows.print hfollow hlacking hprint hstart
  have htext : (Ink.text inks).toList = inks.map Ink.char := String.toList_ofList
  have hx' : Encloses head body (Ink.text inks).toList := by
    rw [htext]
    exact henclosed
  exact ⟨_, hx, hx'.balanced, head, body, hx', hx'.splice⟩

/-- A model with accessors, comments and patterns, whose table is named by an object. -/
def shelfModel : Blueprint where
  kind := .model
  name := "Shelf"
  package := "com.shop"
  fields :=
    [{ name := "label", type := "String", pattern := some "[A-Z]\\d+", comment := some "as printed" },
      { name := "width", type := "Integer", required := true, minValue := some "1" }]
  options :=
    [("table_name", .object [("schema", .list [.text "shop's", .null])]),
      ("use_lombok", .bool false), ("include_validation", .bool true)]

theorem shelfModel_balanced :
    Sheet.ofBlueprint shelfModel = .ok (.model (.ofBlueprint shelfModel)) ∧
      (∀ t ∈ shelfModel.texts, Text.Lacks ['\x7b', '\x7d'] t) ∧
      ∀ name ∈ shelfModel.kind.sources, ∃ x, Store.bundled.render .empty name
          (Sheet.model (.ofBlueprint shelfModel)).bindings = .ok x ∧ Balanced x.toList ∧
        ∃ head body, Encloses head body x.toList ∧
          ∀ insertion, Patch.splice? .last .before "\x7d" insertion x
            = some (.ofList (head ++ '\x7b' :: (body ++ insertion.toList ++ ['\x7d', '\n']))) := by
  have hsheet : Sheet.ofBlueprint shelfModel = .ok (.model (.ofBlueprint shelfModel)) := rfl
  have htexts : ∀ t ∈ shelfModel.texts, Text.Lacks ['\x7b', '\x7d'] t := by decide
  exact ⟨hsheet, htexts, sources_balanced shelfModel _ hsheet htexts .empty⟩

end Groundwork
