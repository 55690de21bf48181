import Groundwork.Proofs.Path
import Groundwork.Proofs.Tree.Making
import Groundwork.Proofs.Tree.Walk

/-!
# Where paths lead

A tree decides whether a path leads somewhere; where it leads is decided by its parts. The paths
on the way to a path that leads somewhere lead somewhere too, all but the last of them to
directories, and the directories that are made for a path lie on the way to it.
-/

namespace Groundwork

namespace Tree

variable {edited : List Path} {a b t : Tree} {path p q : Path} {place mid : Location}
  {parts more : List String} {node : Node}

/-- Where following the parts of a path starts. -/
def start (t : Tree) (path : Path) : Location :=
  if path.anchor = .relative then t.home else []

/-- The location that parts lead to, if they lead anywhere. -/
def lead (place : Location) (parts : List String) : Location :=
  parts.foldl (fun here part => if part = ".." then here.dropLast else here ++ [part]) place

theorem lead_append (place : Location) (parts more : List String) :
    lead place (parts ++ more) = lead (lead place parts) more := by
  rw [lead, List.foldl_append]
  rfl

/-- Parts that do not lead upwards are the names on the way down. -/
theorem lead_down (h : ".." ∉ parts) (place : Location) : lead place parts = place ++ parts := by
  induction parts generalizing place with
  | nil => simp [lead]
  | cons part rest ih =>
    rw [List.mem_cons, not_or] at h
    have hstep : lead place (part :: rest) = lead (place ++ [part]) rest := by
      simp [lead, Ne.symm h.1]
    rw [hstep, ih h.2, List.append_assoc, List.singleton_append]

theorem step_ok {part : String} (h : t.step place part = .ok mid) :
    t.node? place = some .directory ∧
      mid = (if part = ".." then place.dropLast else place ++ [part]) := by
  unfold step at h
  split at h
  · cases h
  · cases h
  · rename_i hd
    refine ⟨hd, ?_⟩
    split at h
    · rename_i hup
      cases h
      rw [if_pos hup]
    · rename_i hup
      split at h
      · cases h
      · cases h
        rw [if_neg hup]

theorem steps_ok (h : parts.foldlM t.step place = .ok mid) : mid = lead place parts := by
  induction parts generalizing place with
  | nil =>
    cases h
    rfl
  | cons part rest ih =>
    rw [List.foldlM_cons] at h
    cases hs : t.step place part with
    | error f =>
      rw [hs] at h
      cases h
    | ok next =>
      rw [hs] at h
      rw [ih h, (step_ok hs).2]
      rfl

theorem steps_append : (parts ++ more).foldlM t.step place = .ok mid ↔
    ∃ next, parts.foldlM t.step place = .ok next ∧ more.foldlM t.step next = .ok mid := by
  rw [List.foldlM_append]
  cases parts.foldlM t.step place with
  | error f =>
    constructor
    · intro h
      cases h
    · rintro ⟨next, h, -⟩
      cases h
  | ok next =>
    constructor
    · intro h
      exact ⟨next, rfl, h⟩
    · rintro ⟨next', h, hmore⟩
      cases h
      exact hmore

/-- What keeps a path from leading anywhere in any tree. -/
structure Passable (path : Path) : Prop where
  no_null : path.parts.any (·.toList.contains '\x00') = false
  short : path.text.utf8ByteSize ≤ pathLimit

theorem locate_eq_ok : t.locate path = .ok place ↔
    Passable path ∧ path.parts.foldlM t.step (t.start path) = .ok place := by
  unfold locate
  constructor
  · intro h
    split at h
    · cases h
    · rename_i hnull
      split at h
      · cases h
      · rename_i hlong
        exact ⟨⟨by simpa using hnull, by omega⟩, h⟩
  · rintro ⟨⟨hnull, hshort⟩, h⟩
    rw [hnull, if_neg (by simp), if_neg (by omega)]
    exact h

theorem eq_lead_of_locate (h : t.locate path = .ok place) :
    place = lead (t.start path) path.parts :=
  steps_ok (locate_eq_ok.1 h).2

theorem start_eq_of_home (h : a.home = b.home) (hanchor : p.anchor = q.anchor) :
    a.start p = b.start q := by
  rw [start, start, h, hanchor]

/-- Two trees with one home do not disagree about where a path leads. -/
theorem locate_unique (hhome : a.home = b.home) (ha : a.locate path = .ok place)
    (hb : b.locate path = .ok mid) : place = mid := by
  rw [eq_lead_of_locate ha, eq_lead_of_locate hb, start_eq_of_home hhome rfl]

theorem Passable.above (hq : Passable q) (h : p.Above q) : Passable p where
  no_null := by
    have hno := hq.no_null
    obtain ⟨rest, hrest⟩ := h.parts
    rw [← hrest, List.any_append, Bool.or_eq_false_iff] at hno
    exact hno.1
  short := Nat.le_trans h.size_text hq.short

/-- A path on the way leads somewhere, and the other parts lead on from there. -/
theorem locate_above (h : p.Above q) (hq : t.locate q = .ok place) :
    ∃ mid, t.locate p = .ok mid ∧
      ∃ rest, q.parts = p.parts ++ rest ∧ rest.foldlM t.step mid = .ok place := by
  obtain ⟨hpassable, hsteps⟩ := locate_eq_ok.1 hq
  obtain ⟨rest, hrest⟩ := h.parts
  rw [← hrest] at hsteps
  obtain ⟨mid, hmid, hlater⟩ := steps_append.1 hsteps
  rw [← start_eq_of_home rfl h.anchor] at hmid
  exact ⟨mid, locate_eq_ok.2 ⟨hpassable.above h, hmid⟩, rest, hrest.symm, hlater⟩

/-- All but the end of a way is directories. -/
theorem isDirectory?_on_way (h : p.Above q) (hne : p.parts ≠ q.parts)
    (hq : t.locate q = .ok place) : t.isDirectory? p = .ok true := by
  obtain ⟨mid, hmid, rest, hrest, hlater⟩ := locate_above h hq
  cases rest with
  | nil => exact absurd (by simpa using hrest.symm) hne
  | cons part later =>
    rw [List.foldlM_cons] at hlater
    cases hs : t.step mid part with
    | error f =>
      rw [hs] at hlater
      cases hlater
    | ok next => exact isDirectory?_eq_true.2 ⟨mid, hmid, (step_ok hs).1⟩

theorem isDirectory?_above (h : p.Above q) (hq : t.isDirectory? q = .ok true) :
    t.isDirectory? p = .ok true := by
  obtain ⟨place, hl, hn⟩ := isDirectory?_eq_true.1 hq
  by_cases hparts : p.parts = q.parts
  · rw [Path.ext h.anchor hparts]
    exact hq
  · exact isDirectory?_on_way h hparts hl

/-- Every directory that `b` has and `a` has not lies on the way to the path. -/
def MadeFor (path : Path) (a b : Tree) : Prop :=
  ∀ place node, a.node? place = none → b.node? place = some node →
    ∃ p, p.Above path ∧ b.locate p = .ok place

theorem madeFor_same (path : Path) (t : Tree) : MadeFor path t t := by
  intro place node hnone hsome
  rw [hnone] at hsome
  cases hsome

theorem madeFor_create (h : t.create path .directory = .ok b) : MadeFor path t b := by
  obtain ⟨made, vacant, hl, rfl⟩ := create_of_ok h
  intro place node hnone hsome
  rw [node?_add] at hsome
  split at hsome
  · rename_i hplace
    rw [hplace]
    exact ⟨path, .refl path, (grows_add vacant).locate hl⟩
  · rw [hnone] at hsome
    cases hsome

theorem madeFor_ensureLast (t : Tree) (path : Path) : MadeFor path t (t.ensureLast path).1 := by
  unfold ensureLast
  split
  · rename_i h
    exact madeFor_create h
  · exact madeFor_same path t
  · exact madeFor_same path t
  · exact madeFor_same path t

/-- Making a directory makes directories on the way to it and nothing else. -/
theorem madeFor_ensureDirectory (t : Tree) (path : Path) :
    MadeFor path t (t.ensureDirectory path).1 := by
  fun_induction ensureDirectory t path with
  | case1 path t' h => exact madeFor_create h
  | case2 path h hp => exact madeFor_same path t
  | case3 path h hp t' hup ih =>
    rw [hup] at ih
    obtain ⟨hlast, -⟩ := ensureLast_spec t' path
    intro place node hnone hsome
    cases hmid : t'.node? place with
    | none => exact madeFor_ensureLast t' path place node hmid hsome
    | some n =>
      obtain ⟨p, hp, hl⟩ := ih place n hnone hmid
      exact ⟨p, hp.trans path.above_parent, hlast.grows.locate hl⟩
  | case4 path h hp t' f hup ih =>
    rw [hup] at ih
    intro place node hnone hsome
    obtain ⟨p, hp, hl⟩ := ih place node hnone hsome
    exact ⟨p, hp.trans path.above_parent, hl⟩
  | case5 path h => exact madeFor_same path t
  | case6 path f h hm hn => exact madeFor_same path t

theorem ensureDirectory_parent (h : (t.ensureDirectory path).2 = .ok ()) :
    (t.ensureDirectory path.parent).2 = .ok () := by
  have hthere : t.isDirectory? path = .ok true → (t.ensureDirectory path.parent).2 = .ok () := by
    intro hd
    rw [ensureDirectory_of_isDirectory? (isDirectory?_above path.above_parent hd)]
  rw [ensureDirectory] at h
  split at h
  · rename_i t' hc
    obtain ⟨place, vacant, hl, -⟩ := create_of_ok hc
    by_cases hparts : path.parts = []
    · -- without parts the path is its own parent
      have hsame : path.parent = path := Path.ext rfl (by simp [Path.parent, hparts])
      rw [hsame, ensureDirectory, hc]
    · have hproper : path.parent.parts ≠ path.parts := by
        intro he
        have hlength := congrArg List.length he
        have hpos := List.length_pos_iff.2 hparts
        simp only [Path.parent, List.length_dropLast] at hlength
        omega
      rw [ensureDirectory_of_isDirectory? (isDirectory?_on_way path.above_parent hproper hl)]
  · split at h
    · cases h
    · split at h
      · rename_i t' hup
        rw [hup]
      · cases h
  · cases h
  · exact hthere (isDirectory?_of_acceptDirectory h)

/-- When a directory can be made, so can those on the way to it. -/
theorem ensureDirectory_above (hpq : p.Above q) (h : (t.ensureDirectory q).2 = .ok ()) :
    (t.ensureDirectory p).2 = .ok () := by
  obtain ⟨rest, hrest⟩ := hpq.parts
  induction hn : rest.length generalizing q rest with
  | zero =>
    obtain rfl := List.length_eq_zero_iff.1 hn
    rw [Path.ext hpq.anchor (by simpa using hrest)]
    exact h
  | succ n ih =>
    have hne : rest ≠ [] := by
      rintro rfl
      cases hn
    have hup : p.parts ++ rest.dropLast = q.parent.parts := by
      show _ = q.parts.dropLast
      rw [← hrest, List.dropLast_append_of_ne_nil hne]
    have hparent : p.Above q.parent := ⟨hpq.anchor, rest.dropLast, hup⟩
    refine ih hparent (ensureDirectory_parent h) rest.dropLast hup ?_
    rw [List.length_dropLast, hn]
    rfl

variable {root : Path} {r : Location} {rest : List String}

theorem lead_descends (h : root.Descends path rest) (t : Tree) :
    lead (t.start path) path.parts = lead (t.start root) root.parts ++ rest := by
  rw [h.parts, lead_append, lead_down h.down, start_eq_of_home rfl h.anchor]

/-- Where a path leads that goes down from another one. -/
theorem locate_descends (h : root.Descends path rest) (hl : t.locate path = .ok place) :
    ∃ r, t.locate root = .ok r ∧ place = r ++ rest := by
  obtain ⟨r, hr, -⟩ := locate_above h.above hl
  refine ⟨r, hr, ?_⟩
  rw [eq_lead_of_locate hl, lead_descends h, ← eq_lead_of_locate hr]

/-- The path `root` leads to `r`, and a path on the way to `root` that comes by `r` or below it only
meets what is there already. -/
structure Guards (t : Tree) (root : Path) (r : Location) : Prop where
  place : r = lead (t.start root) root.parts
  way : ∀ p, p.Above root → p.parts ≠ root.parts →
    ∀ q, lead (t.start p) p.parts = r ++ q → t.node? (r ++ q) ≠ none

theorem Guards.of_locate (hl : t.locate root = .ok r) : Guards t root r where
  place := eq_lead_of_locate hl
  way p hp hne q hq hnone := by
    obtain ⟨place, hplace, hn⟩ := isDirectory?_eq_true.1 (isDirectory?_on_way hp hne hl)
    rw [eq_lead_of_locate hplace, hq, hnone] at hn
    cases hn

/-- Nothing is below `root` yet: it leads to a place with nothing below it, or there is nothing at
all and the way to it does not come by the place itself. -/
inductive EmptyUnder (t : Tree) (root : Path) : Prop
  | place (r : Location) (hl : t.locate root = .ok r) (h : ∀ q ≠ [], t.node? (r ++ q) = none)
  | nothing (h : t.entries = []) (hway : ∀ p, p.Above root → p.parts ≠ root.parts →
      ¬ lead (t.start root) root.parts <+: lead (t.start p) p.parts)

theorem EmptyUnder.guards (h : t.EmptyUnder root) :
    ∃ r, Guards t root r ∧ ∀ q ≠ [], t.node? (r ++ q) = none := by
  cases h with
  | place r hl h => exact ⟨r, .of_locate hl, h⟩
  | nothing h hway =>
    refine ⟨_, ⟨rfl, fun p hp hne q hq _ => hway p hp hne ⟨q, hq.symm⟩⟩, fun q hq => ?_⟩
    have hne : lead (t.start root) root.parts ++ q ≠ [] := by simp [hq]
    rw [node?_of_ne_root _ hne, h]
    rfl

/-- The way down to a path never comes by the place that the path leads to. -/
theorem EmptyUnder.of_down (h : t.entries = []) (hdown : ".." ∉ root.parts) :
    t.EmptyUnder root := by
  refine .nothing h fun p hp hne hprefix => hne ?_
  obtain ⟨rest, hrest⟩ := hp.parts
  have hup : ".." ∉ p.parts := by
    intro hmem
    rw [← hrest] at hdown
    exact hdown (List.mem_append_left rest hmem)
  rw [lead_down hdown, lead_down hup, start_eq_of_home rfl hp.anchor,
    List.prefix_append_right_inj] at hprefix
  have hlength := hprefix.length_le
  have hparts := congrArg List.length hrest
  rw [List.length_append] at hparts
  have hnil : rest = [] := List.length_eq_zero_iff.1 (by omega)
  rwa [hnil, List.append_nil] at hrest

/-- Whatever is there lies in directories. -/
theorem directory_above {q : Location} (h : t.node? (r ++ q) = some node) (hq : q ≠ []) :
    t.node? r = some .directory := by
  induction hn : q.length generalizing q node with
  | zero => exact absurd (List.length_eq_zero_iff.1 hn) hq
  | succ n ih =>
    have hup := node?_dropLast h
    rw [List.dropLast_append_of_ne_nil hq] at hup
    by_cases hlast : q.dropLast = []
    · rwa [hlast, List.append_nil] at hup
    · exact ih hup hlast (by rw [List.length_dropLast, hn]; rfl)

theorem none_below (h : t.node? r = none) (q : Location) : t.node? (r ++ q) = none := by
  by_cases hq : q = []
  · rwa [hq, List.append_nil]
  · cases hnode : t.node? (r ++ q) with
    | none => rfl
    | some node =>
      rw [directory_above hnode hq] at h
      cases h

/-- Out of a directory, one part leads to the same place in all trees. -/
theorem locate_in_directory {output : Path} {name : String} (hroot : output.Descends root [name])
    (hd : a.isDirectory? output = .ok true) (hhome : a.home = b.home)
    (hl : b.locate root = .ok r) : a.locate root = .ok r := by
  obtain ⟨o, ho, hn⟩ := isDirectory?_eq_true.1 hd
  obtain ⟨o', ho', rest, hrest, hlast⟩ := locate_above hroot.above hl
  obtain rfl := locate_unique hhome ho ho'
  obtain rfl : [name] = rest := List.append_cancel_left (hroot.parts.symm.trans hrest)
  rw [List.foldlM_cons] at hlast
  cases hs : b.step o name with
  | error f =>
    rw [hs] at hlast
    cases hlast
  | ok next =>
    have hstep : a.step o name = .ok next := by
      rw [← hs, step, step, hn, (step_ok hs).1]
    rw [hs] at hlast
    cases hlast
    obtain ⟨-, hsteps⟩ := locate_eq_ok.1 ho
    refine locate_eq_ok.2 ⟨(locate_eq_ok.1 hl).1, ?_⟩
    rw [hroot.parts, steps_append, start_eq_of_home rfl hroot.anchor]
    exact ⟨o, hsteps, by rw [List.foldlM_cons, hstep]; rfl⟩

/-- A path out of a directory that is still to be made: when nothing is at the path once the
directory is made, nothing was there before, and nothing comes to be there on the way. -/
theorem Guards.of_made {output : Path} {name : String} (hroot : output.Descends root [name])
    (hmade : (t.ensureDirectory output).2 = .ok ())
    (hfree : (t.ensureDirectory output).1.exists? root = .ok false) (hhome : b.home = t.home)
    (hl : b.locate root = .ok r) : Guards t root r ∧ t.node? r = none := by
  obtain ⟨hwidens, hthere⟩ := ensureDirectory_spec t output
  have hdirectory := hthere hmade
  generalize (t.ensureDirectory output).1 = made at hwidens hdirectory hfree
  have hl' : made.locate root = .ok r :=
    locate_in_directory hroot hdirectory (hwidens.grows.home.trans hhome.symm) hl
  have hbare : made.node? r = none := by
    cases hn : made.node? r with
    | none => rfl
    | some node =>
      rw [exists?_eq_true.2 ⟨r, node, hl', hn⟩] at hfree
      cases hfree
  refine ⟨⟨?_, fun p hp hne q hq _ => ?_⟩, hwidens.grows.none_of_none hbare⟩
  · rw [eq_lead_of_locate hl, start_eq_of_home hhome rfl]
  · -- a proper part of the way to `root` is part of the way to `output`
    obtain ⟨place, hplace, hn⟩ := isDirectory?_eq_true.1 (isDirectory?_on_way hp hne hl')
    have hsame : place = r ++ q := by
      rw [← hq, eq_lead_of_locate hplace, start_eq_of_home hwidens.grows.home rfl]
    rw [hsame, none_below hbare q] at hn
    cases hn

end Tree

end Groundwork
