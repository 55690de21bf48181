import Groundwork.Tree.Access

/-!
# Trees that grow

One tree grows into another when every entry stays what it is, a directory or a file, and when the
octets of a file change only where a path of a given list leads. The list is empty for everything
but patches. Where a path leads does not change while a tree grows; whether a path that leads
nowhere will lead somewhere is not settled here.
-/

namespace Groundwork.Tree

variable {edited : List Path} {a b c t : Tree} {path : Path} {place p : Location}
  {octets o : List UInt8}

@[simp] theorem node?_root (t : Tree) : t.node? [] = some .directory := rfl

theorem node?_of_ne_root (t : Tree) (h : p ≠ []) : t.node? p = t.entries.lookup p :=
  if_neg h

theorem Vacant.ne_root (h : t.Vacant place) : place ≠ [] := by
  rintro rfl
  exact absurd h.1 (by simp)

theorem node?_add {node : Node} (h : t.Vacant place) (p : Location) :
    (t.add place node h).node? p = if p = place then some node else t.node? p := by
  by_cases hp : p = []
  · subst hp
    rw [if_neg h.ne_root.symm]
    rfl
  · rw [node?_of_ne_root _ hp, node?_of_ne_root _ hp]
    show ((place, node) :: t.entries).lookup p = _
    rw [List.lookup_cons]
    by_cases he : p = place
    · simp [he]
    · simp [he, show (p == place) = false from by simpa using he]

theorem lookup_map_replaceIn (entries : Entries) (place : Location) (octets : List UInt8)
    (p : Location) :
    (entries.map (replaceIn place octets)).lookup p
      = (entries.lookup p).map fun n => (replaceIn place octets (p, n)).2 := by
  induction entries with
  | nil => rfl
  | cons e rest ih =>
    obtain ⟨q, n⟩ := e
    have hq : replaceIn place octets (q, n) = (q, (replaceIn place octets (q, n)).2) :=
      Prod.ext (replaceIn_fst place octets (q, n)) rfl
    rw [List.map_cons, hq, List.lookup_cons, List.lookup_cons]
    by_cases hp : p = q
    · subst hp
      simp
    · rw [show (p == q) = false from by simpa using hp]
      exact ih

theorem node?_replace (t : Tree) (place : Location) (octets : List UInt8) (p : Location) :
    (t.replace place octets).node? p
      = (t.node? p).map fun n => (replaceIn place octets (p, n)).2 := by
  by_cases hp : p = []
  · subst hp
    simp only [node?_root, Option.map_some, Option.some.injEq, replaceIn]
    split <;> rfl
  · rw [node?_of_ne_root _ hp, node?_of_ne_root _ hp]
    exact lookup_map_replaceIn t.entries place octets p

theorem node?_replace_directory (t : Tree) (place p : Location) (octets : List UInt8) :
    (t.replace place octets).node? p = some .directory ↔ t.node? p = some .directory := by
  rw [node?_replace]
  cases h : t.node? p with
  | none => simp
  | some n => cases n <;> simp only [Option.map_some, replaceIn] <;> split <;> simp

theorem node?_replace_none (t : Tree) (place p : Location) (octets : List UInt8) :
    (t.replace place octets).node? p = none ↔ t.node? p = none := by
  rw [node?_replace, Option.map_eq_none_iff]

theorem node?_replace_ne (t : Tree) (octets : List UInt8) (h : p ≠ place) :
    (t.replace place octets).node? p = t.node? p := by
  rw [node?_replace]
  cases t.node? p with
  | none => rfl
  | some n => simp [replaceIn, h]

theorem node?_replace_file (h : t.node? place = some (.file o)) :
    (t.replace place octets).node? place = some (.file octets) := by
  rw [node?_replace, h]
  simp [replaceIn]

theorem node?_replace_isFile (place : Location) (octets : List UInt8)
    (h : t.node? p = some (.file o)) :
    ∃ o', (t.replace place octets).node? p = some (.file o') := by
  by_cases hp : p = place
  · subst hp
    exact ⟨octets, node?_replace_file h⟩
  · exact ⟨o, by rw [node?_replace_ne t octets hp, h]⟩

/-- Every entry of `a` is in `b`, a directory or a file as before, and the octets of a file are the
same unless an edited path leads there. -/
structure Grows (edited : List Path) (a b : Tree) : Prop where
  home : b.home = a.home
  directory : ∀ p, a.node? p = some .directory → b.node? p = some .directory
  file : ∀ p o, a.node? p = some (.file o) →
    ∃ o', b.node? p = some (.file o') ∧ (o' = o ∨ ∃ path ∈ edited, b.locate path = .ok p)

theorem Grows.refl (edited : List Path) (t : Tree) : Grows edited t t where
  home := rfl
  directory _ h := h
  file _ o h := ⟨o, h, .inl rfl⟩

/-- What is there stays there. -/
theorem Grows.present (h : Grows edited a b) {n : Node} (hn : a.node? p = some n) :
    ∃ n', b.node? p = some n' := by
  cases n with
  | directory => exact ⟨_, h.directory p hn⟩
  | file o =>
    obtain ⟨o', ho', -⟩ := h.file p o hn
    exact ⟨_, ho'⟩

theorem Grows.none_of_none (h : Grows edited a b) (hb : b.node? p = none) :
    a.node? p = none := by
  cases ha : a.node? p with
  | none => rfl
  | some n =>
    obtain ⟨n', hn'⟩ := h.present ha
    rw [hb] at hn'
    cases hn'

theorem Grows.step (h : Grows edited a b) {part : String} {q : Location}
    (hs : a.step p part = .ok q) : b.step p part = .ok q := by
  unfold Tree.step at hs ⊢
  split at hs
  · cases hs
  · cases hs
  · rename_i hp
    rw [h.directory p hp]
    exact hs

theorem Grows.steps (h : Grows edited a b) {parts : List String} {q : Location}
    (hs : parts.foldlM a.step p = .ok q) : parts.foldlM b.step p = .ok q := by
  induction parts generalizing p with
  | nil => exact hs
  | cons part rest ih =>
    rw [List.foldlM_cons] at hs ⊢
    cases hp : a.step p part with
    | error f => rw [hp] at hs; cases hs
    | ok r =>
      rw [hp] at hs
      rw [h.step hp]
      exact ih hs

/-- A path that leads somewhere goes on leading there. -/
theorem Grows.locate (h : Grows edited a b) (hl : a.locate path = .ok p) :
    b.locate path = .ok p := by
  unfold Tree.locate at hl ⊢
  split at hl
  · cases hl
  · split at hl
    · cases hl
    · rename_i h0 hlen
      rw [if_neg h0, if_neg hlen, h.home]
      exact h.steps hl

theorem Grows.trans (hab : Grows edited a b) (hbc : Grows edited b c) : Grows edited a c where
  home := hbc.home.trans hab.home
  directory p h := hbc.directory p (hab.directory p h)
  file p o h := by
    obtain ⟨o', ho', hsame⟩ := hab.file p o h
    obtain ⟨o'', ho'', hsame'⟩ := hbc.file p o' ho'
    refine ⟨o'', ho'', ?_⟩
    rcases hsame' with rfl | hedit
    · rcases hsame with rfl | ⟨path, hmem, hl⟩
      · exact .inl rfl
      · exact .inr ⟨path, hmem, hbc.locate hl⟩
    · exact .inr hedit

theorem Grows.mono {more : List Path} (h : Grows edited a b) (hsub : edited ⊆ more) :
    Grows more a b where
  home := h.home
  directory := h.directory
  file p o hp := by
    obtain ⟨o', ho', hsame⟩ := h.file p o hp
    refine ⟨o', ho', hsame.imp_right ?_⟩
    rintro ⟨path, hmem, hl⟩
    exact ⟨path, hsub hmem, hl⟩

/-- Nothing changes at a place to which no edited path leads. -/
theorem Grows.same (h : Grows edited a b) {n : Node} (hn : a.node? p = some n)
    (hout : ∀ path ∈ edited, b.locate path ≠ .ok p) : b.node? p = some n := by
  cases n with
  | directory => exact h.directory p hn
  | file o =>
    obtain ⟨o', ho', rfl | ⟨path, hmem, hl⟩⟩ := h.file p o hn
    · exact ho'
    · exact absurd hl (hout path hmem)

theorem grows_add {node : Node} (h : t.Vacant place) : Grows [] t (t.add place node h) where
  home := rfl
  directory p hp := by
    rw [node?_add, if_neg, hp]
    rintro rfl
    rw [h.1] at hp
    cases hp
  file p o hp := by
    refine ⟨o, ?_, .inl rfl⟩
    rw [node?_add, if_neg, hp]
    rintro rfl
    rw [h.1] at hp
    cases hp

/-- New content changes nothing about where paths lead. -/
theorem locate_replace (t : Tree) (place : Location) (octets : List UInt8) (path : Path) :
    (t.replace place octets).locate path = t.locate path := by
  have hstep : (t.replace place octets).step = t.step := by
    funext p part
    unfold Tree.step
    cases h : t.node? p with
    | none => rw [(node?_replace_none t place p octets).2 h]
    | some n =>
      cases n with
      | directory => rw [(node?_replace_directory t place p octets).2 h]
      | file o =>
        obtain ⟨o', ho'⟩ := node?_replace_isFile place octets h
        rw [ho']
  unfold Tree.locate
  rw [hstep]
  rfl

theorem grows_replace (hl : t.locate path = .ok place) (octets : List UInt8) :
    Grows [path] t (t.replace place octets) where
  home := rfl
  directory p h := (node?_replace_directory t place p octets).2 h
  file p o h := by
    by_cases hp : p = place
    · subst hp
      refine ⟨octets, node?_replace_file h, .inr ⟨path, by simp, ?_⟩⟩
      rw [locate_replace, hl]
    · exact ⟨o, by rw [node?_replace_ne t octets hp, h], .inl rfl⟩

end Groundwork.Tree
