import Groundwork.Proofs.Tree.Growth

/-!
# Making entries

Adding an entry at a path and making directories on the way. A tree grows by both, no file is
made where a directory was asked for, and a directory that was made once is not made again.
-/

namespace Groundwork.Tree

variable {edited : List Path} {a b t t' : Tree} {path : Path} {place p : Location}
  {o : List UInt8} {node : Node}

theorem inspect_located (h : t.locate path = .ok place) :
    t.inspect path = (t.node? place).elim (.error .missing) .ok := by
  unfold inspect
  rw [h]
  dsimp only [bind, Except.bind]
  cases t.node? place <;> rfl

theorem inspect_unlocated {fault : FileFault} (h : t.locate path = .error fault) :
    t.inspect path = .error fault := by
  unfold inspect
  rw [h]
  rfl

theorem inspect_eq_ok : t.inspect path = .ok node ↔
    ∃ place, t.locate path = .ok place ∧ t.node? place = some node := by
  cases hl : t.locate path with
  | error f =>
    rw [inspect_unlocated hl]
    constructor
    · intro h; cases h
    · rintro ⟨place, h, -⟩; cases h
  | ok place =>
    rw [inspect_located hl]
    cases hn : t.node? place with
    | none =>
      constructor
      · intro h; cases h
      · rintro ⟨q, h, hq⟩
        cases h
        rw [hn] at hq; cases hq
    | some m =>
      constructor
      · intro h; cases h
        exact ⟨place, rfl, hn⟩
      · rintro ⟨q, h, hq⟩
        cases h
        rw [hn] at hq; cases hq; rfl

/-- New content at one place is not seen at a path that leads elsewhere. -/
theorem inspect_replace_ne (h : t.locate path ≠ .ok place) (octets : List UInt8) :
    (t.replace place octets).inspect path = t.inspect path := by
  have hsame := locate_replace t place octets path
  cases hl : t.locate path with
  | error f => rw [inspect_unlocated hl, inspect_unlocated (hsame.trans hl)]
  | ok q =>
    have hq : q ≠ place := by
      rintro rfl
      exact h hl
    rw [inspect_located hl, inspect_located (hsame.trans hl), node?_replace_ne t octets hq]

theorem probe_eq_true (property : Node → Bool) : t.probe property path = .ok true ↔
    ∃ place node, t.locate path = .ok place ∧ t.node? place = some node ∧ property node := by
  unfold probe
  constructor
  · intro h
    split at h
    · rename_i node hi
      obtain ⟨place, hl, hn⟩ := inspect_eq_ok.1 hi
      exact ⟨place, node, hl, hn, Except.ok.inj h⟩
    · cases h
    · cases h
  · rintro ⟨place, node, hl, hn, hp⟩
    rw [inspect_eq_ok.2 ⟨place, hl, hn⟩]
    show Except.ok (property node) = _
    rw [hp]

theorem exists?_eq_true : t.exists? path = .ok true ↔
    ∃ place node, t.locate path = .ok place ∧ t.node? place = some node := by
  simp [exists?, probe_eq_true]

theorem isDirectory?_eq_true : t.isDirectory? path = .ok true ↔
    ∃ place, t.locate path = .ok place ∧ t.node? place = some .directory := by
  rw [isDirectory?, probe_eq_true]
  constructor
  · rintro ⟨place, node, hl, hn, hd⟩
    cases node with
    | directory => exact ⟨place, hl, hn⟩
    | file o => cases hd
  · rintro ⟨place, hl, hn⟩
    exact ⟨place, .directory, hl, hn, rfl⟩

theorem Grows.exists? (h : Grows edited a b) (ha : a.exists? path = .ok true) :
    b.exists? path = .ok true := by
  obtain ⟨place, node, hl, hn⟩ := exists?_eq_true.1 ha
  obtain ⟨node', hn'⟩ := h.present hn
  exact exists?_eq_true.2 ⟨place, node', h.locate hl, hn'⟩

theorem Grows.isDirectory? (h : Grows edited a b) (ha : a.isDirectory? path = .ok true) :
    b.isDirectory? path = .ok true := by
  obtain ⟨place, hl, hn⟩ := isDirectory?_eq_true.1 ha
  exact isDirectory?_eq_true.2 ⟨place, h.locate hl, h.directory place hn⟩

theorem create_located (hl : t.locate path = .ok place) (node : Node) :
    t.create path node =
      if vacant : t.Vacant place then .ok (t.add place node vacant)
      else if (t.node? place).isSome then .error .present else .error .missing := by
  rw [create, hl]
  rfl

theorem create_unlocated {fault : FileFault} (hl : t.locate path = .error fault) (node : Node) :
    t.create path node = .error fault := by
  rw [create, hl]
  rfl

theorem create_of_ok (h : t.create path node = .ok t') :
    ∃ place, ∃ vacant : t.Vacant place,
      t.locate path = .ok place ∧ t' = t.add place node vacant := by
  cases hl : t.locate path with
  | error f => rw [create_unlocated hl] at h; cases h
  | ok place =>
    rw [create_located hl] at h
    split at h
    · rename_i vacant
      cases h
      exact ⟨place, vacant, rfl, rfl⟩
    · split at h <;> cases h

theorem step_ne_present (t : Tree) (p : Location) (part : String) :
    t.step p part ≠ .error .present := by
  unfold step
  split
  · simp
  · simp
  · split
    · simp
    · split <;> simp

theorem steps_ne_present (t : Tree) (parts : List String) (p : Location) :
    parts.foldlM t.step p ≠ .error .present := by
  induction parts generalizing p with
  | nil => simp [pure, Except.pure]
  | cons part rest ih =>
    rw [List.foldlM_cons]
    cases hs : t.step p part with
    | ok q => exact ih q
    | error f =>
      intro h
      cases h
      exact step_ne_present t p part hs

/-- Following a path never ends in the fault that something is there. -/
theorem locate_ne_present (t : Tree) (path : Path) : t.locate path ≠ .error .present := by
  unfold locate
  split
  · simp
  · split
    · simp
    · exact steps_ne_present t _ _

theorem create_present (h : t.create path node = .error .present) :
    t.exists? path = .ok true := by
  cases hl : t.locate path with
  | error f =>
    rw [create_unlocated hl] at h
    cases h
    exact absurd hl (locate_ne_present t path)
  | ok place =>
    rw [create_located hl] at h
    split at h
    · cases h
    · split at h
      · rename_i hs
        obtain ⟨n, hn⟩ := Option.isSome_iff_exists.1 hs
        exact exists?_eq_true.2 ⟨place, n, hl, hn⟩
      · cases h

/-- Something that is there cannot be created once more. -/
theorem create_of_present (hl : t.locate path = .ok place) (hn : t.node? place = some node)
    (node' : Node) : t.create path node' = .error .present := by
  rw [create_located hl, dif_neg, if_pos (by rw [hn]; rfl)]
  intro hv
  rw [hv.1] at hn
  cases hn

theorem grows_create (h : t.create path node = .ok t') : Grows [] t t' := by
  obtain ⟨place, vacant, -, rfl⟩ := create_of_ok h
  exact grows_add vacant

/-- A tree that grows by directories alone. -/
structure Widens (a b : Tree) : Prop where
  grows : Grows [] a b
  file : ∀ p o, b.node? p = some (.file o) → a.node? p = some (.file o)

theorem Widens.refl (t : Tree) : Widens t t :=
  ⟨.refl [] t, fun _ _ h => h⟩

theorem Widens.trans {c : Tree} (hab : Widens a b) (hbc : Widens b c) : Widens a c :=
  ⟨hab.grows.trans hbc.grows, fun p o h => hab.file p o (hbc.file p o h)⟩

theorem widens_create (h : t.create path .directory = .ok t') : Widens t t' := by
  refine ⟨grows_create h, fun p o hp => ?_⟩
  obtain ⟨place, vacant, -, rfl⟩ := create_of_ok h
  rw [node?_add] at hp
  split at hp
  · cases hp
  · exact hp

theorem isDirectory?_of_create (h : t.create path .directory = .ok t') :
    t'.isDirectory? path = .ok true := by
  have hg := grows_create h
  obtain ⟨place, vacant, hl, rfl⟩ := create_of_ok h
  refine isDirectory?_eq_true.2 ⟨place, hg.locate hl, ?_⟩
  rw [node?_add, if_pos rfl]

theorem isDirectory?_of_acceptDirectory {fault : FileFault}
    (h : t.acceptDirectory path fault = .ok ()) : t.isDirectory? path = .ok true := by
  unfold acceptDirectory at h
  split at h
  · assumption
  · cases h
  · cases h

theorem ensureLast_spec (t : Tree) (path : Path) : Widens t (t.ensureLast path).1 ∧
    ((t.ensureLast path).2 = .ok () → (t.ensureLast path).1.isDirectory? path = .ok true) := by
  unfold ensureLast
  split
  · rename_i t' h
    exact ⟨widens_create h, fun _ => isDirectory?_of_create h⟩
  · exact ⟨.refl t, fun h => by cases h⟩
  · exact ⟨.refl t, fun h => by cases h⟩
  · exact ⟨.refl t, isDirectory?_of_acceptDirectory⟩

/-- Making a directory widens the tree, also when it fails; when it succeeds the directory is
there. -/
theorem ensureDirectory_spec (t : Tree) (path : Path) : Widens t (t.ensureDirectory path).1 ∧
    ((t.ensureDirectory path).2 = .ok () →
      (t.ensureDirectory path).1.isDirectory? path = .ok true) := by
  fun_induction ensureDirectory t path with
  | case1 path t' h => exact ⟨widens_create h, fun _ => isDirectory?_of_create h⟩
  | case2 path h hp => exact ⟨.refl t, fun h => by cases h⟩
  | case3 path h hp t' hup ih =>
    rw [hup] at ih
    obtain ⟨hlast, hthere⟩ := ensureLast_spec t' path
    exact ⟨ih.1.trans hlast, hthere⟩
  | case4 path h hp t' f hup ih =>
    rw [hup] at ih
    exact ⟨ih.1, fun h => by cases h⟩
  | case5 path h => exact ⟨.refl t, fun h => by cases h⟩
  | case6 path f h hm hn => exact ⟨.refl t, isDirectory?_of_acceptDirectory⟩

/-- A directory that is there is left alone. -/
theorem ensureDirectory_of_isDirectory? (h : t.isDirectory? path = .ok true) :
    t.ensureDirectory path = (t, .ok ()) := by
  obtain ⟨place, hl, hn⟩ := isDirectory?_eq_true.1 h
  rw [ensureDirectory, create_of_present hl hn]
  show (t, t.acceptDirectory path .present) = _
  rw [acceptDirectory, h]

end Groundwork.Tree
