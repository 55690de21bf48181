import Groundwork.Proofs.Tree.Places

/-!
# Ways that can be made

Whether the directories on the way to a path can be made is decided before any of them is: the path
has to be well-formed and its names short, there has to be a place to start from, and no file may
stand in the way. Missing directories never stand in the way, also where a part leads upwards.
-/

namespace Groundwork

/-- A path on the way, by its parts. -/
def Path.upTo (path : Path) {parts rest : List String} (h : path.parts = parts ++ rest) : Path where
  anchor := path.anchor
  parts := parts
  plain part hpart := path.plain part (h ▸ List.mem_append_left rest hpart)

theorem Path.upTo_above (path : Path) {parts rest : List String}
    (h : path.parts = parts ++ rest) : (path.upTo h).Above path :=
  ⟨rfl, rest, h.symm⟩

namespace Tree

variable {a b t : Tree} {path : Path} {place mid : Location} {parts : List String}

/-- There is a directory to start from, or the place for one. -/
def Based (t : Tree) (path : Path) : Prop :=
  t.node? (t.start path) = some .directory ∨ t.Vacant (t.start path)

/-- Nothing keeps the way to the path from being made. -/
structure Viable (t : Tree) (path : Path) : Prop where
  passable : Passable path
  short : ∀ part ∈ path.parts, part = ".." ∨ part.utf8ByteSize ≤ nameLimit
  based : t.Based path
  free : ∀ p, p.Above path → p.parts ≠ path.parts →
    ∀ o, t.node? (lead (t.start p) p.parts) ≠ some (.file o)

theorem locate_of_passable (h : Passable path) (t : Tree) :
    t.locate path = path.parts.foldlM t.step (t.start path) := by
  unfold locate
  rw [h.no_null, if_neg (by simp), if_neg (Nat.not_lt.2 h.short)]
  rfl

theorem steps_short (h : parts.foldlM t.step place = .ok mid) :
    ∀ part ∈ parts, part = ".." ∨ part.utf8ByteSize ≤ nameLimit := by
  induction parts generalizing place with
  | nil => simp
  | cons part rest ih =>
    rw [List.foldlM_cons] at h
    cases hs : t.step place part with
    | error f =>
      rw [hs] at h
      cases h
    | ok next =>
      rw [hs] at h
      refine List.forall_mem_cons.2 ⟨?_, ih h⟩
      unfold step at hs
      split at hs
      · cases hs
      · cases hs
      · split at hs
        · exact .inl ‹_›
        · split at hs
          · cases hs
          · exact .inr (by omega)

/-- Without a file in the way, all that a way can lack is directories. -/
theorem steps_of_free (hshort : ∀ part ∈ parts, part = ".." ∨ part.utf8ByteSize ≤ nameLimit)
    (hfree : ∀ before after, parts = before ++ after → after ≠ [] →
      ∀ o, t.node? (lead place before) ≠ some (.file o)) :
    parts.foldlM t.step place = .ok (lead place parts) ∨
      parts.foldlM t.step place = .error .missing := by
  induction parts generalizing place with
  | nil => exact .inl rfl
  | cons part rest ih =>
    obtain ⟨hpart, hrest⟩ := List.forall_mem_cons.1 hshort
    rw [List.foldlM_cons]
    cases hn : t.node? place with
    | none =>
      have hstep : t.step place part = .error .missing := by rw [step, hn]
      rw [hstep]
      exact .inr rfl
    | some node =>
      cases node with
      | file o => exact absurd hn (hfree [] (part :: rest) rfl (List.cons_ne_nil _ _) o)
      | directory =>
        have hstep : t.step place part = .ok (lead place [part]) := by
          simp only [step, hn, lead, List.foldl_cons, List.foldl_nil]
          by_cases hup : part = ".."
          · rw [if_pos hup, if_pos hup]
          · rw [if_neg hup, if_neg hup, if_neg (Nat.not_lt.2 (hpart.resolve_left hup))]
        rw [hstep]
        refine ih hrest fun before after hsplit hne o => ?_
        have hlead : lead (lead place [part]) before = lead place (part :: before) :=
          (lead_append place [part] before).symm
        rw [hlead]
        exact hfree (part :: before) after (by rw [hsplit]; rfl) hne o

namespace Viable

theorem locate (h : t.Viable path) :
    t.locate path = .ok (lead (t.start path) path.parts) ∨ t.locate path = .error .missing := by
  rw [locate_of_passable h.passable]
  refine steps_of_free h.short fun before after hsplit hne o => ?_
  refine h.free (path.upTo hsplit) (path.upTo_above hsplit) (fun hsame => hne ?_) o
  have hparts : before = before ++ after := hsame.trans hsplit
  exact List.append_right_eq_self.1 hparts.symm

theorem exists? (h : t.Viable path) : ∃ answer, t.exists? path = .ok answer := by
  unfold Tree.exists? probe
  rcases h.locate with hl | hl
  · rw [inspect_located hl]
    cases t.node? (lead (t.start path) path.parts) with
    | none => exact ⟨false, rfl⟩
    | some node => exact ⟨true, rfl⟩
  · rw [inspect_unlocated hl]
    exact ⟨false, rfl⟩

theorem parent (h : t.Viable path) : t.Viable path.parent where
  passable := h.passable.above path.above_parent
  short part hpart := h.short part (List.dropLast_subset path.parts hpart)
  based := h.based
  free p hp hne o := by
    refine h.free p (hp.trans path.above_parent) (fun hsame => hne ?_) o
    have hlength := hp.parts.length_le
    rw [hsame] at hlength
    simp only [Path.parent, List.length_dropLast] at hlength
    have hnil : path.parts = [] := List.length_eq_zero_iff.1 (by omega)
    rw [hsame, hnil]
    simp [Path.parent, hnil]

theorem parent_free (h : t.Viable path) (hne : path.parts ≠ []) (o : List UInt8) :
    t.node? (lead (t.start path.parent) path.parent.parts) ≠ some (.file o) := by
  refine h.free path.parent path.above_parent (fun hsame => ?_) o
  have hlength := congrArg List.length hsame
  have hpos := List.length_pos_iff.2 hne
  simp only [Path.parent, List.length_dropLast] at hlength
  omega

end Viable

/-- Once the directory above it is there, a path leads somewhere, and into a directory. -/
theorem locate_of_parent (hpath : Passable path)
    (hshort : ∀ part ∈ path.parts, part = ".." ∨ part.utf8ByteSize ≤ nameLimit)
    (hne : path.parts ≠ []) (hd : t.isDirectory? path.parent = .ok true) :
    t.locate path = .ok (lead (t.start path) path.parts) ∧
      t.node? (lead (t.start path) path.parts).dropLast = some .directory := by
  obtain ⟨up, hup, hn⟩ := isDirectory?_eq_true.1 hd
  obtain ⟨-, hsteps⟩ := locate_eq_ok.1 hup
  have hsplit : path.parts = path.parent.parts ++ [path.parts.getLast hne] :=
    (List.dropLast_concat_getLast hne).symm
  have hlast := hshort _ (List.getLast_mem hne)
  generalize path.parts.getLast hne = last at hsplit hlast
  have hlead : lead (t.start path) path.parts = if last = ".." then up.dropLast else up ++ [last] := by
    rw [hsplit, lead_append, eq_lead_of_locate hup]
    rfl
  have hstep : t.step up last = .ok (lead (t.start path) path.parts) := by
    rw [step, hn, hlead]
    by_cases hlastup : last = ".."
    · rw [if_pos hlastup, if_pos hlastup]
    · rw [if_neg hlastup, if_neg hlastup, if_neg (Nat.not_lt.2 (hlast.resolve_left hlastup))]
  constructor
  · rw [locate_of_passable hpath, hsplit, List.foldlM_append]
    have hfront : path.parent.parts.foldlM t.step (t.start path) = .ok up := hsteps
    rw [hfront, ← hsplit]
    show (t.step up last >>= fun next => pure next) = _
    rw [hstep]
    rfl
  · rw [hlead]
    split
    · exact node?_dropLast (node?_dropLast hn)
    · rw [List.dropLast_concat]
      exact hn

/-- In a directory, something can be made or is there already. -/
theorem create_in_directory (hl : t.locate path = .ok place)
    (hd : t.node? place.dropLast = some .directory) (node : Node) :
    (∃ t', t.create path node = .ok t') ∨ t.create path node = .error .present := by
  rw [create_located hl]
  cases hn : t.node? place with
  | none => exact .inl ⟨t.add place node ⟨hn, hd⟩, dif_pos ⟨hn, hd⟩⟩
  | some old =>
    have hoccupied : ¬ t.Vacant place := fun hv => by
      rw [hv.1] at hn
      cases hn
    exact .inr (by rw [dif_neg hoccupied]; rfl)

theorem acceptDirectory_of_not_file (hl : t.locate path = .ok place)
    (hthere : t.exists? path = .ok true) (hfile : ∀ o, t.node? place ≠ some (.file o))
    (fault : FileFault) : t.acceptDirectory path fault = .ok () := by
  have hd : t.isDirectory? path = .ok true := by
    obtain ⟨place', node, hl', hn⟩ := exists?_eq_true.1 hthere
    rw [hl] at hl'
    cases hl'
    cases node with
    | directory => exact isDirectory?_eq_true.2 ⟨place, hl, hn⟩
    | file o => exact absurd hn (hfile o)
  rw [acceptDirectory, hd]

theorem ensureLast_of_located (hl : t.locate path = .ok place)
    (hd : t.node? place.dropLast = some .directory)
    (hfile : ∀ o, t.node? place ≠ some (.file o)) : (t.ensureLast path).2 = .ok () := by
  unfold ensureLast
  rcases create_in_directory hl hd .directory with ⟨t', hc⟩ | hc
  · rw [hc]
  · rw [hc]
    exact acceptDirectory_of_not_file hl (create_present hc) hfile _

/-- A directory can be made where the way can, unless a file is at its end. -/
theorem Viable.ensureDirectory (h : t.Viable path)
    (hfile : ∀ o, t.node? (lead (t.start path) path.parts) ≠ some (.file o)) :
    (t.ensureDirectory path).2 = .ok () := by
  fun_induction Tree.ensureDirectory t path with
  | case1 path t' hc => rfl
  | case2 path hc hnil =>
    -- the path is the place to start from, where a directory is or can be
    have hl : t.locate path = .ok (t.start path) := by
      rw [locate_of_passable h.passable, hnil]
      rfl
    rw [create_located hl] at hc
    rcases h.based with hd | hv
    · rw [dif_neg (fun hv => by rw [hv.1] at hd; cases hd), hd] at hc
      cases hc
    · rw [dif_pos hv] at hc
      cases hc
  | case3 path hc hne t' hup ih =>
    obtain ⟨hwidens, hthere⟩ := ensureDirectory_spec t path.parent
    rw [hup] at hwidens hthere
    have hstart : t'.start path = t.start path := start_eq_of_home hwidens.grows.home rfl
    obtain ⟨hl, hd⟩ := locate_of_parent h.passable h.short hne (hthere rfl)
    refine ensureLast_of_located hl hd fun o ho => ?_
    rw [hstart] at ho
    exact hfile o (hwidens.file _ o ho)
  | case4 path hc hne t' f hup ih =>
    have hok := ih h.parent (h.parent_free hne)
    rw [hup] at hok
    cases hok
  | case5 path hc =>
    rcases h.locate with hl | hl
    · rw [create_located hl] at hc
      split at hc
      · cases hc
      · split at hc <;> cases hc
    · rw [create_unlocated hl] at hc
      cases hc
  | case6 path f hmissing hnull hc =>
    rcases h.locate with hl | hl
    · have hpresent : f = .present := by
        rw [create_located hl] at hc
        split at hc
        · cases hc
        · split at hc
          · cases hc
            rfl
          · cases hc
            exact absurd rfl hmissing
      subst hpresent
      exact acceptDirectory_of_not_file hl (create_present hc) hfile _
    · rw [create_unlocated hl] at hc
      cases hc
      exact absurd rfl hmissing

theorem based_of_ensureDirectory (h : (t.ensureDirectory path).2 = .ok ()) : t.Based path := by
  have hbase := ensureDirectory_above (path.upTo_above (List.nil_append path.parts).symm) h
  generalize hp : path.upTo (List.nil_append path.parts).symm = base at hbase
  have hanchor : base.anchor = path.anchor := by rw [← hp]; rfl
  have hparts : base.parts = [] := by rw [← hp]; rfl
  have hstart : t.start path = t.start base := start_eq_of_home rfl hanchor.symm
  have hplace {place : Location} (hl : t.locate base = .ok place) : place = t.start path := by
    rw [eq_lead_of_locate hl, hparts, hstart]
    rfl
  have hthere : t.isDirectory? base = .ok true → t.Based path := by
    intro hd
    obtain ⟨place, hl, hn⟩ := isDirectory?_eq_true.1 hd
    exact .inl (hplace hl ▸ hn)
  rw [Tree.ensureDirectory] at hbase
  split at hbase
  · rename_i t' hc
    obtain ⟨place, vacant, hl, -⟩ := create_of_ok hc
    exact .inr (hplace hl ▸ vacant)
  · rw [if_pos hparts] at hbase
    cases hbase
  · cases hbase
  · exact hthere (isDirectory?_of_acceptDirectory hbase)

/-- What lies at the end of a way shows that the way could be made. -/
theorem Viable.of_grows (h : a.Grows [] b) (hbase : a.Based path)
    (hthere : b.exists? path = .ok true) : a.Viable path := by
  obtain ⟨place, node, hl, -⟩ := exists?_eq_true.1 hthere
  obtain ⟨hpassable, hsteps⟩ := locate_eq_ok.1 hl
  refine ⟨hpassable, steps_short hsteps, hbase, fun p hp hne o ho => ?_⟩
  obtain ⟨q, hq, hd⟩ := isDirectory?_eq_true.1 (isDirectory?_on_way hp hne hl)
  obtain ⟨o', ho', -⟩ := h.file _ o ho
  have hplace : q = lead (a.start p) p.parts := by
    rw [eq_lead_of_locate hq, start_eq_of_home h.home rfl]
  rw [hplace, ho'] at hd
  cases hd

/-- Nothing is at the end of the path, and the way to it does not come by there either. -/
structure Lacks (t : Tree) (path : Path) : Prop where
  bare : t.node? (lead (t.start path) path.parts) = none
  aside : ∀ p, p.Above path → p.parts ≠ path.parts →
    lead (t.start p) p.parts ≠ lead (t.start path) path.parts

end Tree

end Groundwork
