import Groundwork.Proofs.Generate.Filling
import Groundwork.Proofs.Tree.Viable
import Mathlib.Data.List.Nodup

/-!
# Files that do not get in each other's way

Files below one root, each in a directory whose name has no point and with a point in its own name,
never lie on the way to one another. So whether such a file can be written, and whether it will be
new, is decided by the tree that was there before any of them; and the tree with some of them is
the same whatever their order was.
-/

namespace Groundwork

namespace Run

open Groundwork.Tree (Viable Lacks lead isDirectory?_eq_true exists?_eq_true eq_lead_of_locate start_eq_of_home
  ensureDirectory_spec locate_of_parent create_in_directory)

variable {site site' : Site} {path : Path} {content : String} {w : Written}

/-- A file can be written where the way to it can be made, or it is there already. -/
theorem writeFile_of_viable (h : site.tree.Viable path) (hne : path.parts ≠ [])
    (content : String) : ∃ w site', on site (writeFile path content) = (.ok w, site') := by
  obtain ⟨answer, hanswer⟩ := h.exists?
  have hask : on site (ask path (site.tree.exists? path)) = (.ok answer, site) := by
    rw [on_ask, hanswer]
    rfl
  unfold writeFile
  rw [on_bind, on_tree]
  dsimp only
  rw [on_bind, hask]
  cases answer with
  | true => exact ⟨_, _, rfl⟩
  | false =>
    have hmade := h.parent.ensureDirectory (h.parent_free hne)
    obtain ⟨-, hthere⟩ := ensureDirectory_spec site.tree path.parent
    obtain ⟨hl, hd⟩ := locate_of_parent h.passable h.short hne (hthere hmade)
    simp only [Bool.false_eq_true, if_false]
    rw [on_bind, on_ensureDirectory, hmade]
    dsimp only [Except.mapError]
    rw [on_bind, on_tree]
    dsimp only
    rcases create_in_directory hl hd (.file (Text.Utf8.encode content.toList)) with ⟨t', hc⟩ | hc
    · rw [hc]
      exact ⟨_, _, rfl⟩
    · rw [hc]
      exact ⟨_, _, rfl⟩

theorem based_of_writeFile (hne : path.parts ≠ [])
    (h : on site (writeFile path content) = (.ok w, site')) : site.tree.Based path := by
  unfold writeFile at h
  obtain ⟨t, mid, ht, h⟩ := on_bind_ok.1 h
  cases ht
  obtain ⟨there, mid, hask, h⟩ := on_bind_ok.1 h
  rw [on_ask] at hask
  cases hex : site.tree.exists? path with
  | error f =>
    rw [hex] at hask
    cases hask
  | ok answer =>
    rw [hex] at hask
    cases hask
    cases there with
    | true =>
      -- the first part of the path was followed out of a directory
      obtain ⟨place, node, hl, -⟩ := exists?_eq_true.1 hex
      have hstart := (path.upTo_above (List.nil_append path.parts).symm)
      obtain ⟨first, hfirst, hn⟩ := isDirectory?_eq_true.1
        (Tree.isDirectory?_on_way hstart (fun he => hne he.symm) hl)
      rw [eq_lead_of_locate hfirst] at hn
      exact .inl hn
    | false =>
      simp only [Bool.false_eq_true, if_false] at h
      obtain ⟨u, mid, hdir, -⟩ := on_bind_ok.1 h
      rw [on_ensureDirectory] at hdir
      have hok : (site.tree.ensureDirectory path.parent).2 = .ok () := by
        cases ho : (site.tree.ensureDirectory path.parent).2 with
        | ok u => rfl
        | error f =>
          rw [ho] at hdir
          cases hdir
      have hbased := Tree.based_of_ensureDirectory hok
      exact hbased

theorem viable_of_writeFile (hne : path.parts ≠ [])
    (h : on site (writeFile path content) = (.ok w, site')) : site.tree.Viable path :=
  .of_grows ((keeps_writeFile path content).grows h) (based_of_writeFile hne h)
    (exists?_of_writeFile h)

/-- A file is reported as new exactly when its place was free, and is not on the way to it. -/
theorem created_iff_of_writeFile (hne : path.parts ≠ [])
    (h : on site (writeFile path content) = (.ok w, site')) :
    w.status = .created ↔ site.tree.Lacks path := by
  have hgrows := (keeps_writeFile path content).grows h
  have hstart (p : Path) : site'.tree.start p = site.tree.start p :=
    start_eq_of_home hgrows.home rfl
  obtain ⟨place, node, hl, hn⟩ := exists?_eq_true.1 (exists?_of_writeFile h)
  have hplace := eq_lead_of_locate hl
  rw [hstart] at hplace
  rcases writeFile_ok h with ⟨rfl, hwidens, -⟩ | ⟨rfl, mid, place', vacant, hwidens, hl', ht⟩
  · refine ⟨fun hnew => ?_, fun hlacks => ?_⟩
    · cases hnew
    -- what is there now was there before, or is a directory on the way
    have hbare : site.tree.node? place = none := hplace ▸ hlacks.bare
    cases node with
    | file o =>
      rw [hwidens.file _ o hn] at hbare
      cases hbare
    | directory =>
      have hfills := fills_writeFile path content site
      rw [h] at hfills
      obtain ⟨d, hd, p, hp, hlp⟩ := hfills.directory place hbare hn
      obtain rfl := List.mem_singleton.1 hd
      have hproper : p.parts ≠ path.parts := by
        intro hsame
        have hlength := hp.parts.length_le
        have hpos := List.length_pos_iff.2 hne
        rw [hsame] at hlength
        simp only [Path.parent, List.length_dropLast] at hlength
        omega
      refine absurd ?_ (hlacks.aside p (hp.trans path.above_parent) hproper)
      rw [← hplace, eq_lead_of_locate hlp, hstart]
  · refine ⟨fun _ => ⟨?_, fun p hp hproper hsame => ?_⟩, fun _ => rfl⟩
    · have hmid := eq_lead_of_locate hl'
      rw [start_eq_of_home hwidens.grows.home rfl] at hmid
      rw [← hmid]
      exact hwidens.grows.none_of_none vacant.1
    · obtain ⟨q, hq, hd⟩ := isDirectory?_eq_true.1 (Tree.isDirectory?_on_way hp hproper hl')
      have hmid : q = place' := by
        rw [eq_lead_of_locate hq, eq_lead_of_locate hl',
          start_eq_of_home hwidens.grows.home rfl, hsame, start_eq_of_home hwidens.grows.home rfl]
      rw [hmid, vacant.1] at hd
      cases hd

/-- What there is to report on a file, told from a tree without it. -/
structure Due (t : Tree) (path : Path) (w : Written) : Prop where
  viable : t.Viable path
  target : w.path = path
  created : w.status = .created ↔ t.Lacks path

theorem Due.unique {t : Tree} {w' : Written} (h : Due t path w) (h' : Due t path w') : w' = w := by
  obtain ⟨path', status'⟩ := w'
  obtain ⟨path'', status⟩ := w
  obtain ⟨-, rfl, hstatus⟩ := h
  obtain ⟨-, rfl, hstatus'⟩ := h'
  have hiff := hstatus'.trans hstatus.symm
  cases status' <;> cases status <;> simp_all

theorem due_of_writeFile (hne : path.parts ≠ [])
    (h : on site (writeFile path content) = (.ok w, site')) : Due site.tree path w :=
  ⟨viable_of_writeFile hne h, path_of_writeFile h, created_iff_of_writeFile hne h⟩

theorem writeFile_of_due (h : Due site.tree path w) (hne : path.parts ≠ []) (content : String) :
    ∃ site', on site (writeFile path content) = (.ok w, site') := by
  obtain ⟨w', site', hrun⟩ := writeFile_of_viable h.viable hne content
  exact ⟨site', h.unique (due_of_writeFile hne hrun) ▸ hrun⟩

end Run

namespace Path

/-- A file below the root: no directory on the way down has a point in its name, and the file has
one. -/
def Target (root path : Path) : Prop :=
  ∃ way name, root.Descends path (way ++ [name]) ∧ (∀ s ∈ way, '.' ∉ s.toList) ∧ '.' ∈ name.toList

variable {root p q x : Path}

theorem Target.ne_nil (h : Target root p) : p.parts ≠ [] := by
  obtain ⟨way, name, hdown, -⟩ := h
  rw [hdown.parts]
  simp

theorem Target.eq_of_lead (hp : Target root p) (hq : Target root q) (t : Tree)
    (h : Tree.lead (t.start p) p.parts = Tree.lead (t.start q) q.parts) : p = q := by
  obtain ⟨way, name, hdown, -⟩ := hp
  obtain ⟨way', name', hdown', -⟩ := hq
  rw [Tree.lead_descends hdown, Tree.lead_descends hdown'] at h
  have hrest := List.append_cancel_left h
  refine Path.ext (hdown.anchor.trans hdown'.anchor.symm) ?_
  rw [hdown.parts, hdown'.parts, hrest]

/-- Where the way to one file comes by the place of another, the way to that other does too. -/
theorem Target.on_way (hp : Target root p) (hq : Target root q) (t : Tree) (hx : x.Above q)
    (hproper : x.parts ≠ q.parts)
    (h : Tree.lead (t.start x) x.parts = Tree.lead (t.start p) p.parts) :
    x.Above p ∧ x.parts ≠ p.parts := by
  obtain ⟨way, name, hdown, -, hpoint⟩ := hp
  obtain ⟨way', name', hdown', hplain, -⟩ := hq
  rcases hx.total hdown'.above with hup | hbelow
  · refine ⟨hup.trans hdown.above, fun hsame => ?_⟩
    have hlength := hup.parts.length_le
    rw [hsame, hdown.parts, List.length_append, List.length_append, List.length_singleton]
      at hlength
    omega
  · -- below the root the way has no points, and the file has
    obtain ⟨passed, hpassed⟩ := hbelow.parts
    have hprefix : passed <+: way' ++ [name'] := by
      have hparts := hx.parts
      rw [← hpassed, hdown'.parts] at hparts
      exact (List.prefix_append_right_inj root.parts).1 hparts
    have hway : passed <+: way' := by
      rcases List.prefix_concat_iff.1 hprefix with hwhole | hway
      · refine absurd ?_ hproper
        rw [← hpassed, hwhole, hdown'.parts]
      · exact hway
    have hdescends : root.Descends x passed := by
      refine ⟨hbelow.anchor.symm, hpassed.symm, fun hup => hdown'.down ?_⟩
      exact List.mem_append_left _ (hway.subset hup)
    rw [Tree.lead_descends hdescends, Tree.lead_descends hdown] at h
    have hname : name ∈ way' := by
      apply hway.subset
      rw [List.append_cancel_left h]
      exact List.mem_append_right way (List.mem_singleton_self name)
    exact absurd hpoint (hplain name hname)

end Path

namespace Tree

open Groundwork.Path (Target)

/-- A file that was to be written: its path, and what it holds if it is new. -/
abbrev Deposit := Path × List UInt8

/-- The tree `m` is the tree `t` with the files in it that were to be written, each below the root
and in its place. -/
structure Bears (root : Path) (t : Tree) (files : List Deposit) (m : Tree) : Prop where
  distinct : (files.map Prod.fst).Nodup
  targets : ∀ f ∈ files, Target root f.1
  viable : ∀ f ∈ files, t.Viable f.1
  fills : Fills [] (files.map fun f => f.1.parent) (fun p o => (p, o) ∈ files) t m
  there : ∀ f ∈ files, m.exists? f.1 = .ok true

namespace Bears

variable {root p x : Path} {t m m' : Tree} {files others : List Deposit} {f : Deposit}
  {place : Location} {node : Node}

theorem nil (root : Path) (t : Tree) : Bears root t [] t where
  distinct := .nil
  targets f hf := by cases hf
  viable f hf := by cases hf
  fills := .refl [] _ _ t
  there f hf := by cases hf

theorem perm (h : Bears root t files m) (hperm : files.Perm others) : Bears root t others m where
  distinct := (hperm.map Prod.fst).nodup_iff.1 h.distinct
  targets f hf := h.targets f (hperm.mem_iff.2 hf)
  viable f hf := h.viable f (hperm.mem_iff.2 hf)
  fills := h.fills.mono (List.Subset.refl _) (hperm.map _).subset fun _ _ ho =>
    hperm.mem_iff.1 ho
  there f hf := h.there f (hperm.mem_iff.2 hf)

theorem start_eq (h : Bears root t files m) (p : Path) : m.start p = t.start p :=
  start_eq_of_home h.fills.grows.home rfl

/-- What was there is there as it was. -/
theorem kept (h : Bears root t files m) (hn : t.node? place = some node) :
    m.node? place = some node :=
  h.fills.grows.same hn fun _ he => by cases he

/-- All that leads to a file is directories. -/
theorem way (h : Bears root t files m) (hf : f ∈ files) (hx : x.Above f.1)
    (hproper : x.parts ≠ f.1.parts) : m.node? (lead (t.start x) x.parts) = some .directory := by
  obtain ⟨place, node, hl, -⟩ := exists?_eq_true.1 (h.there f hf)
  obtain ⟨q, hq, hd⟩ := isDirectory?_eq_true.1 (isDirectory?_on_way hx hproper hl)
  rwa [eq_lead_of_locate hq, h.start_eq] at hd

/-- A new directory is on the way to a file. -/
theorem directory (h : Bears root t files m) (hnone : t.node? place = none)
    (hd : m.node? place = some .directory) :
    ∃ f ∈ files, ∃ x : Path, x.Above f.1 ∧ x.parts ≠ f.1.parts ∧
      lead (t.start x) x.parts = place := by
  obtain ⟨d, hd, x, hx, hl⟩ := h.fills.directory place hnone hd
  obtain ⟨f, hf, rfl⟩ := List.mem_map.1 hd
  refine ⟨f, hf, x, hx.trans f.1.above_parent, fun hsame => ?_, ?_⟩
  · have hlength := hx.parts.length_le
    have hpos := List.length_pos_iff.2 (h.targets f hf).ne_nil
    rw [hsame] at hlength
    simp only [Path.parent, List.length_dropLast] at hlength
    omega
  · rw [eq_lead_of_locate hl, h.start_eq]

/-- A new file is one of those that were to be written. -/
theorem file (h : Bears root t files m) {octets : List UInt8} (hnone : t.node? place = none)
    (hf : m.node? place = some (.file octets)) :
    ∃ p, (p, octets) ∈ files ∧ lead (t.start p) p.parts = place := by
  obtain ⟨p, written, hmem, hl, rfl | ⟨e, he, -⟩⟩ := h.fills.file place octets hnone hf
  · exact ⟨p, hmem, by rw [eq_lead_of_locate hl, h.start_eq]⟩
  · cases he

/-- No file that was written is in the way of another one. -/
theorem free (h : Bears root t files m) (hp : Target root p) (hx : x.Above p)
    (hproper : x.parts ≠ p.parts) {octets : List UInt8}
    (hf : m.node? (lead (t.start x) x.parts) = some (.file octets)) :
    t.node? (lead (t.start x) x.parts) = some (.file octets) := by
  cases hn : t.node? (lead (t.start x) x.parts) with
  | some node => rw [← hf, h.kept hn]
  | none =>
    obtain ⟨q, hq, hlead⟩ := h.file hn hf
    obtain ⟨hx', hproper'⟩ := (h.targets _ hq).on_way hp t hx hproper hlead.symm
    rw [h.way hq hx' hproper'] at hf
    cases hf

theorem based_iff (h : Bears root t files m) (hp : Target root p) : m.Based p ↔ t.Based p := by
  have hanchor {f : Deposit} (hf : f ∈ files) : t.start f.1 = t.start p := by
    obtain ⟨way, name, hdown, -⟩ := h.targets f hf
    obtain ⟨way', name', hdown', -⟩ := hp
    exact start_eq_of_home rfl (hdown.anchor.trans hdown'.anchor.symm)
  have hearlier : ∀ place, m.node? place = some .directory → t.node? place = some .directory ∨
      t.Based p := by
    intro place hd
    cases hn : t.node? place with
    | some node =>
      rw [h.kept hn] at hd
      exact .inl hd
    | none =>
      obtain ⟨f, hf, -⟩ := h.directory hn hd
      have hbased := (h.viable f hf).based
      rw [Based, hanchor hf] at hbased
      exact .inr hbased
  rw [Based, h.start_eq]
  constructor
  · rintro (hd | ⟨hnone, hd⟩)
    · exact (hearlier _ hd).elim .inl id
    · exact (hearlier _ hd).elim (fun hd => .inr ⟨h.fills.grows.none_of_none hnone, hd⟩) id
  · rintro (hd | ⟨hnone, hd⟩)
    · exact .inl (h.kept hd)
    · cases hn : m.node? (t.start p) with
      | none => exact .inr ⟨hn, h.kept hd⟩
      | some node =>
        cases node with
        | directory => exact .inl rfl
        | file o =>
          have hempty := p.upTo_above (List.nil_append p.parts).symm
          have hold := h.free hp hempty (fun he => hp.ne_nil he.symm) hn
          rw [show lead _ _ = t.start p from rfl, hnone] at hold
          cases hold

/-- Whether a file can be written does not depend on the others. -/
theorem viable_iff (h : Bears root t files m) (hp : Target root p) : m.Viable p ↔ t.Viable p := by
  constructor
  · rintro ⟨hpassable, hshort, hbased, hfree⟩
    refine ⟨hpassable, hshort, (h.based_iff hp).1 hbased, fun x hx hproper o ho => ?_⟩
    refine hfree x hx hproper o ?_
    rw [h.start_eq]
    exact h.kept ho
  · rintro ⟨hpassable, hshort, hbased, hfree⟩
    refine ⟨hpassable, hshort, (h.based_iff hp).2 hbased, fun x hx hproper o ho => ?_⟩
    rw [h.start_eq] at ho
    exact hfree x hx hproper o (h.free hp hx hproper ho)

/-- Whether a file will be new does not depend on the others. -/
theorem lacks_iff (h : Bears root t files m) (hp : Target root p) (hnew : ∀ f ∈ files, f.1 ≠ p) :
    m.Lacks p ↔ t.Lacks p := by
  constructor
  · rintro ⟨hbare, haside⟩
    rw [h.start_eq] at hbare
    refine ⟨h.fills.grows.none_of_none hbare, fun x hx hproper => ?_⟩
    have hne := haside x hx hproper
    rwa [h.start_eq, h.start_eq] at hne
  · rintro ⟨hbare, haside⟩
    refine ⟨?_, fun x hx hproper => ?_⟩
    · rw [h.start_eq]
      cases hn : m.node? (lead (t.start p) p.parts) with
      | none => rfl
      | some node =>
        cases node with
        | directory =>
          obtain ⟨f, hf, x, hx, hproper, hlead⟩ := h.directory hbare hn
          obtain ⟨hx', hproper'⟩ := hp.on_way (h.targets f hf) t hx hproper hlead
          exact absurd hlead (haside x hx' hproper')
        | file o =>
          obtain ⟨q, hq, hlead⟩ := h.file hbare hn
          exact absurd ((h.targets _ hq).eq_of_lead hp t hlead) (hnew _ hq)
    · rw [h.start_eq, h.start_eq]
      exact haside x hx hproper

/-- What there is to report on a file does not depend on the others. -/
theorem due_iff (h : Bears root t files m) (hp : Target root p) (hnew : ∀ f ∈ files, f.1 ≠ p)
    {w : Written} : Run.Due m p w ↔ Run.Due t p w := by
  constructor
  · rintro ⟨hviable, hpath, hcreated⟩
    exact ⟨(h.viable_iff hp).1 hviable, hpath, hcreated.trans (h.lacks_iff hp hnew)⟩
  · rintro ⟨hviable, hpath, hcreated⟩
    exact ⟨(h.viable_iff hp).2 hviable, hpath, hcreated.trans (h.lacks_iff hp hnew).symm⟩

/-- Another file that was to be written. -/
theorem writeFile {site site' : Site} {content : String} {w : Written}
    (h : Bears root t files site.tree) (hp : Target root p) (hnew : ∀ f ∈ files, f.1 ≠ p)
    (hw : Run.on site (Run.writeFile p content) = (.ok w, site')) :
    Bears root t ((p, Text.Utf8.encode content.toList) :: files) site'.tree := by
  have hgrows := (Run.keeps_writeFile p content).grows hw
  have hfills := Run.fills_writeFile p content site
  rw [hw] at hfills
  have hviable := (h.viable_iff hp).1 (Run.viable_of_writeFile hp.ne_nil hw)
  refine ⟨List.nodup_cons.2 ⟨?_, h.distinct⟩, List.forall_mem_cons.2 ⟨hp, h.targets⟩,
    List.forall_mem_cons.2 ⟨hviable, h.viable⟩, ?_,
    List.forall_mem_cons.2 ⟨Run.exists?_of_writeFile hw, fun f hf => hgrows.exists? (h.there f hf)⟩⟩
  · intro hmem
    obtain ⟨f, hf, hsame⟩ := List.mem_map.1 hmem
    exact hnew f hf hsame
  · refine (h.fills.mono (List.Subset.refl _) (List.subset_cons_self _ _) fun _ _ ho =>
      List.mem_cons_of_mem _ ho).trans (hfills.mono (List.Subset.refl _) ?_ ?_)
    · intro d hd
      rw [List.mem_singleton.1 hd]
      exact List.mem_cons_self
    · rintro _ _ ⟨rfl, rfl⟩
      exact List.mem_cons_self

/-- What is new at a place is decided by the files. -/
theorem node_unique (h : Bears root t files m) (h' : Bears root t files m') {node' : Node}
    (hnone : t.node? place = none) (hn : m.node? place = some node)
    (hn' : m'.node? place = some node') : node' = node := by
  cases node with
  | directory =>
    obtain ⟨f, hf, x, hx, hproper, rfl⟩ := h.directory hnone hn
    rw [h'.way hf hx hproper] at hn'
    exact (Option.some.inj hn').symm
  | file o =>
    cases node' with
    | directory =>
      obtain ⟨f, hf, x, hx, hproper, rfl⟩ := h'.directory hnone hn'
      rw [h.way hf hx hproper] at hn
      cases hn
    | file o' =>
      obtain ⟨p, hp, rfl⟩ := h.file hnone hn
      obtain ⟨q, hq, hlead⟩ := h'.file hnone hn'
      have hsame := (h.targets _ hq).eq_of_lead (h.targets _ hp) t hlead
      have hpair := List.inj_on_of_nodup_map h.distinct hq hp hsame
      exact congrArg Node.file (Prod.ext_iff.1 hpair).2

/-- The order in which files were written is not seen. -/
theorem node?_eq (h : Bears root t files m) (h' : Bears root t others m')
    (hperm : files.Perm others) : m'.node? = m.node? := by
  have h' := h'.perm hperm.symm
  clear hperm
  -- what one of the trees has got is in the other one
  have hnew {m m' : Tree} (h : Bears root t files m) (h' : Bears root t files m')
      {place : Location} {node : Node} (hnone : t.node? place = none)
      (hn : m.node? place = some node) : m'.node? place ≠ none := by
    cases node with
    | directory =>
      obtain ⟨f, hf, x, hx, hproper, rfl⟩ := h.directory hnone hn
      rw [h'.way hf hx hproper]
      exact nofun
    | file o =>
      obtain ⟨p, hp, rfl⟩ := h.file hnone hn
      obtain ⟨place, node, hl, hn⟩ := exists?_eq_true.1 (h'.there _ hp)
      rw [← h'.start_eq, ← eq_lead_of_locate hl, hn]
      exact nofun
  funext place
  cases hn : t.node? place with
  | some node => rw [h.kept hn, h'.kept hn]
  | none =>
    cases hm : m.node? place with
    | none =>
      cases hm' : m'.node? place with
      | none => rfl
      | some node => exact absurd hm (hnew h' h hn hm')
    | some node =>
      cases hm' : m'.node? place with
      | none => exact absurd hm' (hnew h h' hn hm)
      | some node' =>
        rw [h.node_unique h' hn hm hm']

end Bears

end Tree

end Groundwork
