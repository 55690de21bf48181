import Groundwork.Proofs.Path
import Groundwork.Proofs.Splice
import Groundwork.Proofs.Text.Position
import Mathlib.Logic.Function.Basic

/-!
# When and where a patch puts something in

What comes of a patch is told by positions in the text of the file, and by the nodes of the tree,
without the searches. The status is the first that applies of a target that is missing, octets that
are not a text, a text that has what the patch is for, and a text without the anchor; otherwise the
insertion goes to the first or last occurrence, or behind the first line end from there on. Only a
path that is too long to be asked about has no outcome: there a patch fails, and leaves the tree as
it was.
-/

namespace Groundwork

open Text Utf8

/-- A path leads to a regular file with these octets. -/
structure Tree.HasFile (t : Tree) (path : Path) (place : Location) (octets : List UInt8) :
    Prop where
  locate : t.locate path = .ok place
  node? : t.node? place = some (.file octets)

/-- The octets of a file are those of a text, which is read with line ends of one kind. -/
def ReadsAs (octets : List UInt8) (x : String) : Prop :=
  ∃ cs, encode cs = octets ∧ x = .ofList (unifyLineEnds cs)

theorem readsAs_of_decode {octets : List UInt8} {cs : List Char} (h : decode octets = .ok cs) :
    ReadsAs octets (.ofList (unifyLineEnds cs)) :=
  ⟨cs, encode_of_decode h, rfl⟩

namespace Patch

variable {p : Patch} {x y : String} {insertion cs out out' : List Char} {i n : Nat}
  {placement : Placement} {old new : List UInt8} {status : PatchStatus}

/-- The position of the occurrence that a patch goes by. -/
def MarkedAt (p : Patch) (cs : List Char) (i : Nat) : Prop :=
  match p.occurrence with
  | .first => FirstAt p.anchor.toList cs i
  | .last => LastAt p.anchor.toList cs i

/-- The least position of a line end from `i` on. -/
structure LineEndAt (cs : List Char) (i n : Nat) : Prop where
  behind : i ≤ n
  ends : cs[n]? = some '\n'
  least : ∀ m, i ≤ m → m < n → cs[m]? ≠ some '\n'

/-- A text with an insertion that goes by position `i`. -/
inductive Inserted (insertion cs : List Char) (i : Nat) : Placement → List Char → Prop
  | before : Inserted insertion cs i .before (cs.take i ++ insertion ++ cs.drop i)
  | afterLine {n : Nat} (h : LineEndAt cs i n) :
    Inserted insertion cs i .afterLine (cs.take (n + 1) ++ insertion ++ cs.drop (n + 1))
  | afterLastLine (h : '\n' ∉ cs.drop i) :
    Inserted insertion cs i .afterLine (cs ++ '\n' :: insertion)

theorem MarkedAt.occurs (h : p.MarkedAt cs i) : OccursAt p.anchor.toList cs i := by
  unfold MarkedAt at h
  split at h
  · exact h.occurs
  · exact h.occurs

theorem MarkedAt.unique {j : Nat} (h : p.MarkedAt cs i) (h' : p.MarkedAt cs j) : i = j := by
  unfold MarkedAt at h h'
  split at h
  · rename_i ho
    rw [ho] at h'
    exact h.unique h'
  · rename_i ho
    rw [ho] at h'
    exact h.unique h'

theorem markedAt_of_cut? {before after : List Char}
    (h : cut? p.occurrence p.anchor.toList cs = some (before, after)) :
    p.MarkedAt cs before.length := by
  unfold MarkedAt
  cases ho : p.occurrence with
  | first => exact firstAt_of_cutFirst? (by rwa [ho] at h)
  | last => exact lastAt_of_cutLast? (by rwa [ho] at h)

theorem LineEndAt.mem_drop (h : LineEndAt cs i n) : '\n' ∈ cs.drop i := by
  refine List.mem_of_getElem? (i := n - i) ?_
  rw [List.getElem?_drop, Nat.add_sub_cancel' h.behind]
  exact h.ends

theorem LineEndAt.unique {m : Nat} (h : LineEndAt cs i n) (h' : LineEndAt cs i m) : n = m := by
  refine Nat.le_antisymm (Nat.le_of_not_lt fun hlt => ?_) (Nat.le_of_not_lt fun hlt => ?_)
  · exact h.least m h'.behind hlt h'.ends
  · exact h'.least n h.behind hlt h.ends

/-- One insertion goes to one place. -/
theorem Inserted.unique (h : Inserted insertion cs i placement out)
    (h' : Inserted insertion cs i placement out') : out = out' := by
  cases h with
  | before =>
    cases h'
    rfl
  | afterLine hend =>
    cases h' with
    | afterLine hend' => rw [hend.unique hend']
    | afterLastLine hno => exact absurd hend.mem_drop hno
  | afterLastLine hno =>
    cases h' with
    | afterLine hend => exact absurd hend.mem_drop hno
    | afterLastLine => rfl

theorem inserted_insertAfterLine (insertion cs : List Char) :
    Inserted insertion cs 0 .afterLine (insertAfterLine insertion cs) := by
  induction cs with
  | nil => exact .afterLastLine (List.not_mem_nil)
  | cons c rest ih =>
    by_cases hc : c = '\n'
    · rw [insertAfterLine, if_pos hc]
      exact .afterLine (n := 0) ⟨Nat.le_refl 0, by simp [hc], fun m _ hm => absurd hm m.not_lt_zero⟩
    · rw [insertAfterLine, if_neg hc]
      generalize hout : insertAfterLine insertion rest = out at ih
      cases ih with
      | @afterLine n hend =>
        refine .afterLine (n := n + 1) ⟨Nat.zero_le _, hend.ends, fun m _ hm => ?_⟩
        cases m with
        | zero => simpa using hc
        | succ m => exact hend.least m (Nat.zero_le m) (Nat.lt_of_succ_lt_succ hm)
      | afterLastLine hno =>
        refine .afterLastLine ?_
        rw [List.drop_zero] at hno ⊢
        exact List.not_mem_cons_of_ne_of_not_mem (Ne.symm hc) hno

/-- Text in front of the position changes nothing of an insertion. -/
theorem Inserted.append_left (h : Inserted insertion cs 0 placement out) (front : List Char) :
    Inserted insertion (front ++ cs) front.length placement (front ++ out) := by
  cases h with
  | before =>
    have hbefore : Inserted insertion (front ++ cs) front.length .before _ := .before
    rw [List.take_left, List.drop_left] at hbefore
    simpa using hbefore
  | @afterLine n hend =>
    have hend' : LineEndAt (front ++ cs) front.length (front.length + n) := by
      refine ⟨Nat.le_add_right _ _, ?_, fun m hle hlt => ?_⟩
      · rw [List.getElem?_append_right (Nat.le_add_right _ _), Nat.add_sub_cancel_left]
        exact hend.ends
      · rw [List.getElem?_append_right hle]
        exact hend.least _ (Nat.zero_le _) (by omega)
    have hafter : Inserted insertion (front ++ cs) front.length .afterLine _ := .afterLine hend'
    rw [Nat.add_assoc, List.take_length_add_append, List.drop_length_add_append] at hafter
    simpa only [List.append_assoc] using hafter
  | afterLastLine hno =>
    have hlast : Inserted insertion (front ++ cs) front.length .afterLine _ :=
      .afterLastLine (by rwa [List.drop_left])
    rwa [List.append_assoc] at hlast

/-- Where a patch can be applied, and what comes of it. -/
theorem applyTo?_eq_some_iff : p.applyTo? x = some y ↔ ∃ i, p.MarkedAt x.toList i ∧
    Inserted p.insertion.toList x.toList i p.placement y.toList := by
  have hinserted : ∀ y, p.applyTo? x = some y → ∃ i, p.MarkedAt x.toList i ∧
      Inserted p.insertion.toList x.toList i p.placement y.toList := by
    intro y h
    obtain ⟨⟨before, after⟩, hcut, rfl⟩ := Option.map_eq_some_iff.1 h
    refine ⟨before.length, markedAt_of_cut? hcut, ?_⟩
    rw [(parts_of_cut? hcut).1, String.toList_ofList]
    cases p.placement with
    | before =>
      have hbefore : Inserted p.insertion.toList after 0 .before (p.insertion.toList ++ after) :=
        .before
      have hfront := hbefore.append_left before
      rwa [← List.append_assoc] at hfront
    | afterLine => exact (inserted_insertAfterLine p.insertion.toList after).append_left before
  refine ⟨hinserted y, ?_⟩
  rintro ⟨i, hmark, hins⟩
  have hsome : p.applyTo? x ≠ none := by
    rw [ne_eq, applyTo?_eq_none, not_not]
    exact exists_occursAt.1 ⟨i, hmark.occurs⟩
  obtain ⟨y', hy'⟩ := Option.ne_none_iff_exists'.1 hsome
  obtain ⟨j, hmark', hins'⟩ := hinserted y' hy'
  obtain rfl := hmark.unique hmark'
  rw [hy', String.toList_inj.1 (hins.unique hins')]

/-- The status that a patch reports on the octets of a file, and the octets that it leaves. -/
inductive Edits (p : Patch) (old : List UInt8) : PatchStatus → List UInt8 → Prop
  | unreadable (h : ∀ x, ¬ ReadsAs old x) : Edits p old .unreadable old
  | alreadyPresent {x : String} (hread : ReadsAs old x) (h : p.isPresent x) :
    Edits p old .alreadyPresent old
  | missingAnchor {x : String} (hread : ReadsAs old x) (habsent : ¬ p.isPresent x)
    (h : ∀ i, ¬ OccursAt p.anchor.toList x.toList i) : Edits p old .missingAnchor old
  | patched {x : String} {i : Nat} {out : List Char} (hread : ReadsAs old x)
    (habsent : ¬ p.isPresent x) (hmark : p.MarkedAt x.toList i)
    (h : Inserted p.insertion.toList x.toList i p.placement out) :
    Edits p old .patched (encode out)

theorem patchOctets_of_readsAs (h : ReadsAs old x) : Run.patchOctets p old =
    if p.isPresent x then (none, .alreadyPresent)
    else match p.applyTo? x with
      | none => (none, .missingAnchor)
      | some y => (some (encode y.toList), .patched) := by
  obtain ⟨cs, rfl, rfl⟩ := h
  have hdecode := decode_encode cs
  unfold Run.patchOctets
  split
  · rename_i fault hfault
    rw [hdecode] at hfault
    cases hfault
  · rename_i cs' hcs
    obtain rfl := Except.ok.inj (hdecode.symm.trans hcs)
    rfl

theorem edits_patchOctets (p : Patch) (old : List UInt8) :
    p.Edits old (Run.patchOctets p old).2 ((Run.patchOctets p old).1.getD old) := by
  cases hd : decode old with
  | error fault =>
    have hunread : Run.patchOctets p old = (none, .unreadable) := by
      rw [Run.patchOctets, hd]
    rw [hunread]
    refine .unreadable ?_
    rintro x ⟨cs, rfl, -⟩
    rw [decode_encode] at hd
    cases hd
  | ok cs =>
    have hread := readsAs_of_decode hd
    rw [patchOctets_of_readsAs hread]
    split
    · exact .alreadyPresent hread ‹_›
    · rename_i habsent
      split
      · rename_i hnone
        refine .missingAnchor hread habsent fun i hi => ?_
        exact applyTo?_eq_none.1 hnone (exists_occursAt.1 ⟨i, hi⟩)
      · rename_i y hy
        obtain ⟨i, hmark, hins⟩ := applyTo?_eq_some_iff.1 hy
        exact .patched hread habsent hmark hins

theorem Edits.eq_patchOctets (h : p.Edits old status new) :
    status = (Run.patchOctets p old).2 ∧ new = (Run.patchOctets p old).1.getD old := by
  cases h with
  | unreadable h =>
    cases hd : decode old with
    | error fault =>
      rw [Run.patchOctets, hd]
      exact ⟨rfl, rfl⟩
    | ok cs => exact absurd (readsAs_of_decode hd) (h _)
  | alreadyPresent hread h =>
    rw [patchOctets_of_readsAs hread, if_pos h]
    exact ⟨rfl, rfl⟩
  | missingAnchor hread habsent h =>
    have hnone : p.applyTo? _ = none := applyTo?_eq_none.2 fun hin =>
      (exists_occursAt.2 hin).elim h
    rw [patchOctets_of_readsAs hread, if_neg habsent, hnone]
    exact ⟨rfl, rfl⟩
  | @patched x i out hread habsent hmark hins =>
    have hsome : p.applyTo? x = some (.ofList out) :=
      applyTo?_eq_some_iff.2 ⟨i, hmark, by rwa [String.toList_ofList]⟩
    rw [patchOctets_of_readsAs hread, if_neg habsent, hsome]
    exact ⟨rfl, by rw [Option.getD_some, String.toList_ofList]⟩

/-- The status that a patch reports at a path, and the nodes of the tree that it leaves. -/
inductive Outcome (p : Patch) (t : Tree) (path : Path) :
    PatchStatus → (Location → Option Node) → Prop
  | missingTarget (h : ∀ place octets, ¬ t.HasFile path place octets) :
    Outcome p t path .missingTarget t.node?
  | found {place : Location} {old new : List UInt8} {status : PatchStatus}
    (h : t.HasFile path place old) (hedits : p.Edits old status new) :
    Outcome p t path status (Function.update t.node? place (some (.file new)))

variable {t : Tree} {path : Path} {place : Location} {nodes : Location → Option Node}

theorem outcome_of_no_file (h : ∀ place octets, ¬ t.HasFile path place octets) :
    Outcome p t path status nodes ↔ status = .missingTarget ∧ nodes = t.node? := by
  constructor
  · intro hout
    cases hout with
    | missingTarget => exact ⟨rfl, rfl⟩
    | found hfile => exact absurd hfile (h _ _)
  · rintro ⟨rfl, rfl⟩
    exact .missingTarget h

theorem outcome_of_file (h : t.HasFile path place old) :
    Outcome p t path status nodes ↔ status = (Run.patchOctets p old).2 ∧
      nodes = Function.update t.node? place
        (some (.file ((Run.patchOctets p old).1.getD old))) := by
  constructor
  · intro hout
    cases hout with
    | missingTarget hno => exact absurd h (hno _ _)
    | found hfile hedits =>
      obtain rfl := Except.ok.inj (h.locate.symm.trans hfile.locate)
      obtain rfl : old = _ := Node.file.inj (Option.some.inj (h.node?.symm.trans hfile.node?))
      obtain ⟨rfl, rfl⟩ := hedits.eq_patchOctets
      exact ⟨rfl, rfl⟩
  · rintro ⟨rfl, rfl⟩
    exact .found h (edits_patchOctets p old)

end Patch

open Run

variable {t : Tree} {path : Path} {place : Location} {octets octets' : List UInt8}

theorem Tree.node?_replace_eq_update (h : t.node? place = some (.file octets)) :
    (t.replace place octets').node? = Function.update t.node? place (some (.file octets')) := by
  funext q
  by_cases hq : q = place
  · rw [hq, Function.update_self, Tree.node?_replace_file h]
  · rw [Function.update_of_ne hq, Tree.node?_replace_ne t octets' hq]

/-- A path that is too long to be asked about is refused. On every other path a patch reports one
status and leaves one tree, and these are the status and the nodes of its outcome. Any status but
that of a patch that was made leaves the whole tree as it is. -/
theorem patch_has_outcome (site : Site) (path : Path) (p : Patch) :
    (site.tree.locate path = .error .nameTooLong ∧
      on site (patchFile path p) = (.error (.unreachable path .nameTooLong), site)) ∨
    (site.tree.locate path ≠ .error .nameTooLong ∧
      ∃ r site', on site (patchFile path p) = (.ok r, site') ∧ r.path = path ∧
        site'.tree.home = site.tree.home ∧ (r.status ≠ .patched → site'.tree = site.tree) ∧
        ∀ status nodes, p.Outcome site.tree path status nodes ↔
          status = r.status ∧ nodes = site'.tree.node?) := by
  rw [on_patchFile]
  rcases hf : fileOctets? site.tree path with fault | _ | ⟨place, old⟩
  · obtain ⟨rfl, hlong⟩ := fileOctets?_error hf
    exact .inl ⟨hlong, rfl⟩
  · have hno : ∀ place octets, ¬ site.tree.HasFile path place octets := by
      intro place octets hfile
      rw [fileOctets?_eq_some.2 ⟨hfile.locate, hfile.node?⟩] at hf
      cases hf
    refine .inr ⟨fun hlong => ?_, _, _, rfl, rfl, rfl, fun _ => rfl, fun status nodes => ?_⟩
    · rw [fileOctets?_long hlong] at hf
      cases hf
    · exact Patch.outcome_of_no_file hno
  · obtain ⟨hl, hn⟩ := fileOctets?_eq_some.1 hf
    refine .inr ⟨by rw [hl]; nofun, _, _, rfl, rfl, ?_, ?_, fun status nodes => ?_⟩
    · cases (patchOctets p old).1 <;> rfl
    · intro hstatus
      cases hnew : (patchOctets p old).1 with
      | none => rfl
      | some new => exact absurd ((status_of_patchOctets p old).2 (by rw [hnew]; rfl)) hstatus
    · have hnodes : (((patchOctets p old).1.map (site.tree.replace place)).getD site.tree).node?
          = Function.update site.tree.node? place
            (some (.file ((patchOctets p old).1.getD old))) := by
        cases (patchOctets p old).1 with
        | none =>
          show site.tree.node? = Function.update site.tree.node? place (some (.file old))
          rw [← hn, Function.update_eq_self]
        | some new => exact Tree.node?_replace_eq_update hn
      rw [Patch.outcome_of_file ⟨hl, hn⟩, hnodes]

/-- A name that is too long is refused in the working directory. -/
theorem Tree.locate_of_long_name {name : String} (hplain : Path.Plain name)
    (hnull : '\x00' ∉ name.toList) (hlong : Tree.nameLimit < name.utf8ByteSize)
    (hhome : t.node? t.home = some .directory) :
    t.locate (.ofText name) = .error .nameTooLong := by
  have hanchor : (Path.ofText name).anchor = .relative := hplain.relative
  have hup : name ≠ ".." := by
    rintro rfl
    exact absurd hlong (by decide)
  unfold locate
  rw [hplain.parts_ofText, if_neg (by simpa using hnull)]
  split
  · rfl
  · rw [List.foldlM_cons, step, hhome]
    dsimp only
    rw [if_neg hup, if_pos hlong]
    rfl

/-- A path whose name is too long has the outcome that a missing file has, and the patch fails. -/
theorem patch_fails_on_long_name :
    let path : Path := .ofText (.ofList (List.replicate 300 'N'))
    let p : Patch := { insertion := "x\n", anchor := "b", isPresent := fun _ => false }
    p.Outcome .empty path .missingTarget Tree.empty.node? ∧
      ∀ r site', on ⟨.empty, []⟩ (patchFile path p) ≠ (.ok r, site') := by
  intro path p
  have hchars : (String.ofList (List.replicate 300 'N')).toList = List.replicate 300 'N' :=
    String.toList_ofList
  have hplain : Path.Plain (.ofList (List.replicate 300 'N')) := by
    refine ⟨fun h => ?_, fun h => ?_, by rw [hchars, List.mem_replicate]; decide⟩
    · exact absurd (congrArg String.utf8ByteSize h) (by decide +kernel)
    · exact absurd (congrArg String.utf8ByteSize h) (by decide +kernel)
  have hlong : Tree.empty.locate path = .error .nameTooLong :=
    Tree.locate_of_long_name hplain (by rw [hchars, List.mem_replicate]; decide)
      (by decide +kernel) rfl
  constructor
  · refine .missingTarget fun place octets hfile => ?_
    rw [hfile.locate] at hlong
    cases hlong
  · rcases patch_has_outcome ⟨.empty, []⟩ path p with ⟨-, hon⟩ | ⟨hne, -⟩
    · rw [hon]
      nofun
    · exact absurd hlong hne

end Groundwork
