import Groundwork.Proofs.Patch
import Groundwork.Proofs.Text.Occurrence
import Groundwork.Proofs.Text.Utf8

/-!
# Settled patches

What a patch does to the text of a file, apart from the tree. A patch is done with a text that has
what the patch is for, or that lacks the anchor. What was read, patched and written is read again
as the patched text, whatever carriage returns came with the insertion.
-/

namespace Groundwork

namespace Patch

open Text

variable {p q : Patch} {s x y : String}

/-- Nothing is left to do in the text. -/
def Done (p : Patch) (x : String) : Prop :=
  p.isPresent x ∨ p.applyTo? x = none

/-- The text that is read after the patch. -/
def after (p : Patch) (x : String) : String :=
  if p.isPresent x then x
  else match p.applyTo? x with
    | none => x
    | some y => .ofList (unifyLineEnds y.toList)

theorem Done.after_eq (h : p.Done x) : p.after x = x := by
  unfold after
  rcases h with h | h
  · rw [if_pos h]
  · rw [h]
    split <;> rfl

theorem cut?_isSome (occurrence : Occurrence) {anchor cs : List Char} :
    (cut? occurrence anchor cs).isSome ↔ anchor <:+: cs := by
  cases occurrence with
  | first => exact cutFirst?_isSome
  | last => exact cutLast?_isSome

theorem applyTo?_eq_none : p.applyTo? x = none ↔ ¬ p.anchor.toList <:+: x.toList := by
  rw [applyTo?, splice?, Option.map_eq_none_iff, ← cut?_isSome p.occurrence,
    Option.not_isSome_iff_eq_none]

/-- A patch that brings what it is for is done after itself. -/
theorem done_after
    (h : ∀ y, p.applyTo? x = some y → p.isPresent (.ofList (unifyLineEnds y.toList))) :
    p.Done (p.after x) := by
  unfold after
  split
  · rename_i hp
    exact .inl hp
  split
  · rename_i hn
    exact .inr hn
  · rename_i y hy
    exact .inl (h y hy)

/-- Patches with one anchor find it together. -/
theorem applyTo?_after (ha : q.anchor = p.anchor) (h : q.applyTo? x = none) :
    q.applyTo? (p.after x) = none := by
  have hp : p.applyTo? x = none := by
    rw [applyTo?_eq_none] at h ⊢
    rwa [← ha]
  rwa [Done.after_eq (.inr hp)]

/-- A cut is made in front of an anchor. -/
theorem parts_of_cut? {occurrence : Occurrence} {anchor cs before after : List Char}
    (h : cut? occurrence anchor cs = some (before, after)) :
    cs = before ++ after ∧ anchor <+: after := by
  cases occurrence with
  | first => exact ⟨(append_of_cutFirst? h).symm, prefix_of_cutFirst? h⟩
  | last => exact ⟨(append_of_cutLast? h).symm, prefix_of_cutLast? h⟩

/-- A patch in front of its anchor goes where the anchor was found. -/
theorem applyTo?_of_cut {l r : List Char} (hplace : p.placement = .before)
    (hcut : cut? p.occurrence p.anchor.toList x.toList = some (l, r)) :
    p.applyTo? x = some (.ofList (l ++ p.insertion.toList ++ r)) := by
  rw [applyTo?, splice?, hcut, hplace]
  rfl

/-- The text that is read after a patch that was not there. -/
theorem after_of_applyTo? (hpresent : ¬ p.isPresent x) (hy : p.applyTo? x = some y)
    (hreturn : '\r' ∉ y.toList) : p.after x = y := by
  rw [after, if_neg hpresent, hy]
  dsimp only
  rw [unifyLineEnds_of_not_mem hreturn, String.ofList_toList]

/-- The parts of a text around an insertion after a line. A line end is added to a last line
without one. -/
theorem insertAfterLine_parts (insertion cs : List Char) : ∃ l m r, cs = l ++ r ∧
    insertAfterLine insertion cs = l ++ m ++ r ∧
    (m = insertion ∨ m = '\n' :: insertion ∧ r = []) ∧ (r = [] ∨ ∃ l', l = l' ++ ['\n']) := by
  induction cs with
  | nil =>
    refine ⟨[], '\n' :: insertion, [], rfl, ?_, .inr ⟨rfl, rfl⟩, .inl rfl⟩
    simp [insertAfterLine]
  | cons c rest ih =>
    by_cases hc : c = '\n'
    · subst hc
      refine ⟨['\n'], insertion, rest, rfl, ?_, .inl rfl, .inr ⟨[], rfl⟩⟩
      simp [insertAfterLine]
    · obtain ⟨l, m, r, hcs, hins, hm, hr⟩ := ih
      refine ⟨c :: l, m, r, by rw [hcs]; rfl, ?_, hm, hr.imp_right ?_⟩
      · rw [insertAfterLine, if_neg hc, hins]
        rfl
      · rintro ⟨l', rfl⟩
        exact ⟨c :: l', rfl⟩

/-- The parts of a text around the insertion. -/
theorem applyTo?_parts (h : p.applyTo? x = some y) : ∃ l m r, x.toList = l ++ r ∧
    y.toList = l ++ m ++ r ∧ (m = p.insertion.toList ∨ m = '\n' :: p.insertion.toList ∧ r = []) ∧
    match p.placement with
    | .before => p.anchor.toList <+: r
    | .afterLine => r = [] ∨ ∃ l', l = l' ++ ['\n'] := by
  obtain ⟨⟨before, after⟩, hcut, hy⟩ := Option.map_eq_some_iff.1 h
  obtain ⟨hx, ha⟩ := parts_of_cut? hcut
  subst hy
  cases p.placement with
  | before =>
    exact ⟨before, p.insertion.toList, after, hx, by simp, .inl rfl, ha⟩
  | afterLine =>
    obtain ⟨l, m, r, hcs, hins, hm, hr⟩ := insertAfterLine_parts p.insertion.toList after
    refine ⟨before ++ l, m, r, ?_, ?_, hm, hr.imp_right ?_⟩
    · rw [hx, hcs, List.append_assoc]
    · simp [hins]
    · rintro ⟨l', rfl⟩
      exact ⟨before ++ l', by rw [List.append_assoc]⟩

/-- The insertion is there afterwards, line ends aside. -/
theorem occursIn_applied (h : p.applyTo? x = some y) (hs : s.toList <:+: p.insertion.toList)
    (hreturn : '\r' ∉ s.toList) : occursIn s (.ofList (unifyLineEnds y.toList)) := by
  obtain ⟨l, m, r, -, hy, hm, -⟩ := applyTo?_parts h
  have hinsertion : p.insertion.toList <:+: m := by
    rcases hm with rfl | ⟨rfl, -⟩
    · exact List.infix_refl _
    · exact (List.suffix_cons _ _).isInfix
  have hin : s.toList <:+: y.toList := by
    rw [hy]
    exact hs.trans (hinsertion.trans ⟨l, r, rfl⟩)
  rw [occursIn_iff, String.toList_ofList]
  exact infix_unifyLineEnds hreturn hin

theorem done_after_of_occursIn (hp : p.isPresent = occursIn s)
    (hs : s.toList <:+: p.insertion.toList) (hreturn : '\r' ∉ s.toList) (x : String) :
    p.Done (p.after x) := by
  refine done_after fun y hy => ?_
  rw [hp]
  exact occursIn_applied hy hs hreturn

/-- No occurrence of a text is broken by the insertion. -/
def Spares (p : Patch) (s : String) : Prop :=
  '\r' ∉ s.toList ∧ match p.placement with
    | .before => Clear s.toList p.anchor.toList
    | .afterLine => '\n' ∉ s.toList

theorem Spares.occursIn_after (h : p.Spares s) (hs : occursIn s x) : occursIn s (p.after x) := by
  unfold after
  split
  · exact hs
  split
  · exact hs
  rename_i y hy
  obtain ⟨hreturn, hplace⟩ := h
  obtain ⟨l, m, r, hx, hy, -, hr⟩ := applyTo?_parts hy
  rw [occursIn_iff, hx] at hs
  rw [occursIn_iff, String.toList_ofList, hy]
  refine infix_unifyLineEnds hreturn ?_
  cases hp : p.placement with
  | before =>
    rw [hp] at hplace hr
    exact infix_insert m hs (hplace.uncut hr l)
  | afterLine =>
    rw [hp] at hplace hr
    rcases hr with rfl | ⟨l', rfl⟩
    · rw [List.append_nil] at hs ⊢
      exact hs.trans (List.prefix_append l m).isInfix
    · exact infix_insert m hs (uncut_of_not_mem hplace l' r)

/-- A patch that is done stays so, if what it is for is spared and no anchor comes in. -/
theorem Done.after_of_spares (h : q.Done x) (hq : q.isPresent = occursIn s) (hs : p.Spares s)
    (hanchor : q.applyTo? x = none → q.applyTo? (p.after x) = none) : q.Done (p.after x) := by
  rcases h with h | h
  · rw [hq] at h
    refine .inl ?_
    rw [hq]
    exact hs.occursIn_after h
  · exact .inr (hanchor h)

theorem mem_unifyLineEnds {c : Char} {cs : List Char} (h : c ∈ unifyLineEnds cs) :
    c ∈ cs ∨ c = '\n' := by
  fun_induction unifyLineEnds cs with
  | case1 => exact .inl h
  | case2 rest ih => grind
  | case3 rest hrest ih => grind
  | case4 c' rest hc hrest ih => grind

/-- Only characters of the insertion and line ends are new. -/
theorem mem_after {c : Char} (h : c ∈ (p.after x).toList) :
    c ∈ x.toList ∨ c ∈ p.insertion.toList ∨ c = '\n' := by
  unfold after at h
  split at h
  · exact .inl h
  split at h
  · exact .inl h
  rename_i y hy
  obtain ⟨l, m, r, hx, hy, hm, -⟩ := applyTo?_parts hy
  rw [String.toList_ofList] at h
  rcases mem_unifyLineEnds h with h | h
  · rw [hy] at h
    rw [hx]
    rcases hm with rfl | ⟨rfl, -⟩ <;> grind
  · exact .inr (.inr h)

/-- What is read after a patch has line ends of one kind, whatever came with the insertion. -/
theorem no_return_after (p : Patch) (hx : '\r' ∉ x.toList) : '\r' ∉ (p.after x).toList := by
  unfold after
  split
  · exact hx
  split
  · exact hx
  · rw [String.toList_ofList]
    exact unifyLineEnds_no_return _

theorem no_return_of_applyTo? (hx : '\r' ∉ x.toList) (hp : '\r' ∉ p.insertion.toList)
    (h : p.applyTo? x = some y) : '\r' ∉ y.toList := by
  obtain ⟨l, m, r, hparts, hy, hm, -⟩ := applyTo?_parts h
  have hno : '\r' ∉ m := by
    rcases hm with rfl | ⟨rfl, -⟩
    · exact hp
    · exact List.not_mem_cons_of_ne_of_not_mem (by decide) hp
  rw [hparts, List.mem_append, not_or] at hx
  rw [hy]
  simp [hx, hno]

/-- No anchor of one character comes with an insertion that does not have it. -/
theorem applyTo?_after_of_not_mem {c : Char} (ha : q.anchor.toList = [c])
    (hc : c ∉ p.insertion.toList) (hline : c ≠ '\n') (h : q.applyTo? x = none) :
    q.applyTo? (p.after x) = none := by
  have hmem : ∀ cs, [c] <:+: cs ↔ c ∈ cs := by
    refine fun cs => ⟨fun hin => hin.subset (List.mem_singleton_self c), fun hin => ?_⟩
    obtain ⟨l, r, rfl⟩ := List.append_of_mem hin
    exact ⟨l, r, by simp⟩
  rw [applyTo?_eq_none, ha, hmem] at h ⊢
  intro hin
  rcases mem_after hin with hin | hin | hin
  · exact h hin
  · exact hc hin
  · exact hline hin

/-- The status of a patch by what is read at its path: nothing, no text, or a text. -/
def statusOn (p : Patch) : Option (Option String) → PatchStatus
  | none => .missingTarget
  | some none => .unreadable
  | some (some x) =>
    if p.isPresent x then .alreadyPresent
    else if (p.applyTo? x).isSome then .patched
    else .missingAnchor

/-- Of a patch that is made. -/
theorem applyTo?_of_patched (hx : '\r' ∉ x.toList) (hp : '\r' ∉ p.insertion.toList)
    (h : p.statusOn (some (some x)) = .patched) :
    ¬ p.isPresent x ∧ p.applyTo? x = some (p.after x) := by
  by_cases hpresent : p.isPresent x
  · rw [statusOn, if_pos hpresent] at h
    cases h
  · rw [statusOn, if_neg hpresent] at h
    cases happly : p.applyTo? x with
    | none =>
      rw [happly] at h
      cases h
    | some y =>
      rw [after_of_applyTo? hpresent happly (no_return_of_applyTo? hx hp happly)]
      exact ⟨hpresent, rfl⟩

theorem statusOn_ne_patched {found : Option (Option String)}
    (h : ∀ x, found = some (some x) → p.Done x) : p.statusOn found ≠ .patched := by
  rcases found with _ | _ | x
  · simp [statusOn]
  · simp [statusOn]
  · show (if p.isPresent x then _ else _) ≠ PatchStatus.patched
    rcases h x rfl with h | h
    · rw [if_pos h]
      simp
    · rw [h]
      split <;> simp

end Patch

namespace Run

variable {t : Tree} {path : Path} {place : Location} {octets : List UInt8} {p : Patch}
  {site site' : Site} {r : Patched} {edited : List Path} {a b : Tree} {x : String}

/-- The text of a file, if it is UTF-8. -/
def readText? (octets : List UInt8) : Option String :=
  match Text.Utf8.decode octets with
  | .ok cs => some (.ofList (Text.unifyLineEnds cs))
  | .error _ => none

theorem readText?_encode (s : String) :
    readText? (Text.Utf8.encode s.toList) = some (.ofList (Text.unifyLineEnds s.toList)) := by
  rw [readText?, Text.Utf8.decode_encode]

/-- What is read at a path: nothing, no text, or a text. -/
def fileText? (t : Tree) (path : Path) : Except FileFault (Option (Option String)) :=
  (fileOctets? t path).map (Option.map fun found => readText? found.2)

theorem fileText?_eq_some {found : Option String} : fileText? t path = .ok (some found) ↔
    ∃ place octets, t.locate path = .ok place ∧ t.node? place = some (.file octets) ∧
      readText? octets = found := by
  unfold fileText?
  rcases hf : fileOctets? t path with fault | _ | ⟨place, octets⟩
  · constructor
    · intro h
      cases h
    · rintro ⟨place, octets, hl, hn, -⟩
      rw [fileOctets?_eq_some.2 ⟨hl, hn⟩] at hf
      cases hf
  · constructor
    · intro h
      cases h
    · rintro ⟨place, octets, hl, hn, -⟩
      rw [fileOctets?_eq_some.2 ⟨hl, hn⟩] at hf
      cases hf
  · obtain ⟨hl, hn⟩ := fileOctets?_eq_some.1 hf
    constructor
    · intro h
      cases h
      exact ⟨place, octets, hl, hn, rfl⟩
    · rintro ⟨place', octets', hl', hn', rfl⟩
      obtain rfl := Except.ok.inj (hl.symm.trans hl')
      rw [hn] at hn'
      cases hn'
      rfl

/-- A file that nobody edits is read as before. -/
theorem fileText?_of_grows {found : Option String} (h : a.Grows [] b)
    (hfound : fileText? a path = .ok (some found)) : fileText? b path = .ok (some found) := by
  obtain ⟨place, octets, hl, hn, hread⟩ := fileText?_eq_some.1 hfound
  refine fileText?_eq_some.2 ⟨place, octets, h.locate hl, ?_, hread⟩
  exact h.same hn fun path hpath => absurd hpath List.not_mem_nil

/-- What is read has line ends of one kind. -/
theorem no_return_of_fileText? (h : fileText? t path = .ok (some (some x))) : '\r' ∉ x.toList := by
  unfold fileText? at h
  cases hf : fileOctets? t path with
  | error fault =>
    rw [hf] at h
    cases h
  | ok found =>
    rw [hf] at h
    obtain ⟨octets, -, hread⟩ := Option.map_eq_some_iff.1 (Except.ok.inj h)
    unfold readText? at hread
    split at hread
    · cases hread
      rw [String.toList_ofList]
      exact Text.unifyLineEnds_no_return _
    · cases hread

theorem patchOctets_status (p : Patch) (octets : List UInt8) :
    (patchOctets p octets).2 = p.statusOn (some (readText? octets)) := by
  unfold patchOctets readText? Patch.statusOn
  cases Text.Utf8.decode octets with
  | error f => rfl
  | ok cs =>
    dsimp only
    split
    · rfl
    · cases p.applyTo? _ <;> rfl

theorem readText?_patchOctets (p : Patch) (octets : List UInt8) :
    readText? ((patchOctets p octets).1.getD octets) = (readText? octets).map p.after := by
  cases hd : Text.Utf8.decode octets with
  | error f => simp [patchOctets, readText?, hd]
  | ok cs =>
    have hread : readText? octets = some (.ofList (Text.unifyLineEnds cs)) := by
      rw [readText?, hd]
    rw [hread, Option.map_some, Patch.after, patchOctets, hd]
    dsimp only
    split
    · exact hread
    · cases p.applyTo? (String.ofList (Text.unifyLineEnds cs)) with
      | none => exact hread
      | some y => exact readText?_encode y

/-- A patch acts on the text at its path. -/
theorem on_patchFile_text {found : Option (Option String)}
    (hfound : fileText? site.tree path = .ok found) (p : Patch) :
    ∃ site', on site (patchFile path p) = (.ok ⟨path, p.statusOn found⟩, site') ∧
      fileText? site'.tree path = .ok (found.map (Option.map p.after)) := by
  rw [on_patchFile]
  have hread := hfound
  unfold fileText? at hfound
  rcases hf : fileOctets? site.tree path with fault | _ | ⟨place, octets⟩
  · rw [hf] at hfound
    cases hfound
  · rw [hf] at hfound
    cases hfound
    exact ⟨_, rfl, hread⟩
  · rw [hf] at hfound
    cases hfound
    rw [Option.map_some, ← patchOctets_status]
    refine ⟨_, rfl, ?_⟩
    obtain ⟨hl, hn⟩ := fileOctets?_eq_some.1 hf
    rw [Option.map_some, ← readText?_patchOctets]
    cases ho : (patchOctets p octets).1 with
    | none => exact hread
    | some octets' =>
      show fileText? (site.tree.replace place octets') path = _
      have hf' : fileOctets? (site.tree.replace place octets') path = .ok (some (place, octets')) :=
        fileOctets?_eq_some.2 ⟨by rw [Tree.locate_replace, hl], Tree.node?_replace_file hn⟩
      rw [fileText?, hf']
      rfl

theorem patchFile_text (h : on site (patchFile path p) = (.ok r, site')) :
    ∃ found, fileText? site.tree path = .ok found ∧ r = ⟨path, p.statusOn found⟩ ∧
      fileText? site'.tree path = .ok (found.map (Option.map p.after)) := by
  cases hfound : fileText? site.tree path with
  | error fault =>
    unfold fileText? at hfound
    rw [on_patchFile] at h
    rcases hf : fileOctets? site.tree path with fault' | found
    · rw [hf] at h
      cases h
    · rw [hf] at hfound
      cases hfound
  | ok found =>
    obtain ⟨site'', hon, htext⟩ := on_patchFile_text hfound p
    rw [h] at hon
    cases hon
    exact ⟨found, rfl, rfl, htext⟩

/-- A patch of another file changes neither what is read at a path nor where paths lead. -/
theorem patchFile_elsewhere {other : Path} (h : on site (patchFile other p) = (.ok r, site'))
    (hapart : ∀ place, site.tree.locate other = .ok place → site.tree.locate path ≠ .ok place) :
    fileText? site'.tree path = fileText? site.tree path ∧
      site'.tree.locate = site.tree.locate := by
  rcases patchFile_ok h with ⟨-, -, ht⟩ | ⟨-, -, place, octets, octets', hl, -, ht⟩
  · rw [ht]
    exact ⟨rfl, rfl⟩
  · have hlocate : site'.tree.locate = site.tree.locate := by
      funext path
      rw [ht, Tree.locate_replace]
    have hinspect : site'.tree.inspect path = site.tree.inspect path := by
      rw [ht]
      exact Tree.inspect_replace_ne (hapart place hl) octets'
    refine ⟨?_, hlocate⟩
    rw [fileText?, fileText?, fileOctets?, fileOctets?, hlocate, hinspect]

/-- The patch has nothing left to do at its path. -/
def SettledAt (t : Tree) (path : Path) (p : Patch) : Prop :=
  ∃ found, fileText? t path = .ok found ∧ ∀ x, found = some (some x) → p.Done x

/-- A settled patch rests, and does not report that it patched. -/
theorem rests_patchFile (h : SettledAt t path p) :
    ∃ status, status ≠ .patched ∧ RestsAt t (patchFile path p) ⟨path, status⟩ := by
  obtain ⟨found, hf, hdone⟩ := h
  have hstatus : p.statusOn found ≠ .patched := Patch.statusOn_ne_patched hdone
  refine ⟨p.statusOn found, hstatus, fun notices => ?_⟩
  rw [on_patchFile]
  unfold fileText? at hf
  rcases ho : fileOctets? t path with fault | _ | ⟨place, octets⟩
  · rw [ho] at hf
    cases hf
  · rw [ho] at hf
    cases hf
    exact ⟨_, rfl⟩
  · rw [ho] at hf
    cases hf
    have hnone : (patchOctets p octets).1 = none := by
      have hiff := status_of_patchOctets p octets
      rw [patchOctets_status] at hiff
      cases hp : (patchOctets p octets).1 with
      | none => rfl
      | some o => exact absurd (hiff.2 (by rw [hp]; rfl)) hstatus
    dsimp only
    rw [hnone, patchOctets_status]
    exact ⟨_, rfl⟩

end Run

end Groundwork
