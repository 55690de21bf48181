import Groundwork.Proofs.Settled
import Groundwork.Proofs.Text.Octets

/-!
# What a patch does to the octets of a file

A patch reads a text with line ends of one kind, puts its insertion in, and writes all of it. So it
only puts something in if the file had line ends of one kind before; a return does not survive it.
-/

namespace Groundwork

open Text Utf8

/-- The new octets are the old ones with something put in at one place. -/
def Splices (added old new : List UInt8) : Prop :=
  ∃ front back, old = front ++ back ∧ new = front ++ added ++ back

namespace Splices

variable {added old new : List UInt8}

theorem length_eq (h : Splices added old new) : new.length = old.length + added.length := by
  obtain ⟨front, back, rfl, rfl⟩ := h
  simp only [List.length_append]
  omega

theorem count_eq (h : Splices added old new) (b : UInt8) :
    new.count b = old.count b + added.count b := by
  obtain ⟨front, back, rfl, rfl⟩ := h
  simp only [List.count_append]
  omega

/-- Something put into octets without returns is put into the octets before if they had none. -/
theorem of_unified (h : Splices added (unifyOctets old) new) :
    Splices added old new ↔ 0x0D ∉ old := by
  constructor
  · intro hsplices
    have hboth := (hsplices.count_eq 0x0D).symm.trans (h.count_eq 0x0D)
    rw [List.count_eq_zero.2 (unifyOctets_no_return old)] at hboth
    exact List.count_eq_zero.1 (by omega)
  · intro hno
    rwa [unifyOctets_of_not_mem hno] at h

end Splices

namespace Patch

variable {p : Patch} {x y : String} {insertion cs : List Char}

theorem insertAfterLine_of_mem (insertion : List Char) (h : '\n' ∈ cs) : ∃ front back,
    cs = front ++ back ∧ insertAfterLine insertion cs = front ++ insertion ++ back := by
  induction cs with
  | nil => cases h
  | cons c rest ih =>
    by_cases hc : c = '\n'
    · exact ⟨[c], rest, rfl, by simp [insertAfterLine, hc]⟩
    · obtain ⟨front, back, rfl, hins⟩ := ih ((List.mem_cons.1 h).resolve_left (Ne.symm hc))
      exact ⟨c :: front, back, rfl, by rw [insertAfterLine, if_neg hc, hins]; rfl⟩

theorem insertAfterLine_of_not_mem (insertion : List Char) (h : '\n' ∉ cs) :
    insertAfterLine insertion cs = cs ++ '\n' :: insertion := by
  induction cs with
  | nil => rfl
  | cons c rest ih =>
    rw [List.mem_cons, not_or] at h
    rw [insertAfterLine, if_neg (Ne.symm h.1), ih h.2]
    rfl

/-- The line with the anchor is the last one and has no end, and the insertion goes after it. -/
def Unended (p : Patch) (x : String) : Prop :=
  p.placement = .afterLine ∧ ∃ before after,
    cut? p.occurrence p.anchor.toList x.toList = some (before, after) ∧ '\n' ∉ after

/-- A patched text is the text before with the insertion put in, or put at the end after a line end
that was missing. -/
theorem applyTo?_spec (h : p.applyTo? x = some y) :
    (∃ front back, x.toList = front ++ back ∧
      y.toList = front ++ p.insertion.toList ++ back ∧ ¬ p.Unended x) ∨
    p.Unended x ∧ y.toList = x.toList ++ '\n' :: p.insertion.toList := by
  obtain ⟨⟨before, after⟩, hcut, hy⟩ := Option.map_eq_some_iff.1 h
  obtain ⟨hx, -⟩ := parts_of_cut? hcut
  subst hy
  by_cases hended : p.Unended x
  · obtain ⟨hplacement, before', after', hcut', hno⟩ := hended
    rw [hcut'] at hcut
    cases hcut
    refine .inr ⟨⟨hplacement, before, after, hcut', hno⟩, ?_⟩
    rw [hplacement, hx, String.toList_ofList]
    dsimp only
    rw [insertAfterLine_of_not_mem _ hno, List.append_assoc]
  · refine .inl ?_
    cases hplacement : p.placement with
    | before => exact ⟨before, after, hx, by simp, hended⟩
    | afterLine =>
      have hmem : '\n' ∈ after :=
        Decidable.byContradiction fun hno => hended ⟨hplacement, before, after, hcut, hno⟩
      obtain ⟨front, back, rfl, hins⟩ := insertAfterLine_of_mem p.insertion.toList hmem
      refine ⟨before ++ front, back, by rw [hx, List.append_assoc], ?_, hended⟩
      rw [String.toList_ofList, hins]
      simp only [List.append_assoc]

end Patch

namespace Run

variable {site site' : Site} {path : Path} {p : Patch} {r : Patched} {old new : List UInt8}

/-- The octets that a patch puts into the octets of a text. -/
def Adds (p : Patch) (x : String) (unified added new : List UInt8) : Prop :=
  ¬ p.Unended x ∧ added = encode p.insertion.toList ∧ Splices added unified new ∨
    p.Unended x ∧ added = 0x0A :: encode p.insertion.toList ∧ new = unified ++ added

theorem Adds.splices {x : String} {unified added : List UInt8} (h : Adds p x unified added new) :
    Splices added unified new := by
  rcases h with ⟨-, -, hsplices⟩ | ⟨-, -, rfl⟩
  · exact hsplices
  · exact ⟨unified, [], (List.append_nil _).symm, (List.append_nil _).symm⟩

theorem adds_of_patchOctets (h : (patchOctets p old).1 = some new) :
    ∃ x added, readText? old = some x ∧ Adds p x (unifyOctets old) added new := by
  unfold patchOctets at h
  unfold readText?
  cases hd : decode old with
  | error f =>
    rw [hd] at h
    cases h
  | ok cs =>
    rw [hd] at h
    dsimp only at h
    split at h
    · cases h
    · cases hy : p.applyTo? (.ofList (unifyLineEnds cs)) with
      | none =>
        rw [hy] at h
        cases h
      | some y =>
        rw [hy] at h
        obtain rfl := Option.some.inj h
        have hunified : unifyOctets old = encode (unifyLineEnds cs) := by
          rw [encode_unifyLineEnds, encode_of_decode hd]
        rw [hunified]
        rcases Patch.applyTo?_spec hy with ⟨front, back, hx, hnew, hended⟩ | ⟨hended, hnew⟩
        · rw [String.toList_ofList] at hx
          refine ⟨_, _, rfl, .inl ⟨hended, rfl, encode front, encode back, ?_, ?_⟩⟩
          · rw [hx, encode_append]
          · rw [hnew, encode_append, encode_append]
        · rw [String.toList_ofList] at hnew
          refine ⟨_, _, rfl, .inr ⟨hended, rfl, ?_⟩⟩
          rw [hnew, encode_append]
          rfl

end Run

open Run

/-- A patch that is reported as made changed one file, and nothing else. The new octets are the old
ones with unified line ends and the insertion in one place, after a line end of its own if the line
with the anchor had none. They are the old octets themselves with something put in exactly when no
return was among these. -/
theorem patch_splices (site site' : Site) (path : Path) (p : Patch) (r : Patched)
    (h : on site (patchFile path p) = (.ok r, site')) (hpatched : r.isPatched = true) :
    ∃ place old new x added, site.tree.locate path = .ok place ∧
      site.tree.node? place = some (.file old) ∧ site'.tree = site.tree.replace place new ∧
      readText? old = some x ∧ Adds p x (unifyOctets old) added new ∧
      (Splices added old new ↔ 0x0D ∉ old) := by
  rw [on_patchFile] at h
  rcases hf : fileOctets? site.tree path with fault | _ | ⟨place, old⟩
  · rw [hf] at h
    cases h
  · rw [hf] at h
    cases h
    cases hpatched
  · rw [hf] at h
    cases h
    obtain ⟨hl, hn⟩ := fileOctets?_eq_some.1 hf
    have hstatus : (patchOctets p old).2 = .patched := by
      simpa [Patched.isPatched] using hpatched
    obtain ⟨new, hnew⟩ := Option.isSome_iff_exists.1 ((status_of_patchOctets p old).1 hstatus)
    obtain ⟨x, added, hx, hadds⟩ := adds_of_patchOctets hnew
    refine ⟨place, old, new, x, added, hl, hn, ?_, hx, hadds, hadds.splices.of_unified⟩
    rw [hnew]
    rfl

/-- A line in front of the second one of two, with plain line ends. -/
theorem patch_splices_second_line :
    let path : Path := .ofText "notes.txt"
    let p : Patch := { insertion := "x\n", anchor := "b", isPresent := fun _ => false }
    let site := (on ⟨.empty, []⟩ (writeFile path "a\nb\n")).2
    ∃ r site', on site (patchFile path p) = (.ok r, site') ∧ r.isPatched = true ∧
      ∃ old new added, site.tree.node? ["notes.txt"] = some (.file old) ∧
        site'.tree = site.tree.replace ["notes.txt"] new ∧ Splices added old new := by
  intro path p site
  have hok : (on site (patchFile path p)).1.toOption.map Patched.isPatched = some true := by
    decide +kernel
  have hplace : (site.tree.locate path).toOption = some ["notes.txt"] := by decide +kernel
  have hnode : site.tree.node? ["notes.txt"] = some (.file (encode "a\nb\n".toList)) := by
    decide +kernel
  rcases hon : on site (patchFile path p) with ⟨f | r, site'⟩
  · rw [hon] at hok
    cases hok
  · rw [hon] at hok
    have hpatched : r.isPatched = true := Option.some.inj hok
    obtain ⟨place, old, new, x, added, hl, hn, ht, -, -, hiff⟩ :=
      patch_splices site site' path p r hon hpatched
    rw [hl] at hplace
    obtain rfl : place = ["notes.txt"] := Option.some.inj hplace
    obtain rfl : encode "a\nb\n".toList = old := by
      rw [hnode] at hn
      exact Node.file.inj (Option.some.inj hn)
    exact ⟨r, site', rfl, hpatched, _, new, added, hnode, ht, hiff.2 (by decide +kernel)⟩

/-- With a return in front of the first line end, the file grows by one octet where two were put
in. -/
theorem patch_changes_line_ends :
    let path : Path := .ofText "notes.txt"
    let p : Patch := { insertion := "x\n", anchor := "b", isPresent := fun _ => false }
    let site := (on ⟨.empty, []⟩ (writeFile path "a\r\nb\n")).2
    ∃ old new, (on site (patchFile path p)).1.toOption.map Patched.isPatched = some true ∧
      site.tree.node? ["notes.txt"] = some (.file old) ∧
      (on site (patchFile path p)).2.tree.node? ["notes.txt"] = some (.file new) ∧
      ¬ Splices (encode p.insertion.toList) old new ∧
      ¬ Splices (0x0A :: encode p.insertion.toList) old new := by
  intro path p site
  refine ⟨encode "a\r\nb\n".toList, encode "a\nx\nb\n".toList, by decide +kernel, by decide +kernel,
    by decide +kernel, fun h => ?_, fun h => ?_⟩
  · exact absurd h.length_eq (by decide +kernel)
  · exact absurd h.length_eq (by decide +kernel)

end Groundwork
