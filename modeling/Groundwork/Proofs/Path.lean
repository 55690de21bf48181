import Groundwork.Proofs.Text.Trimming
import Groundwork.Proofs.Tree.Ending
import Groundwork.Source

/-!
# Paths of packages

Cutting undoes joining as long as the parts do not hold the separator, so a path is read again from
its text, a package gives back the segments it was joined from, and the path of a class is the path
of the project, the source root, one part for each segment, and the name of the file.
-/

namespace Groundwork

namespace Text

variable {sep : Char} {part : List Char} {parts : List (List Char)}

theorem pieceChars_of_not_mem (h : sep ∉ part) : pieceChars sep part = [part] := by
  induction part with
  | nil => rfl
  | cons c rest ih =>
    rw [List.mem_cons, not_or] at h
    rw [pieceChars, ih h.2]
    simp [Ne.symm h.1]

theorem pieceChars_append_sep (h : sep ∉ part) (rest : List Char) :
    pieceChars sep (part ++ sep :: rest) = part :: pieceChars sep rest := by
  have hfirst : pieceChars sep (sep :: rest) = [] :: pieceChars sep rest := by
    rw [pieceChars]
    cases hp : pieceChars sep rest with
    | nil => exact absurd hp (pieceChars_ne_nil sep rest)
    | cons first later => simp
  induction part with
  | nil => exact hfirst
  | cons c cs ih =>
    rw [List.mem_cons, not_or] at h
    rw [List.cons_append, pieceChars, ih h.2]
    simp [Ne.symm h.1]

/-- Cutting makes up no characters. -/
theorem subset_of_mem_pieceChars {cs : List Char} (h : part ∈ pieceChars sep cs) : part ⊆ cs := by
  induction cs generalizing part with
  | nil => simp_all [pieceChars]
  | cons c rest ih =>
    simp only [pieceChars] at h
    split at h
    · rename_i hn
      exact absurd hn (pieceChars_ne_nil sep rest)
    · rename_i first others hp
      rw [hp] at ih
      split at h
      · rcases List.mem_cons.1 h with rfl | h
        · exact List.nil_subset _
        · exact List.Subset.trans (ih h) (List.subset_cons_self c rest)
      · rcases List.mem_cons.1 h with rfl | h
        · exact List.cons_subset_cons c (ih List.mem_cons_self)
        · exact List.Subset.trans (ih (List.mem_cons_of_mem _ h)) (List.subset_cons_self c rest)

theorem pieces_of_not_mem {c : Char} {s : String} (h : c ∉ s.toList) : pieces c s = [s] := by
  rw [pieces, pieceChars_of_not_mem h, List.map_singleton, String.ofList_toList]

/-- Cutting gives back what was joined. -/
theorem pieceChars_intercalate (hne : parts ≠ []) (h : ∀ part ∈ parts, sep ∉ part) :
    pieceChars sep (List.intercalate [sep] parts) = parts := by
  induction parts with
  | nil => exact absurd rfl hne
  | cons part rest ih =>
    have hpart := h part List.mem_cons_self
    cases rest with
    | nil =>
      rw [List.intercalate_singleton]
      exact pieceChars_of_not_mem hpart
    | cons next later =>
      rw [List.intercalate_cons_cons, List.append_assoc, List.singleton_append,
        pieceChars_append_sep hpart, ih (by simp) fun p hp => h p (List.mem_cons_of_mem _ hp)]

theorem pieces_intercalate {sep : String} {c : Char} (hsep : sep.toList = [c])
    {parts : List String} (hne : parts ≠ []) (h : ∀ part ∈ parts, c ∉ part.toList) :
    pieces c (sep.intercalate parts) = parts := by
  have hcut : pieceChars c (List.intercalate [c] (parts.map String.toList))
      = parts.map String.toList := by
    refine pieceChars_intercalate (by simpa using hne) fun part hp => ?_
    obtain ⟨s, hs, rfl⟩ := List.mem_map.1 hp
    exact h s hs
  rw [pieces, String.toList_intercalate, hsep, hcut, List.map_map]
  simp

/-- Joining undoes cutting, whatever the text. -/
theorem intercalate_pieceChars (sep : Char) (cs : List Char) :
    List.intercalate [sep] (pieceChars sep cs) = cs := by
  induction cs with
  | nil => rfl
  | cons c rest ih =>
    rw [pieceChars]
    cases hp : pieceChars sep rest with
    | nil => exact absurd hp (pieceChars_ne_nil sep rest)
    | cons part parts =>
      rw [hp] at ih
      dsimp only
      split
      · rename_i hc
        rw [List.intercalate_cons_cons, ih, hc]
        rfl
      · rw [← ih]
        cases parts with
        | nil => rw [List.intercalate_singleton, List.intercalate_singleton]
        | cons next others =>
          rw [List.intercalate_cons_cons, List.intercalate_cons_cons, List.append_assoc,
            List.append_assoc, List.cons_append]

theorem intercalate_pieces {sep : String} {c : Char} (hsep : sep.toList = [c]) (s : String) :
    sep.intercalate (pieces c s) = s := by
  have hparts : ((pieceChars c s.toList).map String.ofList).map String.toList
      = pieceChars c s.toList := by
    simp
  rw [pieces, ← String.toList_inj, String.toList_intercalate, hsep, hparts,
    intercalate_pieceChars]

/-- The parts of a text between the marks in it. -/
structure CutAt (mark : Char) (s : String) (parts : List String) : Prop where
  ne_nil : parts ≠ []
  no_mark : ∀ part ∈ parts, mark ∉ part.toList
  joined : (String.singleton mark).intercalate parts = s

theorem cutAt_pieces (mark : Char) (s : String) : CutAt mark s (pieces mark s) where
  ne_nil := by simp [pieces, pieceChars_ne_nil]
  no_mark part hpart := by
    obtain ⟨cs, hcs, rfl⟩ := List.mem_map.1 hpart
    rw [String.toList_ofList]
    exact not_mem_of_mem_pieceChars hcs
  joined := intercalate_pieces (String.toList_singleton mark) s

end Text

namespace Path

variable {p q r : Path} {s : String}

theorem ext (hanchor : p.anchor = q.anchor) (hparts : p.parts = q.parts) : p = q := by
  cases p
  cases q
  cases hanchor
  cases hparts
  rfl

instance : DecidableEq Path := fun p q =>
  decidable_of_iff (p.anchor = q.anchor ∧ p.parts = q.parts)
    ⟨fun h => ext h.1 h.2, fun h => h ▸ ⟨rfl, rfl⟩⟩

instance : DecidableEq Written := fun w w' =>
  decidable_of_iff (w.path = w'.path ∧ w.status = w'.status)
    ⟨fun ⟨hpath, hstatus⟩ => by cases w; cases w'; cases hpath; cases hstatus; rfl,
      fun h => h ▸ ⟨rfl, rfl⟩⟩

/-- A text that does not lead away from where it is seen. -/
def Relative (s : String) : Prop :=
  (ofText s).anchor = .relative

instance (s : String) : Decidable (Relative s) :=
  inferInstanceAs (Decidable (_ = _))

theorem anchor_child (h : Relative s) (p : Path) : (p.child s).anchor = p.anchor := by
  unfold Relative at h
  simp only [child, join, h]

theorem parts_child (h : Relative s) (p : Path) :
    (p.child s).parts = p.parts ++ (ofText s).parts := by
  unfold Relative at h
  simp only [child, join, h]

instance (part : String) : Decidable (Plain part) :=
  decidable_of_iff (part ≠ "" ∧ part ≠ "." ∧ '/' ∉ part.toList)
    ⟨fun ⟨hempty, hdot, hslash⟩ => ⟨hempty, hdot, hslash⟩,
      fun h => ⟨h.ne_empty, h.ne_dot, h.no_slash⟩⟩

theorem Plain.relative (h : Plain s) : Relative s := by
  have hcount : s.toList.takeWhile (· = '/') = [] := by
    cases hs : s.toList with
    | nil => rfl
    | cons c rest =>
      have hc : c ≠ '/' := by
        rintro rfl
        exact h.no_slash (hs ▸ List.mem_cons_self)
      rw [List.takeWhile_cons_of_neg (by simpa using hc)]
  show Anchor.ofSlashes (s.toList.takeWhile (· = '/')).length = .relative
  rw [hcount]
  rfl

theorem Plain.parts_ofText (h : Plain s) : (ofText s).parts = [s] := by
  show (Text.pieces '/' s).filter _ = _
  rw [Text.pieces_of_not_mem h.no_slash]
  simp [h.ne_empty, h.ne_dot]

theorem Plain.parts_child (h : Plain s) (p : Path) : (p.child s).parts = p.parts ++ [s] := by
  rw [Path.parts_child h.relative, h.parts_ofText]

/-- The path `p` is on the way to `q`, or is `q`. -/
structure Above (p q : Path) : Prop where
  anchor : p.anchor = q.anchor
  parts : p.parts <+: q.parts

theorem Above.refl (p : Path) : Above p p :=
  ⟨rfl, List.prefix_refl p.parts⟩

theorem Above.trans (hpq : Above p q) (hqr : Above q r) : Above p r :=
  ⟨hpq.anchor.trans hqr.anchor, hpq.parts.trans hqr.parts⟩

theorem above_parent (p : Path) : Above p.parent p :=
  ⟨rfl, List.dropLast_prefix p.parts⟩

/-- Of two paths on the way to a third, one is on the way to the other. -/
theorem Above.total (hp : Above p r) (hq : Above q r) : Above p q ∨ Above q p := by
  have hanchor := hp.anchor.trans hq.anchor.symm
  rcases List.prefix_or_prefix_of_prefix hp.parts hq.parts with h | h
  · exact .inl ⟨hanchor, h⟩
  · exact .inr ⟨hanchor.symm, h⟩

/-- The path goes on from `root` by `rest`, and only downwards. -/
structure Descends (root path : Path) (rest : List String) : Prop where
  anchor : path.anchor = root.anchor
  parts : path.parts = root.parts ++ rest
  down : ".." ∉ rest

theorem Descends.above {rest : List String} (h : Descends p q rest) : Above p q :=
  ⟨h.anchor.symm, rest, h.parts.symm⟩

theorem Descends.refl (p : Path) : p.Descends p [] :=
  ⟨rfl, by simp, by simp⟩

theorem Descends.trans {rest more : List String} (hpq : p.Descends q rest)
    (hqr : q.Descends r more) : p.Descends r (rest ++ more) where
  anchor := hqr.anchor.trans hpq.anchor
  parts := by rw [hqr.parts, hpq.parts, List.append_assoc]
  down h := (List.mem_append.1 h).elim hpq.down hqr.down

/-- A text that goes down goes down from everywhere. -/
theorem descends_child (h : Relative s) (hdown : ".." ∉ (ofText s).parts) (p : Path) :
    p.Descends (p.child s) (ofText s).parts :=
  ⟨anchor_child h p, parts_child h p, hdown⟩

theorem Plain.descends_child (h : Plain s) (hup : s ≠ "..") (p : Path) :
    p.Descends (p.child s) [s] :=
  ⟨anchor_child h.relative p, h.parts_child p, by simpa using hup.symm⟩

/-- Of two ways down that begin alike, the shorter is on the way to the longer. -/
theorem Descends.above_of_more {rest more : List String} (hpq : p.Descends q rest)
    (hpr : p.Descends r (rest ++ more)) : Above q r where
  anchor := hpq.anchor.trans hpr.anchor.symm
  parts := by
    rw [hpq.parts, hpr.parts, ← List.append_assoc]
    exact List.prefix_append _ more

theorem Descends.parent {rest : List String} (h : p.Descends q rest) (hne : rest ≠ []) :
    p.Descends q.parent rest.dropLast where
  anchor := h.anchor
  parts := by
    show q.parts.dropLast = _
    rw [h.parts, List.dropLast_append_of_ne_nil hne]
  down hup := h.down (List.dropLast_subset rest hup)

theorem Plain.size_pos {part : String} (h : Plain part) : 0 < part.utf8ByteSize := by
  have hne : part.utf8ByteSize ≠ 0 := by
    rw [Ne, String.utf8ByteSize_eq_zero_iff]
    exact h.ne_empty
  omega

theorem size_intercalate_prefix {parts more : List String} (sep : String) (h : parts <+: more) :
    (sep.intercalate parts).utf8ByteSize ≤ (sep.intercalate more).utf8ByteSize := by
  obtain ⟨rest, rfl⟩ := h
  by_cases hparts : parts = []
  · simp [hparts]
  · by_cases hrest : rest = []
    · simp [hrest]
    · rw [String.intercalate_append_of_ne_nil hparts hrest, String.utf8ByteSize_append,
        String.utf8ByteSize_append]
      omega

/-- A path on the way is not longer. -/
theorem Above.size_text (h : Above p q) : p.text.utf8ByteSize ≤ q.text.utf8ByteSize := by
  have hsize := size_intercalate_prefix "/" h.parts
  unfold text
  rw [h.anchor]
  by_cases hq : q.anchor = .relative ∧ q.parts = []
  · have hp : p.parts = [] := List.prefix_nil.1 (hq.2 ▸ h.parts)
    simp [hq.1, hq.2, hp]
  · have hq' : ¬ (q.anchor = .relative && q.parts.isEmpty) = true := by simpa using hq
    rw [if_neg hq']
    split
    · rename_i hp
      rw [Bool.and_eq_true, decide_eq_true_eq, List.isEmpty_iff] at hp
      cases hparts : q.parts with
      | nil => exact absurd ⟨hp.1, hparts⟩ hq
      | cons part rest =>
        have hpos := (q.plain part (hparts ▸ List.mem_cons_self)).size_pos
        have hfirst := size_intercalate_prefix "/" (List.prefix_append [part] rest)
        rw [String.intercalate_singleton, List.singleton_append] at hfirst
        rw [String.utf8ByteSize_append]
        have hdot : ".".utf8ByteSize = 1 := by decide
        omega
    · rw [String.utf8ByteSize_append, String.utf8ByteSize_append]
      omega

/-- Going down one part after the other. -/
theorem descends_foldl_child {parts : List String} (h : ∀ part ∈ parts, Plain part)
    (hdown : ".." ∉ parts) (p : Path) : p.Descends (parts.foldl child p) parts := by
  induction parts generalizing p with
  | nil => exact .refl p
  | cons part rest ih =>
    rw [List.mem_cons, not_or] at hdown
    have hpart := (h part List.mem_cons_self).descends_child (Ne.symm hdown.1) p
    exact hpart.trans (ih (fun q hq => h q (List.mem_cons_of_mem _ hq)) hdown.2 (p.child part))

end Path

namespace Path

variable {parts : List String}

/-- Cutting what was joined brings back the parts, except that no parts at all leave an empty one. -/
theorem pieces_joined (h : ∀ part ∈ parts, Plain part) :
    Text.pieces '/' ("/".intercalate parts) = if parts = [] then [""] else parts := by
  split
  · rename_i hnil
    rw [hnil]
    rfl
  · exact Text.pieces_intercalate rfl ‹_› fun part hpart => (h part hpart).no_slash

theorem filter_joined (h : ∀ part ∈ parts, Plain part) :
    (Text.pieces '/' ("/".intercalate parts)).filter (fun part => part ≠ "" && part ≠ ".")
      = parts := by
  rw [pieces_joined h]
  split
  · rename_i hnil
    rw [hnil]
    rfl
  · refine List.filter_eq_self.2 fun part hpart => ?_
    simp [(h part hpart).ne_empty, (h part hpart).ne_dot]

/-- A way down does not begin with a slash. -/
theorem head?_joined (h : ∀ part ∈ parts, Plain part) :
    ¬ ("/".intercalate parts).toList.head?.any (· = '/') := by
  cases parts with
  | nil => exact Bool.false_ne_true
  | cons part rest =>
    have hpart := h part List.mem_cons_self
    obtain ⟨c, cs, hcs⟩ := List.exists_cons_of_ne_nil (mt String.toList_eq_nil_iff.1 hpart.ne_empty)
    have hc : c ≠ '/' := by
      rintro rfl
      exact hpart.no_slash (hcs ▸ List.mem_cons_self)
    rw [String.toList_intercalate, List.map_cons]
    cases rest with
    | nil => simpa [hcs] using hc
    | cons next later => simpa [hcs, List.intercalate_cons_cons] using hc

theorem anchor_slashes (h : ∀ part ∈ parts, Plain part) (count : Nat) :
    (ofText (.ofList (List.replicate count '/') ++ "/".intercalate parts)).anchor
      = .ofSlashes count := by
  have hnone : ("/".intercalate parts).toList.takeWhile (· = '/') = [] := by
    have hhead := head?_joined h
    cases hcs : ("/".intercalate parts).toList with
    | nil => rfl
    | cons c rest =>
      rw [hcs] at hhead
      exact List.takeWhile_cons_of_neg hhead
  have hslashes : ∀ c ∈ List.replicate count '/', decide (c = '/') = true := fun c hc =>
    decide_eq_true (List.eq_of_mem_replicate hc)
  show Anchor.ofSlashes _ = _
  rw [String.toList_append, String.toList_ofList, List.takeWhile_append_of_pos hslashes, hnone,
    List.append_nil, List.length_replicate]

theorem parts_slashes (h : ∀ part ∈ parts, Plain part) (count : Nat) :
    (ofText (.ofList (List.replicate count '/') ++ "/".intercalate parts)).parts = parts := by
  have hpieces : Text.pieces '/' (.ofList (List.replicate count '/') ++ "/".intercalate parts)
      = List.replicate count "" ++ Text.pieces '/' ("/".intercalate parts) := by
    rw [Text.pieces, String.toList_append, String.toList_ofList]
    induction count with
    | zero => rfl
    | succ count ih =>
      have hfirst := Text.pieceChars_append_sep (List.not_mem_nil (a := '/'))
        (List.replicate count '/' ++ ("/".intercalate parts).toList)
      rw [List.nil_append] at hfirst
      rw [List.replicate_succ, List.cons_append, hfirst, List.map_cons, ih]
      rfl
  have hempty : (List.replicate count "").filter (fun part => part ≠ "" && part ≠ ".") = [] := by
    refine List.filter_eq_nil_iff.2 fun part hpart => ?_
    simp [List.eq_of_mem_replicate hpart]
  show (Text.pieces '/' _).filter _ = _
  rw [hpieces, List.filter_append, hempty, List.nil_append, filter_joined h]

/-- Reading the text of a path gives the path. -/
theorem ofText_text (p : Path) : ofText p.text = p := by
  have hread (count : Nat) (hanchor : p.anchor = .ofSlashes count)
      (htext : p.text = .ofList (List.replicate count '/') ++ "/".intercalate p.parts) :
      ofText p.text = p := by
    rw [htext]
    exact ext ((anchor_slashes p.plain count).trans hanchor.symm) (parts_slashes p.plain count)
  by_cases hhere : p.anchor = .relative ∧ p.parts = []
  · have htext : p.text = "." := by
      rw [text, hhere.1, hhere.2]
      rfl
    rw [htext]
    exact ext hhere.1.symm hhere.2.symm
  · have htext : p.text = p.anchor.text ++ "/".intercalate p.parts := by
      rw [text, if_neg]
      simpa using hhere
    rw [htext] at hread ⊢
    cases hanchor : p.anchor with
    | relative =>
      rw [hanchor] at hread
      exact hread 0 rfl rfl
    | root =>
      rw [hanchor] at hread
      exact hread 1 rfl rfl
    | doubleRoot =>
      rw [hanchor] at hread
      exact hread 2 rfl rfl

end Path

namespace Package

variable {package : String} {segs : List String}

/-- A segment between two points of a package, that names one directory. -/
structure Segment (s : String) : Prop where
  ne_empty : s ≠ ""
  no_point : '.' ∉ s.toList
  no_slash : '/' ∉ s.toList

theorem Segment.plain {s : String} (h : Segment s) : Path.Plain s where
  ne_empty := h.ne_empty
  ne_dot := by
    rintro rfl
    exact h.no_point (by decide)
  no_slash := h.no_slash

theorem Segment.ne_up {s : String} (h : Segment s) : s ≠ ".." := by
  rintro rfl
  exact h.no_point (by decide)

/-- Every segment of a package names one directory, if the package has no slash. -/
theorem segment_of_mem (hslash : '/' ∉ package.toList) {s : String} (h : s ∈ segments package) :
    Segment s := by
  obtain ⟨hpiece, hne⟩ := List.mem_filter.1 h
  obtain ⟨cs, hcs, rfl⟩ := List.mem_map.1 hpiece
  refine ⟨by simpa using hne, ?_, ?_⟩
  · rw [String.toList_ofList]
    exact Text.not_mem_of_mem_pieceChars hcs
  · rw [String.toList_ofList]
    exact fun hmem => hslash (Text.subset_of_mem_pieceChars hcs hmem)

/-- The package is the given segments with points between them. -/
structure Joins (segs : List String) (package : String) : Prop where
  ne_nil : segs ≠ []
  segment : ∀ s ∈ segs, Segment s
  eq : package = ".".intercalate segs

theorem Joins.segments (h : Joins segs package) : segments package = segs := by
  have hpieces : Text.pieces '.' package = segs := by
    rw [h.eq]
    exact Text.pieces_intercalate rfl h.ne_nil fun s hs => (h.segment s hs).no_point
  rw [Package.segments, hpieces, List.filter_eq_self]
  intro s hs
  simpa using (h.segment s hs).ne_empty

theorem Joins.ne_empty (h : Joins segs package) : package ≠ "" := by
  rintro rfl
  have hnil : Package.segments "" = [] := by decide
  exact h.ne_nil (h.segments.symm.trans hnil)

/-- Another segment at the end. -/
theorem Joins.concat {s : String} (h : Joins segs package) (hs : Segment s) :
    Joins (segs ++ [s]) (package ++ "." ++ s) where
  ne_nil := by simp
  segment q hq := by
    rcases List.mem_append.1 hq with hq | hq
    · exact h.segment q hq
    · rw [List.mem_singleton.1 hq]
      exact hs
  eq := by
    rw [String.intercalate_append_of_ne_nil h.ne_nil (by simp), String.intercalate_singleton,
      h.eq]

end Package

namespace Project

open Package

variable {project : Project} {package className sourceRoot : String}
  {segs way : List String}

/-- The source root that is meant by a given one, or by none. -/
def sources (project : Project) (sourceRoot : String) : String :=
  if sourceRoot = "" then project.settings.sourceRoot else sourceRoot

/-- The source root that is meant lies down the way from the project. -/
structure Way (project : Project) (sourceRoot : String) (way : List String) : Prop where
  relative : Path.Relative (project.sources sourceRoot)
  parts : (Path.ofText (project.sources sourceRoot)).parts = way
  down : ".." ∉ way

theorem way_of_sources (root : Path) : Way ⟨root, {}⟩ "" ["src", "main", "java"] where
  relative := (by decide : Path.Relative "src/main/java")
  parts := (by decide : (Path.ofText "src/main/java").parts = ["src", "main", "java"])
  down := by decide

theorem way_of_tests (root : Path) :
    Way ⟨root, {}⟩ (⟨root, {}⟩ : Project).settings.testSourceRoot ["src", "test", "java"] where
  relative := (by decide : Path.Relative "src/test/java")
  parts := (by decide : (Path.ofText "src/test/java").parts = ["src", "test", "java"])
  down := by decide

/-- The directory of a package: project, source root, segments. -/
theorem packageDirectory_descends_segments (h : ∀ s ∈ segments package, Segment s)
    (hway : project.Way sourceRoot way) :
    project.root.Descends (project.packageDirectory package sourceRoot)
      (way ++ segments package) := by
  have hroot : project.root.Descends (project.root.child (project.sources sourceRoot)) way := by
    have hdown := Path.descends_child hway.relative (hway.parts ▸ hway.down) project.root
    rwa [hway.parts] at hdown
  have hfold := Path.descends_foldl_child (fun s hs => (h s hs).plain)
    (fun hup => (h _ hup).ne_up rfl) (project.root.child (project.sources sourceRoot))
  exact hroot.trans hfold

theorem packageDirectory_descends (h : Joins segs package) (hway : project.Way sourceRoot way) :
    project.root.Descends (project.packageDirectory package sourceRoot) (way ++ segs) := by
  have hdown := packageDirectory_descends_segments (h.segments ▸ h.segment) hway
  rwa [h.segments] at hdown

theorem endsWith_fileName (project : Project) (className : String) :
    Text.endsWith (project.fileName className) project.settings.sourceExtension := by
  unfold fileName
  split
  · assumption
  · refine Text.endsWith_append ?_ className
    exact Text.endsWith_iff.2 (List.suffix_refl _)

/-- A name without slashes gives the name of one file. -/
theorem plain_fileName (hext : Text.Telling project.settings.sourceExtension)
    (h : '/' ∉ className.toList) :
    Path.Plain (project.fileName className) ∧ project.fileName className ≠ ".." := by
  obtain ⟨hempty, hdot, hup⟩ := hext.ne_special (endsWith_fileName project className)
  refine ⟨⟨hempty, hdot, ?_⟩, hup⟩
  unfold fileName
  split
  · exact h
  · rw [String.toList_append, List.mem_append, not_or]
    exact ⟨h, hext.1⟩

/-- A name without points is the name of its file but for the extension. -/
theorem fileName_of_no_point (hext : '.' ∈ project.settings.sourceExtension.toList)
    (h : '.' ∉ className.toList) :
    project.fileName className = className ++ project.settings.sourceExtension := by
  have hends : ¬ Text.endsWith className project.settings.sourceExtension := by
    intro he
    exact h ((Text.endsWith_iff.1 he).subset hext)
  rw [fileName, if_neg hends]

/-- The path of a class: the directory of its package, and the file. -/
theorem sourcePath_descends (h : Joins segs package) (hway : project.Way sourceRoot way)
    (hext : Text.Telling project.settings.sourceExtension) (hslash : '/' ∉ className.toList) :
    project.root.Descends (project.sourcePath package className sourceRoot)
      (way ++ segs ++ [project.fileName className]) := by
  obtain ⟨hplain, hup⟩ := plain_fileName hext hslash
  exact (packageDirectory_descends h hway).trans (hplain.descends_child hup _)

end Project

end Groundwork
