import Groundwork.Proofs.Text.Literal

/-!
# Patterns between quotes

A text field with a pattern has one annotation for it, with the pattern between quotes. The inside
of the quotes is made in two replacements and read back in one pass: a backslash makes the next
character stand for itself, and the first quote that none stands before ends the literal. Every
pattern reads back as itself, whatever mix of quotes and backslashes it is.
-/

namespace Groundwork

namespace Text

/-- What stands up to the first quote that is not escaped, and what comes after the quote. -/
def readQuoted : List Char → Option (List Char × List Char)
  | [] => none
  | '\x22' :: rest => some ([], rest)
  | ['\\'] => none
  | '\\' :: c :: rest => (readQuoted rest).map fun (inside, after) => (c :: inside, after)
  | c :: rest => (readQuoted rest).map fun (inside, after) => (c :: inside, after)

/-- What the first literal of a text stands for, and what comes after it. -/
def firstQuoted? (s : String) : Option (String × String) :=
  (readQuoted ((s.toList.dropWhile (· ≠ '\x22')).drop 1)).map fun (inside, after) =>
    (.ofList inside, .ofList after)

open Field

theorem readQuoted_escapedChar (c : Char) (rest : List Char) :
    readQuoted (escapedChar c ++ rest)
      = (readQuoted rest).map fun (inside, after) => (c :: inside, after) := by
  unfold escapedChar
  split
  · rfl
  · rename_i hc
    rw [not_or] at hc
    rw [List.cons_append, List.nil_append, readQuoted]
    · exact hc.1
    · exact fun hback _ => hc.2 hback
    · exact fun _ _ hback _ => hc.2 hback

/-- An escaped text is read up to whatever stands behind it. -/
theorem readQuoted_escaped (cs rest : List Char) :
    readQuoted (cs.flatMap escapedChar ++ rest)
      = (readQuoted rest).map fun (inside, after) => (cs ++ inside, after) := by
  induction cs with
  | nil => simp
  | cons c cs ih =>
    rw [List.flatMap_cons, List.append_assoc, readQuoted_escapedChar, ih, Option.map_map]
    rfl

/-- An escaped text between quotes is all that the literal stands for. -/
theorem firstQuoted?_escaped {opening closing after : String} {word : List Char} (pattern : String)
    (hopening : opening.toList = word ++ ['\x22']) (hword : '\x22' ∉ word)
    (hclosing : closing.toList = '\x22' :: after.toList) :
    firstQuoted? (opening ++ escapedPattern pattern ++ closing) = some (pattern, after) := by
  have hbefore : ∀ c ∈ word, decide (c ≠ '\x22') :=
    fun c hc => decide_eq_true fun h => hword (h ▸ hc)
  have hinside : (((opening ++ escapedPattern pattern ++ closing).toList.dropWhile
      (· ≠ '\x22')).drop 1) = pattern.toList.flatMap escapedChar ++ '\x22' :: after.toList := by
    rw [String.toList_append, String.toList_append, hopening, hclosing, toList_escapedPattern,
      List.append_assoc, List.append_assoc, List.dropWhile_append_of_pos hbefore]
    rfl
  have hend : readQuoted ('\x22' :: after.toList) = some ([], after.toList) := rfl
  rw [firstQuoted?, hinside, readQuoted_escaped, hend]
  simp only [Option.map_some, List.append_nil, String.ofList_toList]

end Text

namespace Field

open Text

variable {f g : Field} {pattern inside other a : String}

/-- The annotation with a literal of this inside. -/
def patternConstraint (inside : String) : String :=
  "@Pattern(regexp = \"" ++ inside ++ "\")"

theorem firstQuoted?_patternConstraint (pattern : String) :
    firstQuoted? (patternConstraint (escapedPattern pattern)) = some (pattern, ")") := by
  have hopening : "@Pattern(regexp = \"".toList = "@Pattern(regexp = ".toList ++ ['\x22'] := by
    decide
  have hclosing : "\")".toList = '\x22' :: ")".toList := by decide
  exact firstQuoted?_escaped pattern hopening (by decide) hclosing

/-- The annotations of a text field that are not for its pattern. -/
def boundAnnotations (f : Field) : List String :=
  (if f.required then ["@NotNull", "@NotBlank"] else [])
    ++ f.maxLength.toList.map fun n => "@Size(max = " ++ n.repr ++ ")"

/-- The annotation of the pattern comes last, after those that have another name. -/
theorem validationAnnotations_of_isText (h : JavaType.isText f.type) :
    f.validationAnnotations = f.boundAnnotations
      ++ f.pattern.toList.map fun p => patternConstraint (escapedPattern p) := by
  have hnumeric : JavaType.isNumeric f.type = false := by
    have htype : f.type = "String" := beq_iff_eq.1 h
    rw [htype]
    decide
  rw [validationAnnotations, if_pos h, hnumeric, textAnnotations, boundAnnotations]
  simp only [Bool.false_eq_true, if_false, List.append_nil, ← List.append_assoc]
  cases f.required <;> rfl

theorem ne_patternConstraint (ha : a ∈ f.boundAnnotations) : a ≠ patternConstraint other := by
  have hsecond {front back : String} {c : Char} (hfront : front.toList[1]? = some c) :
      (front ++ back).toList[1]? = some c := by
    obtain ⟨hlong, -⟩ := List.getElem?_eq_some_iff.1 hfront
    rw [String.toList_append, List.getElem?_append_left hlong, hfront]
  have hname : "@Pattern(regexp = \"".toList[1]? = some 'P' := by decide
  have hpattern : (patternConstraint other).toList[1]? = some 'P' := hsecond (hsecond hname)
  rintro rfl
  rcases List.mem_append.1 ha with ha | ha
  · have hfixed : ∀ a ∈ ["@NotNull", "@NotBlank"], a.toList[1]? ≠ some 'P' := by decide
    split at ha
    · exact hfixed _ ha hpattern
    · cases ha
  · obtain ⟨n, -, hsize⟩ := List.mem_map.1 ha
    have hname : "@Size(max = ".toList[1]? = some 'S' := by decide
    have hbound : ("@Size(max = " ++ n.repr ++ ")").toList[1]? = some 'S' := hsecond (hsecond hname)
    rw [hsize, hpattern] at hbound
    exact absurd hbound (by decide)

theorem firstQuoted?_of_mem (h : JavaType.isText f.type)
    (hmem : patternConstraint inside ∈ f.validationAnnotations) :
    ∃ pattern, f.pattern = some pattern ∧
      firstQuoted? (patternConstraint inside) = some (pattern, ")") := by
  rw [validationAnnotations_of_isText h, List.mem_append] at hmem
  rcases hmem with hmem | hmem
  · exact absurd rfl (ne_patternConstraint hmem)
  · obtain ⟨pattern, hpattern, hsame⟩ := List.mem_map.1 hmem
    refine ⟨pattern, Option.mem_toList.1 hpattern, ?_⟩
    rw [← hsame, firstQuoted?_patternConstraint]

end Field

open Text Field

/-- A text field with a pattern has one annotation for it. Its literal is all that is between the
quotes, stands for the pattern, and has no quote that would end it earlier. So fields that share
such an annotation have the same pattern. -/
theorem patterns_read_back :
    (∀ (f : Field) (pattern : String), JavaType.isText f.type → f.pattern = some pattern →
      ∃ before inside, f.validationAnnotations = before ++ [patternConstraint inside] ∧
        (∀ a ∈ before, ∀ other, a ≠ patternConstraint other) ∧
        firstQuoted? (patternConstraint inside) = some (pattern, ")") ∧
        readQuoted inside.toList = none) ∧
    ∀ (f g : Field) (inside : String), JavaType.isText f.type → JavaType.isText g.type →
      patternConstraint inside ∈ f.validationAnnotations →
      patternConstraint inside ∈ g.validationAnnotations → f.pattern = g.pattern := by
  refine ⟨fun f pattern htext hpattern => ?_, fun f g inside hf hg hmemf hmemg => ?_⟩
  · refine ⟨f.boundAnnotations, escapedPattern pattern, ?_, fun a ha other =>
      ne_patternConstraint ha, firstQuoted?_patternConstraint pattern, ?_⟩
    · rw [validationAnnotations_of_isText htext, hpattern]
      rfl
    · have hopen := readQuoted_escaped pattern.toList []
      rw [List.append_nil] at hopen
      rw [toList_escapedPattern, hopen]
      rfl
  · obtain ⟨p, hp, hreadp⟩ := firstQuoted?_of_mem hf hmemf
    obtain ⟨q, hq, hreadq⟩ := firstQuoted?_of_mem hg hmemg
    have hsame : some (p, ")") = some (q, ")") := hreadp.symm.trans hreadq
    rw [hp, hq, (Prod.mk.inj (Option.some.inj hsame)).1]

/-- A quote between backslashes, with a backslash at the end. -/
theorem quote_between_backslashes_reads_back :
    let f : Field :=
      { name := "code", type := "String", required := true, pattern := some "\\\x22\\" }
    let g : Field := { name := "other", type := "String", pattern := some "\\\x22\\" }
    let written := "\\\\\\\x22\\\\"
    JavaType.isText f.type ∧ JavaType.isText g.type ∧
      (∃ before inside, f.validationAnnotations = before ++ [patternConstraint inside] ∧
        (∀ a ∈ before, ∀ other, a ≠ patternConstraint other) ∧
        firstQuoted? (patternConstraint inside) = some ("\\\x22\\", ")") ∧
        readQuoted inside.toList = none) ∧
      patternConstraint written ∈ f.validationAnnotations ∧
      patternConstraint written ∈ g.validationAnnotations ∧ f.pattern = g.pattern := by
  intro f g written
  have hf : JavaType.isText f.type := by decide
  have hg : JavaType.isText g.type := by decide
  have hmemf : patternConstraint written ∈ f.validationAnnotations := by decide
  have hmemg : patternConstraint written ∈ g.validationAnnotations := by decide
  exact ⟨hf, hg, patterns_read_back.1 f _ hf rfl, hmemf, hmemg,
    patterns_read_back.2 f g written hf hg hmemf hmemg⟩

end Groundwork
