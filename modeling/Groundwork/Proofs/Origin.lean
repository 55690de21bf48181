import Groundwork.Proofs.Field.Imports
import Groundwork.Proofs.Text.Marks
import Groundwork.Proofs.Typed
import Groundwork.Proofs.Value

/-!
# Where the layout of a source comes from

Line ends and braces give a source its layout. A sheet brings none of them into the values that its
sources print: where one is in such a value, a text of the blueprint had it.
-/

namespace Groundwork

/-- Line ends and braces. -/
def layoutMarks : List Char := ['\n', '\r', '\x7b', '\x7d']

/-- A text without the characters of a list. -/
def Text.Lacks (marks : List Char) (s : String) : Prop :=
  ∀ m ∈ marks, m ∉ s.toList

instance (marks : List Char) (s : String) : Decidable (Text.Lacks marks s) :=
  List.decidableBAll (· ∉ s.toList) marks

/-- A value whose texts are without the characters of a list. -/
def Value.Lacks (marks : List Char) (v : Value) : Prop :=
  ∀ t ∈ v.texts, Text.Lacks marks t

namespace Text

variable {marks : List Char} {s s' : String}

theorem Lacks.append (h : Lacks marks s) (h' : Lacks marks s') : Lacks marks (s ++ s') := by
  intro m hm
  rw [String.toList_append, List.mem_append, not_or]
  exact ⟨h m hm, h' m hm⟩

theorem Lacks.intercalate {sep : String} {parts : List String} (hsep : Lacks marks sep)
    (h : ∀ part ∈ parts, Lacks marks part) : Lacks marks (sep.intercalate parts) := by
  intro m hm hin
  rw [String.toList_intercalate] at hin
  rcases mem_of_mem_intercalate hin with hin | ⟨part, hpart, hin⟩
  · exact hsep m hm hin
  · obtain ⟨part', hpart', rfl⟩ := List.mem_map.1 hpart
    exact h part' hpart' m hm hin

/-- What a text lacks, every text made of its characters lacks. -/
theorem Lacks.of_mem (h : Lacks marks s) (hmem : ∀ m ∈ marks, m ∈ s'.toList → m ∈ s.toList) :
    Lacks marks s' :=
  fun m hm hin => h m hm (hmem m hm hin)

theorem Lacks.trim (h : Lacks marks s) : Lacks marks (trim s) :=
  h.of_mem fun _ _ => mem_of_mem_trim

section Layout

variable (hmarks : marks ⊆ layoutMarks)

include hmarks

theorem isMark_of_layout {m : Char} (hm : m ∈ marks) : isMark m := by
  have hall : ∀ m ∈ layoutMarks, isMark m := List.all_eq_true.1 (by decide)
  exact hall m (hmarks hm)

theorem lacks_of_decide (h : Lacks layoutMarks s) : Lacks marks s :=
  fun m hm => h m (hmarks hm)

theorem lacks_of_scalar (h : Value.Scalar s.toList) : Lacks marks s := by
  have hno : ∀ m ∈ layoutMarks, ¬ Value.isScalarChar m := List.any_eq_false.1 (by decide)
  exact fun m hm hin => hno m (hmarks hm) (h m hin)

theorem lacks_lowerFirst (h : Lacks marks s) : Lacks marks (Name.lowerFirst s) :=
  h.of_mem fun _ hm => Name.mem_lowerFirst (isMark_of_layout hmarks hm)

theorem lacks_upperFirst (h : Lacks marks s) : Lacks marks (Name.upperFirst s) :=
  h.of_mem fun _ hm => Name.mem_upperFirst (isMark_of_layout hmarks hm)

theorem lacks_collection (h : Lacks marks s) : Lacks marks (Name.collection s) :=
  h.of_mem fun _ hm => Name.mem_collection (isMark_of_layout hmarks hm)

theorem lacks_served {suffix : String} (h : Lacks marks s) : Lacks marks (Name.served s suffix) :=
  h.of_mem fun _ hm => Name.mem_served (isMark_of_layout hmarks hm)

theorem lacks_table (h : Lacks marks s) : Lacks marks (Name.table s) := by
  have hunderscore : '_' ∉ layoutMarks := by decide
  refine h.of_mem fun m hm hin => ?_
  refine (Name.mem_table (isMark_of_layout hmarks hm) hin).resolve_left ?_
  rintro rfl
  exact hunderscore (hmarks hm)

theorem lacks_swapLast {old new : String} (hnew : Lacks layoutMarks new) (h : Lacks marks s) :
    Lacks marks (Package.swapLast old new s) := by
  have hpoint : '.' ∉ layoutMarks := by decide
  refine h.of_mem fun m hm hin => ?_
  rcases Package.mem_swapLast hin with hin | rfl | hin
  · exact hin
  · exact absurd (hmarks hm) hpoint
  · exact absurd hin (hnew m (hmarks hm))

theorem lacks_normalPath (h : Lacks marks s) : Lacks marks (ControllerSheet.normalPath s) := by
  have hslash : '/' ∉ layoutMarks := by decide
  refine h.of_mem fun m hm hin => ?_
  refine (ControllerSheet.mem_normalPath hin).resolve_left ?_
  rintro rfl
  exact hslash (hmarks hm)

end Layout

end Text

open Text

namespace Value

variable {marks : List Char} {v w : Value} {s : String}

theorem lacks_text (h : Text.Lacks marks s) : (text s).Lacks marks :=
  List.forall_mem_singleton.2 h

theorem lacks_bool (b : Bool) : (bool b).Lacks marks :=
  fun _ => nofun

theorem lacks_int (n : Int) : (int n).Lacks marks :=
  fun _ => nofun

theorem lacks_items {items : List Value} (h : ∀ w ∈ items, w.Lacks marks) :
    (list items).Lacks marks := by
  intro t ht
  obtain ⟨w, hw, ht⟩ := mem_textsOfItems.1 ht
  exact h w hw t ht

theorem lacks_texts {texts : List String} (h : ∀ t ∈ texts, Text.Lacks marks t) :
    (list (texts.map text)).Lacks marks := by
  refine lacks_items fun w hw => ?_
  obtain ⟨t, ht, rfl⟩ := List.mem_map.1 hw
  exact lacks_text (h t ht)

theorem Lacks.entry {entries : List (String × Value)} {key : String}
    (h : (object entries).Lacks marks) (hv : entries.lookup key = some v) : v.Lacks marks :=
  fun t ht => h t (texts_of_entry (mem_of_lookup hv) ht)

/-- The items of a value lack what the value lacks. -/
theorem Lacks.item {items : List Value} (h : v.Lacks marks) (hitems : v.items = .ok items)
    (hw : w ∈ items) : w.Lacks marks := by
  cases v with
  | text s =>
    cases hitems
    obtain ⟨c, hc, rfl⟩ := List.mem_map.1 hw
    refine lacks_text fun m hm hin => ?_
    have hsame : m = c := by simpa using hin
    exact h s List.mem_cons_self m hm (hsame ▸ hc)
  | list items =>
    cases hitems
    exact fun t ht => h t (texts_of_item hw ht)
  | object entries =>
    cases hitems
    obtain ⟨e, he, rfl⟩ := List.mem_map.1 hw
    exact lacks_text (h e.1 (mem_textsOfEntries.2 ⟨e, he, .inl rfl⟩))
  | null | bool _ | int _ | float _ => cases hitems

/-- What a value is written with lacks the line ends that the value lacks. -/
theorem Lacks.written (hmarks : marks ⊆ ['\n', '\r']) (h : v.Lacks marks) :
    Text.Lacks marks v.written := by
  have hno : ∀ m ∈ ['\n', '\r'], ¬ isNotation m := List.any_eq_false.1 (by decide)
  intro m hm hin
  obtain ⟨t, ht, hin⟩ := (mem_written hin).resolve_left (hno m (hmarks hm))
  exact h t ht m hm hin

end Value

/-- The texts of a field. -/
def Field.texts (f : Field) : List String :=
  [f.name, f.type] ++ f.minValue.toList ++ f.maxValue.toList ++ f.pattern.toList
    ++ f.comment.toList

/-- The texts of a blueprint: its name and package, and those of its fields and options. -/
def Blueprint.texts (b : Blueprint) : List String :=
  b.name :: b.package :: (b.fields.flatMap Field.texts ++ b.options.flatMap (·.2.texts))

namespace Field

/-- What a field says of its column. -/
def columnAttributes (f : Field) : List String :=
  (if f.nullable then [] else ["nullable = false"])
    ++ (if f.unique then ["unique = true"] else [])
    ++ match f.maxLength with
      | some n => if JavaType.isText f.type then ["length = " ++ n.repr] else []
      | none => []

theorem columnAnnotation?_eq (f : Field) : f.columnAnnotation?
    = if f.columnAttributes.isEmpty then none
      else some ("@Column(" ++ ", ".intercalate f.columnAttributes ++ ")") := rfl

variable {marks : List Char} {f : Field} {a : String} (hmarks : marks ⊆ layoutMarks)

include hmarks

theorem lacks_columnAttributes (h : a ∈ f.columnAttributes) : Text.Lacks marks a := by
  have hset {test : Bool} {word : String} (hword : Text.Lacks layoutMarks word)
      (h : a ∈ if test then [word] else []) : Text.Lacks marks a := by
    split at h
    · rw [List.mem_singleton.1 h]
      exact lacks_of_decide hmarks hword
    · cases h
  rcases List.mem_append.1 h with h | h
  · rcases List.mem_append.1 h with h | h
    · split at h
      · cases h
      · rw [List.mem_singleton.1 h]
        exact lacks_of_decide hmarks (by decide)
    · exact hset (by decide) h
  · split at h
    · rename_i n _
      split at h
      · rw [List.mem_singleton.1 h]
        exact (lacks_of_decide hmarks (by decide)).append
          (lacks_of_scalar hmarks (Value.scalar_int n))
      · cases h
    · cases h

theorem lacks_column (h : f.columnAnnotation? = some a) : Text.Lacks marks a := by
  rw [columnAnnotation?_eq] at h
  split at h
  · cases h
  · cases h
    have hliteral {s : String} (hs : Text.Lacks layoutMarks s) : Text.Lacks marks s :=
      lacks_of_decide hmarks hs
    exact ((hliteral (by decide)).append (.intercalate (hliteral (by decide)) fun _ =>
      lacks_columnAttributes hmarks)).append (hliteral (by decide))

theorem lacks_escapedPattern (h : Text.Lacks marks a) : Text.Lacks marks (escapedPattern a) := by
  have hbackslash : '\\' ∉ layoutMarks := by decide
  have hescape {mark c : Char} {cs : List Char} (hc : c ∈ escapeMark mark cs) :
      c = '\\' ∨ c ∈ cs := by
    obtain ⟨d, hd, hc⟩ := List.mem_flatMap.1 hc
    split at hc
    · rcases List.mem_cons.1 hc with rfl | hc
      · exact .inl rfl
      · exact .inr (List.mem_singleton.1 hc ▸ hd)
    · exact .inr (List.mem_singleton.1 hc ▸ hd)
  refine h.of_mem fun m hm hin => ?_
  have hother : m ≠ '\\' := by
    rintro rfl
    exact hbackslash (hmarks hm)
  rw [escapedPattern, String.toList_ofList] at hin
  exact (hescape ((hescape hin).resolve_left hother)).resolve_left hother

theorem lacks_validationAnnotations (hf : ∀ t ∈ f.texts, Text.Lacks marks t)
    (h : a ∈ f.validationAnnotations) : Text.Lacks marks a := by
  have hliteral (s : String) (hs : Text.Lacks layoutMarks s) : Text.Lacks marks s :=
    lacks_of_decide hmarks hs
  have hset {test : Bool} {word : String} (hword : Text.Lacks layoutMarks word)
      (h : a ∈ if test then [word] else []) : Text.Lacks marks a := by
    split at h
    · rw [List.mem_singleton.1 h]
      exact hliteral _ hword
    · cases h
  simp only [validationAnnotations, textAnnotations, numericAnnotations, List.mem_append] at h
  rcases h with (h | h) | h
  · exact hset (by decide) h
  · split at h
    · simp only [List.mem_append, List.mem_map, Option.mem_toList] at h
      rcases h with (h | ⟨n, -, rfl⟩) | ⟨p, hp, rfl⟩
      · exact hset (by decide) h
      · exact ((hliteral _ (by decide)).append (lacks_of_scalar hmarks (Value.scalar_int n))).append
          (hliteral _ (by decide))
      · refine ((hliteral _ (by decide)).append (lacks_escapedPattern hmarks (hf p ?_))).append
          (hliteral _ (by decide))
        simp [texts, hp]
    · cases h
  · split at h
    · simp only [List.mem_append, List.mem_map, Option.mem_toList] at h
      rcases h with ⟨low, hlow, rfl⟩ | ⟨high, hhigh, rfl⟩
      · refine ((hliteral _ (by decide)).append (hf low ?_)).append (hliteral _ (by decide))
        simp [texts, hlow]
      · refine ((hliteral _ (by decide)).append (hf high ?_)).append (hliteral _ (by decide))
        simp [texts, hhigh]
    · cases h

/-- A field as templates see it lacks what the texts of the field lack. -/
theorem lacks_entry (hf : ∀ t ∈ f.texts, Text.Lacks marks t) : f.entry.Lacks marks := by
  have hname : Text.Lacks marks f.name := hf _ (by simp [texts])
  have htype : Text.Lacks marks f.type := hf _ (by simp [texts])
  have hkeys : ∀ key ∈ ["name", "type", "capitalized_name", "required", "column_annotation",
      "validation_annotations", "comment"], Text.Lacks marks key := by
    have hall : ∀ key ∈ ["name", "type", "capitalized_name", "required", "column_annotation",
      "validation_annotations", "comment"], Text.Lacks layoutMarks key := by decide
    exact fun key hkey => lacks_of_decide hmarks (hall key hkey)
  intro t ht
  obtain ⟨e, he, ht⟩ := Value.mem_textsOfEntries.1 ht
  suffices hparts : Text.Lacks marks e.1 ∧ e.2.Lacks marks by
    rcases ht with rfl | ht
    · exact hparts.1
    · exact hparts.2 t ht
  simp only [List.mem_append, List.mem_cons, List.not_mem_nil, or_false] at he
  rcases he with ((he | he) | he) | he
  · rcases he with rfl | rfl | rfl | rfl
    · exact ⟨hkeys _ (by simp), Value.lacks_text hname⟩
    · exact ⟨hkeys _ (by simp), Value.lacks_text htype⟩
    · exact ⟨hkeys _ (by simp), Value.lacks_text (lacks_upperFirst hmarks hname)⟩
    · exact ⟨hkeys _ (by simp), Value.lacks_bool _⟩
  · obtain ⟨a, ha, rfl⟩ := List.mem_map.1 he
    exact ⟨hkeys _ (by simp),
      Value.lacks_text (lacks_column hmarks (Option.mem_toList.1 ha))⟩
  · split at he
    · cases he
    · rw [List.mem_singleton.1 he]
      exact ⟨hkeys _ (by simp),
        Value.lacks_texts fun a ha => lacks_validationAnnotations hmarks hf ha⟩
  · obtain ⟨c, hc, rfl⟩ := List.mem_map.1 he
    have hcomment : f.comment = some c := (Option.filter_eq_some_iff.1 (Option.mem_toList.1 hc)).1
    exact ⟨hkeys _ (by simp), Value.lacks_text (hf c (by simp [texts, hcomment]))⟩

theorem lacks_imports {fields : List Field} {persistence validation lombok : Bool} {q : String}
    (h : q ∈ imports fields persistence validation lombok) : Text.Lacks marks q := by
  have htypes : ∀ e ∈ JavaType.imports, Text.Lacks layoutMarks e.2 := by decide
  have hfixed : ∀ q ∈ [JavaType.persistenceImport, JavaType.validationImport, JavaType.objectsImport]
      ++ JavaType.lombokImports, Text.Lacks layoutMarks q := by decide
  refine lacks_of_decide hmarks ?_
  rcases mem_imports.1 h with ⟨f, -, h⟩ | ⟨-, rfl⟩ | ⟨-, rfl⟩ | ⟨-, h⟩ | ⟨-, rfl⟩
  · exact htypes _ h
  · exact hfixed _ (by simp)
  · exact hfixed _ (by simp)
  · exact hfixed q (List.mem_append_right _ h)
  · exact hfixed _ (by simp)

end Field

theorem Value.eq_text_of_append {v : Value} {suffix r : String}
    (h : Value.needed (v.append suffix) = .ok r) : ∃ s, v = .text s := by
  cases v with
  | text s => exact ⟨s, rfl⟩
  | list _ | null | bool _ | int _ | float _ | object _ => cases h

/-- Only a text with something in it and what does not hold have a first character in small. -/
theorem Value.eq_text_of_lowerFirst {v r : Value} (hv : v.holds)
    (h : Value.needed v.lowerFirst = .ok r) : ∃ s, v = .text s := by
  cases v with
  | text s => exact ⟨s, rfl⟩
  | null => cases hv
  | bool b =>
    cases b with
    | false => cases hv
    | true => cases h
  | list items =>
    cases items with
    | nil => cases hv
    | cons item rest => cases item <;> cases h
  | object entries =>
    cases entries with
    | nil => cases hv
    | cons e rest => cases h
  | int n | float x =>
    rw [lowerFirst, onFirst, if_pos hv] at h
    · cases h
    · exact nofun
    · exact nofun
    · exact nofun
    · exact nofun

namespace Blueprint

variable {marks : List Char} {b : Blueprint} {key : String} {v : Value}
  (hmarks : marks ⊆ layoutMarks) (hb : ∀ t ∈ b.texts, Text.Lacks marks t)

include hb

theorem lacks_option? (h : b.option? key = some v) : v.Lacks marks := by
  intro t ht
  have hmem : t ∈ b.options.flatMap (·.2.texts) :=
    List.mem_flatMap.2 ⟨_, (mem_of_option? h).1, ht⟩
  exact hb t (.tail _ (.tail _ (List.mem_append_right _ hmem)))

theorem lacks_option (key : String) (hdefault : v.Lacks marks) :
    (b.option key v).Lacks marks := by
  unfold option
  cases ho : b.option? key with
  | none => exact hdefault
  | some given => exact lacks_option? hb ho

theorem lacks_title : Text.Lacks marks b.title :=
  (hb _ List.mem_cons_self).trim

theorem lacks_package : Text.Lacks marks b.package :=
  hb _ (.tail _ List.mem_cons_self)

theorem lacks_fields : ∀ f ∈ b.fields, ∀ t ∈ f.texts, Text.Lacks marks t := by
  intro f hf t ht
  have hmem : t ∈ b.fields.flatMap Field.texts := List.mem_flatMap.2 ⟨f, hf, ht⟩
  exact hb t (.tail _ (.tail _ (List.mem_append_left _ hmem)))

omit hb in
/-- The name of the model is a text, unless an option that is none gives it. -/
theorem modelName_holds (b : Blueprint) (suffix : String) :
    (∃ s, b.modelName suffix = .text s) ∨ (b.modelName suffix).holds := by
  unfold modelName
  cases b.option? "model_name" with
  | none => exact .inl ⟨_, rfl⟩
  | some v =>
    dsimp only
    split
    · exact .inr ‹_›
    · exact .inl ⟨_, rfl⟩

include hmarks

theorem lacks_modelName (suffix : String) : (b.modelName suffix).Lacks marks := by
  have hserved : (Value.text (Name.served b.title suffix)).Lacks marks :=
    Value.lacks_text (lacks_served hmarks (lacks_title hb))
  unfold modelName
  cases ho : b.option? "model_name" with
  | none => exact hserved
  | some v =>
    dsimp only
    split
    · exact lacks_option? hb ho
    · exact hserved

end Blueprint

end Groundwork
