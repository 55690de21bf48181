import Groundwork.Proofs.Generate.Declarations
import Groundwork.Proofs.Generate.Unfailing
import Groundwork.Proofs.Request
import Groundwork.Proofs.Typed

/-!
# The members of a model

A model declares the attribute that it is identified by, and one for each of its fields; without
Lombok it declares two methods for each of these. The names are read off the lines of the source.
They differ from each other exactly where the names of the fields do, and that of the identifier is
not among them: nothing in the way from the tokens to the source sees to that.
-/

namespace Groundwork

open Template Text

namespace Text

/-- What stands after the last blank. -/
def lastWord (cs : List Char) : List Char :=
  (cs.reverse.takeWhile (· ≠ ' ')).reverse

/-- The name in the declaration of a private attribute. -/
def attributeName? (line : String) : Option String :=
  if "    private ".toList.isPrefixOf line.toList && line.toList.getLast? = some ';' then
    some (.ofList (lastWord line.toList.dropLast))
  else none

/-- The name of the method in the line that begins it, if it reads or sets something. A type stands
in front of the name of a method, and none in front of that of a constructor. -/
def accessorName? (line : String) : Option String :=
  if "    public ".toList.isPrefixOf line.toList then
    let front := (line.toList.drop "    public ".toList.length).takeWhile (· ≠ '(')
    let name := lastWord front
    if ' ' ∈ front ∧ ("get".toList <+: name ∨ "set".toList <+: name) then some (.ofList name)
    else none
  else none

/-- The names of the private attributes that a source declares. -/
def attributes (x : String) : List String :=
  (pieces '\n' x).filterMap attributeName?

/-- The names of the methods of a source that read or set something. -/
def accessors (x : String) : List String :=
  (pieces '\n' x).filterMap accessorName?

variable {w front rest : List Char}

theorem lastWord_append (h : ' ' ∉ w) (front : List Char) : lastWord (front ++ ' ' :: w) = w := by
  have hpass : ∀ c ∈ w.reverse, decide (c ≠ ' ') = true := by
    intro c hc
    rw [decide_eq_true_eq]
    rintro rfl
    exact h (List.mem_reverse.1 hc)
  have hsplit : (front ++ ' ' :: w).reverse = w.reverse ++ ' ' :: front.reverse := by simp
  rw [lastWord, hsplit, List.takeWhile_append_of_pos hpass, List.takeWhile_cons_of_neg (by simp),
    List.append_nil, List.reverse_reverse]

theorem prefix_of_attributeName? {line : String} (h : (attributeName? line).isSome) :
    "    private ".toList <+: line.toList := by
  unfold attributeName? at h
  split at h
  · rename_i hstart
    rw [Bool.and_eq_true] at hstart
    exact List.isPrefixOf_iff_prefix.1 hstart.1
  · cases h

theorem prefix_of_accessorName? {line : String} (h : (accessorName? line).isSome) :
    "    public ".toList <+: line.toList := by
  unfold accessorName? at h
  split at h
  · rename_i hstart
    exact List.isPrefixOf_iff_prefix.1 hstart
  · cases h

theorem attributeName?_of_line {line type name : String}
    (hline : line = "    private " ++ type ++ " " ++ name ++ ";") (hname : ' ' ∉ name.toList) :
    attributeName? line = some name := by
  have hchars : line.toList
      = ("    private ".toList ++ (type.toList ++ ' ' :: name.toList)) ++ [';'] := by
    rw [hline]
    simp
  have hstart : "    private ".toList.isPrefixOf line.toList = true := by
    rw [hchars, List.append_assoc, List.isPrefixOf_iff_prefix]
    exact List.prefix_append _ _
  have hlast : decide (line.toList.getLast? = some ';') = true := by
    rw [hchars, List.getLast?_concat]
    exact decide_eq_true rfl
  rw [attributeName?, hstart, hlast, if_pos (by rfl), hchars, List.dropLast_concat,
    ← List.append_assoc, lastWord_append hname, String.ofList_toList]

theorem accessorName?_of_line {line name : String} (type rest : String)
    (hline : line = "    public " ++ type ++ " " ++ name ++ "(" ++ rest)
    (hname : ' ' ∉ name.toList) (hopen : '(' ∉ type.toList ∧ '(' ∉ name.toList)
    (hkind : "get".toList <+: name.toList ∨ "set".toList <+: name.toList) :
    accessorName? line = some name := by
  have hchars : line.toList
      = "    public ".toList ++ ((type.toList ++ ' ' :: name.toList) ++ '(' :: rest.toList) := by
    rw [hline]
    simp
  have hstart : "    public ".toList.isPrefixOf line.toList = true := by
    rw [hchars, List.isPrefixOf_iff_prefix]
    exact List.prefix_append _ _
  have hpass : ∀ c ∈ type.toList ++ ' ' :: name.toList, decide (c ≠ '(') = true := by
    intro c hc
    rw [decide_eq_true_eq]
    rintro rfl
    rcases List.mem_append.1 hc with hc | hc
    · exact hopen.1 hc
    · exact hopen.2 ((List.mem_cons.1 hc).resolve_left (by decide))
  have hfront : (line.toList.drop "    public ".toList.length).takeWhile (· ≠ '(')
      = type.toList ++ ' ' :: name.toList := by
    rw [hchars, List.drop_left, List.takeWhile_append_of_pos hpass,
      List.takeWhile_cons_of_neg (by simp), List.append_nil]
  unfold accessorName?
  dsimp only
  rw [if_pos hstart, hfront, lastWord_append hname, if_pos ⟨by simp, hkind⟩, String.ofList_toList]

theorem mem_of_mem_takeWhile {p : Char → Bool} {c d : Char} (hd : p d = false)
    (h : c ∈ (front ++ d :: rest).takeWhile p) : c ∈ front := by
  induction front with
  | nil =>
    rw [List.nil_append, List.takeWhile_cons_of_neg (by simp [hd])] at h
    cases h
  | cons a more ih =>
    rw [List.cons_append, List.takeWhile_cons] at h
    split at h
    · exact (List.mem_cons.1 h).elim (· ▸ List.mem_cons_self) fun h => .tail _ (ih h)
    · cases h

/-- A constructor has a name without blanks, and no type in front of it. -/
theorem no_accessor_of_constructor {line name : String} (hname : ' ' ∉ name.toList)
    (hline : line = "    public " ++ name ++ "() \x7b") : accessorName? line = none := by
  have hchars : line.toList = "    public ".toList ++ (name.toList ++ '(' :: ") \x7b".toList) := by
    rw [hline]
    simp
  unfold accessorName?
  dsimp only
  split
  · rw [if_neg]
    rintro ⟨hblank, -⟩
    rw [hchars, List.drop_left] at hblank
    exact hname (mem_of_mem_takeWhile (by decide) hblank)
  · rfl

end Text

/-- A field whose name is one word, and whose name and type open no list of parameters. -/
structure Field.Plain (f : Field) : Prop where
  name : ' ' ∉ f.name.toList ∧ '(' ∉ f.name.toList
  type : '(' ∉ f.type.toList

instance (f : Field) : Decidable f.Plain :=
  decidable_of_iff (_ ∧ _) ⟨fun ⟨h₁, h₂⟩ => ⟨h₁, h₂⟩, fun h => ⟨h.name, h.type⟩⟩

namespace Field

variable {f : Field}

theorem attributeName?_attributeLine (hf : f.Plain) :
    attributeName? f.attributeLine = some f.name :=
  attributeName?_of_line rfl hf.name.1

/-- The name of a method for a plain field is plain. -/
theorem plain_accessor (hf : f.Plain) (kind : String)
    (hkind : ' ' ∉ kind.toList ∧ '(' ∉ kind.toList) :
    ' ' ∉ (kind ++ Name.upperFirst f.name).toList ∧
      '(' ∉ (kind ++ Name.upperFirst f.name).toList := by
  have hblank : ' ' ∉ (Name.upperFirst f.name).toList := fun h =>
    hf.name.1 (Name.mem_upperFirst (by decide) h)
  have hopen : '(' ∉ (Name.upperFirst f.name).toList := fun h =>
    hf.name.2 (Name.mem_upperFirst (by decide) h)
  rw [String.toList_append, List.mem_append, List.mem_append, not_or, not_or]
  exact ⟨⟨hkind.1, hblank⟩, hkind.2, hopen⟩

/-- The methods that read and set a field have their names. -/
theorem accessorName?_of_accessors (hf : f.Plain) :
    accessorName? f.getterLine = some f.getterName ∧
      accessorName? f.setterLine = some f.setterName := by
  have hget := plain_accessor hf "get" (by decide)
  have hset := plain_accessor hf "set" (by decide)
  constructor
  · refine accessorName?_of_line f.type ") \x7b" ?_ hget.1 ⟨hf.type, hget.2⟩
      (.inl ?_)
    · have hparts : "() \x7b" = "(" ++ ") \x7b" := by decide
      unfold getterLine
      rw [hparts]
      simp only [String.append_assoc]
    · rw [getterName, String.toList_append]
      exact List.prefix_append _ _
  · refine accessorName?_of_line "void" (f.type ++ " " ++ f.name ++ ") \x7b") ?_
      hset.1 ⟨by decide, hset.2⟩ (.inr ?_)
    · unfold setterLine
      simp only [String.append_assoc]
      rfl
    · rw [setterName, String.toList_append]
      exact List.prefix_append _ _

end Field

namespace ModelFrame

open Template.Bundled

variable {m : ModelFrame} {s : ModelSheet}

/-- The attributes of a model are its identifier and its fields. -/
theorem attributes_lines (hm : Framed s.persistence m) (hf : ∀ f ∈ s.fields, f.Plain) :
    (m.lines s).filterMap attributeName? = "id" :: s.fields.map Field.name := by
  have hid : attributeName? "    private Long id;" = some "id" := by decide
  have hfields : (s.fields.map Field.attributeLine).filterMap attributeName?
      = s.fields.map Field.name := by
    rw [List.filterMap_map, ← List.filterMap_eq_map]
    exact List.filterMap_congr fun f hfield => Field.attributeName?_attributeLine (hf f hfield)
  rw [← filterMap_beginning (w := "    private ") fun _ => prefix_of_attributeName?,
    attributes_of_framed hm, List.filterMap_cons_some hid, hfields]

/-- The methods of a model that read or set something are those of its identifier and its fields. -/
theorem accessors_lines (hm : Framed s.persistence m) (hf : ∀ f ∈ s.fields, f.Plain)
    (hclass : ' ' ∉ s.className.toList) :
    (m.lines s).filterMap accessorName? = if s.lombok then []
      else "getId" :: "setId" :: s.fields.flatMap fun f => [f.getterName, f.setterName] := by
  have hfields : (s.fields.flatMap fun f => [f.getterLine, f.setterLine]).filterMap accessorName?
      = s.fields.flatMap fun f => [f.getterName, f.setterName] := by
    rw [List.filterMap_flatMap]
    refine List.flatMap_congr fun f hfield => ?_
    obtain ⟨hget, hset⟩ := Field.accessorName?_of_accessors (hf f hfield)
    simp [hget, hset]
  have hown : (ownMethodLines s).filterMap accessorName? = ["getId", "setId"] := by
    have hget : accessorName? "    public Long getId() \x7b" = some "getId" := by decide
    have hset : accessorName? "    public void setId(Long id) \x7b" = some "setId" := by decide
    rw [ownMethodLines]
    simp only [List.filterMap_cons, List.filterMap_nil, no_accessor_of_constructor hclass rfl, hget,
      hset]
  have hobject : objectMethodLines.filterMap accessorName? = [] := by decide
  rw [← filterMap_beginning (w := "    public ") fun _ => prefix_of_accessorName?,
    methods_of_framed hm]
  split
  · rfl
  · rw [List.filterMap_append, List.filterMap_append, hown, hfields, hobject, List.append_nil]
    rfl

end ModelFrame

namespace ModelSheet

variable {b : Blueprint} {tree : Tree} {x : String}

/-- The members that are read off the source of a model. -/
theorem members_of_render (hb : ∀ t ∈ b.texts, Text.Lacks ['\n'] t) (hclass : ' ' ∉ b.title.toList)
    (hf : ∀ f ∈ b.fields, f.Plain)
    (h : Store.bundled.render tree "model.java.j2" (ofBlueprint b).bindings = .ok x) :
    attributes x = "id" :: b.fields.map Field.name ∧
      accessors x = if (ofBlueprint b).lombok then []
        else "getId" :: "setId" :: b.fields.flatMap fun f => [f.getterName, f.setterName] := by
  obtain ⟨m, hm, hlines⟩ := pieces_of_render (unbroken_ofBlueprint hb) h
  have hattribute : attributeName? "" = none := by decide
  have haccessor : accessorName? "" = none := by decide
  constructor
  · rw [attributes, hlines, List.filterMap_append, ModelFrame.attributes_lines hm hf]
    simp [hattribute, ofBlueprint]
  · rw [accessors, hlines, List.filterMap_append, ModelFrame.accessors_lines hm hf hclass]
    simp [haccessor, ofBlueprint]

end ModelSheet

/-- The names that are read and set by the methods for some attributes. -/
def accessorNames (capitalized : List String) : List String :=
  capitalized.flatMap fun name => ["get" ++ name, "set" ++ name]

theorem append_inj_of_length {kind kind' name name' : String}
    (hlength : kind.toList.length = kind'.toList.length) (h : kind ++ name = kind' ++ name') :
    kind = kind' ∧ name = name' := by
  have hchars := congrArg String.toList h
  rw [String.toList_append, String.toList_append] at hchars
  obtain ⟨hkind, hname⟩ := List.append_inj hchars hlength
  exact ⟨String.toList_inj.1 hkind, String.toList_inj.1 hname⟩

theorem mem_accessorNames (capitalized : List String) (name : String) {kind : String}
    (hkind : kind ∈ ["get", "set"]) :
    kind ++ name ∈ accessorNames capitalized ↔ name ∈ capitalized := by
  have hlength : ∀ k ∈ ["get", "set"], ∀ k' ∈ ["get", "set"],
      k.toList.length = k'.toList.length := by decide
  have hpair (other : String) : [("get" ++ other), "set" ++ other]
      = ["get", "set"].map (· ++ other) := rfl
  unfold accessorNames
  rw [List.mem_flatMap]
  constructor
  · rintro ⟨other, hother, h⟩
    rw [hpair] at h
    obtain ⟨kind', hkind', hsame⟩ := List.mem_map.1 h
    obtain ⟨-, rfl⟩ := append_inj_of_length (hlength kind' hkind' kind hkind) hsame
    exact hother
  · intro h
    exact ⟨name, h, by rw [hpair]; exact List.mem_map_of_mem hkind⟩

/-- Methods differ where the names do that they are for. -/
theorem nodup_accessorNames {capitalized : List String} :
    (accessorNames capitalized).Nodup ↔ capitalized.Nodup := by
  induction capitalized with
  | nil => exact Iff.rfl
  | cons name rest ih =>
    have hcons : accessorNames (name :: rest)
        = ("get" ++ name) :: ("set" ++ name) :: accessorNames rest := rfl
    have hget := mem_accessorNames rest name (show "get" ∈ ["get", "set"] by decide)
    have hset := mem_accessorNames rest name (show "set" ∈ ["get", "set"] by decide)
    have hapart : "get" ++ name ≠ "set" ++ name := fun h =>
      absurd (append_inj_of_length (by decide) h).1 (by decide)
    rw [hcons, List.nodup_cons, List.nodup_cons, List.nodup_cons, List.mem_cons, hget, hset, ih]
    simp [hapart]

/-- A model that is asked for declares each of its members once exactly if no field is named like
another one or like the identifier. Without Lombok the names have to differ with their first
characters in capitals, too. -/
theorem members_once_iff (r : ModelRequest) (base : String) (s : Sheet) (tree : Tree)
    (hsheet : Sheet.ofBlueprint (Request.below base (.model r)) = .ok s)
    (hlines : ∀ t ∈ (Request.below base (.model r)).texts, Text.Lacks ['\n'] t)
    (hclass : ' ' ∉ (Text.trim r.name).toList) (hfields : ∀ f ∈ r.reading.fields, f.Plain) :
    let names := r.reading.fields.map Field.name
    let capitalized := names.map Name.upperFirst
    ∃ x, Store.bundled.render tree "model.java.j2" s.bindings = .ok x ∧
      attributes x = "id" :: names ∧
      accessors x = (if r.lombok then [] else accessorNames ("Id" :: capitalized)) ∧
      ((attributes x).Nodup ↔ "id" ∉ names ∧ names.Nodup) ∧
      ((accessors x).Nodup ↔ r.lombok ∨ "Id" ∉ capitalized ∧ capitalized.Nodup) := by
  intro names capitalized
  have hmodel : s = .model (.ofBlueprint (Request.below base (.model r))) := by
    obtain ⟨-, -, h⟩ := bind_ok hsheet
    exact (Except.ok.inj h).symm
  subst hmodel
  have hmem : "model.java.j2" ∈ Artifact.model.templates := List.mem_cons_self
  obtain ⟨x, hx⟩ := Sheet.renders (s := .model (.ofBlueprint (Request.below base (.model r))))
    hmem tree
  obtain ⟨hattributes, haccessors⟩ := ModelSheet.members_of_render hlines hclass hfields hx
  have hlombok : (ModelSheet.ofBlueprint (Request.below base (.model r))).lombok = r.lombok := rfl
  have hnames : "getId" :: "setId" ::
        r.reading.fields.flatMap (fun f => [f.getterName, f.setterName])
      = accessorNames ("Id" :: capitalized) := by
    have hget : "getId" = "get" ++ "Id" := by decide
    have hset : "setId" = "set" ++ "Id" := by decide
    rw [accessorNames, List.flatMap_cons, List.flatMap_map, List.flatMap_map, hget, hset]
    rfl
  have hmethods : accessors x = if r.lombok then [] else accessorNames ("Id" :: capitalized) := by
    rw [haccessors, hlombok]
    exact congrArg (fun all => if r.lombok then [] else all) hnames
  refine ⟨x, hx, hattributes, hmethods, ?_, ?_⟩
  · rw [hattributes]
    exact List.nodup_cons
  · rw [hmethods]
    cases r.lombok with
    | true => simp
    | false =>
      rw [if_neg Bool.false_ne_true, nodup_accessorNames, List.nodup_cons]
      simp

/-- A model with two fields, given in one token, and one more. -/
def productRequest : ModelRequest where
  name := " Product"
  tokens := ["price : BigDecimal, tags:Map<String; Long>"]
  moreTokens := ["name:String"]
  lombok := false
  validation := true
  required := ["name, price"]

theorem productRequest_members :
    Sheet.ofBlueprint (Request.below "com.shop" (.model productRequest))
        = .ok (.model (.ofBlueprint (Request.below "com.shop" (.model productRequest)))) ∧
      (∀ t ∈ (Request.below "com.shop" (.model productRequest)).texts, Text.Lacks ['\n'] t) ∧
      ' ' ∉ (Text.trim productRequest.name).toList ∧
      (∀ f ∈ productRequest.reading.fields, f.Plain) ∧
      let names := productRequest.reading.fields.map Field.name
      let capitalized := names.map Name.upperFirst
      ∃ x, Store.bundled.render .empty "model.java.j2"
          (Sheet.model (.ofBlueprint (Request.below "com.shop" (.model productRequest)))).bindings
            = .ok x ∧
        attributes x = "id" :: names ∧
        accessors x
          = (if productRequest.lombok then [] else accessorNames ("Id" :: capitalized)) ∧
        ((attributes x).Nodup ↔ "id" ∉ names ∧ names.Nodup) ∧
        ((accessors x).Nodup ↔
          productRequest.lombok ∨ "Id" ∉ capitalized ∧ capitalized.Nodup) := by
  have hsheet : Sheet.ofBlueprint (Request.below "com.shop" (.model productRequest))
      = .ok (.model (.ofBlueprint (Request.below "com.shop" (.model productRequest)))) := rfl
  have hlines : ∀ t ∈ (Request.below "com.shop" (.model productRequest)).texts,
      Text.Lacks ['\n'] t := by decide +kernel
  have hclass : ' ' ∉ (Text.trim productRequest.name).toList := by decide +kernel
  have hfields : ∀ f ∈ productRequest.reading.fields, f.Plain := by decide +kernel
  exact ⟨hsheet, hlines, hclass, hfields,
    members_once_iff productRequest "com.shop" _ .empty hsheet hlines hclass hfields⟩

/-- A model with a field that is named like the identifier. -/
def identifierRequest : ModelRequest where
  name := "Product"
  tokens := ["id:Long"]
  lombok := false

theorem identifier_declared_twice :
    let b := Request.below "com.example" (.model identifierRequest)
    Sheet.ofBlueprint b = .ok (.model (.ofBlueprint b)) ∧
      ∃ x, Store.bundled.render .empty "model.java.j2" (Sheet.model (.ofBlueprint b)).bindings
          = .ok x ∧
        attributes x = ["id", "id"] ∧ accessors x = ["getId", "setId", "getId", "setId"] ∧
        ¬ (attributes x).Nodup ∧ ¬ (accessors x).Nodup := by
  have hsheet : Sheet.ofBlueprint (Request.below "com.example" (.model identifierRequest))
      = .ok (.model (.ofBlueprint (Request.below "com.example" (.model identifierRequest)))) := rfl
  intro b
  have hlines : ∀ t ∈ b.texts, Text.Lacks ['\n'] t := by decide +kernel
  have hclass : ' ' ∉ b.title.toList := by decide +kernel
  have hfields : ∀ f ∈ b.fields, f.Plain := by decide +kernel
  have hnames : b.fields.map Field.name = ["id"] := by decide +kernel
  have haccessors : (b.fields.flatMap fun f => [f.getterName, f.setterName])
      = ["getId", "setId"] := by decide +kernel
  have hmem : "model.java.j2" ∈ Artifact.model.templates := List.mem_cons_self
  obtain ⟨x, hx⟩ := Sheet.renders (s := .model (.ofBlueprint b)) hmem .empty
  obtain ⟨hattributes, hmethods⟩ := ModelSheet.members_of_render hlines hclass hfields hx
  have hlombok : (ModelSheet.ofBlueprint b).lombok = false := by decide +kernel
  rw [hnames] at hattributes
  rw [hlombok, haccessors] at hmethods
  refine ⟨hsheet, x, hx, hattributes, hmethods, ?_, ?_⟩
  · rw [hattributes]
    decide
  · rw [hmethods]
    decide

end Groundwork
