import Groundwork.Proofs.Generate.Declarations
import Groundwork.Proofs.Generate.Literals
import Groundwork.Proofs.Name.Slug

/-!
# The paths that controllers are mapped to

A controller is mapped to its base path and the collection of its model, with a slash between them.
The base path is trimmed twice: first of blanks, then of slashes. So it has one slash in front and
none behind, but blanks that stood in front of the last slashes are its end now. Unless there were
any, it is in normal form: brought to it again it stays as it is.
-/

namespace Groundwork

open Template Text

theorem Text.CaseMap.lowerChar_slash : lowerChar '/' = ['/'] := by
  decide

/-- Only a slash becomes one in lower case, since the small letters all come later. -/
theorem Text.CaseMap.slash_mem_lowerChar {c : Char} : '/' ∈ lowerChar c ↔ c = '/' := by
  constructor
  · intro h
    rcases lowerChar_cases h with ⟨r, hr, himage⟩ | ⟨-, hdotted⟩ | ⟨hself, -⟩
    · have hlater : lowerRuns.all fun r => decide ('/'.toNat < r.low) := by decide
      have hlow := (Run.low_le_of_image? himage).2.2
      exact absurd (of_decide_eq_true (List.all_eq_true.1 hlater r hr)) (Nat.not_lt.2 hlow)
    · exact absurd hdotted (by decide)
    · exact hself.symm
  · rintro rfl
    rw [lowerChar_slash]
    exact List.mem_cons_self

/-- A collection begins with a slash if its model does. -/
theorem Name.head?_collection (name : String) :
    (collection name).toList.head? = some '/' ↔ name.toList.head? = some '/' := by
  rw [collection, lowerFirst, String.toList_append, String.toList_ofList]
  cases name.toList with
  | nil => decide
  | cons c rest =>
    obtain ⟨d, later, hlower⟩ := List.exists_cons_of_ne_nil (CaseMap.lowerChar_ne_nil c)
    rw [onFirst, hlower, List.cons_append, List.cons_append, List.head?_cons, List.head?_cons,
      Option.some.injEq, Option.some.injEq]
    constructor
    · rintro rfl
      exact CaseMap.slash_mem_lowerChar.1 (hlower ▸ List.mem_cons_self)
    · rintro rfl
      rw [CaseMap.lowerChar_slash] at hlower
      exact (List.cons.inj hlower).1.symm

namespace ControllerSheet

variable {path : String}

/-- What is left of a path without the blanks around it and then without the slashes. -/
def inside (path : String) : List Char :=
  trimChars (· = '/') (trim path).toList

/-- Without the blanks around it the path has a blank right before the slashes that it ends with. -/
def Gapped (path : String) : Prop :=
  ∃ front c k, (trim path).toList = front ++ c :: List.replicate k '/' ∧ isBlank c

theorem any_slash {o : Option Char} : o.any (· = '/') ↔ o = some '/' := by
  cases o <;> simp

theorem toList_normalPath (path : String) : (normalPath path).toList
    = if inside path = [] then [] else '/' :: inside path := by
  have hempty : String.ofList (inside path) = "" ↔ inside path = [] := String.ofList_eq_empty_iff
  have hpath : normalPath path
      = if String.ofList (inside path) = "" then "" else "/" ++ String.ofList (inside path) := rfl
  rw [hpath]
  by_cases h : inside path = []
  · rw [if_pos h, if_pos (hempty.2 h)]
    rfl
  · have hslash : "/".toList = ['/'] := by decide
    rw [if_neg h, if_neg (mt hempty.1 h), String.toList_append, hslash, String.toList_ofList,
      List.singleton_append]

theorem normalPath_of_inside (h : inside path ≠ []) :
    (normalPath path).toList = '/' :: inside path := by
  rw [toList_normalPath, if_neg h]

theorem inside_of_slash {cs : List Char} (h : (trim path).toList = '/' :: cs) :
    inside path = trimChars (· = '/') cs := by
  have hfront : trimChars (· = '/') (['/'] ++ cs ++ []) = trimChars (· = '/') cs :=
    trimChars_surround (List.all_eq_true.1 (by decide)) nofun
  rwa [List.append_nil, List.singleton_append, ← h] at hfront

theorem not_slash_of_isBlank {c : Char} (h : isBlank c) : ¬ decide (c = '/') = true := by
  rw [decide_eq_true_eq]
  rintro rfl
  exact absurd h (by decide)

/-- The slashes behind a blank are all that is dropped at its side. -/
theorem gapped_iff : Gapped path ↔ (inside path).getLast?.any isBlank := by
  constructor
  · rintro ⟨front, c, k, htrim, hblank⟩
    have hbehind : trimChars (· = '/') ([] ++ (front ++ [c]) ++ List.replicate k '/')
        = trimChars (· = '/') (front ++ [c]) :=
      trimChars_surround nofun (by simp)
    rw [List.nil_append, List.append_assoc, List.singleton_append, ← htrim,
      trimChars_concat (not_slash_of_isBlank hblank)] at hbehind
    rw [inside, hbehind, List.getLast?_concat]
    exact hblank
  · intro h
    obtain ⟨c, hlast, hblank⟩ := (Option.any_eq_true _ _).1 h
    obtain ⟨front, hinside⟩ := List.getLast?_eq_some_iff.1 hlast
    obtain ⟨slashes, back, htrim, -, hback⟩ := trimChars_split (· = '/') (trim path).toList
    have hback : back = List.replicate back.length '/' :=
      List.eq_replicate_of_mem fun c hc => of_decide_eq_true (hback c hc)
    change (trim path).toList = slashes ++ inside path ++ back at htrim
    refine ⟨slashes ++ front, c, back.length, ?_, hblank⟩
    rw [htrim, hinside, ← hback]
    simp

instance (path : String) : Decidable (Gapped path) :=
  decidable_of_iff _ gapped_iff.symm

/-- A path in normal form that has no blank at its end is brought to itself. -/
theorem normalPath_of_trimmed {path : String} {cs : List Char} (hpath : path.toList = '/' :: cs)
    (hne : cs ≠ []) (hhead : cs.head? ≠ some '/') (hlast : cs.getLast? ≠ some '/')
    (hblank : ¬ cs.getLast?.any isBlank) : normalPath path = path := by
  have htrim : trim path = path := by
    rw [trim_eq_self_iff, hpath]
    constructor
    · show ¬ isBlank '/' = true
      decide
    · rwa [List.getLast?_cons_of_ne_nil hne]
  have hinside : inside path = cs := by
    rw [inside_of_slash (htrim.symm ▸ hpath), trimChars_of_ends (any_slash.not.2 hhead)
      (any_slash.not.2 hlast)]
  rw [← String.toList_inj, normalPath_of_inside (hinside ▸ hne), hinside, hpath]

/-- A path that is brought to itself has no blank at its end. -/
theorem trimmed_of_normalPath {path : String} {cs : List Char} (hpath : path.toList = '/' :: cs)
    (h : normalPath path = path) : ¬ cs.getLast?.any isBlank := by
  have hblank : ¬ isBlank '/' := by decide
  have htrim : (trim path).toList = '/' :: (cs.reverse.dropWhile isBlank).reverse := by
    rw [trim, trimBy, String.toList_ofList, hpath, trimChars_cons hblank]
  have hsame : inside path = cs := by
    have hlist := congrArg String.toList h
    rw [toList_normalPath, hpath] at hlist
    split at hlist
    · cases hlist
    · exact (List.cons.inj hlist).2
  -- no more than the slash in front was dropped, so there was no blank to drop before
  have hlength : cs.length ≤ (cs.reverse.dropWhile isBlank).length := by
    have hle := length_trimChars_le (· = '/') (cs.reverse.dropWhile isBlank).reverse
    rwa [← inside_of_slash htrim, hsame, List.length_reverse] at hle
  have hkept : cs.reverse.dropWhile isBlank = cs.reverse := by
    refine (List.dropWhile_suffix isBlank).eq_of_length_le ?_
    rwa [List.length_reverse]
  have hhead := head?_dropWhile isBlank cs.reverse
  rwa [hkept, List.head?_reverse] at hhead

/-- A path in normal form is empty, or a slash and something that has no slash at its ends. -/
theorem normalPath_cases (path : String) : (normalPath path = "" ∧ ¬ Gapped path) ∨
    ∃ cs, (normalPath path).toList = '/' :: cs ∧ cs ≠ [] ∧ cs.head? ≠ some '/' ∧
      cs.getLast? ≠ some '/' ∧ (Gapped path ↔ cs.getLast?.any isBlank) := by
  by_cases h : inside path = []
  · refine .inl ⟨?_, ?_⟩
    · rw [← String.toList_eq_nil_iff, toList_normalPath, if_pos h]
    · rw [gapped_iff, h]
      exact Bool.false_ne_true
  · exact .inr ⟨inside path, normalPath_of_inside h, h, any_slash.not.1 (head?_trimChars _ _),
      any_slash.not.1 (getLast?_trimChars _ _), gapped_iff⟩

/-- Bringing a path to normal form twice is the same as once, unless it is gapped. -/
theorem normalPath_normalPath_iff (path : String) :
    normalPath (normalPath path) = normalPath path ↔ ¬ Gapped path := by
  rcases normalPath_cases path with ⟨hempty, hgapped⟩ | ⟨cs, hpath, hne, hhead, hlast, hgapped⟩
  · rw [hempty]
    exact iff_of_true (by decide) hgapped
  · rw [hgapped]
    exact ⟨trimmed_of_normalPath hpath, normalPath_of_trimmed hpath hne hhead hlast⟩

/-- The base path of a controller is that of its blueprint, in normal form. -/
theorem basePath_of_ok {b : Blueprint} {s : ControllerSheet} (h : ofBlueprint b = .ok s) :
    ∃ path, b.option "base_path" (.text usualBasePath) = .text path ∧
      s.basePath = normalPath path := by
  obtain ⟨service, -, h⟩ := bind_ok h
  obtain ⟨basePath, hpath, h⟩ := bind_ok h
  cases h
  cases hoption : b.option "base_path" (.text usualBasePath) with
  | text path =>
    rw [hoption] at hpath
    change Except.ok (normalPath path) = Except.ok basePath at hpath
    exact ⟨path, rfl, (Except.ok.inj hpath).symm⟩
  | _ =>
    rw [hoption] at hpath
    cases hpath

/-- What a controller is mapped to. -/
def mappedPath (s : ControllerSheet) : String :=
  s.basePath ++ "/" ++ Name.collection s.model

/-- A controller is printed with one line that maps it. -/
theorem mapping_of_render {s : ControllerSheet} {tree : Tree} {x : String}
    (h : Store.bundled.render tree "controller.java.j2" s.bindings = .ok x) :
    ∃ lines, x.toList = linesText lines ∧
      beginning "@RequestMapping(" lines = ["@RequestMapping(\x22" ++ s.mappedPath ++ "\x22)"] := by
  obtain ⟨sp, hall⟩ := Bundled.controller_mapped
  obtain ⟨ls, hsettled, hls⟩ := (Option.any_eq_true _ _).1 (hall s.crud s.swagger s.validation)
  obtain ⟨-, hbegun⟩ := of_decide_eq_true hls
  obtain ⟨inks, hprint, rfl⟩ := Bundled.print_of_render rfl h
  refine ⟨ls.map (Shape.line s.bindings), ?_, ?_⟩
  · rw [Ink.text, String.toList_ofList]
    exact Yields.of_settledLines s.knows_choices hsettled inks hprint
  · have hbase : s.bindings.written "base_path" = s.basePath := rfl
    have hresource : s.bindings.written "resource_path" = Name.collection s.model := rfl
    rw [beginning, Shape.filter_begins hbegun.begun, hbegun.picked, List.map_singleton,
      List.cons.injEq]
    refine ⟨?_, rfl⟩
    rw [← String.toList_inj]
    simp [Bundled.mappingShape, Shape.line, hbase, hresource, mappedPath]

/-- A mapped path begins with one slash, and the join has no other, unless the model begins with
one. -/
theorem slashes_of_mappedPath {s : ControllerSheet} (hpath : s.basePath = normalPath path) :
    s.mappedPath.toList.head? = some '/' ∧ s.basePath.toList.getLast? ≠ some '/' ∧
      (s.model.toList.head? ≠ some '/' → s.mappedPath.toList[1]? ≠ some '/') := by
  have hmapped : s.mappedPath.toList
      = s.basePath.toList ++ '/' :: (Name.collection s.model).toList := by
    simp [mappedPath]
  rw [hmapped, hpath]
  rcases normalPath_cases path with ⟨hempty, -⟩ | ⟨cs, hbase, hne, hhead, hlast, -⟩
  · rw [hempty]
    refine ⟨rfl, nofun, fun hmodel => ?_⟩
    have hcollection := (Name.head?_collection s.model).not.2 hmodel
    rwa [List.head?_eq_getElem?] at hcollection
  · obtain ⟨c, rest, rfl⟩ := List.exists_cons_of_ne_nil hne
    rw [hbase]
    refine ⟨rfl, ?_, fun _ => hhead⟩
    rwa [List.getLast?_cons_cons]

end ControllerSheet

open ControllerSheet

/-- Every base path is brought to a form that is empty or begins with one slash, and has no slash
behind and no blank in front. It has a blank at its end, and is brought to another form a second
time, exactly if a blank stood in front of its last slashes. Every controller is printed with one
mapping, to its base path and the collection of its model with one slash between them. -/
theorem base_paths_normal (path : String) :
    let base := normalPath path
    ((base = "" ∨ base.toList.head? = some '/' ∧ base.toList[1]? ≠ some '/') ∧
      base.toList.getLast? ≠ some '/' ∧ ¬ base.toList.head?.any isBlank ∧
      (base.toList.getLast?.any isBlank ↔ Gapped path) ∧
      (normalPath base = base ↔ ¬ Gapped path)) ∧
    ∀ (b : Blueprint) (s : ControllerSheet), Sheet.ofBlueprint b = .ok (.controller s) →
      (∃ given, b.option "base_path" (.text usualBasePath) = .text given ∧
        s.basePath = normalPath given) ∧
      s.mappedPath.toList.head? = some '/' ∧ s.basePath.toList.getLast? ≠ some '/' ∧
      (s.model.toList.head? ≠ some '/' →
        s.mappedPath.toList[1]? ≠ some '/' ∧
          (Name.collection s.model).toList.head? ≠ some '/') ∧
      ∀ tree, ∃ x lines, Store.bundled.render tree "controller.java.j2" s.bindings = .ok x ∧
        x.toList = linesText lines ∧
        beginning "@RequestMapping(" lines
          = ["@RequestMapping(\x22" ++ s.mappedPath ++ "\x22)"] := by
  dsimp only
  refine ⟨?_, fun b s hs => ?_⟩
  · have hagain := normalPath_normalPath_iff path
    rcases normalPath_cases path with ⟨hempty, hgapped⟩ | ⟨cs, hbase, hne, hhead, hlast, hgapped⟩
    · rw [hempty] at hagain ⊢
      exact ⟨.inl rfl, nofun, nofun, iff_of_false nofun hgapped, hagain⟩
    · rw [hbase, List.getLast?_cons_of_ne_nil hne]
      refine ⟨.inr ⟨rfl, ?_⟩, hlast, ?_, hgapped.symm, hagain⟩
      · rwa [List.head?_eq_getElem?] at hhead
      · show ¬ isBlank '/' = true
        decide
  · cases Sheet.from_of_ok hs with
    | controller hfrom =>
    obtain ⟨given, hoption, hgiven⟩ := basePath_of_ok hfrom
    obtain ⟨hstart, hend, hsecond⟩ := slashes_of_mappedPath hgiven
    refine ⟨⟨given, hoption, hgiven⟩, hstart, hend,
      fun hmodel => ⟨hsecond hmodel, (Name.head?_collection s.model).not.2 hmodel⟩, fun tree => ?_⟩
    have hmem : "controller.java.j2" ∈ Artifact.controller.templates := List.mem_cons_self
    obtain ⟨x, hx⟩ := Sheet.renders (s := .controller s) hmem tree
    obtain ⟨lines, htext, hmapping⟩ := mapping_of_render hx
    exact ⟨x, lines, hx, htext, hmapping⟩

/-- A controller of orders, below a path with slashes and blanks around it. -/
theorem base_paths_normal_orders :
    let b : Blueprint :=
      { kind := .controller, name := "OrderController", package := "com.shop",
        options := [("base_path", .text " //api/v 2/ ")] }
    ∃ s, Sheet.ofBlueprint b = .ok (.controller s) ∧ s.mappedPath = "/api/v 2/orders" ∧
      ¬ Gapped " //api/v 2/ " ∧ normalPath s.basePath = s.basePath := by
  intro b
  have hnormal : normalPath " //api/v 2/ " = "/api/v 2" := by decide
  have hmapped : "/api/v 2" ++ "/" ++ Name.collection (b.modelName "Controller").written
      = "/api/v 2/orders" := by decide
  have hagain : normalPath "/api/v 2" = "/api/v 2" := by decide
  obtain ⟨hnormalized, hcontrollers⟩ := base_paths_normal " //api/v 2/ "
  obtain ⟨s, hs⟩ : ∃ s, Sheet.ofBlueprint b = .ok (.controller s) := by
    obtain ⟨sheet, hsheet⟩ := exists_of_isOk (x := Sheet.ofBlueprint b) (by decide)
    have hkind := Sheet.kind_of_ofBlueprint hsheet
    cases sheet with
    | controller s => exact ⟨s, hsheet⟩
    | _ => cases hkind
  obtain ⟨⟨path, hoption, hpath⟩, -⟩ := hcontrollers b s hs
  obtain rfl : " //api/v 2/ " = path := Value.text.inj hoption
  have hbase := hpath.trans hnormal
  have hmodel : s.model = (b.modelName "Controller").written := by
    cases Sheet.from_of_ok hs with
    | controller hfrom => exact (eq_of_ok hfrom).2.2.1
  refine ⟨s, hs, ?_, hnormalized.2.2.2.2.1 ?_, ?_⟩
  · rw [mappedPath, hbase, hmodel, hmapped]
  · rw [hnormal, hagain]
  · rw [hbase, hagain]

/-- A path with a blank between slashes at its end. -/
theorem blank_between_slashes_kept :
    normalPath "/api /" = "/api " ∧ isBlank ' ' ∧ normalPath (normalPath "/api /") = "/api" ∧
      Gapped "/api /" := by
  decide

end Groundwork
