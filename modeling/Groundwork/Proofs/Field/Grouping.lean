import Groundwork.Proofs.Field.Tokens
import Groundwork.Request.Blueprint

/-!
# Fields that are written into tokens

A list of fields can be written in many ways: with blanks around names and types, with blank pieces
between them, and joined by commas into tokens of any length. All of them are read alike. The names
in the lists of constraints may be joined in groups as well.
-/

namespace Groundwork

namespace Field

variable {required unique pieces tokens tokens' : List String} {piece name type : String}
  {pairs : List (String × String)} {r r' : Reading}

/-- A text that can be the name or the type of a field as it is. -/
structure Word (s : String) : Prop where
  ne_empty : s ≠ ""
  trimmed : Text.trim s = s
  no_comma : ',' ∉ s.toList
  no_colon : ':' ∉ s.toList

instance (s : String) : Decidable (Word s) :=
  decidable_of_iff (s ≠ "" ∧ Text.trim s = s ∧ ',' ∉ s.toList ∧ ':' ∉ s.toList)
    ⟨fun ⟨h₁, h₂, h₃, h₄⟩ => ⟨h₁, h₂, h₃, h₄⟩,
      fun h => ⟨h.ne_empty, h.trimmed, h.no_comma, h.no_colon⟩⟩

/-- A piece for a name and a type, with blanks around each of them. -/
inductive Spells (name type : String) : String → Prop
  | intro {before between behind after : String} (hbefore : Text.allBlank before)
      (hbetween : Text.allBlank between) (hbehind : Text.allBlank behind)
      (hafter : Text.allBlank after) :
      Spells name type (before ++ name ++ between ++ ":" ++ (behind ++ type ++ after))

/-- Pieces for a list of names and types, in order, with blank pieces anywhere. -/
inductive Writes : List (String × String) → List String → Prop
  | done : Writes [] []
  | blank {piece : String} {pairs : List (String × String)} {pieces : List String}
      (hblank : Text.allBlank piece) (rest : Writes pairs pieces) : Writes pairs (piece :: pieces)
  | pair {name type piece : String} {pairs : List (String × String)} {pieces : List String}
      (hspells : Spells name type piece) (rest : Writes pairs pieces) :
      Writes ((name, type) :: pairs) (piece :: pieces)

theorem declares_of_spells (hname : Word name) (htype : Word type) (h : Spells name type piece) :
    Declares piece name type := by
  obtain ⟨hbefore, hbetween, hbehind, hafter⟩ := h
  have hside {before s after : String} (hs : Word s) (hbefore : Text.allBlank before)
      (hafter : Text.allBlank after) :
      ':' ∉ (before ++ s ++ after).toList ∧ ¬ Text.allBlank (before ++ s ++ after) := by
    constructor
    · rw [String.toList_append, String.toList_append, List.mem_append, List.mem_append]
      rintro ((h | h) | h)
      · exact absurd (List.all_eq_true.1 hbefore ':' h) (by decide)
      · exact hs.no_colon h
      · exact absurd (List.all_eq_true.1 hafter ':' h) (by decide)
    · rw [Text.allBlank_iff_trim, Text.trim_pad hbefore hafter, hs.trimmed]
      exact hs.ne_empty
  have hleft := hside hname hbefore hbetween
  have hright := hside htype hbehind hafter
  have hpiece := Declares.intro hleft.1 hright.1 hleft.2 hright.2
  rwa [Text.trim_pad hbefore hbetween, Text.trim_pad hbehind hafter, hname.trimmed,
    htype.trimmed] at hpiece

/-- What is written is read, and nothing of it is refused. -/
theorem Writes.reads (required unique : List String) (h : Writes pairs pieces)
    (hwords : ∀ p ∈ pairs, Word p.1 ∧ Word p.2) :
    Reads required unique pieces (pairs.map fun p => declared required unique p.1 p.2) [] := by
  induction h with
  | done => exact .done
  | blank hblank _ ih => exact .blank hblank (ih hwords)
  | pair hspells _ ih =>
    obtain ⟨⟨hname, htype⟩, hrest⟩ := List.forall_mem_cons.1 hwords
    exact .field (declares_of_spells hname htype hspells) (ih hrest)

theorem Writes.no_comma (h : Writes pairs pieces) (hwords : ∀ p ∈ pairs, Word p.1 ∧ Word p.2) :
    ∀ piece ∈ pieces, ',' ∉ piece.toList := by
  have hblank {s : String} (hs : Text.allBlank s) : ',' ∉ s.toList := fun h =>
    absurd (List.all_eq_true.1 hs ',' h) (by decide)
  induction h with
  | done => exact fun piece hpiece => absurd hpiece List.not_mem_nil
  | blank hpiece _ ih => exact List.forall_mem_cons.2 ⟨hblank hpiece, ih hwords⟩
  | pair hspells _ ih =>
    obtain ⟨⟨hname, htype⟩, hrest⟩ := List.forall_mem_cons.1 hwords
    obtain ⟨hbefore, hbetween, hbehind, hafter⟩ := hspells
    refine List.forall_mem_cons.2 ⟨?_, ih hrest⟩
    simp [hblank hbefore, hblank hbetween, hblank hbehind, hblank hafter, hname.no_comma,
      htype.no_comma]

theorem Reading.ext (hfields : r.fields = r'.fields) (hnotices : r.notices = r'.notices) :
    r = r' := by
  cases r
  cases r'
  cases hfields
  cases hnotices
  rfl

theorem readPiece_empty (required unique : List String) :
    readPiece required unique "" = ⟨[], []⟩ :=
  readPiece_of_blank rfl

/-- Only the pieces of the tokens are read, and an empty piece is as good as none. -/
theorem readTokens_congr (h : ∀ {α : Type} (f : String → List α), f "" = [] →
    (tokens.flatMap (Text.pieces ',')).flatMap f = (tokens'.flatMap (Text.pieces ',')).flatMap f) :
    readTokens tokens required unique = readTokens tokens' required unique := by
  have hfields : (readTokens tokens required unique).fields
      = (readTokens tokens' required unique).fields := by
    rw [fields_readTokens, fields_readTokens]
    exact h _ (by rw [readPiece_empty])
  refine Reading.ext hfields ?_
  rw [notices_readTokens, notices_readTokens, hfields, h _ (by rw [readPiece_empty])]

theorem readTokens_intercalate (tokens required unique : List String) :
    readTokens [",".intercalate tokens] required unique = readTokens tokens required unique :=
  readTokens_congr fun f hempty => by
    rw [List.flatMap_singleton, Text.flatMap_pieces_intercalate rfl hempty]

theorem splitNames_eq_flatMap (texts : List String) :
    splitNames texts = (texts.flatMap (Text.pieces ',')).flatMap fun piece =>
      if Text.trim piece = "" then [] else [Text.trim piece] := by
  unfold splitNames
  induction texts.flatMap (Text.pieces ',') with
  | nil => rfl
  | cons piece rest ih =>
    rw [List.flatMap_cons, List.map_cons, List.filter_cons, ih]
    by_cases hpiece : Text.trim piece = "" <;> simp [hpiece]

theorem splitNames_intercalate (texts : List String) :
    splitNames [",".intercalate texts] = splitNames texts := by
  rw [splitNames_eq_flatMap, splitNames_eq_flatMap, List.flatMap_singleton,
    Text.flatMap_pieces_intercalate rfl (by rw [if_pos (by decide)])]

/-- What is written is read back, whatever tokens its pieces are joined to. -/
theorem fields_of_writes {groups : List (List String)} (required unique : List String)
    (hwords : ∀ p ∈ pairs, Word p.1 ∧ Word p.2) (h : Writes pairs groups.flatten) :
    let r := readTokens (groups.map ",".intercalate) required unique
    r.fields = pairs.map (fun p => declared required unique p.1 p.2) ∧
      ∀ piece, .invalidField piece ∉ r.notices := by
  intro r
  obtain ⟨hfields, hrefused⟩ := (h.reads required unique hwords).eq
  have hcomma : ",".toList = [','] := rfl
  have hjoined {α : Type} {f : String → List α} (hempty : f "" = []) :=
    Text.flatMap_pieces_groups hcomma hempty (h.no_comma hwords)
  constructor
  · rw [fields_readTokens, hjoined (by rw [readPiece_empty]), hfields]
  · intro piece hin
    rw [notices_readTokens, hjoined (by rw [readPiece_empty]), ← hrefused, List.map_nil,
      List.nil_append, List.mem_append] at hin
    rcases hin with hin | hin
    · obtain ⟨name, -, he⟩ := List.mem_map.1 hin
      cases he
    · split at hin
      · cases List.mem_singleton.1 hin
      · cases hin

/-- The fields of a request are those of all its tokens in one, whichever of them came with an
option, and with all constrained names in one text for each list. -/
theorem reading_eq (r : ModelRequest) :
    r.reading = readTokens [",".intercalate (r.tokens ++ r.moreTokens)]
      (splitNames [",".intercalate r.required]) (splitNames [",".intercalate r.unique]) := by
  rw [readTokens_intercalate, splitNames_intercalate, splitNames_intercalate]
  rfl

end Field

open Field

/-- A list of fields is read back from every way to write it, with blanks around names and types,
with blank pieces and in tokens of any length, and nothing of it is refused. It makes no difference
to what is read and told whether tokens are given one by one or joined, nor whether constrained
names are, so requests that join to the same texts have the same fields and notices. -/
theorem fields_read_back_in_any_grouping :
    (∀ (pairs : List (String × String)) (groups : List (List String))
      (required unique : List String), (∀ p ∈ pairs, Word p.1 ∧ Word p.2) →
      Writes pairs groups.flatten →
      let r := readTokens (groups.map ",".intercalate) required unique
      r.fields.map (fun f => (f.name, f.type)) = pairs ∧
        r.fields = pairs.map (fun p => declared required unique p.1 p.2) ∧
        ∀ piece, .invalidField piece ∉ r.notices) ∧
    (∀ tokens required unique : List String,
      readTokens [",".intercalate tokens] required unique = readTokens tokens required unique) ∧
    (∀ texts : List String, splitNames [",".intercalate texts] = splitNames texts) ∧
    ∀ r r' : ModelRequest,
      ",".intercalate (r.tokens ++ r.moreTokens) = ",".intercalate (r'.tokens ++ r'.moreTokens) →
      ",".intercalate r.required = ",".intercalate r'.required →
      ",".intercalate r.unique = ",".intercalate r'.unique → r.reading = r'.reading := by
  refine ⟨fun pairs groups required unique hwords hwrites => ?written, readTokens_intercalate,
    splitNames_intercalate, fun r r' htokens hrequired hunique => ?requests⟩
  case written =>
    obtain ⟨hfields, hrefused⟩ := fields_of_writes required unique hwords hwrites
    refine ⟨?_, hfields, hrefused⟩
    rw [hfields, List.map_map]
    exact List.map_id pairs
  case requests =>
    rw [reading_eq, reading_eq, htokens, hrequired, hunique]

/-- Two fields in four tokens, one of which is empty, and the same text in two tokens. -/
theorem product_fields_read_back :
    let pairs := [("name", "String"), ("price", "BigDecimal")]
    let groups := [[" name :String", ""], [" "], [], ["price:\u00a0BigDecimal "]]
    let r := readTokens (groups.map ",".intercalate) ["name"] ["sku"]
    let request : ModelRequest :=
      { tokens := groups.map ",".intercalate
        required := ["name", "sku"] }
    let request' : ModelRequest :=
      { tokens := [" name :String"]
        moreTokens := [", ,,price:\u00a0BigDecimal "]
        required := ["name,sku"] }
    (∀ p ∈ pairs, Word p.1 ∧ Word p.2) ∧ Writes pairs groups.flatten ∧
      r.fields.map (fun f => (f.name, f.type)) = pairs ∧ request.reading = request'.reading := by
  intro pairs groups r request request'
  obtain ⟨hread, -, -, hreading⟩ := fields_read_back_in_any_grouping
  have hwords : ∀ p ∈ pairs, Word p.1 ∧ Word p.2 := by decide
  have hname : Spells "name" "String" (" " ++ "name" ++ " " ++ ":" ++ ("" ++ "String" ++ "")) :=
    .intro (by decide) (by decide) (by decide) (by decide)
  have hprice : Spells "price" "BigDecimal"
      ("" ++ "price" ++ "" ++ ":" ++ ("\u00a0" ++ "BigDecimal" ++ " ")) :=
    .intro (by decide) (by decide) (by decide) (by decide)
  have hwrites : Writes pairs groups.flatten :=
    .pair hname (.blank (by decide) (.blank (by decide) (.pair hprice .done)))
  exact ⟨hwords, hwrites, (hread pairs groups ["name"] ["sku"] hwords hwrites).1,
    hreading request request' (by decide) (by decide) (by decide)⟩

end Groundwork
