import Groundwork.Proofs.Distinct
import Groundwork.Proofs.Intake
import Groundwork.Proofs.Text.Imports

/-!
# The grammar of field tokens

A piece between commas that has one colon with some text on both sides is a field, a blank piece is
nothing, and every other piece is refused. What is read from tokens, and what is told about them, is
what this grammar says. A constraint is told of where no field has its name.
-/

namespace Groundwork

namespace Field

variable {required unique pieces refused refused' : List String} {piece name type s : String}
  {f : Field} {fields fields' : List Field}

/-- A piece of the form `name:type`. There is one colon in it, and on both sides of the colon
something is left when the blanks around it are taken away. -/
inductive Declares : String → String → String → Prop
  | intro {left right : String} (hleft : ':' ∉ left.toList) (hright : ':' ∉ right.toList)
      (hname : ¬ Text.allBlank left) (htype : ¬ Text.allBlank right) :
      Declares (left ++ ":" ++ right) (Text.trim left) (Text.trim right)

/-- The field of a name and a type, with the constraints that are asked for. -/
def declared (required unique : List String) (name type : String) : Field :=
  { name := name
    type := type
    required := decide (name ∈ required)
    unique := decide (name ∈ unique) }

/-- Pieces with the fields that they declare and those of them that are refused. -/
inductive Reads (required unique : List String) : List String → List Field → List String → Prop
  | done : Reads required unique [] [] []
  | blank {piece : String} {pieces : List String} {fields : List Field} {refused : List String}
      (hblank : Text.allBlank piece) (rest : Reads required unique pieces fields refused) :
      Reads required unique (piece :: pieces) fields refused
  | field {piece name type : String} {pieces : List String} {fields : List Field}
      {refused : List String} (hdeclares : Declares piece name type)
      (rest : Reads required unique pieces fields refused) :
      Reads required unique (piece :: pieces) (declared required unique name type :: fields) refused
  | refused {piece : String} {pieces : List String} {fields : List Field} {refused : List String}
      (hblank : ¬ Text.allBlank piece) (hnone : ∀ name type, ¬ Declares piece name type)
      (rest : Reads required unique pieces fields refused) :
      Reads required unique (piece :: pieces) fields (piece :: refused)

theorem ofToken?_of_declares (h : Declares piece name type) :
    ofToken? piece = some { name := name, type := type } := by
  obtain ⟨hleft, hright, hname, htype⟩ := h
  rw [ofToken?, Text.pieces_append rfl, Text.pieces_of_not_mem hleft, Text.pieces_of_not_mem hright]
  simp only [List.singleton_append, hname, htype, Bool.or_self, Bool.false_eq_true, if_false]

theorem declares_of_ofToken? (h : ofToken? piece = some f) : Declares piece f.name f.type := by
  have hcut := Text.cutAt_pieces ':' piece
  unfold ofToken? at h
  split at h
  · rename_i left right hpieces
    rw [hpieces] at hcut
    split at h
    · cases h
    · rename_i hblank
      rw [Bool.or_eq_true, not_or] at hblank
      cases h
      have hpiece : left ++ ":" ++ right = piece := hcut.joined
      rw [← hpiece]
      exact .intro (hcut.no_mark left List.mem_cons_self)
        (hcut.no_mark right (.tail _ List.mem_cons_self)) hblank.1 hblank.2
  · cases h

theorem not_allBlank_of_declares (h : Declares piece name type) : ¬ Text.allBlank piece := by
  obtain ⟨-, -, hname, -⟩ := h
  intro hblank
  refine hname (List.all_eq_true.2 fun c hc => List.all_eq_true.1 hblank c ?_)
  rw [String.toList_append, String.toList_append]
  exact List.mem_append_left _ (List.mem_append_left _ hc)

theorem readPiece_of_blank (h : Text.allBlank piece) :
    readPiece required unique piece = ⟨[], []⟩ := by
  rw [readPiece, if_pos h]

theorem readPiece_of_declares (h : Declares piece name type) :
    readPiece required unique piece = ⟨[declared required unique name type], []⟩ := by
  rw [readPiece, if_neg (not_allBlank_of_declares h), readToken, ofToken?_of_declares h]
  simp [constrained, declared, List.contains_eq_mem]

theorem readPiece_of_refused (hblank : ¬ Text.allBlank piece)
    (hnone : ∀ name type, ¬ Declares piece name type) :
    readPiece required unique piece = ⟨[], [.invalidField piece]⟩ := by
  have htoken : ofToken? piece = none := by
    cases htoken : ofToken? piece with
    | none => rfl
    | some f => exact absurd (declares_of_ofToken? htoken) (hnone f.name f.type)
  rw [readPiece, if_neg hblank, readToken, htoken]

/-- What is read from pieces one by one is what the grammar says of them. -/
theorem Reads.eq (h : Reads required unique pieces fields refused) :
    fields = pieces.flatMap (fun piece => (readPiece required unique piece).fields) ∧
      refused.map .invalidField
        = pieces.flatMap fun piece => (readPiece required unique piece).notices := by
  induction h with
  | done => exact ⟨rfl, rfl⟩
  | blank hblank _ ih =>
    rw [List.flatMap_cons, List.flatMap_cons, readPiece_of_blank hblank]
    exact ih
  | field hdeclares _ ih =>
    rw [List.flatMap_cons, List.flatMap_cons, readPiece_of_declares hdeclares, ← ih.1, ← ih.2]
    exact ⟨rfl, rfl⟩
  | refused hblank hnone _ ih =>
    rw [List.flatMap_cons, List.flatMap_cons, readPiece_of_refused hblank hnone, ← ih.1, ← ih.2]
    exact ⟨rfl, rfl⟩

/-- The grammar says one thing of some pieces. -/
theorem Reads.same (h : Reads required unique pieces fields refused)
    (h' : Reads required unique pieces fields' refused') :
    fields' = fields ∧ refused' = refused := by
  refine ⟨h'.eq.1.trans h.eq.1.symm, ?_⟩
  exact List.map_injective_iff.2 (fun _ _ => Notice.invalidField.inj) (h'.eq.2.trans h.eq.2.symm)

/-- The grammar says something of all pieces. -/
theorem exists_reads (required unique pieces : List String) :
    ∃ fields refused, Reads required unique pieces fields refused := by
  induction pieces with
  | nil => exact ⟨[], [], .done⟩
  | cons piece rest ih =>
    obtain ⟨fields, refused, hrest⟩ := ih
    by_cases hblank : Text.allBlank piece
    · exact ⟨fields, refused, .blank hblank hrest⟩
    by_cases hdeclares : ∃ name type, Declares piece name type
    · obtain ⟨name, type, hdeclares⟩ := hdeclares
      exact ⟨_, refused, .field hdeclares hrest⟩
    · simp only [not_exists] at hdeclares
      exact ⟨fields, _, .refused hblank hdeclares hrest⟩

theorem fields_readTokens (tokens required unique : List String) :
    (readTokens tokens required unique).fields = (tokens.flatMap (Text.pieces ',')).flatMap
      fun piece => (readPiece required unique piece).fields := by
  rw [readTokens, List.flatMap_map]

/-- The listed names that no field has. -/
def unknownNames (required unique : List String) (fields : List Field) : List String :=
  (sortedSet (required ++ unique)).filter fun name => !fields.any (·.name == name)

theorem notices_readTokens (tokens required unique : List String) :
    (readTokens tokens required unique).notices
      = ((tokens.flatMap (Text.pieces ',')).flatMap
          fun piece => (readPiece required unique piece).notices)
        ++ (unknownNames required unique (readTokens tokens required unique).fields).map
          .unknownConstraint
        ++ (if (readTokens tokens required unique).fields.isEmpty then [.noFields] else []) := by
  rw [fields_readTokens, readTokens, unknownNames, List.flatMap_map, List.flatMap_map]

/-- What is refused and the names that no field has are warned of, and nothing else is. -/
theorem filter_warnings (refused unknown : List String) (fields : List Field) :
    (refused.map Notice.invalidField ++ unknown.map Notice.unknownConstraint
      ++ (if fields = [] then [Notice.noFields] else [])).filter (·.level = .warning)
      = refused.map .invalidField ++ unknown.map .unknownConstraint := by
  have hwarns {tell : String → Notice} (htell : ∀ s, (tell s).level = .warning) (ss : List String) :
      (ss.map tell).filter (·.level = .warning) = ss.map tell := by
    refine List.filter_eq_self.2 fun notice hnotice => ?_
    obtain ⟨s, -, rfl⟩ := List.mem_map.1 hnotice
    exact decide_eq_true (htell s)
  have hnone : (if fields = [] then [.noFields] else []).filter (·.level = .warning)
      = ([] : List Notice) := by
    split <;> rfl
  rw [List.filter_append, List.filter_append, hnone, List.append_nil, hwarns fun _ => rfl,
    hwarns fun _ => rfl]

theorem mem_unknownNames : s ∈ unknownNames required unique fields ↔
    (s ∈ required ∨ s ∈ unique) ∧ ∀ f ∈ fields, f.name ≠ s := by
  rw [unknownNames, List.mem_filter, mem_sortedSet, List.mem_append]
  simp

theorem pairwise_unknownNames (required unique : List String) (fields : List Field) :
    (unknownNames required unique fields).Pairwise (· < ·) :=
  (sortedLT_sortedSet _).pairwise.filter _

/-- A record of a name and a type that are trimmed and not empty is taken in. -/
theorem ofEntries_name_type (hname : Text.Tidy name) (htype : Text.Tidy type) :
    ofEntries [("name", .text name), ("type", .text type)]
      = .ok { name := name, type := type } := by
  rw [ofEntries, Intake.given_again Intake.rereads_nonBlank hname rfl,
    Intake.given_again Intake.rereads_nonBlank htype rfl]
  rfl

theorem tidy_of_declares (h : Declares piece name type) : Text.Tidy name ∧ Text.Tidy type := by
  obtain ⟨-, -, hname, htype⟩ := h
  exact ⟨⟨Text.trim_trim _, fun he => hname ((Text.allBlank_iff_trim _).2 he)⟩,
    Text.trim_trim _, fun he => htype ((Text.allBlank_iff_trim _).2 he)⟩

/-- Every field that is read is taken in as a record of its name and its type. -/
theorem Reads.taken (h : Reads required unique pieces fields refused) : ∀ f ∈ fields,
    ofEntries [("name", .text f.name), ("type", .text f.type)]
      = .ok { f with required := false, unique := false } := by
  induction h with
  | done => exact fun f hf => absurd hf List.not_mem_nil
  | blank _ _ ih => exact ih
  | refused _ _ _ ih => exact ih
  | field hdeclares _ ih =>
    obtain ⟨hname, htype⟩ := tidy_of_declares hdeclares
    exact List.forall_mem_cons.2 ⟨ofEntries_name_type hname htype, ih⟩

/-- Tokens are read by the grammar: cut at their commas they are pieces, of which the grammar says
what the fields are and what is refused, and it says so of nothing else. One notice tells of each
piece that is refused, in order, and then one of each listed name that no field has, by code point
and without repeats. No other notice is a warning. No field that is read is refused as a record of
its name and its type. -/
theorem readTokens_reads (tokens required unique : List String) :
    let r := readTokens tokens required unique
    ∃ (groups : List (List String)) (refused unknown : List String),
      List.Forall₂ (Text.CutAt ',') tokens groups ∧
      (∀ fields' refused', Reads required unique groups.flatten fields' refused' ↔
        fields' = r.fields ∧ refused' = refused) ∧
      unknown.Pairwise (· < ·) ∧
      (∀ name, name ∈ unknown ↔
        (name ∈ required ∨ name ∈ unique) ∧ ∀ f ∈ r.fields, f.name ≠ name) ∧
      r.notices = refused.map .invalidField ++ unknown.map .unknownConstraint
        ++ (if r.fields = [] then [.noFields] else []) ∧
      r.notices.filter (·.level = .warning)
        = refused.map .invalidField ++ unknown.map .unknownConstraint ∧
      ∀ f ∈ r.fields, ofEntries [("name", .text f.name), ("type", .text f.type)]
        = .ok { f with required := false, unique := false } := by
  intro r
  obtain ⟨fields, refused, hreads⟩ :=
    exists_reads required unique (tokens.flatMap (Text.pieces ','))
  have hfields : fields = r.fields := hreads.eq.1.trans (fields_readTokens ..).symm
  have hnotices : r.notices = refused.map .invalidField
      ++ (unknownNames required unique r.fields).map .unknownConstraint
      ++ (if r.fields = [] then [.noFields] else []) := by
    have htold := notices_readTokens tokens required unique
    rw [← hreads.eq.2] at htold
    rw [htold]
    simp only [List.isEmpty_iff]
    rfl
  subst hfields
  refine ⟨tokens.map (Text.pieces ','), refused, unknownNames required unique r.fields, ?cut, ?reads,
    pairwise_unknownNames .., fun _ => mem_unknownNames, hnotices, ?warnings, hreads.taken⟩
  case cut =>
    rw [List.forall₂_map_right_iff, List.forall₂_same]
    exact fun token _ => Text.cutAt_pieces ',' token
  case reads =>
    rw [← List.flatMap_def]
    exact fun fields' refused' => ⟨hreads.same, fun ⟨hf, hr⟩ => hf ▸ hr ▸ hreads⟩
  case warnings =>
    rw [hnotices, filter_warnings]

end Field

end Groundwork
