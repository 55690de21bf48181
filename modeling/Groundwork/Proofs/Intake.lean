import Groundwork.Intake.Record
import Groundwork.Proofs.Path
import Groundwork.Proofs.Result
import Groundwork.Proofs.Text.Lowering

/-!
# Records in their final form

Whatever form a record was given in, what is taken in has a final form: texts that have to say
something are trimmed and not empty, lengths are positive, an extension begins with a point. A record
in its final form is taken in again as it is, entry by entry, so nothing changes a second time.
-/

namespace Groundwork

/-- A text that says something, without blanks around it. -/
structure Text.Tidy (s : String) : Prop where
  trimmed : Text.trim s = s
  ne_empty : s ≠ ""

/-- A point with something after it. -/
structure Text.Extension (s : String) : Prop where
  starts : s.toList.head? = some '.'
  length : 2 ≤ s.length

namespace Intake

variable {α β : Type} {read : Value → Checked α} {write : α → Value} {P : α → Prop}
  {entries : Bindings} {key : String} {a default : α}

theorem supply_ok {record : Checked (α → β)} {part : Checked α} {b : β}
    (h : supply record part = .ok b) : ∃ f a, record = .ok f ∧ part = .ok a ∧ f a = b := by
  cases record with
  | error issues => cases part <;> cases h
  | ok f =>
    cases part with
    | error issues => cases h
    | ok a => exact ⟨f, a, rfl, rfl, Except.ok.inj h⟩

theorem within_eq_ok {step : Step} {part : Checked α} : within step part = .ok a ↔ part = .ok a := by
  cases part with
  | error issues => exact ⟨nofun, nofun⟩
  | ok b => exact Iff.rfl

/-- What is taken in has a property, and what has the property is taken in as it is from what is
written of it. -/
structure Rereads (read : Value → Checked α) (write : α → Value) (P : α → Prop) : Prop where
  holds : ∀ {v a}, read v = .ok a → P a
  again : ∀ {a}, P a → read (write a) = .ok a

theorem rereads_text : Rereads text .text fun _ => True :=
  ⟨fun _ => trivial, fun _ => rfl⟩

theorem rereads_bool : Rereads bool .bool fun _ => True :=
  ⟨fun _ => trivial, fun _ => rfl⟩

theorem rereads_nonBlank : Rereads nonBlank .text Text.Tidy where
  holds {v s} h := by
    unfold nonBlank at h
    split at h
    · split at h
      · cases h
      · cases h
        exact ⟨Text.trim_trim _, ‹_›⟩
    · cases h
  again {s} h := by
    show (if Text.trim s = "" then reject .blank else .ok (Text.trim s)) = _
    rw [h.trimmed, if_neg h.ne_empty]

theorem rereads_positive : Rereads positive .int fun n => 1 ≤ n where
  holds {v n} h := by
    unfold positive at h
    split at h
    · split at h
      · cases h
      · cases h
        omega
    · cases h
  again {n} h := by
    show (if n < 1 then reject .tooSmall else .ok n) = _
    rw [if_neg (by omega)]

theorem rereads_path : Rereads path (.text ·.text) fun _ => True :=
  ⟨fun _ => trivial, fun {p} _ => congrArg Except.ok p.ofText_text⟩

/-- A value may be missing, if `null` is written for that and for no value. -/
theorem Rereads.maybe {write? : Option α → Value} (h : Rereads read write P)
    (hnone : write? none = .null) (hsome : ∀ a, write? (some a) = write a)
    (hnull : ∀ a, write a ≠ .null) : Rereads (maybe read) write? fun o => ∀ a ∈ o, P a where
  holds {v o} hv a ha := by
    unfold Intake.maybe at hv
    split at hv
    · cases hv
      cases ha
    · cases hread : read v with
      | error issues =>
        rw [hread] at hv
        cases hv
      | ok b =>
        rw [hread] at hv
        cases hv
        cases ha
        exact h.holds hread
  again {o} ho := by
    cases o with
    | none =>
      rw [hnone]
      rfl
    | some a =>
      rw [hsome]
      unfold Intake.maybe
      split
      · exact absurd ‹_› (hnull a)
      · rw [h.again (ho a rfl)]
        rfl

theorem rereads_text? : Rereads (maybe text) .ofText? fun o => ∀ s ∈ o, True :=
  rereads_text.maybe rfl (fun _ => rfl) fun _ => nofun

theorem rereads_positive? : Rereads (maybe positive) .ofInt? fun o => ∀ n ∈ o, 1 ≤ n :=
  rereads_positive.maybe rfl (fun _ => rfl) fun _ => nofun

theorem rereads_path? : Rereads (maybe path) (fun o => .ofText? (o.map Path.text)) fun o => ∀ p ∈ o, True :=
  rereads_path.maybe rfl (fun _ => rfl) fun _ => nofun

theorem items_ok (h : Rereads read write P) {vs : List Value} {as : List α}
    (hitems : items read vs = .ok as) : ∀ a ∈ as, P a := by
  unfold items at hitems
  generalize 0 = n at hitems
  induction vs generalizing n as with
  | nil =>
    cases hitems
    exact fun a ha => nomatch ha
  | cons v rest ih =>
    obtain ⟨f, later, hfirst, hlater, rfl⟩ := supply_ok hitems
    obtain ⟨g, first, hg, hread, rfl⟩ := supply_ok hfirst
    cases hg
    exact List.forall_mem_cons.2 ⟨h.holds (within_eq_ok.1 hread), ih _ hlater⟩

theorem items_again (h : Rereads read write P) {as : List α} (hall : ∀ a ∈ as, P a) :
    items read (as.map write) = .ok as := by
  unfold items
  generalize 0 = n
  induction as generalizing n with
  | nil => rfl
  | cons a rest ih =>
    obtain ⟨ha, hrest⟩ := List.forall_mem_cons.1 hall
    rw [List.map_cons, itemsFrom, h.again ha, ih hrest]
    rfl

/-- A list is taken in item by item. -/
theorem Rereads.list {readList : Value → Checked (List α)} (h : Rereads read write P)
    (hlist : ∀ vs, readList (.list vs) = items read vs)
    (hother : ∀ v as, readList v = .ok as → ∃ vs, v = .list vs) :
    Rereads readList (fun as => .list (as.map write)) fun as => ∀ a ∈ as, P a where
  holds {v as} hv := by
    obtain ⟨vs, rfl⟩ := hother v as hv
    rw [hlist] at hv
    exact items_ok h hv
  again hall := by
    rw [hlist]
    exact items_again h hall

theorem given_ok (h : Rereads read write P) (hgiven : given read key entries = .ok a) : P a := by
  have hread := within_eq_ok.1 hgiven
  split at hread
  · exact h.holds hread
  · cases hread

theorem given_again (h : Rereads read write P) (ha : P a)
    (hfind : entries.find? key = some (write a)) : given read key entries = .ok a := by
  rw [given, hfind]
  exact within_eq_ok.2 (h.again ha)

theorem defaulted_ok (h : Rereads read write P) (hdefault : P default)
    (hgiven : defaulted read default key entries = .ok a) : P a := by
  have hread := within_eq_ok.1 hgiven
  split at hread
  · exact h.holds hread
  · cases hread
    exact hdefault

theorem defaulted_again (h : Rereads read write P) (ha : P a)
    (hfind : entries.find? key = some (write a)) : defaulted read default key entries = .ok a := by
  rw [defaulted, hfind]
  exact within_eq_ok.2 (h.again ha)

theorem rereads_names : Rereads namesOfValue (fun names => .list (names.map .text))
    fun names => ∀ s ∈ names, True := by
  refine rereads_text.list (fun _ => rfl) fun v as hv => ?_
  cases v with
  | list vs => exact ⟨vs, rfl⟩
  | _ => cases hv

theorem rereads_options : Rereads optionsOfValue .object fun _ => True :=
  ⟨fun _ => trivial, fun _ => rfl⟩

theorem rereads_artifact : Rereads Artifact.ofValue (.text ·.name) fun _ => True :=
  ⟨fun _ => trivial, fun {a} _ => by cases a <;> rfl⟩

theorem rereads_extension : Rereads extensionOfValue .text Text.Extension where
  holds {v s} h := by
    unfold extensionOfValue at h
    split at h
    · split at h
      · rename_i hboth
        obtain ⟨hstarts, hlength⟩ := (Bool.and_eq_true _ _).mp hboth
        cases h
        exact ⟨of_decide_eq_true hstarts, of_decide_eq_true hlength⟩
      · cases h
    · cases h
  again {s} h := by
    show (if s.toList.head? = some '.' && 2 ≤ s.length then .ok s else reject .badExtension) = _
    rw [if_pos ((Bool.and_eq_true _ _).mpr ⟨decide_eq_true h.starts, decide_eq_true h.length⟩)]

end Intake

open Intake

/-- A field in its final form. -/
structure Field.Proper (f : Field) : Prop where
  name : Text.Tidy f.name
  type : Text.Tidy f.type
  maxLength : ∀ n ∈ f.maxLength, 1 ≤ n

structure Blueprint.Proper (b : Blueprint) : Prop where
  fields : ∀ f ∈ b.fields, f.Proper

structure Settings.Proper (s : Settings) : Prop where
  sourceRoot : Text.Tidy s.sourceRoot
  testSourceRoot : Text.Tidy s.testSourceRoot
  fallbackPackage : Text.Tidy s.fallbackPackage
  sourceExtension : Text.Extension s.sourceExtension

namespace Field

variable {entries : Bindings} {f : Field}

theorem proper_of_ofEntries (h : ofEntries entries = .ok f) : f.Proper := by
  unfold ofEntries at h
  obtain ⟨f₉, -, h₉, -, rfl⟩ := supply_ok h
  obtain ⟨f₈, -, h₈, -, rfl⟩ := supply_ok h₉
  obtain ⟨f₇, -, h₇, -, rfl⟩ := supply_ok h₈
  obtain ⟨f₆, -, h₆, -, rfl⟩ := supply_ok h₇
  obtain ⟨f₅, -, h₅, -, rfl⟩ := supply_ok h₆
  obtain ⟨f₄, -, h₄, -, rfl⟩ := supply_ok h₅
  obtain ⟨f₃, maxLength, h₃, hlength, rfl⟩ := supply_ok h₄
  obtain ⟨f₂, -, h₂, -, rfl⟩ := supply_ok h₃
  obtain ⟨f₁, type, h₁, htype, rfl⟩ := supply_ok h₂
  obtain ⟨f₀, name, h₀, hname, rfl⟩ := supply_ok h₁
  cases h₀
  exact ⟨given_ok rereads_nonBlank hname, given_ok rereads_nonBlank htype,
    defaulted_ok rereads_positive? (fun n hn => by cases hn) hlength⟩

theorem ofEntries_entries (h : f.Proper) : ofEntries f.entries = .ok f := by
  have hbool (key : String) {b default : Bool} (hfind : f.entries.find? key = some (.bool b)) :
      defaulted Intake.bool default key f.entries = .ok b :=
    defaulted_again rereads_bool trivial hfind
  have htext (key : String) {s : Option String} (hfind : f.entries.find? key = some (.ofText? s)) :
      defaulted (maybe Intake.text) none key f.entries = .ok s :=
    defaulted_again rereads_text? (fun _ _ => trivial) hfind
  rw [ofEntries, given_again rereads_nonBlank h.name rfl, given_again rereads_nonBlank h.type rfl,
    hbool "required" rfl, defaulted_again rereads_positive? h.maxLength rfl,
    htext "min_value" rfl, htext "max_value" rfl, htext "pattern" rfl, htext "comment" rfl,
    hbool "unique" rfl, hbool "nullable" rfl]
  rfl

theorem rereads : Rereads ofValue (.object ·.entries) Proper where
  holds {v f} h := by
    cases v with
    | object entries => exact proper_of_ofEntries h
    | _ => cases h
  again h := ofEntries_entries h

theorem rereads_list : Rereads listOfValue (fun fs => .list (fs.map fun f => .object f.entries))
    fun fs => ∀ f ∈ fs, f.Proper := by
  refine rereads.list (fun _ => rfl) fun v as hv => ?_
  cases v with
  | list vs => exact ⟨vs, rfl⟩
  | _ => cases hv

end Field

namespace Blueprint

variable {entries : Bindings} {b : Blueprint}

theorem proper_of_ofEntries (h : ofEntries entries = .ok b) : b.Proper := by
  unfold ofEntries at h
  obtain ⟨f₄, -, h₄, -, rfl⟩ := supply_ok h
  obtain ⟨f₃, fields, h₃, hfields, rfl⟩ := supply_ok h₄
  obtain ⟨f₂, -, h₂, -, rfl⟩ := supply_ok h₃
  obtain ⟨f₁, -, h₁, -, rfl⟩ := supply_ok h₂
  obtain ⟨f₀, -, h₀, -, rfl⟩ := supply_ok h₁
  cases h₀
  exact ⟨defaulted_ok Field.rereads_list (fun f hf => by cases hf) hfields⟩

theorem ofEntries_entries (h : b.Proper) : ofEntries b.entries = .ok b := by
  rw [ofEntries, given_again rereads_text trivial rfl, defaulted_again rereads_text trivial rfl,
    given_again rereads_artifact trivial rfl, defaulted_again Field.rereads_list h.fields rfl,
    defaulted_again rereads_options trivial rfl]
  rfl

end Blueprint

namespace Settings

variable {entries : Bindings} {s : Settings}

theorem proper_default : ({} : Settings).Proper := by
  refine ⟨⟨?_, by decide⟩, ⟨?_, by decide⟩, ⟨?_, by decide⟩, ⟨by decide, by decide⟩⟩ <;> decide +kernel

theorem proper_of_ofEntries (h : ofEntries entries = .ok s) : s.Proper := by
  unfold ofEntries at h
  obtain ⟨f₆, -, h₆, -, rfl⟩ := supply_ok h
  obtain ⟨f₅, -, h₅, -, rfl⟩ := supply_ok h₆
  obtain ⟨f₄, -, h₄, -, rfl⟩ := supply_ok h₅
  obtain ⟨f₃, package, h₃, hpackage, rfl⟩ := supply_ok h₄
  obtain ⟨f₂, extension, h₂, hextension, rfl⟩ := supply_ok h₃
  obtain ⟨f₁, test, h₁, htest, rfl⟩ := supply_ok h₂
  obtain ⟨f₀, main, h₀, hmain, rfl⟩ := supply_ok h₁
  cases h₀
  exact ⟨defaulted_ok rereads_nonBlank proper_default.sourceRoot hmain,
    defaulted_ok rereads_nonBlank proper_default.testSourceRoot htest,
    defaulted_ok rereads_nonBlank proper_default.fallbackPackage hpackage,
    defaulted_ok rereads_extension proper_default.sourceExtension hextension⟩

theorem ofEntries_entries (h : s.Proper) : ofEntries s.entries = .ok s := by
  rw [ofEntries, defaulted_again rereads_nonBlank h.sourceRoot rfl,
    defaulted_again rereads_nonBlank h.testSourceRoot rfl,
    defaulted_again rereads_extension h.sourceExtension rfl,
    defaulted_again rereads_nonBlank h.fallbackPackage rfl,
    defaulted_again rereads_text trivial rfl,
    defaulted_again rereads_names (fun _ _ => trivial) rfl,
    defaulted_again rereads_path? (fun _ _ => trivial) rfl]
  rfl

end Settings

/-- Every record that is taken in is in its final form, and is taken in again as it is. -/
theorem records_in_final_form :
    (∀ v f, Field.ofValue v = .ok f → f.Proper ∧ Field.ofValue (.object f.entries) = .ok f) ∧
      (∀ entries b, Blueprint.ofEntries entries = .ok b →
        b.Proper ∧ Blueprint.ofEntries b.entries = .ok b) ∧
      ∀ entries s, Settings.ofEntries entries = .ok s →
        s.Proper ∧ Settings.ofEntries s.entries = .ok s := by
  refine ⟨fun v f h => ?_, fun entries b h => ?_, fun entries s h => ?_⟩
  · exact ⟨Field.rereads.holds h, Field.rereads.again (Field.rereads.holds h)⟩
  · have hproper := Blueprint.proper_of_ofEntries h
    exact ⟨hproper, Blueprint.ofEntries_entries hproper⟩
  · have hproper := Settings.proper_of_ofEntries h
    exact ⟨hproper, Settings.ofEntries_entries hproper⟩

namespace Intake

/-- A field with blanks around its name, and with its figures written out. -/
def looseField : Value :=
  .object [("name", .text " price\n"), ("type", .text "BigDecimal "), ("required", .int 1),
    ("max_length", .text " 1_0.0"), ("length", .int 3)]

def looseBlueprint : Bindings :=
  [("primary_name", .text "Product"), ("kind", .text "model"), ("fields", .list [looseField])]

def looseSettings : Bindings :=
  [("source_root", .text " src//main "), ("source_extension", .text ".kt"),
    ("template_dir", .text "tpl//./java")]

theorem loose_records_in_final_form :
    (∃ f, Field.ofValue looseField = .ok f ∧ f.Proper ∧
      Field.ofValue (.object f.entries) = .ok f) ∧
      (∃ b, Blueprint.ofEntries looseBlueprint = .ok b ∧ b.Proper ∧
        Blueprint.ofEntries b.entries = .ok b) ∧
      ∃ s, Settings.ofEntries looseSettings = .ok s ∧ s.Proper ∧
        Settings.ofEntries s.entries = .ok s := by
  obtain ⟨hfield, hblueprint, hsettings⟩ := records_in_final_form
  let price : Field := ⟨"price", "BigDecimal", true, some 10, none, none, none, none, false, true⟩
  have hprice : Field.ofValue looseField = .ok price := by rfl
  have hproduct : Blueprint.ofEntries looseBlueprint =
      .ok ⟨.model, "Product", "", [price], []⟩ := by rfl
  have hkotlin : Settings.ofEntries looseSettings =
      .ok ⟨"src//main", "src/test/java", ".kt", "com.example", "Application",
        ["model", "entity", "domain"], some (Path.ofText "tpl/java")⟩ := by rfl
  exact ⟨⟨_, hprice, hfield _ _ hprice⟩, ⟨_, hproduct, hblueprint _ _ hproduct⟩,
    ⟨_, hkotlin, hsettings _ _ hkotlin⟩⟩

end Intake

end Groundwork
