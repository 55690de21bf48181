import Groundwork.Proofs.Generate.AtRest
import Groundwork.Proofs.Text.Standing

/-!
# The look-ups that a user repository declares

The security classes call two look-ups by user name, and the patches are there to see that the user
repository declares them. A look-up is left out where its name occurs in the repository at all, also
as a part of another name, in a comment or as the name of the entity. So the repository declares
both in the end exactly if no such occurrence stood in the way of one that was not declared.
-/

namespace Groundwork

/-- Of a patch that was made or was there already. -/
theorem Patch.patched_iff {p : Patch} {x : String}
    (h : p.statusOn (some (some x)) = .patched ∨ p.statusOn (some (some x)) = .alreadyPresent) :
    p.statusOn (some (some x)) = .patched ↔ ¬ p.isPresent x := by
  constructor
  · intro hs hpresent
    rw [statusOn, if_pos hpresent] at hs
    cases hs
  · intro hpresent
    rcases h with h | h
    · exact h
    · rw [statusOn, if_neg hpresent] at h
      split at h <;> cases h

namespace Generate

open Run Text

variable {part : Char → Bool} {entity x w : String}

theorem findPatch_isPresent (entity x : String) :
    (findPatch entity).isPresent x = occursIn "findByUsername" x :=
  rfl

theorem existsPatch_isPresent (x : String) :
    existsPatch.isPresent x = occursIn "existsByUsername" x :=
  rfl

theorem importPatch_isPresent (x : String) : importPatch.isPresent x = hasOptionalImport x :=
  rfl

/-- The names of the look-ups, by themselves and as they are declared. -/
def lookupWords : List String :=
  ["findByUsername", "existsByUsername", "findByUsername(", "existsByUsername("]

/-- What keeps the words out of the borders of the insertions. -/
theorem plain_lookupWord : ∀ w ∈ lookupWords, w.toList ≠ [] ∧
    (∀ c ∈ ['\n', ' ', '<', '>', '}'], c ∉ w.toList) ∧ Foreign w.toList "import ".toList ∧
    ¬ w.toList <:+: importPatch.insertion.toList ∧
    ¬ w.toList <:+: firstImportPatch.insertion.toList := by
  have hwords : ∀ w ∈ lookupWords, w.toList ≠ [] ∧
      (['\n', ' ', '<', '>', '}'].all fun c => !w.toList.contains c) ∧
      Foreign w.toList "import ".toList := by
    decide +kernel
  have hbrought : ∀ w ∈ lookupWords, occursIn w importPatch.insertion = false ∧
      occursIn w firstImportPatch.insertion = false := by
    decide +kernel
  intro w hw
  obtain ⟨hne, hno, hforeign⟩ := hwords w hw
  obtain ⟨himport, hfirst⟩ := hbrought w hw
  have hborders : ∀ c ∈ ['\n', ' ', '<', '>', '}'], c ∉ w.toList := by
    intro c hc hmem
    have hnone := List.all_eq_true.1 hno c hc
    rw [List.contains_iff_mem.2 hmem] at hnone
    cases hnone
  exact ⟨hne, hborders, hforeign, mt occursIn_iff.2 (Bool.eq_false_iff.1 himport),
    mt occursIn_iff.2 (Bool.eq_false_iff.1 hfirst)⟩

theorem methodPatch_apart (hw : w ∈ lookupWords) {method insertion : String} {c : Char}
    (hc : c ∈ ['\n', ' ']) {rest : List Char} (hstart : insertion.toList = c :: rest) :
    (methodPatch method insertion).Apart w.toList := by
  obtain ⟨hne, hno, -⟩ := plain_lookupWord w hw
  have hmem : c ∈ ['\n', ' ', '<', '>', '}'] := List.mem_append_left ['<', '>', '}'] hc
  have hbrace : (methodPatch method insertion).anchor.toList = ['}'] :=
    show "\x7d".toList = ['}'] by decide
  refine ⟨hne, ⟨[c], ?_, foreign_of_not_mem (hno c hmem) []⟩, ?_⟩
  · show [c] <+: insertion.toList
    rw [hstart]
    exact List.cons_prefix_cons.2 ⟨rfl, List.nil_prefix⟩
  · show Foreign w.toList (methodPatch method insertion).anchor.toList
    rw [hbrace]
    exact foreign_of_not_mem (hno '}' (by decide)) []

theorem findPatch_apart (hw : w ∈ lookupWords) (entity : String) :
    (findPatch entity).Apart w.toList := by
  have hstart : ("\n    // JWT authentication lookups\n"
      ++ "    Optional<" ++ entity ++ "> findByUsername(String username);\n").toList
        = '\n' :: ("    // JWT authentication lookups\n"
          ++ ("    Optional<" ++ entity ++ "> findByUsername(String username);\n")).toList := by
    simp
  exact methodPatch_apart hw (by decide) hstart

theorem existsPatch_apart (hw : w ∈ lookupWords) : existsPatch.Apart w.toList := by
  have hstart : "    Boolean existsByUsername(String username);\n".toList
      = ' ' :: "   Boolean existsByUsername(String username);\n".toList := by
    decide
  exact methodPatch_apart hw (by decide) hstart

theorem importPatch_apart (hw : w ∈ lookupWords) : importPatch.Apart w.toList := by
  obtain ⟨hne, -, himport, -⟩ := plain_lookupWord w hw
  exact ⟨hne, ⟨_, by decide, himport⟩, himport⟩

theorem firstImportPatch_apart (hw : w ∈ lookupWords) : firstImportPatch.Apart w.toList := by
  obtain ⟨hne, hno, -⟩ := plain_lookupWord w hw
  have hend : '\n' ∉ w.toList := hno _ (by decide)
  exact ⟨hne, ⟨['\n'], by decide, foreign_of_not_mem hend _⟩, hend,
    ("\n" ++ optionalImport).toList, by decide⟩

/-- The import for optional values brings none of the words. -/
theorem stands_afterImports (hw : w ∈ lookupWords) (hend : part '\n' = false)
    (hx : '\r' ∉ x.toList) :
    Stands part w.toList (afterImports x).toList ↔ Stands part w.toList x.toList := by
  obtain ⟨-, -, -, himport, hfirst⟩ := plain_lookupWord w hw
  have hafter : Stands part w.toList (importPatch.after x).toList ↔ Stands part w.toList x.toList := by
    rw [Patch.stands_after (importPatch_apart hw) hend hx (by decide)]
    exact or_iff_left fun h => himport h.2.occurs
  unfold afterImports
  split
  · rw [Patch.stands_after (firstImportPatch_apart hw) hend
      (Patch.no_return_after importPatch hx) (by decide), hafter]
    exact or_iff_left fun h => hfirst h.2.occurs
  · exact hafter

/-- What the first look-up brings of the words, apart from the name of the entity. -/
theorem infix_findPatch (hw : w ∈ ["existsByUsername", "existsByUsername("]) :
    w.toList <:+: (findPatch entity).insertion.toList ↔ w.toList <:+: entity.toList := by
  have hplain : ∀ w ∈ ["existsByUsername", "existsByUsername("], '<' ∉ w.toList ∧ '>' ∉ w.toList ∧
      ¬ w.toList <:+: "\n    // JWT authentication lookups\n    Optional<".toList ∧
      ¬ w.toList <:+: "> findByUsername(String username);\n".toList := by
    intro w hw
    simp only [List.mem_cons, List.not_mem_nil, or_false] at hw
    rcases hw with rfl | rfl <;>
    · repeat rw [String.toList_ofList]
      decide
  obtain ⟨hless, hmore, hfront, hback⟩ := hplain w hw
  have hsplit : (findPatch entity).insertion.toList
      = "\n    // JWT authentication lookups\n    Optional".toList ++ ['<']
        ++ (entity.toList ++ "> findByUsername(String username);\n".toList) := by
    simp [findPatch, methodPatch]
  have hopen : "\n    // JWT authentication lookups\n    Optional".toList ++ ['<']
      = "\n    // JWT authentication lookups\n    Optional<".toList := by
    decide
  have hclose : Foreign w.toList "> findByUsername(String username);\n".toList :=
    foreign_of_not_mem hmore _
  rw [hsplit, infix_append_iff (uncut_of_not_mem hless _ _),
    infix_append_iff (hclose.clear.uncut List.prefix_rfl _), hopen]
  constructor
  · rintro (h | h | h)
    · exact absurd h hfront
    · exact h
    · exact absurd h hback
  · exact fun h => .inr (.inl h)

theorem not_infix_existsPatch : ¬ "findByUsername(".toList <:+: existsPatch.insertion.toList := by
  show ¬ "findByUsername(".toList <:+:
    "    Boolean existsByUsername(String username);\n".toList
  rw [String.toList_ofList, String.toList_ofList]
  decide

/-- What the two look-ups leave of a repository: a look-up is declared in the end if it was declared
before, or if nothing in the text looked like it when its turn came. -/
theorem declares_lookups (hpart : Name.Alphabet part) (hentity : ∀ c ∈ entity.toList, part c)
    (hx : '\r' ∉ x.toList)
    (hfind : (findPatch entity).statusOn (some (some x)) = .patched ∨
      (findPatch entity).statusOn (some (some x)) = .alreadyPresent)
    (hexists : existsPatch.statusOn (some (some ((findPatch entity).after x))) = .patched ∨
      existsPatch.statusOn (some (some ((findPatch entity).after x))) = .alreadyPresent) :
    let z := afterImports (existsPatch.after ((findPatch entity).after x))
    (Declares part "findByUsername" z ↔
      Declares part "findByUsername" x ∨ ¬ occursIn "findByUsername" x) ∧
    (Declares part "existsByUsername" z ↔ Declares part "existsByUsername" x ∨
      ¬ occursIn "existsByUsername" x ∧
        (occursIn "findByUsername" x ∨ ¬ occursIn "existsByUsername" entity)) := by
  intro z
  have hline : part '\n' = false := hpart.no_end '\n' (by decide)
  have hspace : part ' ' = false := hpart.ascii ' ' (by decide) (by decide)
  have hparen : '(' ∉ entity.toList := by
    intro h
    have hyes := hentity '(' h
    rw [hpart.ascii '(' (by decide) (by decide)] at hyes
    exact absurd hyes (by decide)
  have hreturn : '\r' ∉ (findPatch entity).insertion.toList := by
    have hno : '\r' ∉ entity.toList := by
      intro h
      have hyes := hentity '\r' h
      rw [hpart.no_end '\r' (by decide)] at hyes
      exact absurd hyes (by decide)
    simp [findPatch, methodPatch, hno]
  have hy := Patch.no_return_after (findPatch entity) hx
  have hz := Patch.no_return_after existsPatch hy
  have hfound : (findPatch entity).statusOn (some (some x)) = .patched ↔
      ¬ occursIn "findByUsername" x := by
    rw [Patch.patched_iff hfind, findPatch_isPresent]
  have hmade : existsPatch.statusOn (some (some ((findPatch entity).after x))) = .patched ↔
      ¬ occursIn "existsByUsername" ((findPatch entity).after x) := by
    rw [Patch.patched_iff hexists, existsPatch_isPresent]
  constructor
  · -- the first look-up is there once its patch was made, and the others leave it alone
    have hbrings : Stands part "findByUsername(".toList (findPatch entity).insertion.toList := by
      refine ⟨("\n    // JWT authentication lookups\n    Optional<" ++ entity ++ ">").toList
        ++ [' '], "String username);\n".toList, ?_, ?_⟩
      · simp [findPatch, methodPatch]
      · intro c hc
        rw [List.getLast?_concat, Option.mem_some_iff] at hc
        exact hc ▸ hspace
    have hnone : ¬ Stands part "findByUsername(".toList existsPatch.insertion.toList :=
      fun h => not_infix_existsPatch h.occurs
    show Stands part "findByUsername(".toList z.toList ↔ Stands part "findByUsername(".toList x.toList ∨ _
    rw [stands_afterImports (by decide) hline hz,
      Patch.stands_after (existsPatch_apart (by decide)) hline hy (by decide),
      Patch.stands_after (findPatch_apart (by decide) entity) hline hx hreturn, hfound]
    simp only [hbrings, hnone, and_true, and_false, or_false]
  · have hbrings : Stands part "existsByUsername(".toList existsPatch.insertion.toList :=
      ⟨"    Boolean".toList ++ [' '], "String username);\n".toList, by decide, fun c hc => by
        rw [List.getLast?_concat, Option.mem_some_iff] at hc
        exact hc ▸ hspace⟩
    have hnone : ¬ Stands part "existsByUsername(".toList (findPatch entity).insertion.toList := by
      intro h
      have hin := (infix_findPatch (by decide)).1 h.occurs
      exact hparen (hin.subset (by decide))
    have hoccurs : occursIn "existsByUsername" ((findPatch entity).after x) ↔
        occursIn "existsByUsername" x ∨
          ¬ occursIn "findByUsername" x ∧ occursIn "existsByUsername" entity := by
      rw [occursIn_iff, occursIn_iff, ← stands_of_none, ← stands_of_none,
        Patch.stands_after (findPatch_apart (by decide) entity) rfl hx hreturn, hfound,
        stands_of_none, stands_of_none, infix_findPatch (by decide), ← occursIn_iff, ← occursIn_iff]
    show Stands part "existsByUsername(".toList z.toList ↔
      Stands part "existsByUsername(".toList x.toList ∨ _
    rw [stands_afterImports (by decide) hline hz,
      Patch.stands_after (existsPatch_apart (by decide)) hline hy (by decide),
      Patch.stands_after (findPatch_apart (by decide) entity) hline hx hreturn, hmade, hoccurs]
    simp only [hbrings, hnone, and_true, and_false, or_false]
    by_cases hmentions : occursIn "findByUsername" x
    · simp [hmentions]
    · simp [hmentions]

/-- The look-ups by user name, after all patches were made or were there already. The repository
declares both exactly if each of them was declared before or is new, that is, if nothing looked like
it when its turn came: neither the text of the repository nor the name of the entity. -/
theorem lookups_declared_iff (part : Char → Bool) (hpart : Name.Alphabet part) (project : Project)
    (package repository entity : String) (hentity : ∀ c ∈ entity.toList, part c)
    (site site' : Site) (rs : List Patched)
    (hrun : on site (addRepositoryMethods project package repository entity) = (.ok rs, site'))
    (hdone : ∀ r ∈ rs, r.status = .patched ∨ r.status = .alreadyPresent) :
    let path := project.sourcePath package repository
    ∃ x z, fileText? site.tree path = .ok (some (some x)) ∧
      fileText? site'.tree path = .ok (some (some z)) ∧
      (Declares part "findByUsername" z ∧ Declares part "existsByUsername" z ↔
        (Declares part "findByUsername" x ∨ ¬ occursIn "findByUsername" x) ∧
        (Declares part "existsByUsername" x ∨ ¬ occursIn "existsByUsername" x ∧
          (occursIn "findByUsername" x ∨ ¬ occursIn "existsByUsername" entity))) := by
  intro path
  have hwhole := hrun
  obtain ⟨find, mid, hfirst, hrest⟩ := on_bind_ok.1 hrun
  obtain ⟨found, hfound, rfl, -⟩ := patchFile_text hfirst
  rcases found with _ | _ | x
  · -- without a file the first look-up reports so, and nothing else is reported
    cases hrest
    rcases hdone _ List.mem_cons_self with h | h <;> cases h
  · cases hrest
    rcases hdone _ List.mem_cons_self with h | h <;> cases h
  · obtain ⟨site'', hon, htext⟩ := on_addRepositoryMethods hfound entity
    rw [hwhole] at hon
    cases hon
    refine ⟨x, _, hfound, htext, ?_⟩
    obtain ⟨hfind, hexists⟩ := declares_lookups hpart hentity (no_return_of_fileText? hfound)
      (hdone _ List.mem_cons_self) (hdone _ (List.mem_cons_of_mem _ List.mem_cons_self))
    rw [hfind, hexists]

/-- A repository of users that looks one up whatever the case of the name. -/
def ignoringCase : String :=
  "package com.shop;\n\nimport java.util.Optional;\n\npublic interface UserRepository \x7b\n"
    ++ "    Optional<User> findByUsernameIgnoreCase(String name);\n\x7d\n"

/-- The place of the repository of users, in the project at hand. -/
def usersPath : Path := Project.sourcePath ⟨.here, {}⟩ "com.shop" "UserRepository"

/-- A project that has nothing but this repository. -/
def ignoringCaseSite : Site :=
  (on ⟨.empty, []⟩ (writeFile usersPath ignoringCase)).2

theorem ignoringCase_toList : ignoringCase.toList =
    "package com.shop;\n\nimport java.util.Optional;\n\npublic interface UserRepository \x7b\n".toList
      ++ "    Optional<User> findByUsernameIgnoreCase(String name);\n\x7d\n".toList :=
  String.toList_append

theorem ignoringCase_read :
    fileText? ignoringCaseSite.tree usersPath = .ok (some (some ignoringCase)) := by
  have hreturn : '\r' ∉ ignoringCase.toList := by
    rw [ignoringCase_toList, String.toList_ofList, String.toList_ofList]
    decide
  exact read_of_created (by decide +kernel) hreturn

theorem ignoringCase_mentions : occursIn "findByUsername" ignoringCase ∧
    ¬ occursIn "existsByUsername" ignoringCase ∧ occursIn optionalImport ignoringCase ∧
    ¬ occursIn "findByUsername(" ignoringCase := by
  rw [occursIn, occursIn, occursIn, occursIn, optionalImport, ignoringCase_toList,
    String.toList_ofList]
  repeat rw [String.toList_ofList]
  decide +kernel

theorem ignoringCase_patched : ∃ site',
    on ignoringCaseSite (addRepositoryMethods ⟨.here, {}⟩ "com.shop" "UserRepository" "User")
      = (.ok [⟨usersPath, .alreadyPresent⟩, ⟨usersPath, .patched⟩, ⟨usersPath, .alreadyPresent⟩],
        site') ∧
    fileText? site'.tree usersPath = .ok (some (some (afterImports (existsPatch.after
      ((findPatch "User").after ignoringCase))))) := by
  obtain ⟨hmentions, hnot, himports, -⟩ := ignoringCase_mentions
  obtain ⟨site', hon, htext⟩ := on_addRepositoryMethods ignoringCase_read "User"
  have hpresent := (findPatch_isPresent "User" ignoringCase).trans hmentions
  have hfind : (findPatch "User").statusOn (some (some ignoringCase)) = .alreadyPresent := by
    rw [Patch.statusOn, if_pos hpresent]
  have hsame : (findPatch "User").after ignoringCase = ignoringCase :=
    Patch.Done.after_eq (.inl hpresent)
  have hmissing := (existsPatch_isPresent ignoringCase).trans (Bool.eq_false_iff.2 hnot)
  have hexists : existsPatch.statusOn (some (some ignoringCase)) = .patched := by
    have hbrace : (existsPatch.applyTo? ignoringCase).isSome = true := by
      have hmem : '}' ∈ ignoringCase.toList := by
        rw [ignoringCase_toList, String.toList_ofList, String.toList_ofList]
        decide
      obtain ⟨front, back, hsplit⟩ := List.append_of_mem hmem
      have hanchor : existsPatch.anchor.toList = ['}'] := show "\x7d".toList = ['}'] by decide
      rw [Option.isSome_iff_ne_none, Ne, Patch.applyTo?_eq_none, Classical.not_not, hanchor, hsplit]
      exact ⟨front, back, by simp⟩
    rw [Patch.statusOn, if_neg (by rw [hmissing]; decide), if_pos hbrace]
  have hkept : importPatch.isPresent (existsPatch.after ignoringCase) := by
    have hspares : existsPatch.Spares optionalImport :=
      ⟨by decide, (foreign_of_not_mem (by decide) _).clear⟩
    rw [importPatch_isPresent, hasOptionalImport, hspares.occursIn_after himports]
    rfl
  have himport : importStatus (existsPatch.after ignoringCase) = .alreadyPresent := by
    rw [importStatus, Patch.statusOn, if_pos hkept, if_neg (by decide)]
  rw [hfind, hsame, hexists, himport] at hon
  exact ⟨site', hon, htext⟩

/-- Letters, digits, underscores and dollar signs. -/
def isAsciiPart (c : Char) : Bool := Name.isWordChar c || c == '_' || c == '$'

theorem lookups_declared_iff_ignoringCase : ∃ site' rs,
    on ignoringCaseSite (addRepositoryMethods ⟨.here, {}⟩ "com.shop" "UserRepository" "User")
      = (.ok rs, site') ∧
    (∀ r ∈ rs, r.status = .patched ∨ r.status = .alreadyPresent) ∧
    ∃ x z, fileText? ignoringCaseSite.tree usersPath = .ok (some (some x)) ∧
      fileText? site'.tree usersPath = .ok (some (some z)) ∧
      (Declares isAsciiPart "findByUsername" z ∧ Declares isAsciiPart "existsByUsername" z ↔
        (Declares isAsciiPart "findByUsername" x ∨ ¬ occursIn "findByUsername" x) ∧
        (Declares isAsciiPart "existsByUsername" x ∨ ¬ occursIn "existsByUsername" x ∧
          (occursIn "findByUsername" x ∨ ¬ occursIn "existsByUsername" "User"))) := by
  obtain ⟨site', hon, -⟩ := ignoringCase_patched
  have hdone : ∀ r ∈ [Patched.mk usersPath .alreadyPresent, ⟨usersPath, .patched⟩,
      ⟨usersPath, .alreadyPresent⟩], r.status = .patched ∨ r.status = .alreadyPresent := by
    simp
  have hends : ∀ c ∈ ['\n', '\r'], isAsciiPart c = false := by
    intro c hc
    rw [List.mem_cons, List.mem_singleton] at hc
    rcases hc with rfl | rfl <;> rfl
  have hpart : Name.Alphabet isAsciiPart := ⟨fun _ _ _ => rfl, hends⟩
  have hentity : ∀ c ∈ "User".toList, isAsciiPart c := List.all_eq_true.1 (by decide)
  exact ⟨site', _, hon, hdone,
    lookups_declared_iff isAsciiPart hpart _ _ _ _ hentity _ _ _ hon hdone⟩

/-- All patches are reported as made or already there, and the look-up is not declared, whatever
identifiers are made of. -/
theorem ignoringCase_lacks_lookup : ∃ rs site' z,
    on ignoringCaseSite (addRepositoryMethods ⟨.here, {}⟩ "com.shop" "UserRepository" "User")
      = (.ok rs, site') ∧
    (∀ r ∈ rs, r.status = .patched ∨ r.status = .alreadyPresent) ∧
    fileText? site'.tree usersPath = .ok (some (some z)) ∧
    ∀ part, Name.Alphabet part → ¬ Declares part "findByUsername" z := by
  obtain ⟨hmentions, -, -, hdeclares⟩ := ignoringCase_mentions
  obtain ⟨site', hon, htext⟩ := ignoringCase_patched
  refine ⟨_, site', _, hon, by simp, htext, fun part hpart => ?_⟩
  -- neither patch after the first one brings a declaration of the first look-up
  have hend : part '\n' = false := hpart.no_end '\n' (by decide)
  have hreturn := no_return_of_fileText? ignoringCase_read
  have hpresent := (findPatch_isPresent "User" ignoringCase).trans hmentions
  rw [Patch.Done.after_eq (.inl hpresent)]
  show ¬ Stands part "findByUsername(".toList _
  rw [stands_afterImports (by decide) hend (Patch.no_return_after existsPatch hreturn),
    Patch.stands_after (existsPatch_apart (by decide)) hend hreturn (by decide)]
  rintro (h | ⟨-, h⟩)
  · exact hdeclares (occursIn_iff.2 h.occurs)
  · exact not_infix_existsPatch h.occurs

end Generate

end Groundwork
