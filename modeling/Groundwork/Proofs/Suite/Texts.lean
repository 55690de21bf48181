import Groundwork.Proofs.Field.Imports
import Groundwork.Proofs.Generate.Lookups
import Groundwork.Proofs.Generate.Output
import Groundwork.Proofs.Suite.Sheets

/-!
# What the sources of a suite import

Each source of a suite imports classes of libraries and classes of the suite itself. Which classes
of the suite those are is worked out by each template from values of its own.
-/

namespace Groundwork

open Package Template Text

/-- The import is spelt out by a template of the library or belongs to what a model may need, so it
names no class of a project. -/
def LibraryImport (line : String) : Prop :=
  (∃ entry ∈ Bundled.catalogue, line ++ "\n" ∈ entry.2.texts) ∨
    ∃ q ∈ JavaType.imports.map Prod.snd ++ [JavaType.persistenceImport, JavaType.validationImport,
      JavaType.objectsImport] ++ JavaType.lombokImports, line = "import " ++ q ++ ";"

namespace Template

variable {empty full : List String} {b : Bindings}

theorem fits_of_mem (h : ∀ e ∈ b, e.1 ∈ empty ++ full ∨ OneLine e.2.written)
    (hlist : ∀ n ∈ empty, b.find? n = some (.list [])) : Fits empty full b where
  value n hn := by
    unfold Bindings.written
    cases hv : b.find? n with
    | none =>
      show OneLine ""
      decide
    | some v => exact (h _ (mem_of_lookup hv)).resolve_left hn
  list := hlist

theorem Reference.written_named (b : Bindings) (package name : String) :
    Reference.written b ⟨package, .named name⟩ = importLine (b.written package) (b.written name) := by
  simp [Reference.written, Piece.inks]

theorem Reference.written_own (b : Bindings) (package : String) (cs : List Char) :
    Reference.written b ⟨package, .own cs⟩ = importLine (b.written package) (.ofList cs) := by
  simp [Reference.written, Piece.inks]

end Template

namespace Suite

open Generate

variable {s : Suite} {base template x : String} {b : Bindings} {t : Tree}

/-- The classes of a suite that its sources import, with their packages. -/
def classes (s : Suite) (base : String) : List (String × String) :=
  [(under base "model", s.entity), (under base "repository", s.entity ++ "Repository"),
      (under base "service", s.entity ++ "Service")]
    ++ ["JwtRequest", "JwtResponse", "JwtUtils", "UserPrincipal"].map fun name =>
      (under base "security", name)

/-- A text that imports nothing but classes of libraries and of the suite. -/
structure Closed (s : Suite) (base x : String) : Prop where
  no_return : '\r' ∉ x.toList
  imports : ∀ line ∈ Text.imports x,
    LibraryImport line ∨ ∃ c ∈ s.classes base, line = importLine c.1 c.2

/-- Whatever the values are, the template imports none but these references. -/
def Refers (template : String) (known : List Reference) : Prop :=
  ∃ entry ∈ Bundled.references, entry.1 = template ∧ ∀ refs ∈ entry.2, ∀ r ∈ refs, r ∈ known

instance (template : String) (known : List Reference) : Decidable (Refers template known) :=
  inferInstanceAs (Decidable (∃ entry ∈ Bundled.references, _))

/-- A source of the suite, if its references are classes of the suite. -/
theorem closed_of_refers {known : List Reference} (hrefers : Refers template known)
    (hb : Fits [] [] b)
    (hknown : ∀ r ∈ known, ∃ c ∈ s.classes base, r.written b = importLine c.1 c.2)
    (hrender : Store.bundled.render t template b = .ok x) : s.Closed base x := by
  obtain ⟨entry, hmem, rfl, hall⟩ := hrefers
  obtain ⟨source, hlookup, himporting⟩ := Bundled.importing_of_mem entry hmem
  obtain ⟨inks, hprint, rfl⟩ := Bundled.print_of_render hlookup hrender
  obtain ⟨refs, hin, himports, -⟩ := imports_of_print himporting hb hprint
  refine ⟨(himporting.ownEnds hb hprint).no_return, fun line hline => ?_⟩
  rcases himports line hline with hspelt | ⟨r, hr, rfl⟩
  · exact .inl (.inl ⟨_, mem_of_lookup hlookup, hspelt⟩)
  · obtain ⟨c, hc, hwritten⟩ := hknown r (hall refs hin r hr)
    exact .inr ⟨c, hc, hwritten⟩

section Parts

variable (hentity : Name.Identifier s.entity) (hbase : OneLine base)

include hbase in
theorem oneLine_under {segment : String} (h : OneLine segment) : OneLine (under base segment) :=
  (hbase.append (by decide)).append h

theorem oneLine_bool (v : Bool) : OneLine (Value.bool v).written := by
  cases v <;> decide

include hentity hbase in
theorem fits_repository : Fits [] [] (Sheet.repository (s.repositorySheet base)).bindings := by
  have he := hentity.oneLine
  have hmodel : OneLine (under base "model") := oneLine_under hbase (by decide)
  have hpackage : OneLine (under base "repository") := oneLine_under hbase (by decide)
  have hname : OneLine (s.entity ++ "Repository") := he.append (by decide)
  have hkind : OneLine s.store.name ∧ OneLine s.store.baseType := by
    cases s.store <;> decide
  have hid : OneLine RepositorySheet.usualIdType := by decide
  refine fits_of_mem (fun e hmem => .inr ?_) (by simp)
  revert e
  simp only [Sheet.bindings, RepositorySheet.bindings, repositorySheet, List.forall_mem_cons,
    List.not_mem_nil, false_implies, implies_true, and_true]
  exact ⟨hpackage, hname, he, hmodel, Name.oneLine_lowerFirst he, hkind.1, hkind.2,
    oneLine_bool _, hid, oneLine_bool _, oneLine_bool _⟩

include hentity hbase in
theorem fits_service : Fits [] [] (Sheet.service (s.serviceSheet base)).bindings := by
  have he := hentity.oneLine
  have hmodel : OneLine (under base "model") := oneLine_under hbase (by decide)
  have hrepository : OneLine (under base "repository") := oneLine_under hbase (by decide)
  have hpackage : OneLine (under base "service") := oneLine_under hbase (by decide)
  have hname : OneLine (s.entity ++ "Service") := he.append (by decide)
  have hstore : OneLine (s.entity ++ "Repository") := he.append (by decide)
  have himplementation : OneLine (s.entity ++ "Service" ++ "Impl") := hname.append (by decide)
  refine fits_of_mem (fun e hmem => .inr ?_) (by simp)
  revert e
  simp only [Sheet.bindings, ServiceSheet.bindings, serviceSheet, List.forall_mem_cons,
    List.not_mem_nil, false_implies, implies_true, and_true]
  exact ⟨hpackage, hname, he, hmodel, hrepository, hstore, Name.oneLine_lowerFirst hstore,
    Name.oneLine_lowerFirst he, hname, himplementation, oneLine_bool _, oneLine_bool _,
    oneLine_bool _, oneLine_bool _⟩

include hentity hbase in
theorem fits_controller : Fits [] [] (Sheet.controller (s.controllerSheet base)).bindings := by
  have he := hentity.oneLine
  have hmodel : OneLine (under base "model") := oneLine_under hbase (by decide)
  have hservice : OneLine (under base "service") := oneLine_under hbase (by decide)
  have hpackage : OneLine (under base "controller") := oneLine_under hbase (by decide)
  have hname : OneLine (s.entity ++ "Controller") := he.append (by decide)
  have hserved : OneLine (s.entity ++ "Service") := he.append (by decide)
  have hpath : OneLine (ControllerSheet.normalPath ControllerSheet.usualBasePath) := by
    decide +kernel
  refine fits_of_mem (fun e hmem => .inr ?_) (by simp)
  revert e
  simp only [Sheet.bindings, ControllerSheet.bindings, controllerSheet, List.forall_mem_cons,
    List.not_mem_nil, false_implies, implies_true, and_true]
  exact ⟨hpackage, hname, he, hmodel, hservice, hserved, Name.oneLine_lowerFirst hserved,
    Name.oneLine_lowerFirst he, Name.oneLine_collection he, hpath, oneLine_bool _, oneLine_bool _,
    oneLine_bool _⟩

include hentity hbase in
theorem fits_security : Fits [] [] (Sheet.security (s.securitySheet base)).bindings := by
  have he := hentity.oneLine
  have hmodel : OneLine (under base "model") := oneLine_under hbase (by decide)
  have hrepository : OneLine (under base "repository") := oneLine_under hbase (by decide)
  have hpackage : OneLine (under base "security") := oneLine_under hbase (by decide)
  have hcontroller : OneLine (s.securitySheet base).controllerPackage := by
    rw [controllerPackage_eq]
    exact oneLine_under hbase (by decide)
  have hsecret : OneLine SecuritySheet.usualSecret := by decide +kernel
  have htimes : OneLine (Value.int SecuritySheet.usualExpiration).written ∧
      OneLine (Value.int (SecuritySheet.usualExpiration.fdiv
        SecuritySheet.millisecondsPerHour)).written := by
    decide +kernel
  have hstore : OneLine (s.entity ++ "Repository") := he.append (by decide)
  refine fits_of_mem (fun e hmem => .inr ?_) (by simp)
  revert e
  simp only [Sheet.bindings, SecuritySheet.bindings, List.forall_mem_cons, List.not_mem_nil,
    false_implies, implies_true, and_true]
  exact ⟨hpackage, hcontroller, hsecret, htimes.1, htimes.2, he, Name.oneLine_lowerFirst he,
    hmodel, hrepository, hstore, oneLine_bool _⟩

include hentity hbase in
theorem fits_model :
    Fits ["fields"] ["imports"] (Sheet.model (s.modelSheet base)).bindings := by
  have he := hentity.oneLine
  have hpackage : OneLine (under base "model") := oneLine_under hbase (by decide)
  refine fits_of_mem (fun e hmem => ?_) ?_
  · revert e
    simp only [Sheet.bindings, ModelSheet.bindings, modelSheet, List.forall_mem_cons,
      List.not_mem_nil, false_implies, implies_true, and_true]
    exact ⟨.inr he, .inr hpackage, .inr (Name.oneLine_table he), .inr (oneLine_bool _),
      .inr (oneLine_bool _), .inr (oneLine_bool _), .inl (by decide), .inl (by decide)⟩
  · intro n hn
    rw [List.mem_singleton.1 hn]
    rfl

/-- A model without fields needs no classes but those that its features bring. -/
theorem mem_imports_nil {persistence validation lombok : Bool} {q : String}
    (h : q ∈ Field.imports [] persistence validation lombok) :
    q ∈ [JavaType.persistenceImport, JavaType.validationImport, JavaType.objectsImport]
      ++ JavaType.lombokImports := by
  rcases Field.mem_imports.1 h with ⟨f, hf, -⟩ | ⟨-, rfl⟩ | ⟨-, rfl⟩ | ⟨-, h⟩ | ⟨-, rfl⟩
  · cases hf
  · simp
  · simp
  · exact List.mem_append_right _ h
  · simp

include hentity hbase in
theorem closed_model
    (hrender : Store.bundled.render t "model.java.j2" (Sheet.model (s.modelSheet base)).bindings
      = .ok x) : s.Closed base x := by
  have hlookup : Bundled.catalogue.lookup "model.java.j2" = some Bundled.model := rfl
  have hlines : ∀ q ∈ [JavaType.persistenceImport, JavaType.validationImport,
      JavaType.objectsImport] ++ JavaType.lombokImports, OneLine q := by
    decide +kernel
  obtain ⟨inks, hprint, rfl⟩ := Bundled.print_of_render hlookup hrender
  obtain ⟨hown, himports⟩ := Bundled.imports_of_model (fits_model hentity hbase) rfl
    (fun q hq => hlines q (mem_imports_nil hq)) hprint
  refine ⟨hown.no_return, fun line hline => .inl ?_⟩
  rcases himports line hline with hspelt | ⟨q, hq, rfl⟩
  · exact .inl ⟨_, mem_of_lookup hlookup, hspelt⟩
  · refine .inr ⟨q, ?_, rfl⟩
    rw [List.append_assoc]
    exact List.mem_append_right _ (mem_imports_nil hq)

include hentity hbase in
/-- Every source of the suite is closed. -/
theorem closed_of_output {root : Path} {sheet : Sheet} (hsheet : sheet ∈ s.sheets base)
    {o : Output} (ho : o ∈ outputs ⟨root, {}⟩ sheet)
    (hrender : Store.bundled.render t o.template sheet.bindings = .ok x) : s.Closed base x := by
  have hmodel : (under base "model", s.entity) ∈ s.classes base := by simp [classes]
  have hrepository : (under base "repository", s.entity ++ "Repository") ∈ s.classes base := by
    simp [classes]
  have hservice : (under base "service", s.entity ++ "Service") ∈ s.classes base := by
    simp [classes]
  simp only [sheets, List.mem_cons, List.not_mem_nil, or_false] at hsheet
  rcases hsheet with rfl | rfl | rfl | rfl | rfl
  · cases List.mem_singleton.1 ho
    exact closed_model hentity hbase hrender
  · cases List.mem_singleton.1 ho
    have hrefers : Refers "repository.java.j2" [⟨"model_package", .named "model_name"⟩] := by
      decide +kernel
    refine closed_of_refers hrefers (fits_repository hentity hbase) ?_ hrender
    simp only [List.forall_mem_cons, List.not_mem_nil, false_implies, implies_true, and_true]
    exact ⟨_, hmodel, Reference.written_named _ _ _⟩
  · have hrefers : ∀ t ∈ ["service.java.j2", "service_interface.java.j2", "service_impl.java.j2"],
        Refers t [⟨"model_package", .named "model_name"⟩,
          ⟨"repository_package", .named "repository_name"⟩] := by
      decide +kernel
    have htemplate : o.template ∈
        ["service.java.j2", "service_interface.java.j2", "service_impl.java.j2"] := by
      rw [outputs] at ho
      split at ho
      · simp only [List.mem_cons, List.not_mem_nil, or_false] at ho
        rcases ho with rfl | rfl <;> simp
      · cases List.mem_singleton.1 ho
        simp
    refine closed_of_refers (hrefers _ htemplate) (fits_service hentity hbase) ?_ hrender
    simp only [List.forall_mem_cons, List.not_mem_nil, false_implies, implies_true, and_true]
    exact ⟨⟨_, hmodel, Reference.written_named _ _ _⟩,
      ⟨_, hrepository, Reference.written_named _ _ _⟩⟩
  · cases List.mem_singleton.1 ho
    have hrefers : Refers "controller.java.j2" [⟨"model_package", .named "model_name"⟩,
        ⟨"service_package", .named "service_name"⟩] := by
      decide +kernel
    refine closed_of_refers hrefers (fits_controller hentity hbase) ?_ hrender
    simp only [List.forall_mem_cons, List.not_mem_nil, false_implies, implies_true, and_true]
    exact ⟨⟨_, hmodel, Reference.written_named _ _ _⟩, ⟨_, hservice, Reference.written_named _ _ _⟩⟩
  · rcases List.mem_append.1 ho with ho | ho
    · have hrefers : ∀ c ∈ securityClasses, Refers c.2 [⟨"user_package", .named "user_entity"⟩,
          ⟨"user_repository_package", .named "user_repository_name"⟩] := by
        decide +kernel
      obtain ⟨c, hc, rfl⟩ := List.mem_map.1 ho
      refine closed_of_refers (hrefers c hc) (fits_security hentity hbase) ?_ hrender
      simp only [List.forall_mem_cons, List.not_mem_nil, false_implies, implies_true, and_true]
      exact ⟨⟨_, hmodel, Reference.written_named _ _ _⟩,
        ⟨_, hrepository, Reference.written_named _ _ _⟩⟩
    · cases List.mem_singleton.1 ho
      have hrefers : Refers "security/auth_controller.java.j2"
          (["JwtRequest", "JwtResponse", "JwtUtils", "UserPrincipal"].map fun name =>
            ⟨"package_name", .own name.toList⟩) := by
        decide +kernel
      refine closed_of_refers hrefers (fits_security hentity hbase) (fun r hr => ?_) hrender
      obtain ⟨name, hname, rfl⟩ := List.mem_map.1 hr
      refine ⟨(under base "security", name), ?_, ?_⟩
      · exact List.mem_append_right _ (List.mem_map_of_mem hname)
      · rw [Reference.written_own, String.ofList_toList]
        rfl

include hentity hbase in
/-- The user repository has the form that the look-ups need. -/
theorem interface_of_render
    (hrender : Store.bundled.render t "repository.java.j2"
      (Sheet.repository (s.repositorySheet base)).bindings = .ok x) :
    Interface (under base "repository") x := by
  have hlookup : Bundled.catalogue.lookup "repository.java.j2" = some Bundled.repository := rfl
  obtain ⟨inks, hprint, rfl⟩ := Bundled.print_of_render hlookup hrender
  exact interface_of_repository (fits_repository hentity hbase) hprint

include hentity hbase in
/-- The class that looks users up imports the user repository. -/
theorem imports_userRepository
    (hrender : Store.bundled.render t "security/user_details_service_impl.java.j2"
      (Sheet.security (s.securitySheet base)).bindings = .ok x) :
    importLine (under base "repository") (s.entity ++ "Repository") ∈ Text.imports x := by
  have hmem : ("security/user_details_service_impl.java.j2",
      [[(⟨"user_package", .named "user_entity"⟩ : Reference),
        ⟨"user_repository_package", .named "user_repository_name"⟩]]) ∈ Bundled.references := by
    simp [Bundled.references]
  obtain ⟨source, hlookup, himporting⟩ := Bundled.importing_of_mem _ hmem
  obtain ⟨inks, hprint, rfl⟩ := Bundled.print_of_render hlookup hrender
  obtain ⟨refs, hin, -, himports⟩ :=
    imports_of_print himporting (fits_security hentity hbase) hprint
  cases List.mem_singleton.1 hin
  have hline := himports _ (List.mem_cons_of_mem _ List.mem_cons_self)
  rwa [Reference.written_named] at hline

/-- The look-ups leave the user repository closed. -/
theorem Closed.lookups (hclosed : s.Closed base x) (hentity : Name.Identifier s.entity)
    (hspace : ' ' ∉ base.toList) (h : Interface (under base "repository") x) :
    let y := afterImports (existsPatch.after ((findPatch s.entity).after x))
    s.Closed base y ∧ Interface (under base "repository") y := by
  intro y
  have hname : ¬ "import ".toList <:+: (under base "repository").toList := by
    intro hin
    have hmem : ' ' ∈ (under base "repository").toList := hin.subset (by decide)
    simp only [under, String.toList_append, List.mem_append] at hmem
    rcases hmem with (hmem | hmem) | hmem
    · exact hspace hmem
    · exact absurd hmem (by decide)
    · exact absurd hmem (by decide)
  obtain ⟨hform, hmore⟩ := h.lookups hname hentity.oneLine
  refine ⟨⟨hform.no_return, fun line hline => ?_⟩, hform⟩
  rcases hmore line.toList (Text.mem_imports.1 hline) with hold | hnew
  · exact hclosed.imports line (Text.mem_imports.2 hold)
  · rw [List.mem_singleton, String.toList_inj] at hnew
    subst hnew
    have hspelt : ∃ entry ∈ Bundled.catalogue, optionalImport ++ "\n" ∈ entry.2.texts :=
      ⟨("repository.java.j2", Bundled.repository), mem_of_lookup rfl, by decide +kernel⟩
    exact .inl (.inl hspelt)

end Parts

end Suite

end Groundwork
