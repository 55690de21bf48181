import Groundwork.Proofs.Package.NewProject
import Groundwork.Proofs.Sheet
import Groundwork.Proofs.Text.Lowering
import Groundwork.Proofs.Text.OneLine

/-!
# The sheets of a suite

A suite is all that goes with one entity: its model, repository, service and controller, and the
security classes with the entity as their user. Each part is asked for by a request of its own that
says nothing but a name, and each works its packages and names out by itself.
-/

namespace Groundwork

namespace Text

/-- A trimmed text stays so with an ending that has no blank at its end. -/
theorem trim_append {s ending : String} (h : trim s = s) (hne : s ≠ "") {front : List Char}
    {c : Char} (hending : ending.toList = front ++ [c]) (hc : isBlank c = false) :
    trim (s ++ ending) = s ++ ending := by
  obtain ⟨d, rest, hs⟩ := List.exists_cons_of_ne_nil (mt String.toList_eq_nil_iff.1 hne)
  have hhead := (trim_eq_self_iff.1 h).head
  rw [trim_eq_self_iff, String.toList_append]
  constructor
  · rw [hs] at hhead ⊢
    exact hhead
  · rw [hending, ← List.append_assoc, List.getLast?_concat]
    simpa using hc

theorem allBlank_of_mem {s : String} {c : Char} (h : c ∈ s.toList) (hc : isBlank c = false) :
    allBlank s = false := by
  rw [allBlank, List.all_eq_false]
  exact ⟨c, h, by simp [hc]⟩

end Text

/-- What is used of an identifier: it has no blanks at its ends, and no points, slashes, spaces and
line ends at all. -/
structure Name.Identifier (s : String) : Prop where
  ne_empty : s ≠ ""
  trimmed : Text.trim s = s
  plain : ∀ c ∈ s.toList, c ∉ ['.', '/', ' ', '\n', '\r']

namespace Name.Identifier

variable {s : String}

/-- Letters, digits, underscores and dollar signs are neither blank nor points or slashes. -/
theorem of_all (hne : s ≠ "")
    (hall : s.toList.all fun c => !Text.isBlank c && c != '.' && c != '/') : Identifier s := by
  have h : ∀ c ∈ s.toList, Text.isBlank c = false ∧ c ≠ '.' ∧ c ≠ '/' := by
    simpa [and_assoc] using List.all_eq_true.1 hall
  have hblank {c : Char} (hc : c ∈ s.toList) : ¬ Text.isBlank c := by
    rw [(h c hc).1]
    exact Bool.false_ne_true
  refine ⟨hne, Text.trim_eq_self_iff.2 ⟨fun hhead => ?_, fun hlast => ?_⟩, fun c hc hmem => ?_⟩
  · obtain ⟨c, hc, hb⟩ := (Option.any_eq_true _ _).1 hhead
    exact hblank (List.mem_of_head? hc) hb
  · obtain ⟨c, hc, hb⟩ := (Option.any_eq_true _ _).1 hlast
    exact hblank (List.mem_of_getLast? hc) hb
  · obtain ⟨hblank, hpoint, hslash⟩ := h c hc
    simp only [List.mem_cons, List.not_mem_nil, or_false] at hmem
    rcases hmem with rfl | rfl | rfl | rfl | rfl
    · exact hpoint rfl
    · exact hslash rfl
    all_goals exact absurd hblank (by decide)

theorem not_mem (h : Identifier s) {c : Char} (hc : c ∈ ['.', '/', ' ', '\n', '\r']) :
    c ∉ s.toList :=
  fun hmem => h.plain c hmem hc

theorem oneLine (h : Identifier s) : Text.OneLine s :=
  ⟨h.not_mem (by decide), h.not_mem (by decide)⟩

theorem segment (h : Identifier s) : Package.Segment s :=
  ⟨h.ne_empty, h.not_mem (by decide), h.not_mem (by decide)⟩

theorem allBlank (h : Identifier s) : Text.allBlank s = false := by
  rw [← Bool.not_eq_true, Text.allBlank_iff_trim, h.trimmed]
  exact h.ne_empty

end Name.Identifier

namespace Package

/-- The package is made of the given identifiers. -/
structure Identifiers (segs : List String) (package : String) : Prop where
  ne_nil : segs ≠ []
  identifier : ∀ s ∈ segs, Name.Identifier s
  eq : package = ".".intercalate segs

variable {segs : List String} {package : String}

theorem Identifiers.joins (h : Identifiers segs package) : Joins segs package :=
  ⟨h.ne_nil, fun s hs => (h.identifier s hs).segment, h.eq⟩

theorem Identifiers.not_mem (h : Identifiers segs package) {c : Char}
    (hc : c ∈ ['/', ' ', '\n', '\r']) : c ∉ package.toList := by
  have hpoint : c ≠ '.' := by
    rintro rfl
    exact absurd hc (by decide)
  have hsep : ".".toList = ['.'] := rfl
  rw [h.eq, String.toList_intercalate, hsep]
  intro hmem
  rcases Text.mem_intercalate hmem with rfl | ⟨part, hpart, hmem⟩
  · exact hpoint rfl
  · obtain ⟨s, hs, rfl⟩ := List.mem_map.1 hpart
    exact (h.identifier s hs).not_mem (List.mem_cons_of_mem _ hc) hmem

/-- The package below a base package. -/
def under (base segment : String) : String :=
  base ++ "." ++ segment

theorem allBlank_under (base segment : String) : Text.allBlank (under base segment) = false := by
  refine Text.allBlank_of_mem (c := '.') ?_ (by decide)
  simp [under]

end Package

open Package

/-- One request for each part, with all that can be switched on or off. -/
structure Suite where
  entity : String
  persistence : Bool := true
  lombok : Bool := true
  constraints : Bool := false
  store : RepositoryKind := .jpa
  customQueries : Bool := true
  pagination : Bool := true
  ownInterface : Bool := true
  serviceCrud : Bool := false
  transactional : Bool := false
  serviceValidation : Bool := false
  controllerCrud : Bool := false
  apiDocs : Bool := false
  controllerValidation : Bool := true
  cors : Bool := true

namespace Suite

def model (s : Suite) : ModelRequest where
  name := s.entity
  persistence := s.persistence
  lombok := s.lombok
  validation := s.constraints

def repository (s : Suite) : RepositoryRequest where
  name := s.entity ++ "Repository"
  kind := s.store
  customQueries := s.customQueries
  pagination := s.pagination

def service (s : Suite) : ServiceRequest where
  name := s.entity ++ "Service"
  ownInterface := s.ownInterface
  crud := s.serviceCrud
  transactional := s.transactional
  validation := s.serviceValidation

def controller (s : Suite) : ControllerRequest where
  name := s.entity ++ "Controller"
  crud := s.controllerCrud
  apiDocs := s.apiDocs
  validation := s.controllerValidation

def security (s : Suite) : SecurityRequest where
  userEntity := s.entity
  cors := s.cors

def requests (s : Suite) : List Request :=
  [.model s.model, .repository s.repository, .service s.service, .controller s.controller,
    .security s.security]

/-- The blueprints of all requests, with one search for the base package that they share. -/
def blueprints (s : Suite) (base : String) : List Blueprint :=
  Id.run ((s.requests.mapM (Request.blueprint (pure base))).run' none)

/-- The shared search gives each request what a search of its own gives it. -/
theorem blueprints_eq (s : Suite) (base : String) :
    s.blueprints base = s.requests.map (Request.below base) := by
  simp only [blueprints, requests, List.mapM_cons, List.mapM_nil, Request.blueprint,
    ModelRequest.blueprint, RepositoryRequest.blueprint, ServiceRequest.blueprint,
    ControllerRequest.blueprint, SecurityRequest.blueprint, resolve, model, repository, service,
    controller, security, ofInput_none]
  rfl

variable {base : String}

def modelSheet (s : Suite) (base : String) : ModelSheet where
  className := s.entity
  package := under base "model"
  tableName := .text (Name.table s.entity)
  persistence := s.persistence
  lombok := s.lombok
  validation := s.constraints
  fields := []

def repositorySheet (s : Suite) (base : String) : RepositorySheet where
  name := s.entity ++ "Repository"
  package := under base "repository"
  model := s.entity
  modelPackage := .text (under base "model")
  kind := s.store
  idType := .text RepositorySheet.usualIdType
  customQueries := s.customQueries
  pagination := s.pagination

def serviceSheet (s : Suite) (base : String) : ServiceSheet where
  name := s.entity ++ "Service"
  package := under base "service"
  model := s.entity
  modelPackage := .text (under base "model")
  repositoryPackage := .text (under base "repository")
  ownInterface := s.ownInterface
  crud := s.serviceCrud
  transactional := s.transactional
  validation := s.serviceValidation

def controllerSheet (s : Suite) (base : String) : ControllerSheet where
  name := s.entity ++ "Controller"
  package := under base "controller"
  model := s.entity
  modelPackage := .text (under base "model")
  servicePackage := .text (under base "service")
  basePath := ControllerSheet.normalPath ControllerSheet.usualBasePath
  crud := s.controllerCrud
  swagger := s.apiDocs
  validation := s.controllerValidation

def securitySheet (s : Suite) (base : String) : SecuritySheet where
  package := under base "security"
  secret := .text SecuritySheet.usualSecret
  expiration := SecuritySheet.usualExpiration
  userEntity := s.entity
  userPackage := .text (under base "model")
  userRepositoryPackage := .text (under base "repository")
  cors := s.cors

def sheets (s : Suite) (base : String) : List Sheet :=
  [.model (s.modelSheet base), .repository (s.repositorySheet base),
    .service (s.serviceSheet base), .controller (s.controllerSheet base),
    .security (s.securitySheet base)]

/-- A name that is made of the entity and a suffix is used as it is, and serves the entity. -/
theorem name_append {entity suffix : String} (h : Name.Identifier entity) {front : List Char}
    {c : Char} (hsuffix : suffix.toList = front ++ [c]) (hc : Text.isBlank c = false) :
    Text.trim (entity ++ suffix) = entity ++ suffix ∧ Text.allBlank (entity ++ suffix) = false ∧
      Name.served (entity ++ suffix) suffix = entity := by
  have hmem : c ∈ (entity ++ suffix).toList := by
    rw [String.toList_append, hsuffix]
    simp
  have hne : suffix ≠ "" := by
    rintro rfl
    simp at hsuffix
  refine ⟨Text.trim_append h.trimmed h.ne_empty hsuffix hc, Text.allBlank_of_mem hmem hc, ?_⟩
  rw [Name.served, if_neg hne, Text.dropEnding?_eq_some.2 rfl]
  rfl

variable {s : Suite}

theorem model_sheet (h : Name.Identifier s.entity) (base : String) :
    Sheet.ofBlueprint (Request.below base (.model s.model)) = .ok (.model (s.modelSheet base)) := by
  have hb : Request.below base (.model s.model) = {
      kind := .model
      name := s.entity
      package := under base "model"
      fields := []
      options :=
        [("table_name", .null), ("include_jpa", .bool s.persistence),
          ("use_lombok", .bool s.lombok), ("include_validation", .bool s.constraints)] } := by
    simp only [Request.below, Request.blueprint, ModelRequest.blueprint, resolve, model,
      ofInput_none]
    rfl
  rw [hb]
  simp only [Sheet.ofBlueprint, Blueprint.requireName, h.allBlank]
  simp only [ModelSheet.ofBlueprint, Blueprint.title, h.trimmed]
  rfl

theorem repository_sheet (h : Name.Identifier s.entity) (base : String) :
    Sheet.ofBlueprint (Request.below base (.repository s.repository))
      = .ok (.repository (s.repositorySheet base)) := by
  have hb : Request.below base (.repository s.repository) = {
      kind := .repository
      name := s.entity ++ "Repository"
      package := under base "repository"
      options :=
        [("model_name", .null), ("model_package", .text (under base "model")),
          ("repository_type", .text s.store.name),
          ("id_type", .text RepositorySheet.usualIdType),
          ("include_custom_queries", .bool s.customQueries),
          ("include_pagination", .bool s.pagination)] } := by
    simp only [Request.below, Request.blueprint, RepositoryRequest.blueprint, resolve,
      repository, ofInput_none]
    rfl
  obtain ⟨htitle, hblank, hserved⟩ :=
    name_append h (show "Repository".toList = "Repositor".toList ++ ['y'] by decide) (by decide)
  have hid : Text.allBlank RepositorySheet.usualIdType = false := by decide
  have hkind : Text.allBlank s.store.name = false ∧
      RepositoryKind.ofValue (.text s.store.name) = s.store := by
    cases s.store <;> decide +kernel
  rw [hb]
  simp [Sheet.ofBlueprint, Blueprint.requireName, Blueprint.modelName, Blueprint.option,
    Blueprint.option?, Blueprint.switched, Blueprint.title, Bindings.find?, List.lookup_cons,
    RepositorySheet.ofBlueprint, repositorySheet, allBlank_under, htitle, hblank, hserved, hid,
    hkind, Value.needed, Value.lowerFirst, Value.onFirst, Value.holds, Value.written, bind,
    Except.bind, pure, Except.pure]

theorem service_sheet (h : Name.Identifier s.entity) (base : String) :
    Sheet.ofBlueprint (Request.below base (.service s.service))
      = .ok (.service (s.serviceSheet base)) := by
  have hb : Request.below base (.service s.service) = {
      kind := .service
      name := s.entity ++ "Service"
      package := under base "service"
      options :=
        [("model_name", .null), ("model_package", .text (under base "model")),
          ("repository_package", .text (under base "repository")),
          ("generate_interface", .bool s.ownInterface), ("include_crud", .bool s.serviceCrud),
          ("include_transactional", .bool s.transactional),
          ("include_validation", .bool s.serviceValidation)] } := by
    simp only [Request.below, Request.blueprint, ServiceRequest.blueprint, resolve, service,
      ofInput_none]
    rfl
  obtain ⟨htitle, hblank, hserved⟩ :=
    name_append h (show "Service".toList = "Servic".toList ++ ['e'] by decide) (by decide)
  rw [hb]
  simp [Sheet.ofBlueprint, Blueprint.requireName, Blueprint.modelName, Blueprint.option,
    Blueprint.option?, Blueprint.switched, Blueprint.title, Bindings.find?, List.lookup_cons,
    ServiceSheet.ofBlueprint, serviceSheet, allBlank_under, htitle, hblank, hserved, Value.needed,
    Value.append, Value.holds, Value.written, bind, Except.bind, pure, Except.pure]

theorem controller_sheet (h : Name.Identifier s.entity) (base : String) :
    Sheet.ofBlueprint (Request.below base (.controller s.controller))
      = .ok (.controller (s.controllerSheet base)) := by
  have hb : Request.below base (.controller s.controller) = {
      kind := .controller
      name := s.entity ++ "Controller"
      package := under base "controller"
      options :=
        [("model_name", .null), ("model_package", .text (under base "model")),
          ("service_package", .text (under base "service")),
          ("base_path", .text ControllerSheet.usualBasePath),
          ("include_crud", .bool s.controllerCrud), ("include_swagger", .bool s.apiDocs),
          ("include_validation", .bool s.controllerValidation)] } := by
    simp only [Request.below, Request.blueprint, ControllerRequest.blueprint, resolve,
      controller, ofInput_none]
    rfl
  obtain ⟨htitle, hblank, hserved⟩ :=
    name_append h (show "Controller".toList = "Controlle".toList ++ ['r'] by decide) (by decide)
  have hpath : Text.allBlank ControllerSheet.usualBasePath = false := by decide
  rw [hb]
  simp [Sheet.ofBlueprint, Blueprint.requireName, Blueprint.modelName, Blueprint.option,
    Blueprint.option?, Blueprint.switched, Blueprint.title, Bindings.find?, List.lookup_cons,
    ControllerSheet.ofBlueprint, controllerSheet, ControllerSheet.basePathOf, allBlank_under,
    htitle, hblank, hserved, hpath, Value.needed, Value.append, Value.holds, Value.written, bind,
    Except.bind, pure, Except.pure]

theorem security_sheet (h : Name.Identifier s.entity) (base : String) :
    Sheet.ofBlueprint (Request.below base (.security s.security))
      = .ok (.security (s.securitySheet base)) := by
  have hb : Request.below base (.security s.security) = {
      kind := .security
      name := "Security"
      package := under base "security"
      options :=
        [("jwt_secret", .text SecuritySheet.usualSecret),
          ("jwt_expiration", .int SecuritySheet.usualExpiration),
          ("user_entity", .text s.entity), ("user_package", .text (under base "model")),
          ("enable_cors", .bool s.cors)] } := by
    simp only [Request.below, Request.blueprint, SecurityRequest.blueprint, resolve, security,
      ofInput_none]
    rfl
  have hname : Text.allBlank "Security" = false := by decide
  have hsecret : Text.allBlank SecuritySheet.usualSecret = false := by decide +kernel
  have hrepository : repositoryFor (under base "model") = under base "repository" :=
    (congrArg _ (String.append_assoc ..)).trans (swapLast_append "model" "repository" base)
  rw [hb]
  simp [Sheet.ofBlueprint, Blueprint.requireName, Blueprint.option, Blueprint.option?,
    Blueprint.switched, Bindings.find?, List.lookup_cons, SecuritySheet.ofBlueprint,
    SecuritySheet.repositoryPackage, securitySheet, allBlank_under, hname, hsecret, h.allBlank,
    hrepository, Value.needed, Value.toInteger, Value.lowerFirst, Value.onFirst, Value.append,
    Value.holds, Value.written, bind, Except.bind, pure, Except.pure]

/-- The sheets of all blueprints. -/
theorem sheets_eq (h : Name.Identifier s.entity) (base : String) :
    (s.blueprints base).map Sheet.ofBlueprint = (s.sheets base).map .ok := by
  rw [blueprints_eq]
  simp [requests, sheets, model_sheet h, repository_sheet h, service_sheet h, controller_sheet h,
    security_sheet h]

/-- The security classes are with the other classes of the base package, but for the controller. -/
theorem controllerPackage_eq (s : Suite) (base : String) :
    (s.securitySheet base).controllerPackage = under base "controller" :=
  (congrArg _ (String.append_assoc ..)).trans (swapLast_append "security" "controller" base)

end Suite

end Groundwork
