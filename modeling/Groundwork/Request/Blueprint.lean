import Groundwork.Field.Token
import Groundwork.Intake.Record
import Groundwork.Package.Basic
import Groundwork.Request.Basic

/-!
# The blueprint of a request

Packages given in part are completed below one base package, which is found when the first of them
needs it. A project brings its own base package, so nothing has to be found for it.
-/

namespace Groundwork

variable {m : Type → Type} [Monad m]

namespace ModelRequest

/-- The fields of a request, with what there is to tell about them. -/
def reading (r : ModelRequest) : Field.Reading :=
  Field.readTokens (r.tokens ++ r.moreTokens) (Field.splitNames r.required)
    (Field.splitNames r.unique)

def blueprint (find : m String) (r : ModelRequest) : StateT (Option String) m Blueprint := do
  return {
    kind := .model
    name := r.name
    package := ← Package.resolve find r.package "model"
    fields := r.reading.fields
    options :=
      [("table_name", .ofText? r.table),
        ("include_jpa", .bool r.persistence),
        ("use_lombok", .bool r.lombok),
        ("include_validation", .bool r.validation)] }

end ModelRequest

def ControllerRequest.blueprint (find : m String) (r : ControllerRequest) :
    StateT (Option String) m Blueprint := do
  return {
    kind := .controller
    name := r.name
    package := ← Package.resolve find r.package "controller"
    options :=
      [("model_name", .ofText? r.model),
        ("model_package", .text (← Package.resolve find r.modelPackage "model")),
        ("service_package", .text (← Package.resolve find r.servicePackage "service")),
        ("base_path", .text r.basePath),
        ("include_crud", .bool r.crud),
        ("include_swagger", .bool r.apiDocs),
        ("include_validation", .bool r.validation)] }

def ServiceRequest.blueprint (find : m String) (r : ServiceRequest) :
    StateT (Option String) m Blueprint := do
  return {
    kind := .service
    name := r.name
    package := ← Package.resolve find r.package "service"
    options :=
      [("model_name", .ofText? r.model),
        ("model_package", .text (← Package.resolve find r.modelPackage "model")),
        ("repository_package",
          .text (← Package.resolve find r.repositoryPackage "repository")),
        ("generate_interface", .bool r.ownInterface),
        ("include_crud", .bool r.crud),
        ("include_transactional", .bool r.transactional),
        ("include_validation", .bool r.validation)] }

def RepositoryRequest.blueprint (find : m String) (r : RepositoryRequest) :
    StateT (Option String) m Blueprint := do
  return {
    kind := .repository
    name := r.name
    package := ← Package.resolve find r.package "repository"
    options :=
      [("model_name", .ofText? r.model),
        ("model_package", .text (← Package.resolve find r.modelPackage "model")),
        ("repository_type", .text r.kind.name),
        ("id_type", .text r.idType),
        ("include_custom_queries", .bool r.customQueries),
        ("include_pagination", .bool r.pagination)] }

def SecurityRequest.blueprint (find : m String) (r : SecurityRequest) :
    StateT (Option String) m Blueprint := do
  return {
    kind := .security
    name := "Security"
    package := ← Package.resolve find r.package "security"
    options :=
      [("jwt_secret", .text r.secret),
        ("jwt_expiration", .int r.expiration),
        ("user_entity", .text r.userEntity),
        ("user_package", .text (← Package.resolve find r.userPackage "model")),
        ("enable_cors", .bool r.cors)] }

namespace ProjectRequest

/-- The base package of the new project. -/
def basePackage (r : ProjectRequest) : String :=
  let given := Text.trim r.package
  if given = "" then "com.example" else given

def blueprint (r : ProjectRequest) : Blueprint where
  kind := .project
  name := r.name
  package := r.basePackage
  options :=
    [("group_id", .ofText? r.group),
      ("spring_boot_version", .text r.bootVersion),
      ("java_version", .text r.javaVersion),
      ("dependencies", .list ((Field.splitNames r.dependencies).map .text)),
      ("database", .text r.database.name),
      ("packaging", .text r.packaging.name),
      ("include_docker", .bool r.docker),
      ("include_gitignore", .bool r.ignoredFiles),
      ("include_readme", .bool r.readme)]

end ProjectRequest

namespace Request

/-- What there is to tell about a request before anything is done. -/
def notices : Request → List Notice
  | model r => r.reading.notices
  | _ => []

def blueprint (find : m String) : Request → StateT (Option String) m Blueprint
  | model r => r.blueprint find
  | controller r => r.blueprint find
  | service r => r.blueprint find
  | repository r => r.blueprint find
  | security r => r.blueprint find
  | project r => pure r.blueprint

end Request

end Groundwork
