import Groundwork.Blueprint
import Groundwork.Dependency
import Groundwork.Sheet.Controller
import Groundwork.Sheet.Repository
import Groundwork.Sheet.Security

/-!
# Requests

What a user asks for in one command: a record for each kind of artifact, with the values that hold
when nothing is said. A text that is not given is `none`; a list that is not given is empty.
-/

namespace Groundwork

structure ModelRequest where
  name : String := ""
  tokens : List String := []
  package : Option String := none
  moreTokens : List String := []
  table : Option String := none
  persistence : Bool := true
  lombok : Bool := true
  validation : Bool := false
  required : List String := []
  unique : List String := []
  output : String := "."

structure ControllerRequest where
  name : String := ""
  package : Option String := none
  model : Option String := none
  modelPackage : Option String := none
  servicePackage : Option String := none
  basePath : String := ControllerSheet.usualBasePath
  crud : Bool := false
  apiDocs : Bool := false
  validation : Bool := true
  output : String := "."

structure ServiceRequest where
  name : String := ""
  package : Option String := none
  model : Option String := none
  modelPackage : Option String := none
  repositoryPackage : Option String := none
  ownInterface : Bool := true
  crud : Bool := false
  transactional : Bool := false
  validation : Bool := false
  output : String := "."

structure RepositoryRequest where
  name : String := ""
  package : Option String := none
  model : Option String := none
  modelPackage : Option String := none
  kind : RepositoryKind := .jpa
  idType : String := RepositorySheet.usualIdType
  customQueries : Bool := true
  pagination : Bool := true
  output : String := "."

structure SecurityRequest where
  package : Option String := none
  secret : String := SecuritySheet.usualSecret
  expiration : Int := SecuritySheet.usualExpiration
  userEntity : String := SecuritySheet.usualUser
  userPackage : Option String := none
  cors : Bool := true
  output : String := "."

structure ProjectRequest where
  name : String := ""
  package : String := "com.example"
  group : Option String := none
  bootVersion : String := "3.2.0"
  javaVersion : String := "17"
  dependencies : List String := []
  database : Database := .h2
  packaging : Packaging := .jar
  docker : Bool := true
  ignoredFiles : Bool := true
  readme : Bool := true
  output : String := "."

/-- The request with the usual dependencies in place of none. -/
def ProjectRequest.withDependencies (r : ProjectRequest) : ProjectRequest :=
  if r.dependencies.isEmpty then
    { r with dependencies := [",".intercalate (Dependency.usual r.database)] }
  else r

inductive Request where
  | model (r : ModelRequest)
  | controller (r : ControllerRequest)
  | service (r : ServiceRequest)
  | repository (r : RepositoryRequest)
  | security (r : SecurityRequest)
  | project (r : ProjectRequest)

namespace Request

def kind : Request → Artifact
  | model _ => .model
  | controller _ => .controller
  | service _ => .service
  | repository _ => .repository
  | security _ => .security
  | project _ => .project

/-- The directory to write into. -/
def output : Request → String
  | model r => r.output
  | controller r => r.output
  | service r => r.output
  | repository r => r.output
  | security r => r.output
  | project r => r.output

end Request

end Groundwork
