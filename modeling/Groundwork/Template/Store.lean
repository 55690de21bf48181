import Groundwork.Failure
import Groundwork.Template.Bundled.Controller
import Groundwork.Template.Bundled.Model
import Groundwork.Template.Bundled.Project
import Groundwork.Template.Bundled.Repository
import Groundwork.Template.Bundled.Security
import Groundwork.Template.Bundled.Service
import Groundwork.Template.Reader
import Groundwork.Template.Render
import Groundwork.Tree.Listing

/-!
# Where templates are kept

Templates come with the library, or lie as files below a directory. They are looked up by a name
of parts between slashes; empty and `.` parts do not matter, and a name with a `..` part names no
template.
-/

namespace Groundwork.Template

namespace Bundled

/-- The templates that come with the library, by name. -/
def catalogue : List (String × Template) :=
  [("controller.java.j2", controller),
    ("model.java.j2", model),
    ("repository.java.j2", repository),
    ("service.java.j2", service),
    ("service_impl.java.j2", serviceImplementation),
    ("service_interface.java.j2", serviceInterface),
    ("project/Dockerfile.j2", dockerfile),
    ("project/README.md.j2", readme),
    ("project/application.properties.j2", applicationProperties),
    ("project/gitignore.j2", ignoredFiles),
    ("project/main.java.j2", mainClass),
    ("project/pom.xml.j2", buildFile),
    ("project/test.java.j2", contextTest),
    ("security/auth_controller.java.j2", authController),
    ("security/jwt_authentication_entry_point.java.j2", entryPoint),
    ("security/jwt_authentication_filter.java.j2", authenticationFilter),
    ("security/jwt_request.java.j2", tokenRequest),
    ("security/jwt_response.java.j2", tokenResponse),
    ("security/jwt_utils.java.j2", tokenUtilities),
    ("security/security_config.java.j2", securityConfig),
    ("security/user_details_service_impl.java.j2", userDetailsService),
    ("security/user_principal.java.j2", userPrincipal)]

/-- The directory that the catalogue stands for. -/
def directory : Path := .ofText "templates"

/-- The catalogue as a tree of empty files. -/
def tree : Tree :=
  catalogue.foldl (fun t (name, _) =>
    let path := directory.child name
    let t' := (t.ensureDirectory path.parent).1
    match t'.create path (.file []) with
    | .ok t'' => t''
    | .error _ => t') .empty

end Bundled

inductive Store where
  | bundled
  | directory (path : Path)

/-- The parts of a template name. -/
def nameParts? (name : String) : Option (List String) :=
  let parts := Text.pieces '/' name
  if parts.contains ".." then none
  else some (parts.filter fun part => part != "" && part != ".")

namespace Store

/-- The store that a choice of directory stands for. -/
def ofDirectory? : Option Path → Store
  | some path => directory path
  | none => bundled

/-- How messages name the store. -/
def label : Store → String
  | bundled => "<templates>"
  | directory path => path.text

/-- The text by which a template file is opened. It names the working directory too. -/
def openedText (dir : Path) (parts : List String) : String :=
  if dir.anchor = .relative && dir.parts.isEmpty then dir.text ++ "/" ++ "/".intercalate parts
  else (dir.join (.ofText ("/".intercalate parts))).text

/-- The text of a template file, if there is one. -/
def source? (t : Tree) (dir : Path) (parts : List String) : Option (List UInt8) :=
  if (openedText dir parts).utf8ByteSize > Tree.pathLimit then none
  else
    match t.inspect (dir.join (.ofText ("/".intercalate parts))) with
    | .ok (.file octets) => some octets
    | _ => none

/-- The template of a name. -/
def load (store : Store) (t : Tree) (name : String) : Except Failure Template :=
  let missing := Failure.template name (.notFound store.label)
  match nameParts? name with
  | none => .error missing
  | some parts =>
    match store with
    | bundled =>
      match Bundled.catalogue.lookup ("/".intercalate parts) with
      | some template => .ok template
      | none => .error missing
    | directory path =>
      match source? t path parts with
      | none => .error missing
      | some octets =>
        match Text.Utf8.decode octets with
        | .error fault => .error (.undecodable fault)
        | .ok cs =>
          (Template.ofText (.ofList cs)).mapError fun fault => .template name (.badSyntax fault)

/-- Renders the template of a name, without escaping. -/
def render (store : Store) (t : Tree) (name : String) (bindings : Bindings) :
    Except Failure String := do
  let template ← store.load t name
  (template.render .off bindings).mapError (Failure.ofTemplate name)

/-- Where a listing starts; `start` is seen from the directory. -/
def searchPath (dir : Path) (start : String) : Path :=
  if start = "" then dir else dir.child start

/-- The name of what is at the end of a path: the path seen from the directory. -/
def nameIn (dir path : Path) : Except (Path × FileFault) String :=
  match path.below? dir with
  | some name => .ok name.text
  | none => .error (path, .outside (dir.anchor.text ++ "/".intercalate dir.parts))

/-- What a listing shows of an entry below `search`. A directory on the way is opened too. -/
def listed? (t : Tree) (dir search : Path) (way : List String) (node : Node) :
    Except (Path × FileFault) (Option String) := do
  let path := search.child ("/".intercalate way)
  if Tree.Node.isDirectory node then
    let _ ← (t.locate path).mapError (path, ·)
  if Text.endsWith (way.getLast?.getD "") ".j2" then return some (← nameIn dir path)
  else return none

/-- The names of all templates below a directory, in order. -/
def listIn (t : Tree) (dir : Path) (start : String) : Except (Path × FileFault) (List String) := do
  let search := searchPath dir start
  let isThere ← (t.isDirectory? search).mapError (search, ·)
  if isThere then
    let place ← (t.locate search).mapError (search, ·)
    let names ← (t.below place).mapM fun (way, node) => listed? t dir search way node
    return (names.filterMap id).mergeSort fun s s' => decide (s ≤ s')
  else return []

def list (store : Store) (t : Tree) (start : String) : Except (Path × FileFault) (List String) :=
  match store with
  | bundled => listIn Bundled.tree Bundled.directory start
  | directory path => listIn t path start

end Store

/-- Renders a template that is given as text. Values are escaped for markup. -/
def renderText (source : String) (bindings : Bindings) : Except Failure String :=
  match Template.ofText source with
  | .error fault => .error (.template "<string>" (.badSyntax fault))
  | .ok template =>
    (template.render .markup bindings).mapError (Failure.ofTemplate "<string>")

end Groundwork.Template
