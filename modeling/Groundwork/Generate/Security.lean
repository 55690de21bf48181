import Groundwork.Generate.Artifact
import Groundwork.Patch

/-!
# Generating the security classes

The classes for token-based authentication, and two changes to files that are there already: the
build file gets the libraries, and the user repository gets two look-ups by user name. A change is
left out where the file has it.
-/

namespace Groundwork.Generate

/-- The classes of the security package, with their templates. -/
def securityClasses : List (String × String) :=
  [("SecurityConfig", "security/security_config.java.j2"),
    ("JwtUtils", "security/jwt_utils.java.j2"),
    ("JwtAuthenticationEntryPoint", "security/jwt_authentication_entry_point.java.j2"),
    ("JwtAuthenticationFilter", "security/jwt_authentication_filter.java.j2"),
    ("UserDetailsServiceImpl", "security/user_details_service_impl.java.j2"),
    ("UserPrincipal", "security/user_principal.java.j2"),
    ("JwtRequest", "security/jwt_request.java.j2"),
    ("JwtResponse", "security/jwt_response.java.j2")]

/-- A patch of the build file: in front of the first end of a dependency list, unless the artifact
is mentioned. -/
def dependencyPatch (artifact insertion : String) : Patch where
  insertion := insertion
  anchor := "</dependencies>"
  isPresent := Text.occursIn artifact
  occurrence := .first

def starterPatch : Patch :=
  dependencyPatch "spring-boot-starter-security"
    ("\n        <!-- Spring Security -->\n"
      ++ "        <dependency>\n"
      ++ "            <groupId>org.springframework.boot</groupId>\n"
      ++ "            <artifactId>spring-boot-starter-security</artifactId>\n"
      ++ "        </dependency>\n")

def tokenLibraryPatch : Patch :=
  dependencyPatch "jjwt"
    ("\n        <!-- JWT -->\n"
      ++ "        <dependency>\n"
      ++ "            <groupId>io.jsonwebtoken</groupId>\n"
      ++ "            <artifactId>jjwt</artifactId>\n"
      ++ "            <version>0.9.1</version>\n"
      ++ "        </dependency>\n")

/-- Adds the libraries to the build file. -/
def addBuildDependencies (project : Project) : Run (List Patched) := do
  let buildFile := project.root.child "pom.xml"
  let starter ← Run.patchFile buildFile starterPatch
  let tokens ← Run.patchFile buildFile tokenLibraryPatch
  return [starter, tokens]

/-- A patch of the user repository: in front of its last closing brace, unless the method is
mentioned. -/
def methodPatch (method insertion : String) : Patch where
  insertion := insertion
  anchor := "\x7d"
  isPresent := Text.occursIn method

def findPatch (entity : String) : Patch :=
  methodPatch "findByUsername"
    ("\n    // JWT authentication lookups\n"
      ++ "    Optional<" ++ entity ++ "> findByUsername(String username);\n")

def existsPatch : Patch :=
  methodPatch "existsByUsername" "    Boolean existsByUsername(String username);\n"

def optionalImport : String := "import java.util.Optional;"

/-- Whether a text needs no import for its optional values. -/
def hasOptionalImport (text : String) : Bool :=
  Text.occursIn optionalImport text || !Text.occursIn "Optional<" text

/-- The import in front of the first one. -/
def importPatch : Patch where
  insertion := optionalImport ++ "\n"
  anchor := "import "
  isPresent := hasOptionalImport
  occurrence := .first

/-- The import after the line with the package, for a file without imports. -/
def firstImportPatch : Patch where
  insertion := "\n" ++ optionalImport ++ "\n"
  anchor := "package "
  isPresent := hasOptionalImport
  occurrence := .first
  placement := .afterLine

def addOptionalImport (path : Path) : Run Patched := do
  let patched ← Run.patchFile path importPatch
  if patched.status = .missingAnchor then Run.patchFile path firstImportPatch else return patched

/-- Adds the look-ups by user name to the user repository. -/
def addRepositoryMethods (project : Project) (package repository entity : String) :
    Run (List Patched) := do
  let path := project.sourcePath package repository
  let find ← Run.patchFile path (findPatch entity)
  if find.status = .missingTarget || find.status = .unreadable then return [find]
  let present ← Run.patchFile path existsPatch
  let optional ← addOptionalImport path
  return [find, present, optional]

structure SecurityResult where
  written : List Written
  patches : List Patched

/-- The repository package has to be a text where it is used as one. -/
def packageText (v : Value) : Run String :=
  match v with
  | .text s => pure s
  | v => throw (.misuse (.noAttribute v.kind "split"))

def securityBundle (store : Template.Store) (project : Project) (s : SecuritySheet) :
    Run SecurityResult := do
  let classes ← securityClasses.mapM fun (className, template) =>
    emit store project s.bindings s.package template className
  let controller ←
    emit store project s.bindings s.controllerPackage "security/auth_controller.java.j2"
      "AuthController"
  let libraries ← addBuildDependencies project
  let package ← packageText s.userRepositoryPackage
  let methods ← addRepositoryMethods project package s.userRepository s.userEntity
  return ⟨classes ++ [controller], libraries ++ methods⟩

/-- Generates the security classes of a blueprint. -/
def security (store : Template.Store) (project : Project) (b : Blueprint) :
    Run SecurityResult := do
  if b.kind ≠ .security then throw (.input (.notSecurity b.kind))
  match ← Run.sheet b with
  | .security s => securityBundle store project s
  | _ => throw (.input (.notSecurity b.kind))

end Groundwork.Generate
