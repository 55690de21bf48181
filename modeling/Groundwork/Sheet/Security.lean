import Groundwork.Decimal.Shortest
import Groundwork.Package.Basic
import Groundwork.Sheet.Basic
import Groundwork.Text.Integer

/-!
# The sheet of the security classes
-/

namespace Groundwork

/-- The integer that an option stands for. A fraction is dropped; a text is read as a number. -/
def Value.toInteger (v : Value) : Except Value.Misuse Int :=
  match v with
  | .bool b => .ok (if b then 1 else 0)
  | .int n => .ok n
  | .float x =>
    match Decimal.truncated? x with
    | some n => .ok n
    | none => .error (.notFinite (if x.isNaN then "NaN" else "infinity"))
  | .text s =>
    match Text.readInteger? s with
    | some n => .ok n
    | none => .error (.notInteger s)
  | v => .error (.notNumeric v.kind)

structure SecuritySheet where
  package : String
  secret : Value
  expiration : Int
  userEntity : String
  userPackage : Value
  userRepositoryPackage : Value
  cors : Bool

namespace SecuritySheet

def usualSecret : String := "myJwtSecretKeyForDevelopmentOnly123456789"

/-- One day, in milliseconds. -/
def usualExpiration : Int := 86400000

def millisecondsPerHour : Int := 3600000

def usualUser : String := "User"

/-- The package of the user repository: the option if it holds, else the one that goes with the
package of the user. -/
def repositoryPackage (b : Blueprint) (userPackage : Value) : Except Value.Misuse Value :=
  let given := b.option "user_repository_package" .null
  if given.holds then .ok given
  else
    match userPackage with
    | .text s => .ok (.text (Package.repositoryFor s))
    | v => .error (.noAttribute v.kind "endswith")

def ofBlueprint (b : Blueprint) : Except Failure SecuritySheet := do
  let user := b.option "user_entity" (.text usualUser)
  let userPackage := b.option "user_package" (.text "")
  let expiration ← Value.needed (b.option "jwt_expiration" (.int usualExpiration)).toInteger
  let _ ← Value.needed user.lowerFirst
  let userRepositoryPackage ← Value.needed (repositoryPackage b userPackage)
  let _ ← Value.needed (user.append "Repository")
  return {
    package := b.package
    secret := b.option "jwt_secret" (.text usualSecret)
    expiration := expiration
    userEntity := user.written
    userPackage := userPackage
    userRepositoryPackage := userRepositoryPackage
    cors := b.switched "enable_cors" true }

/-- The package of the controller that hands out tokens. -/
def controllerPackage (s : SecuritySheet) : String :=
  Package.controllerFor s.package

def userRepository (s : SecuritySheet) : String :=
  s.userEntity ++ "Repository"

def bindings (s : SecuritySheet) : Bindings :=
  [("package_name", .text s.package),
    ("controller_package", .text s.controllerPackage),
    ("jwt_secret", s.secret),
    ("jwt_expiration", .int s.expiration),
    ("jwt_expiration_hours", .int (s.expiration.fdiv millisecondsPerHour)),
    ("user_entity", .text s.userEntity),
    ("user_instance_name", .text (Name.lowerFirst s.userEntity)),
    ("user_package", s.userPackage),
    ("user_repository_package", s.userRepositoryPackage),
    ("user_repository_name", .text s.userRepository),
    ("enable_cors", .bool s.cors)]

end SecuritySheet

end Groundwork
