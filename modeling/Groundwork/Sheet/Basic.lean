import Groundwork.Blueprint
import Groundwork.Failure
import Groundwork.Name
import Groundwork.Value.Written
import Groundwork.Value.Naming

/-!
# Sheets

A sheet holds what the templates of one kind of artifact are filled with. It is worked out from a
blueprint: names that were not given follow from the title, and options that were not given have
their usual values.
-/

namespace Groundwork

/-- The option that names the model of an artifact, or what the artifact's own name says. An
option that does not hold counts as not given. -/
def Blueprint.modelName (b : Blueprint) (suffix : String) : Value :=
  match b.option? "model_name" with
  | some v => if v.holds then v else .text (Name.served b.title suffix)
  | none => .text (Name.served b.title suffix)

/-- Passes the misuse of an option on as a failure. -/
def Value.needed {α : Type} (result : Except Value.Misuse α) : Except Failure α :=
  result.mapError .misuse

/-- Every artifact needs a name. -/
def Blueprint.requireName (b : Blueprint) : Except Failure Unit :=
  if Text.allBlank b.name then .error (.input (.blankName b.kind)) else .ok ()

end Groundwork
