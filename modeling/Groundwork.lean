import Groundwork.Field.Annotation
import Groundwork.Field.Imports
import Groundwork.Main
import Groundwork.Proofs.Tree.Growth
import Groundwork.Proofs.Tree.Making
import Groundwork.Proofs.Run
import Groundwork.Proofs.Generate.Account
import Groundwork.Proofs.Generate.Output
import Groundwork.Proofs.Generate.Writing
import Groundwork.Proofs.Patch
import Groundwork.Proofs.Generate.NoClobber
import Groundwork.Proofs.Generate.Operation
import Groundwork.Proofs.Settled
import Groundwork.Proofs.Tree.Ending
import Groundwork.Proofs.Generate.Patches
import Groundwork.Proofs.Generate.AtRest
import Groundwork.Proofs.Generate.Idempotent
import Groundwork.Proofs.Package.Detection
import Groundwork.Proofs.Console.Markup
import Groundwork.Proofs.Report
import Groundwork.Proofs.Request
import Groundwork.Proofs.Command
import Groundwork.Proofs.Program
import Groundwork.Proofs.Package.Stability
import Groundwork.Proofs.Path
import Groundwork.Proofs.Tree.Places
import Groundwork.Proofs.Generate.Filling
import Groundwork.Proofs.Name
import Groundwork.Proofs.Package.NewProject
import Groundwork.Proofs.Template.Print
import Groundwork.Proofs.Template.Scan
import Groundwork.Proofs.Sheet
import Groundwork.Proofs.Template.Heading
import Groundwork.Proofs.Generate.Placement
import Groundwork.Proofs.Template.Imports
import Groundwork.Proofs.Text.Imports
import Groundwork.Proofs.Generate.Lookups
import Groundwork.Proofs.Suite.Sheets
import Groundwork.Proofs.Suite.Texts
import Groundwork.Proofs.Suite.Places
import Groundwork.Proofs.Suite.Closure
import Groundwork.Proofs.Suite.AnyOrder
import Groundwork.Proofs.Package.OneBase
import Groundwork.Proofs.Splice
import Groundwork.Proofs.Insertion
import Groundwork.Proofs.Boundary
import Groundwork.Proofs.Generate.Rendering
import Groundwork.Proofs.Template.Forms
import Groundwork.Proofs.Generate.Unfailing
import Groundwork.Proofs.Text.Standing
import Groundwork.Proofs.Generate.Declaring
import Groundwork.Proofs.Generate.Amending
import Groundwork.Proofs.Text.Elements
import Groundwork.Proofs.Generate.BuildFile
import Groundwork.Proofs.Generate.Libraries
import Groundwork.Proofs.Generate.Securing
import Groundwork.Proofs.Template.Inline
import Groundwork.Proofs.Generate.Reordering
import Groundwork.Proofs.Generate.Agreement
import Groundwork.Proofs.Value
import Groundwork.Proofs.Origin
import Groundwork.Proofs.Printed
import Groundwork.Proofs.Text.Braces
import Groundwork.Proofs.Template.Follow
import Groundwork.Proofs.Generate.Balance
import Groundwork.Proofs.Template.Yields
import Groundwork.Proofs.Generate.ModelText
import Groundwork.Proofs.Generate.Members
import Groundwork.Proofs.Generate.Literals
import Groundwork.Proofs.Template.Calls
import Groundwork.Proofs.Generate.Methods
import Groundwork.Proofs.Text.Document
import Groundwork.Proofs.Generate.ProjectDocument
import Groundwork.Proofs.Containment
import Groundwork.Proofs.Creation
import Groundwork.Proofs.Generate.FieldSection
import Groundwork.Proofs.Field.Grouping
import Groundwork.Proofs.Generate.ImportLines
import Groundwork.Proofs.Generate.ProjectNames
import Groundwork.Proofs.Blueprint
import Groundwork.Proofs.Generate.SwitchedOff
import Groundwork.Proofs.Field.Pattern
import Groundwork.Proofs.Generate.ServedModel
import Groundwork.Proofs.Generate.MainClass
import Groundwork.Proofs.Generate.BasePath
import Groundwork.Proofs.Generate.OptionalImport
import Groundwork.Proofs.Template.Listing
import Groundwork.Proofs.Name.Table
