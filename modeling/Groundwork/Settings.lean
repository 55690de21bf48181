import Groundwork.Path

/-!
# Settings

Where sources are kept in a project, and where templates come from. The defaults are those of a
Maven or Gradle project.
-/

namespace Groundwork

structure Settings where
  sourceRoot : String := "src/main/java"
  testSourceRoot : String := "src/test/java"
  sourceExtension : String := ".java"
  fallbackPackage : String := "com.example"
  entryPointSuffix : String := "Application"
  modelDirectories : List String := ["model", "entity", "domain"]
  templateDirectory : Option Path := none

/-- How the name of a file with the entry point ends. -/
def Settings.entryPointEnding (s : Settings) : String :=
  s.entryPointSuffix ++ s.sourceExtension

end Groundwork
