import ReactorGen.Files.Search
import ReactorGen.Settings

/-!
# Environments

What generation reads besides the program: the settings, the installed tools and
the directory that relative paths of the program start from.
-/

namespace ReactorGen

/-- What generation reads besides the program. -/
structure Environment where
  settings : Settings
  tools : ToolLocator
  /-- Where relative paths of the program start, if that is known. -/
  sourceDirectory : Option String

end ReactorGen
