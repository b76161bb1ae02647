import ReactorGen.Files.FileSystem

/-!
# Looking up tools

Where an external tool is installed: in the first directory of a search path
that holds a file of its name, or wherever a fixed table says.
-/

namespace ReactorGen

/-- A way to find out where a tool is installed. -/
abbrev ToolLocator := String -> Option String

namespace ToolLocator

/-- Look a tool up in the directories of a search path, which are separated by
colons.  Without a search path nothing is found. -/
def ofSearchPath (files : FileSystem) (searchPath : Option String) : ToolLocator :=
  fun tool => do
    let searchPath ← searchPath
    let candidates := (Text.split ':' searchPath).map fun directory =>
      Path.join directory tool
    candidates.find? files.isFile

/-- Look a tool up in a table; a later entry overrides an earlier one. -/
def ofTable (table : List (String × String)) : ToolLocator :=
  fun tool => table.reverse.lookup tool

end ToolLocator

/-- Whether a property value names a file, relative to the source directory if
there is one. -/
def FileSystem.sourceExists
    (files : FileSystem)
    (sourceDirectory : Option String)
    (path : String) : Bool :=
  match sourceDirectory with
  | none => files.pathExists path
  | some directory => files.pathExists (Path.join directory path)

end ReactorGen
