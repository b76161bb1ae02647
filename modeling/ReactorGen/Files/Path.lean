import ReactorGen.Text.Pattern

/-!
# Paths

A path is a text whose parts are separated by slashes.  Empty parts and parts
that are one dot lead nowhere; a path that starts with a slash starts at the
root of the file system and not at the working directory.
-/

namespace ReactorGen
namespace Path

/-- Whether a path starts at the root of the file system. -/
def isAbsolute (path : String) : Bool :=
  path.toList.head? == some '/'

/-- Whether a path says by its last slash that it leads to a directory. -/
def endsInSlash (path : String) : Bool :=
  path.toList.getLast? == some '/'

/-- The path that leads on from `base`.  An absolute path replaces the base, and
an empty one only makes the base end in a slash. -/
def join (base path : String) : String :=
  if isAbsolute path then path
  else if base.isEmpty || endsInSlash base then base ++ path
  else base ++ "/" ++ path

/-- The parts of a path that lead anywhere. -/
def parts (path : String) : List String :=
  (Text.split '/' path).filter fun part => part != "" && part != "."

/-- The last part of a path, unless it has none or leads back at its end. -/
def fileName? (path : String) : Option String :=
  match (parts path).getLast? with
  | none => none
  | some part => if part == ".." then none else some part

@[simp] theorem join_empty (path : String) : join "" path = path := by
  unfold join
  split <;> simp

end Path
end ReactorGen
