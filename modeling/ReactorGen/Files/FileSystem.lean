import ReactorGen.Files.Path

/-!
# File systems

A file system is a table of files and directories, each at the location that
leads to it from the root.  Only the working directory and what lies in it can
be reached by relative paths that do not lead back; the working directory itself
has no name, so no absolute path leads into it.
-/

namespace ReactorGen

/-- What stands at a location. -/
inductive FileEntry
  | file (contents : String)
  | directory
deriving DecidableEq, Repr

/-- The names that lead from the root to an entry. -/
abbrev Location := List String

/-- Why an operation on files fails. -/
inductive FileError
  | notFound
  | exists
  | notDirectory
  | isDirectory
  | nameTooLong
  | zeroInName
deriving DecidableEq, Repr

/-- The wording of a file error. -/
def FileError.message : FileError -> String
  | notFound => "No such file or directory (os error 2)"
  | .exists => "File exists (os error 17)"
  | notDirectory => "Not a directory (os error 20)"
  | isDirectory => "Is a directory (os error 21)"
  | nameTooLong => "File name too long (os error 36)"
  | zeroInName => "file name contained an unexpected NUL byte"

/-- A table of files and directories. -/
structure FileSystem where
  /-- The entries in the order of their creation. -/
  entries : List (Location × FileEntry)
deriving DecidableEq, Repr

namespace FileSystem

/-- The location of the working directory. -/
def workingDirectory : Location := [""]

/-- A file system whose working directory is empty. -/
def empty : FileSystem :=
  ⟨[([], .directory), (workingDirectory, .directory)]⟩

/-- The entry at a location. -/
def lookup? (files : FileSystem) (location : Location) : Option FileEntry :=
  files.entries.lookup location

/-- Put an entry at a location, in place of the entry that may stand there. -/
def put (files : FileSystem) (location : Location) (entry : FileEntry) : FileSystem :=
  if (files.lookup? location).isSome then
    ⟨files.entries.map fun old => if old.1 = location then (location, entry) else old⟩
  else ⟨files.entries ++ [(location, entry)]⟩

/-- The longest name of an entry, in bytes. -/
def longestName : Nat := 255

/-- The length that a path has to stay below, in bytes. -/
def pathLimit : Nat := 4096

/-- Step from a directory along one part of a path. -/
def step (location : Location) (part : String) : Location :=
  if part == "" || part == "." then location
  else if part == ".." then location.dropLast
  else location ++ [part]

/-- The entry that a part of a path leads to from the entry at `location`, which
has to be a directory. -/
def descend
    (files : FileSystem)
    (location : Location)
    (part : String) : Except FileError (Location × FileEntry) :=
  match files.lookup? location with
  | none => .error .notFound
  | some (.file _) => .error .notDirectory
  | some .directory =>
    if longestName < part.utf8ByteSize then .error .nameTooLong
    else
      match files.lookup? (step location part) with
      | none => .error .notFound
      | some entry => .ok (step location part, entry)

/-- The entry that the parts of a path lead to from a location. -/
def walk
    (files : FileSystem)
    (location : Location) : List String -> Except FileError (Location × FileEntry)
  | [] =>
    match files.lookup? location with
    | none => .error .notFound
    | some entry => .ok (location, entry)
  | part :: rest => do
    let (next, _) ← files.descend location part
    files.walk next rest

/-- Where a path starts. -/
def start (path : String) : Location :=
  if Path.isAbsolute path then [] else workingDirectory

/-- What is wrong with the text of a path, wherever it leads. -/
def checkPath (path : String) : Except FileError Unit :=
  if path.toList.contains '\x00' then .error .zeroInName
  else if path.isEmpty then .error .notFound
  else if pathLimit ≤ path.utf8ByteSize then .error .nameTooLong
  else .ok ()

/-- The entry that a path leads to. -/
def find (files : FileSystem) (path : String) : Except FileError FileEntry := do
  checkPath path
  let (_, entry) ← files.walk (start path) (Text.split '/' path)
  return entry

/-- Whether a path leads to an entry. -/
def pathExists (files : FileSystem) (path : String) : Bool :=
  match files.find path with
  | .ok _ => true
  | .error _ => false

/-- Whether a path leads to a file. -/
def isFile (files : FileSystem) (path : String) : Bool :=
  match files.find path with
  | .ok (.file _) => true
  | _ => false

/-- Whether a path leads to a directory. -/
def isDirectory (files : FileSystem) (path : String) : Bool :=
  match files.find path with
  | .ok .directory => true
  | _ => false

/-- The parts of a path before and after the last slash that is not at the end of
the path. -/
def parentAndLast (path : String) : List String × String :=
  match ((Text.split '/' path).reverse.dropWhile (· == "")) with
  | [] => ([], "")
  | last :: before => (before.reverse, last)

/-- The location of the directory that holds the end of a path. -/
def findParent (files : FileSystem) (path : String) : Except FileError Location := do
  checkPath path
  let (location, entry) ← files.walk (start path) (parentAndLast path).1
  match entry with
  | .file _ => .error .notDirectory
  | .directory => .ok location

/-- Make a directory whose parent exists. -/
def makeDirectory (files : FileSystem) (path : String) :
    Except FileError FileSystem := do
  let parent ← files.findParent path
  let last := (parentAndLast path).2
  if last == "" || last == "." || last == ".." then .error .exists
  else if longestName < last.utf8ByteSize then .error .nameTooLong
  else if (files.lookup? (parent ++ [last])).isSome then .error .exists
  else .ok (files.put (parent ++ [last]) .directory)

/-- Write a file into a directory that exists. -/
def writeFile (files : FileSystem) (path contents : String) :
    Except FileError FileSystem := do
  let parent ← files.findParent path
  let last := (parentAndLast path).2
  if last == "" || last == "." || last == ".." || Path.endsInSlash path then
    .error .isDirectory
  else if longestName < last.utf8ByteSize then .error .nameTooLong
  else
    match files.lookup? (parent ++ [last]) with
    | some .directory => .error .isDirectory
    | _ => .ok (files.put (parent ++ [last]) (.file contents))

/-- Whether a part of a path leads nowhere. -/
def isIdle (part : String) : Bool :=
  part == "" || part == "."

/-- The path to the parent of what a path leads to: the last part that leads
anywhere is left out with everything idle around it. -/
def parentPath? (path : String) : Option String :=
  match (Text.split '/' path).reverse.dropWhile isIdle with
  | [] => none
  | _ :: before => some ("/".intercalate (before.dropWhile isIdle).reverse)

/-- Make a directory after the directories that lead to it, as far as they are
missing; the bound is on the number of these. -/
def makeDirectoriesWithin : Nat -> FileSystem -> String -> Except FileError FileSystem
  | 0, _, _ => .error .notFound
  | bound + 1, files, path =>
    if path.isEmpty then .ok files
    else
      match files.makeDirectory path with
      | .ok made => .ok made
      | .error error =>
        if error = .notFound then do
          let files ←
            match parentPath? path with
            | none => .error .notFound
            | some parent => makeDirectoriesWithin bound files parent
          match files.makeDirectory path with
          | .ok made => .ok made
          | .error error => if files.isDirectory path then .ok files else .error error
        else if files.isDirectory path then .ok files
        else .error error

/-- Make a directory with every directory that leads to it. -/
def makeDirectories (files : FileSystem) (path : String) :
    Except FileError FileSystem :=
  makeDirectoriesWithin (path.length + 1) files path

/-- A file system with one more directory, as far as it can be made. -/
def withDirectory (files : FileSystem) (path : String) : FileSystem :=
  match files.makeDirectories path with
  | .ok made => made
  | .error _ => files

/-- A file system with one more file and the directories that lead to it, as far
as they can be made. -/
def withFile (files : FileSystem) (path contents : String) : FileSystem :=
  let parent := files.withDirectory ((parentPath? path).getD "")
  match parent.writeFile path contents with
  | .ok written => written
  | .error _ => parent

/-- Every file in the working directory with its contents. -/
def workingFiles (files : FileSystem) : List (String × String) :=
  files.entries.filterMap fun (location, entry) =>
    match location, entry with
    | "" :: names@(_ :: _), .file contents => some ("/".intercalate names, contents)
    | _, _ => none

end FileSystem
end ReactorGen
