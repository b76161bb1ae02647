import ReactorGen.Files.FileSystem
import ReactorGen.Json.Generated
import ReactorGen.Json.Printer

/-!
# Output

Writing what was generated: the files of every federate go into a directory of
their own, with the manifest behind them.  Writing stops at the first failure;
what was written before it stays.
-/

namespace ReactorGen

/-- Why generated files could not be written. -/
structure OutputError where
  /-- The file or directory that could not be made. -/
  path : String
  cause : FileError
deriving DecidableEq, Repr

/-- The wording of an output error. -/
def OutputError.message (error : OutputError) : String :=
  "could not write '" ++ error.path ++ "': " ++ error.cause.message

/-- Where writing has got to. -/
structure OutputState where
  files : FileSystem
  /-- The paths that were written, in order. -/
  written : List String
deriving DecidableEq, Repr

/-- Writing, which keeps its state when it fails. -/
abbrev OutputM := ExceptT OutputError (StateT OutputState Report)

namespace OutputM

/-- Change the file system on behalf of a path. -/
def change
    (path : String)
    (operation : FileSystem -> Except FileError FileSystem) : OutputM Unit := do
  let state ← get
  match operation state.files with
  | .error cause => throw ⟨path, cause⟩
  | .ok files => set { state with files := files }

/-- Make a directory with every directory that leads to it. -/
def makeDirectories (path : String) : OutputM Unit :=
  change path fun files => files.makeDirectories path

/-- Write a file and note its path. -/
def writeFile (path contents : String) : OutputM Unit := do
  change path fun files => files.writeFile path contents
  modify fun state => { state with written := state.written ++ [path] }

end OutputM

/-- The name of the file that holds the manifest. -/
def manifestFile : String := "manifest.json"

/-- The manifest as JSON text. -/
def Manifest.text (manifest : Manifest) : String :=
  (JsonFormat.write manifest).print

namespace FederateArtifacts

/-- The directory of a federate: one of its own, unless it has no name. -/
def directory (generated : FederateArtifacts) (outputDirectory : String) : String :=
  if generated.federate.isEmpty then outputDirectory
  else Path.join outputDirectory generated.federate

/-- The files of a federate with the manifest, at their paths. -/
def outputFiles (generated : FederateArtifacts) (directory : String) :
    List (String × String) :=
  (generated.artifacts.map fun artifact =>
    (Path.join directory artifact.path, artifact.contents)) ++
    [(Path.join directory manifestFile, generated.manifest.text)]

/-- Write the files of a federate. -/
def writeTo (generated : FederateArtifacts) (outputDirectory : String) : OutputM Unit := do
  let directory := generated.directory outputDirectory
  OutputM.makeDirectories directory
  (generated.outputFiles directory).forM fun file => OutputM.writeFile file.1 file.2
  (Report.log .info
    ("wrote federate " ++ generated.topLevelName ++ " to " ++ directory) : Report Unit)

end FederateArtifacts

/-- Write everything that was generated. -/
def CompileResult.writeTo (result : CompileResult) (outputDirectory : String) :
    OutputM Unit :=
  result.generated.forM fun generated => generated.writeTo outputDirectory

end ReactorGen
