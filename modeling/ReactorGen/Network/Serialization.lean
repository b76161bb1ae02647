import ReactorGen.Environment
import ReactorGen.Fault
import ReactorGen.Files.Path

/-!
# Serialization

Which serializer a connection between federates uses, and what the serializers
of a federate add to its code.  Without a request, values are sent in the
encoding of the target language, which is always there; protocol buffers need
files that describe them.
-/

namespace ReactorGen

/-- The tool that compiles descriptions of protocol buffers. -/
def protocolCompiler : String := "protoc"

/-- The package that protocol buffers need at run time. -/
def protocolRequirement : String := "google-api-python-client"

/-- The module that a description of protocol buffers is compiled to: the name of
the file without its extension. -/
def protocolModule (file : String) : String :=
  let name := (Path.fileName? file).getD file
  match Text.splitAtLast? '.' name with
  | some (stem, _) => if stem.isEmpty then name else stem
  | none => name

/-- What the serializers of a federate add to its code. -/
structure SerializationSupport where
  /-- The serializers in use. -/
  enabled : List Serializer
  /-- Lines at the start of the native code. -/
  nativePreamble : List String
  /-- Lines at the start of the module for the interpreter. -/
  modulePreamble : List String
  /-- Commands to run before the build. -/
  preBuild : List (List String)
  /-- Packages to install with the module. -/
  requirements : List String
deriving DecidableEq, Repr

/-- No serializers. -/
def SerializationSupport.empty : SerializationSupport := ⟨[], [], [], [], []⟩

namespace NetworkConnection

/-- Whether a federate sends or receives on the connection. -/
def concerns (connection : NetworkConnection) (federate : Federate) : Bool :=
  connection.sendingFederate = federate.id || connection.receivingFederate = federate.id

/-- The serializer that the connection asks for. -/
def requestedSerializer (connection : NetworkConnection) : Serializer :=
  connection.serializer.getD .native

end NetworkConnection

/-- Whether the settings give what a serializer needs. -/
def Settings.supportsSerializer (settings : Settings) : Serializer -> Bool
  | .native => true
  | .proto => !settings.protoFiles.isEmpty
  | .ros2 => false

namespace Program

/-- The sending end of a connection. -/
def senderName (program : Program) (connection : NetworkConnection) :
    Except DanglingReference String := do
  let federate ← program.federateAt connection.sendingFederate
  return federate.name ++ "." ++ connection.sendingPort.dotted

/-- The receiving end of a connection. -/
def receiverName (program : Program) (connection : NetworkConnection) :
    Except DanglingReference String := do
  let federate ← program.federateAt connection.receivingFederate
  return federate.name ++ "." ++ connection.receivingPort.dotted

/-- The serializer that a connection uses. -/
def resolveSerializer
    (program : Program)
    (settings : Settings)
    (connection : NetworkConnection) : Except Failure Serializer := do
  let serializer := connection.requestedSerializer
  if settings.supportsSerializer serializer then return serializer
  else
    let sender ← program.senderName connection
    let receiver ← program.receiverName connection
    throw (.fault (.missingSerializer serializer sender receiver))

/-- The connections that a federate sends or receives on. -/
def federateConnections (program : Program) (federate : Federate) :
    List NetworkConnection :=
  program.connections.filter (·.concerns federate)

/-- The serializers in use in a federate, each once in the order of declaration.
Protocol buffers are in use whenever files describe them. -/
def enabledSerializers
    (program : Program)
    (settings : Settings)
    (federate : Federate) : Except Failure (List Serializer) := do
  let used ← (program.federateConnections federate).mapM
    (program.resolveSerializer settings)
  return Serializer.all.filter fun serializer =>
    used.contains serializer || (serializer = .proto && !settings.protoFiles.isEmpty)

end Program

/-- The lines that the target language's own encoding needs. -/
def nativeEncodingPreamble : List String := [
  "// Values crossing a federate boundary are pickled.",
  "#define PYTHON_NATIVE_SERIALIZATION"
]

/-- The import of the module that a file is compiled to. -/
def protocolImport (file : String) : String :=
  let module := protocolModule file
  "import " ++ module ++ "_pb2 as " ++ module

/-- The path of a description of protocol buffers. -/
def Environment.protocolInput (environment : Environment) (file : String) : String :=
  match environment.sourceDirectory with
  | some directory => Path.join directory file
  | none => file

/-- What protocol buffers add to the code of a federate.  Without their compiler
nothing is built or installed for them. -/
def protocolSupport
    (environment : Environment)
    (support : SerializationSupport) : Generation SerializationSupport := do
  let files := environment.settings.protoFiles
  let imported := { support with modulePreamble := files.map protocolImport }
  match environment.tools protocolCompiler with
  | none =>
    Generation.event (.degradation .missingTool protocolCompiler
      "Processing .proto files requires libprotoc >= 3.6.1")
    return imported
  | some compiler =>
    let inputs := files.map environment.protocolInput
    for input in inputs do
      Generation.log .debug ("scheduling protoc for " ++ input)
    return { imported with
      preBuild := inputs.map fun input => [compiler, "--python_out=.", input]
      requirements := [protocolRequirement] }

/-- What the serializers of a federate add to its code. -/
def Program.enableSerializers
    (program : Program)
    (environment : Environment)
    (federate : Federate) : Generation SerializationSupport := do
  let enabled ← Generation.ofExcept
    (program.enabledSerializers environment.settings federate)
  let support : SerializationSupport := {
    enabled := enabled
    nativePreamble := if enabled.contains .native then nativeEncodingPreamble else []
    modulePreamble := []
    preBuild := []
    requirements := []
  }
  if enabled.contains .proto then protocolSupport environment support
  else return support

end ReactorGen
