import ReactorGen.Generated.Artifact
import ReactorGen.Generated.NativeSource
import ReactorGen.Json.Build
import ReactorGen.Json.Trigger
import ReactorGen.Package.Module

/-!
# Code of a federate

Every federate is generated on its own, from the classes that have an instance in
it and from these instances.  The target of the interpreter gets native code, a
module and a build; any other target gets only the initialization of triggers.
-/

namespace ReactorGen

namespace Program

/-- The base name of the files of a federate. -/
def topLevelName (program : Program) (baseName : String) (federate : Federate) :
    String :=
  if program.isFederated then baseName ++ "_" ++ federate.name else baseName

/-- The settings of a federate, which needs a thread that listens to others. -/
def federateSettings (program : Program) (settings : Settings) : Settings :=
  if program.isFederated then
    { settings with threads := if settings.threads = 0 then 1 else settings.threads }
  else settings

/-- The class of an instance that belongs to a federate. -/
def usedClass?
    (program : Program)
    (federate : Federate)
    (id : InstanceId) : Except Failure (Option ClassId) := do
  if ← federate.containsInstance program.tree id then
    let node ← program.tree.node id
    if node.reactorClass.index < program.classes.length then
      return some node.reactorClass
    else
      let path ← program.tree.fullName id
      throw (.fault (.unknownReactorClass path))
  else return none

/-- The classes that have an instance in a federate, in the order of
declaration. -/
def federateClasses (program : Program) (federate : Federate) :
    Except Failure (List ClassId) := do
  let listing ← program.tree.preorder
  let used ← listing.mapM (program.usedClass? federate)
  return ((List.range program.classes.length).map ClassId.mk).filter fun id =>
    used.contains (some id)

/-- What a class adds to the native code of a federate. -/
def classCode
    (program : Program)
    (settings : Settings)
    (federate : Federate)
    (id : ClassId) : Except Failure ClassCode := do
  let typeDefinitions ← program.typeDefinitions federate id
  let selfStruct ← program.selfStruct federate id
  let reactions ← program.reactionCode settings federate id selfStruct
  return ⟨typeDefinitions, selfStruct, reactions⟩

/-- Collect what a class adds to the native code of a federate. -/
def collectClass
    (program : Program)
    (settings : Settings)
    (federate : Federate)
    (id : ClassId) : Generation ClassCode := do
  let reactorClass ← Generation.ofExcept (program.classAt id)
  Generation.log .debug ("collecting reactor class " ++ reactorClass.name)
  Generation.ofExcept (program.classCode settings federate id)

/-- The blocks before the classes of the module: those of the program, those of
its classes, and what serializers import. -/
def modulePreamble
    (program : Program)
    (classes : List ClassId)
    (support : SerializationSupport) : Except DanglingReference (List String) := do
  let classes ← classes.mapM program.classAt
  return program.preambles ++ classes.flatMap (·.preambles) ++ support.modulePreamble

end Program

/-- The names and contents of the files of a federate. -/
def nativeArtifacts
    (topLevelName : String)
    (source : NativeSource)
    (module : PythonModule)
    (build : BuildDescriptor) : List Artifact := [
  .ofContents (topLevelName ++ ".c") source.text,
  .ofContents (topLevelName ++ ".py") module.text,
  .ofContents "setup.py" build.script,
  .ofContents "setup.json" build.jsonText
]

/-- The file that lists the triggers of a federate. -/
def triggerList (triggers : List TriggerMetadata) : Artifact :=
  .ofContents "triggers.json" (JsonFormat.write triggers).print

/-- The files that a federate has, with what its native code initializes. -/
structure FederateFiles where
  artifacts : List Artifact
  initialization : Initialization

namespace Program

/-- The files of a federate whose reactions run in the interpreter. -/
def interpreterFiles
    (program : Program)
    (environment : Environment)
    (federate : Federate)
    (topLevelName : String)
    (classes : List ClassId) : Generation FederateFiles := do
  let settings := environment.settings
  let support ← program.enableSerializers environment federate
  let code ← classes.mapM (program.collectClass settings federate)
  let preamble ← Generation.ofExcept (program.modulePreamble classes support)
  let initialization ← Generation.ofExcept (program.initialization federate true)
  let module ← Generation.ofExcept
    (program.pythonModule federate classes topLevelName preamble)
  let source : NativeSource := {
    preamble := nativePreamble settings program.isFederated program.federates.length
    serializerPreamble := support.nativePreamble
    classes := code
    initialization := initialization
  }
  let build := BuildDescriptor.ofSettings settings topLevelName
    support.requirements support.preBuild
  return ⟨nativeArtifacts topLevelName source module build, initialization⟩

/-- The files of a federate whose reactions are native. -/
def triggerFiles
    (program : Program)
    (federate : Federate)
    (topLevelName : String) : Generation FederateFiles := do
  let initialization ← Generation.ofExcept (program.initialization federate false)
  return ⟨
    [.ofContents (topLevelName ++ "_triggers.c") initialization.triggerSource],
    initialization⟩

/-- The files of a federate for the target of the settings. -/
def federateFiles
    (program : Program)
    (environment : Environment)
    (federate : Federate)
    (topLevelName : String) : Generation FederateFiles := do
  let classes ← Generation.ofExcept (program.federateClasses federate)
  if environment.settings.target = .python then
    program.interpreterFiles environment federate topLevelName classes
  else program.triggerFiles federate topLevelName

/-- Everything that is generated for a federate.  What was left out on the way is
reported with it. -/
def generateFederate
    (program : Program)
    (environment : Environment)
    (federate : Federate)
    (baseName : String) : Generation FederateArtifacts := do
  let topLevelName := program.topLevelName baseName federate
  let environment :=
    { environment with settings := program.federateSettings environment.settings }
  Generation.log .info ("generating federate " ++ topLevelName)
  let (files, warnings) ←
    (program.federateFiles environment federate topLevelName).withWarnings
  return {
    federate := federate.name
    topLevelName := topLevelName
    artifacts := files.artifacts ++ [triggerList files.initialization.triggers]
    triggers := files.initialization.triggers
    tokens := files.initialization.tokens
    diagnostics := .ofList warnings
  }

end Program
end ReactorGen
