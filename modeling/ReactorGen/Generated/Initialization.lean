import ReactorGen.Package.Instances
import ReactorGen.Text.Integer
import ReactorGen.Trigger

/-!
# Initialization

The function of the native code that makes the self structs of a federate and
initializes their triggers.  Its steps stand in the order of the tree; a target
without self structs of its own has only the steps for triggers and tokens.
-/

namespace ReactorGen

/-- A step of initialization. -/
inductive InitStep
  /-- Say which instance comes next. -/
  | announce (path className : String)
  /-- Make the self struct of an instance of a class. -/
  | make (selfVariable className : String)
  /-- Tell the self struct where the interpreter keeps the instance. -/
  | nameInstance (selfVariable list : String)
  /-- Set a parameter. -/
  | setParameter (selfVariable name : String) (value : Int32)
  /-- Set offset, period and mode of a trigger. -/
  | setTrigger (metadata : TriggerMetadata)
  /-- Make the token of a trigger. -/
  | makeToken (initializer : TokenInitializer)
  /-- Store a method. -/
  | linkMethod (link : MethodLink)
deriving DecidableEq, Repr

/-- The statements of a step. -/
def InitStep.statements : InitStep -> List String
  | announce path className =>
    ["// ***** Start initializing " ++ path ++ " of class " ++ className]
  | make selfVariable className =>
    [Naming.selfType className ++ "* " ++ selfVariable ++ " = " ++
      Naming.constructor className ++ "();"]
  | nameInstance selfVariable list =>
    [selfVariable ++ "->" ++ Member.instanceName.name ++ " = \"" ++ list ++ "\";"]
  | setParameter selfVariable name value =>
    [selfVariable ++ "->" ++ name ++ " = " ++ toString value.toInt ++ ";"]
  | setTrigger metadata => metadata.initializer
  | makeToken initializer => [initializer.text]
  | linkMethod link => [link.text]

/-- The function that does the given steps. -/
def initializationFunction (steps : List InitStep) : String :=
  let lines := (steps.flatMap InitStep.statements).flatMap Text.lines
  "void _lf_initialize_trigger_objects() \x7b\n" ++
    String.join (lines.map fun line => "    " ++ line ++ "\n") ++ "\x7d"

/-- What initialization adds up to. -/
structure Initialization where
  steps : List InitStep
  /-- The triggers in the order of their initialization. -/
  triggers : List TriggerMetadata
  /-- The tokens in the order of their initialization. -/
  tokens : TokenTable
deriving DecidableEq, Repr

/-- Nothing to initialize. -/
def Initialization.empty : Initialization := ⟨[], [], .empty⟩

/-- The steps that make a self struct.  Only parameters that are integers have a
place in it. -/
def selfStructSteps
    (node : ReactorInstance)
    (reactorClass : ReactorClass)
    (selfVariable list : String) : List InitStep :=
  [
    .make selfVariable reactorClass.name,
    .nameInstance selfVariable list
  ] ++
  reactorClass.parameters.filterMap fun parameter =>
    (Text.integer? (node.parameterValue parameter)).map fun value =>
      .setParameter selfVariable parameter.name value

/-- Add the initialization of one instance.  The self struct is made, and methods
are stored, only where the reactor runs in the interpreter's target. -/
def Program.initializeInstance
    (program : Program)
    (federate : Federate)
    (withSelfStruct : Bool)
    (done : Initialization)
    (id : InstanceId) : Except Failure Initialization := do
  let node ← program.tree.node id
  let reactorClass ← program.classOf id
  let selfVariable ← Naming.selfVariable program.tree id
  let path ← program.tree.fullName id
  let list ← Naming.instanceList program.tree id
  let actions ← program.lowerActions federate id
  let timers ← program.lowerTimers federate id
  let (made, tokens) ← program.initializeTokens federate done.tokens id
  let links ← program.methodLinks id
  return {
    steps :=
      done.steps ++
      [.announce path reactorClass.name] ++
      (if withSelfStruct then selfStructSteps node reactorClass selfVariable list
        else []) ++
      (actions ++ timers).map .setTrigger ++
      made.map .makeToken ++
      (if withSelfStruct then links.map .linkMethod else [])
    triggers := done.triggers ++ actions ++ timers
    tokens := tokens
  }

/-- The initialization of every instance of a federate. -/
def Program.initialization
    (program : Program)
    (federate : Federate)
    (withSelfStruct : Bool) : Except Failure Initialization := do
  let instances ← program.federateInstances federate
  instances.foldlM (program.initializeInstance federate withSelfStruct) .empty

end ReactorGen
