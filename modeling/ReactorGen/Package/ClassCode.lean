import ReactorGen.Draft
import ReactorGen.ReactionCode.Reactions
import ReactorGen.Target
import ReactorGen.Text.Dedent

/-!
# Classes for the interpreter

The class that stands for a reactor class in the interpreter: its parameters with
their defaults, its state, and a method for every reaction and every deadline.  A
method takes the variables of its reaction; those of contained reactors are
gathered into one object for each container before the body runs.
-/

namespace ReactorGen

/-- A name of the program as an identifier of the interpreter. -/
def pythonName (name : String) : String :=
  Target.python.sanitize name

/-- A statement that gathers the variables of a contained reactor. -/
inductive GatherStep
  /-- Make the object that stands for a container. -/
  | make (container : String)
  /-- Store a parameter of the method as an attribute of the object. -/
  | store (container field parameter : String)
deriving DecidableEq, Repr

/-- The spelling of a statement. -/
def GatherStep.text : GatherStep -> String
  | make container => container ++ " = Make()"
  | store container field parameter =>
    container ++ "." ++ field ++ " = " ++ parameter

/-- A method that runs a reaction or handles a missed deadline. -/
structure ReactionMethod where
  name : String
  /-- The parameters after the instance. -/
  parameters : List String
  /-- What runs before the body. -/
  gathering : List GatherStep
  /-- The body as it is written. -/
  body : String
deriving DecidableEq, Repr

/-- The definition of a method. -/
def ReactionMethod.draft (method : ReactionMethod) : Draft :=
  let body := Text.dedent method.body
  .write ("def " ++ method.name ++ "(" ++
    ", ".intercalate ("self" :: method.parameters) ++ "):") ::
  Draft.nested (
    .writeAll (method.gathering.map GatherStep.text) ::
    (if Text.isBlankText body then [] else [.write body]) ++
    [.write "return 0"])

/-- The parameter that stands for a variable of a reaction. -/
def VarRef.parameter (ref : VarRef) : String :=
  pythonName ref.flat

/-- What one variable adds to the statements before the body.  The object of a
container is made when the first of its variables comes up. -/
def gatherVariable (seen : List VarRef) (ref : VarRef) : List GatherStep :=
  match ref.container with
  | none => []
  | some container =>
    (if seen.any (·.container == some container) then []
      else [.make (pythonName container)]) ++
    [.store (pythonName container) ref.name ref.parameter]

/-- The statements before the body for the variables after those in `seen`. -/
def gatherAfter (seen : List VarRef) : List VarRef -> List GatherStep
  | [] => []
  | ref :: rest => gatherVariable seen ref ++ gatherAfter (seen ++ [ref]) rest

/-- The methods of a reaction. -/
def Reaction.methods (index : Nat) (reaction : Reaction) : List ReactionMethod :=
  let parameters := reaction.variables.map VarRef.parameter
  let gathering := gatherAfter [] reaction.variables
  ⟨Naming.reactionMethod index, parameters, gathering, reaction.body⟩ ::
    match reaction.deadline with
    | none => []
    | some deadline =>
      [⟨Naming.deadlineMethod index, parameters, gathering, deadline.body⟩]

/-- The class that stands for a reactor class. -/
structure PythonClass where
  /-- The reactor class. -/
  reactorName : String
  /-- The parameters with their defaults. -/
  parameters : List (String × String)
  /-- The state variables with their initial values. -/
  stateVars : List (String × String)
  methods : List ReactionMethod
deriving DecidableEq, Repr

namespace PythonClass

/-- The name of the class that stands for a reactor class. -/
def nameOf (reactorName : String) : String :=
  "_" ++ reactorName

/-- The attribute that holds a parameter. -/
def attributeOf (parameter : String) : String :=
  "_" ++ parameter

/-- The class that stands for a reactor class; native reactions have no methods. -/
def ofReactorClass (reactorClass : ReactorClass) (native : Bool) : PythonClass where
  reactorName := reactorClass.name
  parameters := reactorClass.parameters.map fun parameter =>
    (pythonName parameter.name, parameter.default)
  stateVars := reactorClass.stateVars.map fun state =>
    (pythonName state.name, state.init.getD "None")
  methods :=
    if native then []
    else reactorClass.reactions.zipIdx.flatMap fun entry => entry.1.methods entry.2

/-- The definition of the constructor. -/
def constructorDraft (pythonClass : PythonClass) : Draft :=
  [
    .write "# Constructor",
    .write "def __init__(self, **kwargs):"
  ] ++
  Draft.nested (
    [
      .write "# Define parameters and their default values",
      .write ("self." ++ attributeOf "bank_index" ++ " = 0")
    ] ++
    pythonClass.parameters.map (fun (name, default) =>
      .write ("self." ++ attributeOf name ++ " = " ++ default)) ++
    [
      .write "# Handle parameters that are set in instantiation",
      .write "self.__dict__.update(kwargs)"
    ] ++
    (if pythonClass.stateVars.isEmpty then []
      else [.write "# Define state variables"]) ++
    pythonClass.stateVars.map fun (name, init) =>
      .write ("self." ++ name ++ " = " ++ init))

/-- The definition of the property that reads a parameter. -/
def propertyDraft (parameter : String) : Draft :=
  [
    .write "@property",
    .write ("def " ++ parameter ++ "(self):")
  ] ++
  Draft.nested [
    .write ("return self." ++ attributeOf parameter ++ " # pylint: disable=no-member")
  ] ++
  [.blank]

/-- The definition of the class. -/
def draft (pythonClass : PythonClass) : Draft :=
  [
    .write ("# Python class for reactor " ++ pythonClass.reactorName),
    .write ("class " ++ nameOf pythonClass.reactorName ++ ":")
  ] ++
  Draft.nested (
    pythonClass.constructorDraft ++ [.blank] ++
    pythonClass.parameters.flatMap (fun parameter => propertyDraft parameter.1) ++
    pythonClass.methods.flatMap fun method => method.draft ++ [.blank])

/-- The text of the class. -/
def text (pythonClass : PythonClass) : String :=
  pythonClass.draft.text

end PythonClass

/-- The class that stands for the reactor class with the given id. -/
def Program.pythonClass (program : Program) (id : ClassId) :
    Except DanglingReference PythonClass := do
  let reactorClass ← program.classAt id
  return .ofReactorClass reactorClass (program.classIsNative reactorClass)

end ReactorGen
