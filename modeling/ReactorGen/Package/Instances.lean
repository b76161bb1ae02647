import ReactorGen.Package.ClassCode

/-!
# Instances for the interpreter

The module for the interpreter makes one list for each bank of instances and puts
every instance of the federate into its place, in the order of the tree.
-/

namespace ReactorGen

/-- The source text of the value that a parameter has in an instance. -/
def ReactorInstance.parameterValue
    (node : ReactorInstance)
    (parameter : ParameterDecl) : String :=
  (node.parameterValues.lookup parameter.name).getD parameter.default

/-- The statement that makes an instance and puts it into its place. -/
structure Instantiation where
  /-- The path of the instance. -/
  path : String
  /-- The reactor class. -/
  reactorName : String
  /-- The list of the bank. -/
  list : String
  bankIndex : UInt64
  /-- The keyword arguments. -/
  keywords : List (String × String)
deriving DecidableEq, Repr

/-- Whether a bank can be long enough for the instance. -/
def Instantiation.hasPlace (instantiation : Instantiation) : Bool :=
  instantiation.bankIndex + 1 ≠ 0

/-- The statement with a comment. -/
def Instantiation.draft (instantiation : Instantiation) : Draft :=
  [
    .write ("# Start initializing " ++ instantiation.path ++ " of class " ++
      instantiation.reactorName),
    .write (instantiation.list ++ "[" ++ toString instantiation.bankIndex ++ "] = " ++
      PythonClass.nameOf instantiation.reactorName ++ "(")
  ] ++
  Draft.nested (instantiation.keywords.map fun (keyword, value) =>
    .write (keyword ++ " = " ++ value ++ ",")) ++
  [.write ")"]

/-- The lists and the instances of a module. -/
structure Instances where
  instantiations : List Instantiation
deriving DecidableEq, Repr

namespace Instances

/-- The lists, each once in the order of first use, with their lengths. -/
def lists (instances : Instances) : List (String × UInt64) :=
  ((instances.instantiations.map (·.list)).eraseDups).map fun list =>
    (list,
      ((instances.instantiations.filter (·.list == list)).map (·.bankIndex + 1)).foldl
        max 0)

/-- The statements in order. -/
def draft (instances : Instances) : Draft :=
  instances.lists.map (fun (list, length) =>
    .write (list ++ " = [None] * " ++ toString length)) ++
  instances.instantiations.flatMap Instantiation.draft

/-- The text of the statements. -/
def text (instances : Instances) : String :=
  instances.draft.text

end Instances

namespace Program

/-- The statement that makes an instance. -/
def instantiation
    (program : Program)
    (id : InstanceId) : Except DanglingReference Instantiation := do
  let node ← program.tree.node id
  let reactorClass ← program.classAt node.reactorClass
  let path ← program.tree.fullName id
  let list ← Naming.instanceList program.tree id
  return {
    path := path
    reactorName := reactorClass.name
    list := list
    bankIndex := node.bankIndex
    keywords :=
      (PythonClass.attributeOf "bank_index", toString node.bankIndex) ::
        reactorClass.parameters.map fun parameter =>
          (PythonClass.attributeOf (pythonName parameter.name),
            node.parameterValue parameter)
  }

/-- The instances of a federate, each before its children. -/
def federateInstances
    (program : Program)
    (federate : Federate) : Except DanglingReference (List InstanceId) := do
  let listing ← program.tree.preorder
  listing.filterM (federate.containsInstance program.tree)

/-- Whether the interpreter runs an instance. -/
def isInterpreted
    (program : Program)
    (id : InstanceId) : Except DanglingReference Bool := do
  let node ← program.tree.node id
  let native ← program.isNative node.reactorClass
  return !native

/-- The lists and the instances that a federate has in the interpreter.  A list is as
long as the last of its instances needs, and that has to be a number, too. -/
def pythonInstances
    (program : Program)
    (federate : Federate) : Except DanglingReference Instances := do
  let contained ← program.federateInstances federate
  let interpreted ← contained.filterM program.isInterpreted
  let instantiations ← interpreted.mapM program.instantiation
  if instantiations.all Instantiation.hasPlace then return ⟨instantiations⟩
  else throw .place

end Program
end ReactorGen
