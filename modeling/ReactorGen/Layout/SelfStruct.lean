import ReactorGen.Layout.Binding
import ReactorGen.Model.Program
import ReactorGen.Text.Lines

/-!
# Self structs

The self struct of a reactor class as a federate generates it: its members in
the order of their layout, the bindings through which reactions reach variables,
and what the constructor does.  Only the main reactor divides its actions and
reactions between federates.
-/

namespace ReactorGen

/-- A statement of a constructor. -/
inductive ConstructorStep
  /-- Number a reaction. -/
  | number (index : Nat)
  /-- Set the function of a reaction. -/
  | function (index : Nat) (name : String)
  /-- Set the owner of a reaction. -/
  | owner (index : Nat)
  /-- Set what runs when the deadline of a reaction is missed. -/
  | deadlineHandler (index : Nat) (name : String)
  /-- Connect an action with its trigger. -/
  | actionTrigger (name : String)
deriving DecidableEq, Repr

/-- The spelling of a statement. -/
def ConstructorStep.text : ConstructorStep -> String
  | number index =>
    "self->" ++ (Member.reaction index).name ++ ".number = " ++ toString index ++ ";"
  | function index name =>
    "self->" ++ (Member.reaction index).name ++ ".function = " ++ name ++ ";"
  | owner index => "self->" ++ (Member.reaction index).name ++ ".self = self;"
  | deadlineHandler index name =>
    "self->" ++ (Member.reaction index).name ++ ".deadline_violation_handler = " ++
      name ++ ";"
  | actionTrigger name =>
    "self->_lf_" ++ name ++ ".trigger = &self->" ++ (Member.trigger name).name ++ ";"

/-- The self struct of a reactor class. -/
structure SelfStruct where
  /-- The class. -/
  className : String
  /-- The members in the order of their layout. -/
  members : List Member
  /-- The bindings of the variables that reactions can reach. -/
  bindings : List Binding
  /-- What the constructor does after it has made the struct. -/
  constructor : List ConstructorStep
deriving DecidableEq, Repr

namespace SelfStruct

/-- The name of the struct type. -/
def typeName (layout : SelfStruct) : String :=
  Naming.selfType layout.className

/-- The binding of a variable. -/
def binding? (layout : SelfStruct) (ref : VarRef) : Option Binding :=
  layout.bindings.find? (·.variableName == ref.dotted)

/-- The type definition of the struct. -/
def declaration (layout : SelfStruct) : String :=
  let lines := layout.members.flatMap fun member => Text.lines member.declaration
  "typedef struct \x7b\n" ++
    String.join (lines.map fun line => "    " ++ line ++ "\n") ++
    "\x7d " ++ layout.typeName ++ ";"

/-- The definition of the constructor. -/
def constructorDefinition (layout : SelfStruct) : String :=
  let type := layout.typeName
  type ++ "* " ++ Naming.constructor layout.className ++ "() \x7b\n" ++
    "    " ++ type ++ "* self = (" ++ type ++ "*)_lf_new_reactor(sizeof(" ++
      type ++ "));\n" ++
    String.join (layout.constructor.map fun step => "    " ++ step.text ++ "\n") ++
    "    return self;\n\x7d"

end SelfStruct

/-- The struct behind a port, by whether its values travel in tokens. -/
def PortDecl.genericType (port : PortDecl) : String :=
  if port.isToken then "generic_port_instance_with_token_struct"
  else "generic_port_instance_struct"

/-- The struct behind an action. -/
def genericActionType : String := "generic_action_instance_struct"

/-- The definition of one type as another. -/
def typeDefinition (existing name : String) : String :=
  "typedef " ++ existing ++ " " ++ name ++ ";"

namespace Program

/-- The class of the main reactor. -/
def rootClass (program : Program) : Except DanglingReference ClassId := do
  let node ← program.tree.node ReactorTree.root
  return node.reactorClass

/-- Whether a federate generates an action of a class. -/
def classContainsAction
    (program : Program)
    (federate : Federate)
    (id : ClassId)
    (name : String) : Except DanglingReference Bool := do
  if (← program.rootClass) = id then
    federate.containsAction program.tree ReactorTree.root name
  else return true

/-- The actions of a class that a federate generates. -/
def classActions
    (program : Program)
    (federate : Federate)
    (id : ClassId) : Except DanglingReference (List ActionDecl) := do
  let reactorClass ← program.classAt id
  reactorClass.actions.filterM fun action =>
    program.classContainsAction federate id action.name

/-- The positions of the reactions of a class that a federate generates. -/
def classReactions
    (program : Program)
    (federate : Federate)
    (id : ClassId) : Except DanglingReference (List Nat) := do
  let root ← program.rootClass
  let reactorClass ← program.classAt id
  (List.range reactorClass.reactions.length).filterM fun index =>
    if root = id then federate.containsReaction program.tree ReactorTree.root index
    else return true

/-- The type definitions of the inputs, outputs and actions of a class. -/
def typeDefinitions
    (program : Program)
    (federate : Federate)
    (id : ClassId) : Except DanglingReference (List String) := do
  let reactorClass ← program.classAt id
  let actions ← program.classActions federate id
  let typeName := Naming.aliasType reactorClass.name
  return (reactorClass.inputs ++ reactorClass.outputs).map (fun port =>
      typeDefinition port.genericType (typeName port.name)) ++
    actions.map fun action => typeDefinition genericActionType (typeName action.name)

/-- The class of the first child called `container` of an instance of a class. -/
def containedClass?
    (program : Program)
    (id : ClassId)
    (container : String) : Except DanglingReference (Option ReactorClass) := do
  let listing ← program.tree.preorder
  let nodes ← listing.mapM program.tree.node
  let owners := nodes.filter (·.reactorClass = id)
  let children ← (owners.flatMap (·.children)).mapM program.tree.node
  match children.find? (·.name == container) with
  | none => return none
  | some child => some <$> program.classAt child.reactorClass

end Program

/-- The expression for a member of the self struct of a reaction. -/
def selfMember (name : String) : String := "self->" ++ name

namespace ReactorClass

/-- The type of a port or an action of a class. -/
def aliasType (reactorClass : ReactorClass) (name : String) : NativeType :=
  .named (Naming.aliasType reactorClass.name name)

/-- The members of a port whose single form has the given type; a multiport is an
array with a width beside it. -/
def portMembers
    (reactorClass : ReactorClass)
    (single : NativeType)
    (port : PortDecl) : List Member :=
  let typeName := reactorClass.aliasType port.name
  match port.width with
  | some _ => [.port (.pointer (.pointer typeName)) port.name, .width port.name]
  | none => [.port single port.name]

/-- The members of an input, which others own. -/
def inputMembers (reactorClass : ReactorClass) (input : PortDecl) : List Member :=
  reactorClass.portMembers (.pointer (reactorClass.aliasType input.name)) input ++
    [.trigger input.name]

/-- The members of an output. -/
def outputMembers (reactorClass : ReactorClass) (output : PortDecl) : List Member :=
  reactorClass.portMembers (reactorClass.aliasType output.name) output

/-- The binding of a port of the class itself. -/
def portBinding
    (reactorClass : ReactorClass)
    (kind : BindingKind)
    (port : PortDecl) : Binding where
  variableName := port.name
  kind := kind
  type := Naming.aliasType reactorClass.name port.name
  access := selfMember ("_lf_" ++ port.name)
  width := port.width.map fun _ => selfMember (Member.width port.name).name

/-- The binding of an action of the class. -/
def actionBinding (reactorClass : ReactorClass) (action : ActionDecl) : Binding where
  variableName := action.name
  kind := .action
  type := Naming.aliasType reactorClass.name action.name
  access := selfMember ("_lf_" ++ action.name)
  width := none

/-- The constructor's part for a reaction. -/
def reactionSteps
    (reactorClass : ReactorClass)
    (index : Nat)
    (reaction : Reaction) : List ConstructorStep :=
  [
    .number index,
    .function index (Naming.reactionFunction reactorClass.name index),
    .owner index
  ] ++
  if reaction.deadline.isSome then
    [.deadlineHandler index (Naming.deadlineFunction reactorClass.name index)]
  else []

/-- The members for what the interpreter runs as a reaction. -/
def callableMembers (index : Nat) (reaction : Reaction) : List Member :=
  .callable (Naming.reactionCallable index) ::
    if reaction.deadline.isSome then [.callable (Naming.deadlineCallable index)]
    else []

/-- The reactions at the given positions, each with its position. -/
def reactionsAt (reactorClass : ReactorClass) (positions : List Nat) :
    List (Nat × Reaction) :=
  positions.filterMap fun index =>
    (reactorClass.reactions[index]?).map fun reaction => (index, reaction)

end ReactorClass

/-- The members of actions whose types `typeOf` gives. -/
def actionMembers (typeOf : String -> NativeType) (actions : List ActionDecl) :
    List Member :=
  actions.map fun action => .port (typeOf action.name) action.name

/-- The constructor's part for actions. -/
def actionSteps (actions : List ActionDecl) : List ConstructorStep :=
  actions.map fun action => .actionTrigger action.name

/-- The ports of a container that reactions use. -/
structure UsedContainer where
  name : String
  ports : List String
deriving DecidableEq, Repr

/-- The containers among references, each once with the ports that are used of it,
in the order of first use. -/
def usedContainers (references : List VarRef) : List UsedContainer :=
  (references.filterMap (·.container)).eraseDups.map fun container =>
    ⟨container,
      ((references.filter (·.container == some container)).map (·.name)).eraseDups⟩

/-- The bindings of the used ports that the class of a container declares. -/
def UsedContainer.bindings
    (used : UsedContainer)
    (child : ReactorClass) : List Binding :=
  used.ports.filterMap fun name =>
    (child.port? name).map fun port => {
      variableName := used.name ++ "." ++ name
      kind := .containedPort
      type := Naming.aliasType child.name port.name
      access := selfMember ("_lf_" ++ used.name ++ "." ++ name)
      width := none
    }

/-- The nested struct of the used ports that the class of a container declares. -/
def UsedContainer.member (used : UsedContainer) (child : ReactorClass) : Member :=
  .container used.name
    (used.ports.filterMap fun name =>
      (child.port? name).map fun port =>
        ⟨.pointer (child.aliasType port.name), name⟩)

namespace Program

/-- The used containers that some instance of a class has, each with the class of
the contained reactor. -/
def resolveContainers
    (program : Program)
    (id : ClassId)
    (used : List UsedContainer) :
    Except DanglingReference (List (UsedContainer × ReactorClass)) := do
  let resolved ← used.mapM fun container => do
    let child ← program.containedClass? id container.name
    return child.map fun child => (container, child)
  return resolved.filterMap (fun entry => entry)

/-- The self struct of a class as a federate generates it. -/
def selfStruct
    (program : Program)
    (federate : Federate)
    (id : ClassId) : Except DanglingReference SelfStruct := do
  let reactorClass ← program.classAt id
  let actions ← program.classActions federate id
  let positions ← program.classReactions federate id
  let reactions := reactorClass.reactionsAt positions
  let used := usedContainers (reactions.flatMap fun entry => entry.2.variables)
  let containers ← program.resolveContainers id used
  return {
    className := reactorClass.name
    members :=
      [.base, .instanceName] ++
      reactorClass.parameters.map (fun parameter => .parameter parameter.name) ++
      reactorClass.inputs.flatMap reactorClass.inputMembers ++
      reactorClass.outputs.flatMap reactorClass.outputMembers ++
      actionMembers reactorClass.aliasType actions ++
      actions.map (fun action => .trigger action.name) ++
      reactorClass.timers.map .trigger ++
      containers.map (fun entry => entry.1.member entry.2) ++
      reactions.map (fun entry => .reaction entry.1) ++
      (if reactorClass.modes.isEmpty then [] else [.modes reactorClass.modes.length]) ++
      (reactorClass.reactions.zipIdx.flatMap fun entry =>
        ReactorClass.callableMembers entry.2 entry.1)
    bindings :=
      reactorClass.inputs.map (reactorClass.portBinding .input) ++
      reactorClass.outputs.map (reactorClass.portBinding .output) ++
      actions.map reactorClass.actionBinding ++
      containers.flatMap fun entry => entry.1.bindings entry.2
    constructor :=
      (reactions.flatMap fun entry => reactorClass.reactionSteps entry.1 entry.2) ++
      actionSteps actions
  }

end Program
end ReactorGen
