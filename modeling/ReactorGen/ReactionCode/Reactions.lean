import ReactorGen.Network.Message
import ReactorGen.ReactionCode.Delay
import ReactorGen.ReactionCode.Function

/-!
# Reactions of a class

The functions of the reactions of a class.  Ordinary reactions call a method of
the interpreter.  The reactions of delayed connections and of the main reactor of
a federated program are native; those of the main reactor that have no body serve
the connections between federates.
-/

namespace ReactorGen

/-- The function that calls the method of a reaction. -/
def callingFunction
    (layout : SelfStruct)
    (bindings : List Binding)
    (name callable label : String) : ReactionFunction where
  name := name
  selfType := layout.typeName
  locals := bindings.flatMap Binding.locals
  body := .call ⟨callable, label, bindings.map Binding.argument⟩

/-- The functions that call the methods of a reaction. -/
def interpreterShim
    (reactorClass : ReactorClass)
    (layout : SelfStruct)
    (index : Nat) : Except Failure ReactionCode := do
  let reaction ← reactorClass.reaction index
  match layout.resolve reactorClass index reaction with
  | .error fault => throw (.fault fault)
  | .ok bindings =>
    return {
      reaction :=
        callingFunction layout bindings
          (Naming.reactionFunction reactorClass.name index)
          (Naming.reactionCallable index)
          ("reaction " ++ reactorClass.name ++ "." ++ Naming.reactionMethod index)
      deadline := reaction.deadline.map fun _ =>
        callingFunction layout bindings
          (Naming.deadlineFunction reactorClass.name index)
          (Naming.deadlineCallable index)
          ("deadline handler " ++ reactorClass.name ++ "." ++
            Naming.deadlineMethod index)
    }

/-- Whether a variable triggers a reaction. -/
def Reaction.triggeredBy (reaction : Reaction) (ref : VarRef) : Bool :=
  reaction.triggers.contains (.var ref)

namespace Program

/-- The first connection that a federate sends on when a reaction is triggered. -/
def sentBy?
    (program : Program)
    (federate : Federate)
    (reaction : Reaction) : Option NetworkConnection :=
  program.connections.find? fun connection =>
    connection.sendingFederate = federate.id &&
      reaction.triggeredBy connection.sendingPort

/-- The first connection whose messages to a federate trigger a reaction. -/
def receivedBy?
    (program : Program)
    (federate : Federate)
    (reaction : Reaction) : Option NetworkConnection :=
  program.connections.find? fun connection =>
    connection.receivingFederate = federate.id &&
      reaction.triggeredBy (.own connection.receivingAction)

/-- The body of a reaction of a federated main reactor.  A blank body is filled
with what the connection needs that the reaction serves, if it serves one. -/
def federatedBody
    (program : Program)
    (settings : Settings)
    (federate : Federate)
    (reaction : Reaction) : Except Failure String :=
  if !Text.isBlankText reaction.body then return reaction.body
  else
    match program.sentBy? federate reaction with
    | some connection => program.senderBody settings connection
    | none =>
      match program.receivedBy? federate reaction with
      | some connection => program.receiverBody settings connection
      | none => return ""

/-- Whether the reactions of a class are native. -/
def classIsNative (program : Program) (reactorClass : ReactorClass) : Bool :=
  reactorClass.isDelay || (reactorClass.isMain && program.isFederated)

/-- Whether the reactions of the class with the given id are native. -/
def isNative (program : Program) (id : ClassId) : Except DanglingReference Bool := do
  let reactorClass ← program.classAt id
  return program.classIsNative reactorClass

/-- The native functions of a reaction. -/
def nativeReaction
    (program : Program)
    (settings : Settings)
    (federate : Federate)
    (reactorClass : ReactorClass)
    (layout : SelfStruct)
    (index : Nat) : Except Failure ReactionCode := do
  let reaction ← reactorClass.reaction index
  match layout.resolve reactorClass index reaction with
  | .error fault => throw (.fault fault)
  | .ok bindings =>
    let body ←
      if reactorClass.isDelay then
        pure (reactorClass.delayedConnectionBody layout reaction)
      else program.federatedBody settings federate reaction
    let function (name source : String) : ReactionFunction :=
      ⟨name, layout.typeName, bindings.flatMap Binding.locals, .native source⟩
    return {
      reaction := function (Naming.reactionFunction reactorClass.name index) body
      deadline := reaction.deadline.map fun deadline =>
        function (Naming.deadlineFunction reactorClass.name index) deadline.body
    }

/-- The functions of every reaction of a class that a federate generates. -/
def reactionCode
    (program : Program)
    (settings : Settings)
    (federate : Federate)
    (id : ClassId)
    (layout : SelfStruct) : Except Failure (List ReactionCode) := do
  let reactorClass ← program.classAt id
  let positions ← program.classReactions federate id
  positions.mapM fun index =>
    if program.classIsNative reactorClass then
      program.nativeReaction settings federate reactorClass layout index
    else interpreterShim reactorClass layout index

end Program

/-- A statement that stores a method in the self struct of an instance. -/
structure MethodLink where
  /-- The variable that holds the self struct. -/
  selfVariable : String
  /-- The member that the method is stored in. -/
  callable : String
  /-- The position inside the bank. -/
  bankIndex : UInt64
  method : String
deriving DecidableEq, Repr

/-- The spelling of a statement. -/
def MethodLink.text (link : MethodLink) : String :=
  link.selfVariable ++ "->" ++ link.callable ++
    " = get_python_function(\"__main__\", " ++ link.selfVariable ++ "->" ++
    Member.instanceName.name ++ ", " ++ toString link.bankIndex ++ ", \"" ++
    link.method ++ "\");"

/-- The statements for one reaction. -/
def reactionLinks
    (selfVariable : String)
    (bankIndex : UInt64)
    (index : Nat)
    (reaction : Reaction) : List MethodLink :=
  ⟨selfVariable, Naming.reactionCallable index, bankIndex, Naming.reactionMethod index⟩ ::
    if reaction.deadline.isSome then
      [⟨selfVariable, Naming.deadlineCallable index, bankIndex,
        Naming.deadlineMethod index⟩]
    else []

/-- The statements that store the methods of an instance; native reactions have
none. -/
def Program.methodLinks (program : Program) (id : InstanceId) :
    Except DanglingReference (List MethodLink) := do
  let node ← program.tree.node id
  let reactorClass ← program.classAt node.reactorClass
  if program.classIsNative reactorClass then return []
  else
    let selfVariable ← Naming.selfVariable program.tree id
    return reactorClass.reactions.zipIdx.flatMap fun entry =>
      reactionLinks selfVariable node.bankIndex entry.2 entry.1

end ReactorGen
