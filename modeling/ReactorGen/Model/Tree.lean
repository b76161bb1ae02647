import ReactorGen.Model.Declaration
import ReactorGen.Model.Reference
import ReactorGen.Span
import ReactorGen.Time

/-!
# The instance tree

Every reactor instance of a program stands in one table, the main reactor first,
and names its parent and its children by position.  Modes stand in a table of
their own; a reactor lists the modes it owns.

Paths towards the root and listings towards the leaves are bounded by the number
of instances, which no path without repetition exceeds.
-/

namespace ReactorGen

/-- An action of a reactor instance with its timing. -/
structure ActionInstance where
  name : String
  /-- The least delay of a scheduled event. -/
  minDelay : TimeValue
  /-- The least spacing of two events, if one was given. -/
  minSpacing : Option TimeValue
  /-- Whether the action is the end of execution. -/
  isShutdown : Bool
  /-- The mode that the action is bound to. -/
  mode : Option ModeId
  /-- Whether the payload travels in a token. -/
  isToken : Bool
  /-- The type of the payload. -/
  payloadType : Option TypeName
  span : Option Span
deriving DecidableEq, Repr

namespace ActionInstance

/-- An action without payload, spacing or mode. -/
def ofName (name : String) (minDelay : TimeValue) : ActionInstance :=
  ⟨name, minDelay, none, false, none, false, none, none⟩

/-- The instance of a declared action. -/
def ofDecl (action : ActionDecl) (minDelay : TimeValue) : ActionInstance :=
  { ofName action.name minDelay with
    isToken := action.isToken
    payloadType := action.type }

/-- The action with a least spacing. -/
def withMinSpacing (action : ActionInstance) (spacing : TimeValue) : ActionInstance :=
  { action with minSpacing := some spacing }

/-- The action bound to a mode. -/
def inMode (action : ActionInstance) (mode : ModeId) : ActionInstance :=
  { action with mode := some mode }

/-- The action with a payload that travels in a token. -/
def withTokenPayload (action : ActionInstance) (type : TypeName) : ActionInstance :=
  { action with isToken := true, payloadType := some type }

end ActionInstance

/-- A timer of a reactor instance. -/
structure TimerInstance where
  name : String
  /-- When the timer first fires. -/
  offset : TimeValue
  /-- How often it fires after that; a timer without period fires once. -/
  period : Option TimeValue
  /-- The mode that the timer is bound to. -/
  mode : Option ModeId
deriving DecidableEq, Repr

/-- A mode of a reactor instance. -/
structure ModeInstance where
  name : String
  /-- The reactor that declares the mode. -/
  owner : InstanceId
deriving DecidableEq, Repr

/-- A reactor instance. -/
structure ReactorInstance where
  name : String
  reactorClass : ClassId
  parent : Option InstanceId
  children : List InstanceId
  actions : List ActionInstance
  timers : List TimerInstance
  /-- The modes of this reactor in the order of their declaration. -/
  modes : List ModeId
  /-- Parameter values given at instantiation, as source text. -/
  parameterValues : List (String × String)
  /-- The position inside a bank of instances. -/
  bankIndex : UInt64
deriving DecidableEq, Repr

/-- An instance that holds nothing yet. -/
def ReactorInstance.ofName
    (name : String)
    (reactorClass : ClassId)
    (parent : Option InstanceId) : ReactorInstance :=
  ⟨name, reactorClass, parent, [], [], [], [], [], 0⟩

/-- Every instance and every mode of a program. -/
structure ReactorTree where
  instances : List ReactorInstance
  modes : List ModeInstance
deriving DecidableEq, Repr

namespace ReactorTree

/-- The tree that holds only the main reactor. -/
def ofRoot (name : String) (reactorClass : ClassId) : ReactorTree :=
  ⟨[.ofName name reactorClass none], []⟩

/-- The main reactor. -/
def root : InstanceId := ⟨0⟩

/-- How many instances there are. -/
def size (tree : ReactorTree) : Nat :=
  tree.instances.length

/-- The instance with the given id. -/
def node (tree : ReactorTree) (id : InstanceId) :
    Except DanglingReference ReactorInstance :=
  orDangling (.reactor id) tree.instances[id.index]?

/-- The mode with the given id. -/
def mode (tree : ReactorTree) (id : ModeId) :
    Except DanglingReference ModeInstance :=
  orDangling (.mode id) tree.modes[id.index]?

/-- Add an instance as the last child of `parent`.  The new instance takes its
place before its parent is looked up. -/
def addChild
    (tree : ReactorTree)
    (parent : InstanceId)
    (name : String)
    (reactorClass : ClassId) : Except DanglingReference (InstanceId × ReactorTree) :=
  let id : InstanceId := ⟨tree.size⟩
  let instances := tree.instances ++ [.ofName name reactorClass (some parent)]
  if parent.index < instances.length then
    .ok (id,
      { tree with
        instances := instances.modify parent.index fun node =>
          { node with children := node.children ++ [id] } })
  else .error (.reactor parent)

/-- Add a mode at the end of the modes of `owner`. -/
def addMode
    (tree : ReactorTree)
    (owner : InstanceId)
    (name : String) : Except DanglingReference (ModeId × ReactorTree) :=
  let id : ModeId := ⟨tree.modes.length⟩
  if owner.index < tree.size then
    .ok (id,
      { instances := tree.instances.modify owner.index fun node =>
          { node with modes := node.modes ++ [id] }
        modes := tree.modes ++ [⟨name, owner⟩] })
  else .error (.reactor owner)

/-- Replace the bank index of an instance, which counts in 64 bits. -/
def setBankIndex
    (tree : ReactorTree)
    (id : InstanceId)
    (bankIndex : Nat) : Except DanglingReference ReactorTree :=
  if id.index < tree.size then
    .ok { tree with
      instances := tree.instances.modify id.index fun node =>
        { node with bankIndex := .ofNat bankIndex } }
  else .error (.reactor id)

/-- The position of a mode among the modes of its owner. -/
def modeIndex? (tree : ReactorTree) (id : ModeId) : Option Nat := do
  let mode ← tree.modes[id.index]?
  let owner ← tree.instances[mode.owner.index]?
  owner.modes.idxOf? id

/-- The instances from `id` up to the root, as far as the bound allows. -/
def ancestryWithin (tree : ReactorTree) :
    Nat -> InstanceId -> Except DanglingReference (List (InstanceId × ReactorInstance))
  | 0, id => .error (.cycle id)
  | bound + 1, id => do
    let node ← tree.node id
    match node.parent with
    | none => return [(id, node)]
    | some parent => return (id, node) :: (← tree.ancestryWithin bound parent)

/-- The instance and its ancestors, the root last. -/
def ancestry (tree : ReactorTree) (id : InstanceId) :
    Except DanglingReference (List (InstanceId × ReactorInstance)) :=
  tree.ancestryWithin (tree.size + 1) id

/-- The names on the path from the root, separated by dots: `Main.a.b`. -/
def fullName (tree : ReactorTree) (id : InstanceId) :
    Except DanglingReference String := do
  let ancestry ← tree.ancestry id
  return ".".intercalate (ancestry.reverse.map fun entry => entry.2.name)

/-- The child of the root that the instance is or lives under; none for the root
itself. -/
def topLevelAncestor? (tree : ReactorTree) (id : InstanceId) :
    Except DanglingReference (Option InstanceId) := do
  let ancestry ← tree.ancestry id
  return (ancestry.reverse[1]?).map Prod.fst

/-- An instance, then everything below its first child, and so on, as far as the
bound on the depth allows. -/
def listingWithin (tree : ReactorTree) :
    Nat -> InstanceId -> Except DanglingReference (List InstanceId)
  | 0, id => .error (.cycle id)
  | bound + 1, id => do
    let node ← tree.node id
    let below ← node.children.mapM (tree.listingWithin bound)
    return id :: below.flatten

/-- Every instance reached from the root, each before its children and the
children in the order in which they were added. -/
def preorder (tree : ReactorTree) : Except DanglingReference (List InstanceId) :=
  tree.listingWithin (tree.size + 1) root

end ReactorTree
end ReactorGen
