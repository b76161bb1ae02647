import ReactorGen.Model.Tree

/-!
# Federates

A federate is a part of a program that is built and launched on its own.  It
holds some of the top-level instances with everything below them; the main
reactor belongs to every federate, but its actions and reactions are divided.
A program without federation has one federate that holds everything.
-/

namespace ReactorGen

/-- A separately launched part of a program. -/
structure Federate where
  id : FederateId
  name : String
  /-- The children of the main reactor that belong to the federate. -/
  instances : List InstanceId
  /-- The actions of the main reactor that receive messages for the federate. -/
  networkActions : List String
  /-- The reactions of the main reactor that belong to the federate. -/
  networkReactions : List Nat
  /-- Whether the federate is the whole of a program without federation. -/
  isSingleton : Bool
  /-- The host that runs the federate. -/
  host : Option String
deriving DecidableEq, Repr

namespace Federate

/-- The federate of a program without federation. -/
def singleton : Federate :=
  ⟨⟨0⟩, "", [], [], [], true, none⟩

/-- A federate that holds the given top-level instances. -/
def ofInstances (id : FederateId) (name : String) (instances : List InstanceId) :
    Federate :=
  ⟨id, name, instances, [], [], false, none⟩

/-- Whether an instance belongs to the federate. -/
def containsInstance
    (federate : Federate)
    (tree : ReactorTree)
    (id : InstanceId) : Except DanglingReference Bool :=
  if federate.isSingleton then return true
  else do
    match ← tree.topLevelAncestor? id with
    | none => return true
    | some top => return federate.instances.contains top

/-- Whether the action `name` of `owner` belongs to the federate. -/
def containsAction
    (federate : Federate)
    (tree : ReactorTree)
    (owner : InstanceId)
    (name : String) : Except DanglingReference Bool :=
  if federate.isSingleton then return true
  else do
    let node ← tree.node owner
    if node.parent.isNone then return federate.networkActions.contains name
    else federate.containsInstance tree owner

/-- Whether the reaction `index` of `owner` belongs to the federate. -/
def containsReaction
    (federate : Federate)
    (tree : ReactorTree)
    (owner : InstanceId)
    (index : Nat) : Except DanglingReference Bool :=
  if federate.isSingleton then return true
  else do
    let node ← tree.node owner
    if node.parent.isNone then return federate.networkReactions.contains index
    else federate.containsInstance tree owner

end Federate
end ReactorGen
