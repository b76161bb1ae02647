import ReactorGen.Element
import ReactorGen.Model.Federate
import ReactorGen.Model.ReactorClass

/-!
# Programs

A program is what the generator starts from: reactor classes, the tree of their
instances, the federates and the connections between federates, with the target
declaration as it was written.  Every list keeps the order of declaration.
-/

namespace ReactorGen

/-- How values are encoded on a connection between federates. -/
inductive Serializer
  /-- The target language's own encoding. -/
  | native
  /-- Protocol buffers. -/
  | proto
  /-- Messages of the robot operating system. -/
  | ros2
deriving DecidableEq, Repr

namespace Serializer

/-- Every serializer in the order of declaration. -/
def all : List Serializer := [native, proto, ros2]

/-- The spelling of a serializer. -/
def name : Serializer -> String
  | native => "native"
  | proto => "proto"
  | ros2 => "ros2"

end Serializer

/-- A connection between ports of two federates. -/
structure NetworkConnection where
  sendingFederate : FederateId
  sendingPort : VarRef
  receivingFederate : FederateId
  receivingPort : VarRef
  /-- The number of the port at the receiving federate. -/
  receivingPortId : Nat
  /-- The action of the main reactor that receives the messages. -/
  receivingAction : String
  /-- The declared type of the values. -/
  type : Option TypeName
  /-- Whether the connection is timed by physical clocks. -/
  isPhysical : Bool
  delay : Option TimeValue
  /-- The requested serializer; without one, values are sent as they are. -/
  serializer : Option Serializer
deriving DecidableEq, Repr

/-- A program ready for code generation. -/
structure Program where
  /-- The base name of the generated files. -/
  name : String
  /-- The target as the program names it. -/
  target : String
  /-- The properties of the target declaration. -/
  properties : List (String × Element)
  /-- The preambles of the whole program. -/
  preambles : List String
  classes : List ReactorClass
  tree : ReactorTree
  federates : List Federate
  /-- The connections that cross a federate boundary. -/
  connections : List NetworkConnection
deriving Repr

namespace Program

/-- The class with the given id. -/
def classAt (program : Program) (id : ClassId) :
    Except DanglingReference ReactorClass :=
  orDangling (.reactorClass id) program.classes[id.index]?

/-- The class of an instance. -/
def classOf (program : Program) (id : InstanceId) :
    Except DanglingReference ReactorClass := do
  let node ← program.tree.node id
  program.classAt node.reactorClass

/-- The federate with the given id. -/
def federateAt (program : Program) (id : FederateId) :
    Except DanglingReference Federate :=
  orDangling (.federate id) program.federates[id.index]?

/-- Whether the program is divided into federates. -/
def isFederated (program : Program) : Bool :=
  program.federates.any fun federate => !federate.isSingleton

/-- The first class with the given name. -/
def classNamed? (program : Program) (name : String) : Option ClassId :=
  (program.classes.findIdx? (·.name == name)).map ClassId.mk

end Program
end ReactorGen
