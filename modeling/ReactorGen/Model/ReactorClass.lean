import ReactorGen.Model.Declaration
import ReactorGen.Model.Reaction
import ReactorGen.Model.Reference

/-!
# Reactor classes

A reactor class declares parameters, state, ports, actions, timers, modes and
reactions.  The position of a reaction is its priority.
-/

namespace ReactorGen

/-- A reactor class. -/
structure ReactorClass where
  name : String
  parameters : List ParameterDecl
  stateVars : List StateVarDecl
  inputs : List PortDecl
  outputs : List PortDecl
  actions : List ActionDecl
  timers : List String
  reactions : List Reaction
  modes : List String
  preambles : List String
  /-- Whether the class is the main reactor. -/
  isMain : Bool
  /-- Whether the class is the top of a federated program. -/
  isFederated : Bool
  span : Option Span
deriving DecidableEq, Repr

namespace ReactorClass

/-- A class that declares nothing. -/
def ofName (name : String) : ReactorClass :=
  ⟨name, [], [], [], [], [], [], [], [], [], false, false, none⟩

/-- What the names of the classes that implement delayed connections contain. -/
def delayMark : String := "_lf_GenDelay"

/-- Whether the class implements a delayed connection. -/
def isDelay (reactorClass : ReactorClass) : Bool :=
  Text.occursIn delayMark reactorClass.name

/-- The input with the given name. -/
def input? (reactorClass : ReactorClass) (name : String) : Option PortDecl :=
  reactorClass.inputs.find? (·.name == name)

/-- The output with the given name. -/
def output? (reactorClass : ReactorClass) (name : String) : Option PortDecl :=
  reactorClass.outputs.find? (·.name == name)

/-- The port with the given name; inputs come first. -/
def port? (reactorClass : ReactorClass) (name : String) : Option PortDecl :=
  reactorClass.input? name <|> reactorClass.output? name

/-- The action with the given name. -/
def action? (reactorClass : ReactorClass) (name : String) : Option ActionDecl :=
  reactorClass.actions.find? (·.name == name)

/-- The reaction at a position. -/
def reaction (reactorClass : ReactorClass) (index : Nat) :
    Except DanglingReference Reaction :=
  orDangling (.reaction index) reactorClass.reactions[index]?

end ReactorClass
end ReactorGen
