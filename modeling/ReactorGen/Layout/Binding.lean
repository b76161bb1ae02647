import ReactorGen.Layout.Member
import ReactorGen.Model.Reaction
import ReactorGen.Text.Pattern

/-!
# Bindings

How a reaction reaches a variable through the self struct: a local variable that
holds the member or points to it, and an argument that hands the local variable
to the interpreter.
-/

namespace ReactorGen

/-- What a binding is for. -/
inductive BindingKind
  | input
  | output
  | action
  /-- A port of a contained reactor. -/
  | containedPort
deriving DecidableEq, Repr

/-- How a reaction reaches a variable. -/
structure Binding where
  /-- The variable as the program spells it. -/
  variableName : String
  kind : BindingKind
  /-- The type of the port or action. -/
  type : String
  /-- The expression that yields the member. -/
  access : String
  /-- The expression that yields the width of a multiport. -/
  width : Option String
deriving DecidableEq, Repr

/-- An expression that a local variable starts with. -/
inductive NativeValue
  /-- The value of an expression. -/
  | of (expression : String)
  /-- The address of what an expression denotes. -/
  | addressOf (expression : String)
deriving DecidableEq, Repr

/-- The spelling of a value. -/
def NativeValue.text : NativeValue -> String
  | of expression => expression
  | addressOf expression => "&" ++ expression

/-- A local variable of a reaction. -/
structure Local where
  type : NativeType
  name : String
  value : NativeValue
deriving DecidableEq, Repr

/-- The declaration of a local variable. -/
def Local.declaration (declared : Local) : String :=
  declared.type.text ++ " " ++ declared.name ++ " = " ++ declared.value.text ++ ";"

/-- A local variable as an argument of a method. -/
inductive Argument
  | action (localName : String)
  /-- A port, with the variable that holds the width of a multiport. -/
  | port (localName : String) (width : Option String)
deriving DecidableEq, Repr

/-- What the interpreter takes to be the width of a single port. -/
def singleWidth : String := "-2"

/-- The spelling of an argument. -/
def Argument.text : Argument -> String
  | action localName => "convert_C_action_to_py(" ++ localName ++ ")"
  | port localName width =>
    "convert_C_port_to_py(" ++ localName ++ ", " ++ width.getD singleWidth ++ ")"

namespace Binding

/-- The local variable that holds the member. -/
def localName (binding : Binding) : String :=
  Text.underscored binding.variableName

/-- The local variable that holds the width. -/
def widthName (binding : Binding) : String :=
  binding.localName ++ "_width"

/-- A local variable with the given type and value. -/
def declare (binding : Binding) (type : NativeType) (value : NativeValue) : Local :=
  ⟨type, binding.localName, value⟩

/-- The local variables of a binding.  An own multiport has its width beside it;
single outputs and actions are members themselves, so only their address is
taken. -/
def locals (binding : Binding) : List Local :=
  let single : NativeType := .pointer (.named binding.type)
  let multiport (width : String) : List Local := [
    binding.declare (.pointer single) (.of binding.access),
    ⟨.named "int", binding.widthName, .of width⟩
  ]
  match binding.kind, binding.width with
  | .input, some width => multiport width
  | .output, some width => multiport width
  | .output, none => [binding.declare single (.addressOf binding.access)]
  | .action, none => [binding.declare single (.addressOf binding.access)]
  | _, _ => [binding.declare single (.of binding.access)]

/-- The argument that hands the local variable to a method. -/
def argument (binding : Binding) : Argument :=
  match binding.kind with
  | .action => .action binding.localName
  | _ => .port binding.localName (binding.width.map fun _ => binding.widthName)

end Binding
end ReactorGen
