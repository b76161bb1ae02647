import ReactorGen.Naming

/-!
# Members of self structs

The native runtime sees a reactor through its self struct.  A member is known by
what it is for; its name and its declaration follow from that.
-/

namespace ReactorGen

/-- A type of the native code. -/
inductive NativeType
  | named (name : String)
  | pointer (target : NativeType)
deriving DecidableEq, Repr

/-- The spelling of a type. -/
def NativeType.text : NativeType -> String
  | named name => name
  | pointer target => target.text ++ "*"

/-- A port of a contained reactor inside the nested struct of its container. -/
structure NestedMember where
  type : NativeType
  name : String
deriving DecidableEq, Repr

/-- The declaration of a nested member. -/
def NestedMember.declaration (nested : NestedMember) : String :=
  nested.type.text ++ " " ++ nested.name ++ ";"

/-- A member of a self struct. -/
inductive Member
  /-- What every self struct starts with. -/
  | base
  /-- The name under which the interpreter finds the instance. -/
  | instanceName
  /-- A parameter. -/
  | parameter (name : String)
  /-- A port or an action. -/
  | port (type : NativeType) (name : String)
  /-- The width of a multiport. -/
  | width (name : String)
  /-- The trigger of an input, an action or a timer. -/
  | trigger (name : String)
  /-- The used ports of a contained reactor. -/
  | container (name : String) (ports : List NestedMember)
  /-- A reaction. -/
  | reaction (index : Nat)
  /-- The modes. -/
  | modes (count : Nat)
  /-- An object of the interpreter that the native code calls. -/
  | callable (name : String)
deriving DecidableEq, Repr

namespace Member

/-- The name of a member. -/
def name : Member -> String
  | base => "base"
  | instanceName => "_lf_name"
  | parameter name => name
  | port _ name => "_lf_" ++ name
  | width name => "_lf_" ++ name ++ "_width"
  | trigger name => "_lf__" ++ name
  | container name _ => "_lf_" ++ name
  | reaction index => "_lf__reaction_" ++ toString index
  | modes _ => "_lf__modes"
  | callable name => name

/-- The declaration of a member. -/
def declaration (member : Member) : String :=
  match member with
  | base => "struct self_base_t " ++ member.name ++ ";"
  | instanceName => "char *" ++ member.name ++ ";"
  | parameter _ => "int " ++ member.name ++ ";"
  | port type _ => type.text ++ " " ++ member.name ++ ";"
  | width _ => "int " ++ member.name ++ ";"
  | trigger _ => "trigger_t " ++ member.name ++ ";"
  | container _ ports =>
    "struct \x7b\n" ++
      String.join (ports.map fun port => "    " ++ port.declaration ++ "\n") ++
      "\x7d " ++ member.name ++ ";"
  | reaction _ => "reaction_t " ++ member.name ++ ";"
  | modes count => "reactor_mode_t " ++ member.name ++ "[" ++ toString count ++ "];"
  | callable _ => "PyObject* " ++ member.name ++ ";"

end Member
end ReactorGen
