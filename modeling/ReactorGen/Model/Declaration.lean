import ReactorGen.Text.Blank
import ReactorGen.Text.Pattern

/-!
# Declarations of a reactor class

Parameters, state variables, ports and actions as a reactor class declares
them.  A declared type ending in `*` or `[]` denotes a payload of dynamic size,
which travels in a reference-counted token.
-/

namespace ReactorGen

/-- A type name as the program spells it. -/
abbrev TypeName := String

namespace TypeName

/-- Whether the type denotes a payload that travels in a token. -/
def isToken (type : TypeName) : Bool :=
  let name := Text.trim type
  Text.endsWith name "*" || Text.endsWith name "[]"

/-- The type of what a token type holds: `int` for `int[]`, `char` for `char*`. -/
def element (type : TypeName) : TypeName :=
  let name := Text.trim type
  match Text.withoutEnding? name "[]" with
  | some base => Text.trim base
  | none =>
    match Text.withoutEnding? name "*" with
    | some base => Text.trim base
    | none => Text.trim name

end TypeName

/-- Whether a declared type, if there is one, travels in a token. -/
def carriesToken (type? : Option TypeName) : Bool :=
  match type? with
  | some type => TypeName.isToken type
  | none => false

/-- A parameter of a reactor class. -/
structure ParameterDecl where
  name : String
  /-- The default value as source text. -/
  default : String
deriving DecidableEq, Repr

/-- A state variable of a reactor class. -/
structure StateVarDecl where
  name : String
  /-- The initial value as source text. -/
  init : Option String
deriving DecidableEq, Repr

/-- An input or output port of a reactor class. -/
structure PortDecl where
  name : String
  /-- The declared type. -/
  type : Option TypeName
  /-- The width of a multiport; a single port has none. -/
  width : Option UInt32
deriving DecidableEq, Repr

/-- Whether the values of a port travel in tokens. -/
def PortDecl.isToken (port : PortDecl) : Bool :=
  carriesToken port.type

/-- Whether an action is scheduled in logical or in physical time. -/
inductive ActionOrigin
  | logical
  | physical
deriving DecidableEq, Repr

/-- An action of a reactor class. -/
structure ActionDecl where
  name : String
  origin : ActionOrigin
  /-- The declared type of the payload. -/
  type : Option TypeName
deriving DecidableEq, Repr

/-- Whether the payload of an action travels in a token. -/
def ActionDecl.isToken (action : ActionDecl) : Bool :=
  carriesToken action.type

end ReactorGen
