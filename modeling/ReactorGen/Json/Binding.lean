import ReactorGen.Json.Record
import ReactorGen.Layout.Binding

/-!
# Bindings as JSON
-/

namespace ReactorGen

open JsonFormat

namespace BindingKind

/-- Every kind of binding in the order of declaration. -/
def all : List BindingKind := [input, output, action, containedPort]

/-- The spelling of a kind of binding. -/
def name : BindingKind -> String
  | input => "input"
  | output => "output"
  | action => "action"
  | containedPort => "contained_port"

end BindingKind

/-- A kind of binding is a bare name. -/
instance : JsonFormat BindingKind where
  write kind := .string kind.name
  readWith
    | _, .string name => BindingKind.all.find? fun kind => kind.name == name
    | _, _ => none

instance : JsonFormat Binding where
  write binding := .object [
    ("var", write binding.variableName),
    ("kind", write binding.kind),
    ("type_name", write binding.type),
    ("access", write binding.access),
    ("width", write binding.width)
  ]
  readWith := readRecord do
    let variableName ← field String "var"
    let kind ← field BindingKind "kind"
    let type ← field String "type_name"
    let access ← field String "access"
    let width ← optionalField String "width"
    return ⟨variableName, kind, type, access, width⟩

end ReactorGen
