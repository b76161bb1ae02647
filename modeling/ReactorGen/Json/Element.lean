import ReactorGen.Element
import ReactorGen.Json.Record

/-!
# Elements as JSON

Every element is an object whose only member is named after the kind of the
element.
-/

namespace ReactorGen

open JsonFormat

instance : JsonFormat TimeUnit where
  write unit := .string unit.name
  readWith := readNamed TimeUnit.name TimeUnit.all

instance : JsonFormat TimeValue where
  write time := .object [
    ("magnitude", write time.magnitude),
    ("unit", write time.unit)
  ]
  readWith := readRecord do
    let magnitude ← field UInt64 "magnitude"
    let unit ← field TimeUnit "unit"
    return ⟨magnitude, unit⟩

namespace Element

mutual

/-- The JSON value of an element. -/
def toJson : Element -> Json
  | literal source => .object [("literal", .string source)]
  | id name => .object [("id", .string name)]
  | time magnitude unit =>
    .object [("time", .object [("magnitude", write magnitude), ("unit", write unit)])]
  | array items => .object [("array", .array (itemsToJson items))]
  | dictionary entries => .object [("key_value", .array (entriesToJson entries))]

/-- The JSON values of the items of a list. -/
def itemsToJson : List Element -> List Json
  | [] => []
  | item :: rest => toJson item :: itemsToJson rest

/-- The JSON values of the entries of a dictionary. -/
def entriesToJson : List (String × Element) -> List Json
  | [] => []
  | (name, value) :: rest =>
    .object [("name", .string name), ("value", toJson value)] :: entriesToJson rest

end

/-- The fields of a time. -/
def timeFields : FieldReader Element := do
  let magnitude ← field UInt64 "magnitude"
  let unit ← optionalField TimeUnit "unit"
  return time magnitude unit

/-- An element of the kind that a JSON value is named after, if the kind holds no
other elements. -/
def ofSimpleJson? (leniency : Leniency) (kind : String) (payload : Json) :
    Option Element :=
  if kind == "literal" then (readWith leniency payload).map literal
  else if kind == "id" then (readWith leniency payload).map id
  else if kind == "time" then readPayload timeFields leniency payload
  else none

mutual

/-- The element that a JSON value stands for. -/
def ofJson? (leniency : Leniency) : Json -> Option Element
  | .object [(kind, .array values)] =>
    if kind == "array" then (itemsOfJson? leniency values).map array
    else if kind == "key_value" then (entriesOfJson? leniency values).map dictionary
    else ofSimpleJson? leniency kind (.array values)
  | .object [(kind, payload)] => ofSimpleJson? leniency kind payload
  | _ => none

/-- The items that JSON values stand for. -/
def itemsOfJson? (leniency : Leniency) : List Json -> Option (List Element)
  | [] => some []
  | value :: rest => do
    let item ← ofJson? leniency value
    let items ← itemsOfJson? leniency rest
    return item :: items

/-- The entry that the members of a JSON object stand for. -/
def entryOfMembers?
    (leniency : Leniency)
    (name : Option String)
    (value : Option Element) : List (String × Json) -> Option (String × Element)
  | [] => do
    let name ← name
    let value ← value
    return (name, value)
  | (member, payload) :: rest =>
    if member == "name" then
      match readWith leniency payload with
      | none => none
      | some found => entryOfMembers? leniency (some found) value rest
    else if member == "value" then
      match ofJson? leniency payload with
      | none => none
      | some found => entryOfMembers? leniency name (some found) rest
    else entryOfMembers? leniency name value rest

/-- The entries that JSON values stand for. -/
def entriesOfJson? (leniency : Leniency) :
    List Json -> Option (List (String × Element))
  | [] => some []
  | .object members :: rest => do
    let entry ← entryOfMembers? leniency none none members
    let entries ← entriesOfJson? leniency rest
    return entry :: entries
  | .array [name, value] :: rest => do
    let name ← readWith leniency name
    let value ← ofJson? leniency value
    let entries ← entriesOfJson? leniency rest
    return (name, value) :: entries
  | _ :: _ => none

end

instance : JsonFormat Element where
  write := toJson
  readWith := ofJson?

end Element

/-- The JSON value of a named element. -/
def writeNamedElement (entry : String × Element) : Json :=
  .object [("name", write entry.1), ("value", write entry.2)]

/-- The named element that a JSON value stands for. -/
def readNamedElement : Leniency -> Json -> Option (String × Element) :=
  readRecord do
    let name ← field String "name"
    let value ← field Element "value"
    return (name, value)

end ReactorGen
