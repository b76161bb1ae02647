import ReactorGen.Json.Format

/-!
# Records as JSON

A record is an object with a member for each field, or an array with the values of
the fields in their order.  In an object the order does not matter, a member that
is no field is passed over, and an optional field may be missing.  An array has to
hold exactly one item for each field.
-/

namespace ReactorGen

/-- What the fields of a record are read from. -/
inductive Fields
  /-- The members of an object. -/
  | named (members : List (String × Json))
  /-- The items of an array that have not been read yet. -/
  | ordered (items : List Json)

/-- A reader of the fields of a record, one after the other in their order. -/
abbrev FieldReader := ReaderT Leniency (StateT Fields Option)

namespace JsonFormat

/-- Read the next field, which is called `name`, by a reader of its values;
`missing` is the value of a field that an object does not mention. -/
def readField
    (reader : Leniency -> Json -> Option α)
    (missing : Option α)
    (name : String) : FieldReader α :=
  fun leniency fields =>
    match fields with
    | .named members =>
      match members.lookup name with
      | none => missing.map fun value => (value, fields)
      | some json => (reader leniency json).map fun value => (value, fields)
    | .ordered [] => none
    | .ordered (json :: rest) =>
      (reader leniency json).map fun value => (value, .ordered rest)

/-- Read the next field. -/
def field (α : Type) [JsonFormat α] (name : String) : FieldReader α :=
  readField readWith none name

/-- Read the next field, which an object need not mention. -/
def optionalField (α : Type) [JsonFormat α] (name : String) :
    FieldReader (Option α) :=
  readField readWith (some none) name

/-- Read a record by a reader of its fields. -/
def readRecord
    (reader : FieldReader α)
    (leniency : Leniency) : Json -> Option α
  | .object members =>
    (reader leniency (.named members)).map fun result => result.1
  | .array items =>
    match reader leniency (.ordered items) with
    | some (value, .ordered []) => some value
    | _ => none
  | _ => none

/-- Read a record that is the payload of a tagged value.  It has to be an object,
unless reading is lenient. -/
def readPayload
    (reader : FieldReader α)
    (leniency : Leniency) : Json -> Option α
  | .object members => readRecord reader leniency (.object members)
  | .array items =>
    match leniency with
    | .strict => none
    | .lenient => readRecord reader leniency (.array items)
  | _ => none

end JsonFormat
end ReactorGen
