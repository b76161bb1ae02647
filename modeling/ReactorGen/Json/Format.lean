import ReactorGen.Json.Value

/-!
# JSON formats

A `JsonFormat` says how the values of a type are written as JSON and read back.
A value that is missing, has the wrong kind or is out of range makes everything
around it unreadable.  There is one way to write a value, but some values have
more than one spelling that is read, and a few more where reading is lenient.
-/

namespace ReactorGen

/-- How freely values may be spelled.  Reading is lenient inside a value whose
kind is told by one of its own members. -/
inductive Leniency
  | strict
  | lenient
deriving DecidableEq, Repr

/-- How a type is written as JSON and read back. -/
class JsonFormat (α : Type) where
  /-- The JSON value of a value. -/
  write : α -> Json
  /-- The value that a JSON value stands for. -/
  readWith : Leniency -> Json -> Option α

namespace JsonFormat

/-- The value that a whole JSON document stands for. -/
def read [JsonFormat α] (json : Json) : Option α :=
  readWith .strict json

instance : JsonFormat Bool where
  write := .bool
  readWith
    | _, .bool value => some value
    | _, _ => none

instance : JsonFormat String where
  write := .string
  readWith
    | _, .string text => some text
    | _, _ => none

/-- An integer inside the closed range. -/
def readInt (low high : Int) : Json -> Option Int
  | .number value => if low ≤ value ∧ value ≤ high then some value else none
  | _ => none

/-- A natural number below the bound. -/
def readBelow (bound : Nat) : Json -> Option Nat
  | .number (.ofNat value) => if value < bound then some value else none
  | _ => none

/-- Sizes and indices take 64 bits. -/
instance : JsonFormat Nat where
  write value := .number value
  readWith _ := readBelow UInt64.size

instance : JsonFormat UInt16 where
  write value := .number value.toNat
  readWith _ json := (readBelow UInt16.size json).map UInt16.ofNat

instance : JsonFormat UInt32 where
  write value := .number value.toNat
  readWith _ json := (readBelow UInt32.size json).map UInt32.ofNat

instance : JsonFormat UInt64 where
  write value := .number value.toNat
  readWith _ json := (readBelow UInt64.size json).map UInt64.ofNat

instance : JsonFormat Int32 where
  write value := .number value.toInt
  readWith _ json :=
    (readInt Int32.minValue.toInt Int32.maxValue.toInt json).map Int32.ofInt

instance [JsonFormat α] : JsonFormat (Option α) where
  write
    | none => .null
    | some value => write value
  readWith
    | _, .null => some none
    | leniency, json => (readWith leniency json).map some

/-- The values of the items of an array, each read by `reader`. -/
def readItems (reader : Json -> Option α) : Json -> Option (List α)
  | .array items => items.mapM reader
  | _ => none

instance [JsonFormat α] : JsonFormat (List α) where
  write items := .array (items.map write)
  readWith leniency := readItems (readWith leniency)

/-- A pair is an array of two items. -/
instance [JsonFormat α] [JsonFormat β] : JsonFormat (α × β) where
  write pair := .array [write pair.1, write pair.2]
  readWith
    | leniency, .array [first, second] => do
      let first ← readWith leniency first
      let second ← readWith leniency second
      return (first, second)
    | _, _ => none

/-- Read the required member `name` of an object. -/
def required (α : Type) [JsonFormat α] (json : Json) (name : String) : Option α :=
  json.member? name >>= read

/-- Read the member `name` of an object, which may be missing or null. -/
def readOptional (α : Type) [JsonFormat α] (json : Json) (name : String) :
    Option (Option α) :=
  match json with
  | .object members =>
    match members.lookup name with
    | none => some none
    | some value => read value
  | _ => none

/-- The constructor name and the payload of a tagged value: a bare name has no
payload, which counts as null. -/
def tagged : Json -> Option (String × Json)
  | .string tag => some (tag, .null)
  | .object [(tag, payload)] => some (tag, payload)
  | _ => none

/-- Whether a payload says nothing.  Where reading is lenient, an empty object says
nothing either. -/
def saysNothing : Leniency -> Json -> Bool
  | _, .null => true
  | .lenient, .object [] => true
  | _, _ => false

/-- Read one of finitely many values, each of which has a name. -/
def readNamed
    (nameOf : α -> String)
    (values : List α)
    (leniency : Leniency)
    (json : Json) : Option α :=
  match tagged json with
  | none => none
  | some (tag, payload) =>
    if saysNothing leniency payload then
      values.find? fun value => nameOf value == tag
    else none

/-- Write the member `name` only when there is a value for it. -/
def whenPresent [JsonFormat α] (name : String) (value? : Option α) :
    List (String × Json) :=
  match value? with
  | none => []
  | some value => [(name, write value)]

end JsonFormat
end ReactorGen
