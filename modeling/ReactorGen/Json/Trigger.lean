import ReactorGen.Json.Element
import ReactorGen.Trigger

/-!
# Triggers and tokens as JSON

A token table is written as the list of its rows; when it is read back, the first
row for each token counts.
-/

namespace ReactorGen

open JsonFormat

instance : JsonFormat Period where
  write
    | .spacing time => .object [("spacing", write time)]
    | .undefined => .string "undefined"
  readWith leniency json :=
    match tagged json with
    | some ("spacing", payload) => (readWith leniency payload).map Period.spacing
    | some ("undefined", payload) =>
      if saysNothing leniency payload then some .undefined else none
    | _ => none

/-- The fields of the binding to a mode. -/
def ModeBinding.modeFields : FieldReader ModeBinding := do
  let owner ← field String "owner"
  let index ← field Nat "index"
  return .mode owner index

instance : JsonFormat ModeBinding where
  write
    | .mode owner index =>
      .object [("mode", .object [("owner", write owner), ("index", write index)])]
    | .unbound => .string "unbound"
  readWith leniency json :=
    match tagged json with
    | some ("mode", payload) => readPayload ModeBinding.modeFields leniency payload
    | some ("unbound", payload) =>
      if saysNothing leniency payload then some .unbound else none
    | _ => none

instance : JsonFormat TriggerKind where
  write kind := .string kind.name
  readWith := readNamed TriggerKind.name [.action, .timer]

instance : JsonFormat TriggerMetadata where
  write metadata := .object [
    ("kind", write metadata.kind),
    ("name", write metadata.name),
    ("full_name", write metadata.fullName),
    ("trigger", write metadata.trigger),
    ("offset", write metadata.offset),
    ("period", write metadata.period),
    ("mode", write metadata.mode),
    ("is_token_type", write metadata.isToken)
  ]
  readWith := readRecord do
    let kind ← field TriggerKind "kind"
    let name ← field String "name"
    let fullName ← field String "full_name"
    let trigger ← field String "trigger"
    let offset ← field TimeValue "offset"
    let period ← field Period "period"
    let mode ← field ModeBinding "mode"
    let isToken ← field Bool "is_token_type"
    return ⟨kind, name, fullName, trigger, offset, period, mode, isToken⟩

instance : JsonFormat TokenEntry where
  write entry := .object [
    ("token_ref", write entry.tokenRef),
    ("status_ref", write entry.statusRef),
    ("reset_is_present", write entry.resetsPresence)
  ]
  readWith := readRecord do
    let tokenRef ← field String "token_ref"
    let statusRef ← field String "status_ref"
    let resetsPresence ← field Bool "reset_is_present"
    return ⟨tokenRef, statusRef, resetsPresence⟩

instance : JsonFormat TokenTable where
  write table := write table.entries
  readWith leniency json := (readWith leniency json).map TokenTable.ofList

end ReactorGen
