import ReactorGen.Property.Table
import ReactorGen.Report

/-!
# Configuration

How the entries of a target declaration become settings.  Every entry is checked
on its own and in order.  An entry whose value belongs to the type of its
property is stored, so a later entry overrides an earlier one; whatever is wrong
with an entry is reported and keeps no other entry from being stored.
-/

namespace ReactorGen

/-- A name in a target declaration that is not known. -/
inductive ConfigError
  | unknownProperty (name : String)
  | unknownTarget (name : String)
deriving DecidableEq, Repr

namespace ConfigError

/-- The code of the error. -/
def code : ConfigError -> Code
  | unknownProperty _ => .unknownProperty
  | unknownTarget _ => .unknownTarget

/-- The name that is not known. -/
def subject : ConfigError -> String
  | unknownProperty name => name
  | unknownTarget name => name

/-- The wording of the error. -/
def message : ConfigError -> String
  | unknownProperty name => s!"Unrecognized target property: '{name}'."
  | unknownTarget name => s!"Unrecognized target: '{name}'."

/-- The error as a diagnostic. -/
def diagnostic (error : ConfigError) : Diagnostic :=
  .error error.code error.subject error.message

end ConfigError

/-- Settings with everything that was reported on the way to them. -/
structure Configured where
  settings : Settings
  diagnostics : Diagnostics

/-- The wording of the warning that a target does not support a property. -/
def unsupportedMessage (property : Property) (target : Target) : String :=
  "The target parameter: " ++ property.name ++ " is not supported by the " ++
    target.name ++ " target and will thus be ignored."

/-- What is reported about a property that the target does not support. -/
def unsupportedDiagnostics (property : Property) (target : Target) : List Diagnostic :=
  if property.supports target then []
  else [.warning .unsupportedProperty property.name (unsupportedMessage property target)]

/-- The log of one entry with a known property. -/
def entryEvents (property : Property) (element : Element) (target : Target) : List Event :=
  (if property.supports target then []
    else [.message .warn (unsupportedMessage property target)]) ++
  (if property.type.accepts element then
    [.message .debug ("setting target property '" ++ property.name ++ "'")]
  else [])

/-- Check a value of a known property and store it if it belongs to the type. -/
def applyProperty
    (fileExists : String -> Bool)
    (settings : Settings)
    (property : Property)
    (element : Element) : Report (Settings × List Diagnostic) where
  events := entryEvents property element settings.target
  result :=
    (if property.type.accepts element then property.store element settings
      else settings,
      property.type.check fileExists property.name element ++
        unsupportedDiagnostics property settings.target)

/-- Check one entry and store its value if it belongs to the type. -/
def applyEntry
    (fileExists : String -> Bool)
    (settings : Settings)
    (entry : String × Element) :
    Report (Except ConfigError (Settings × List Diagnostic)) :=
  match Property.ofName? entry.1 with
  | none => pure (.error (.unknownProperty entry.1))
  | some property => do
    let applied ← applyProperty fileExists settings property entry.2
    return .ok applied

/-- Process one entry; a name that is not known is reported as an error. -/
def configureEntry
    (fileExists : String -> Bool)
    (configured : Configured)
    (entry : String × Element) : Report Configured := do
  match ← applyEntry fileExists configured.settings entry with
  | .ok (settings, reported) =>
    return ⟨settings, configured.diagnostics.extend reported⟩
  | .error error =>
    Report.log .warn error.message
    return { configured with
      diagnostics := configured.diagnostics.push error.diagnostic }

/-- The settings of a target declaration for a known target. -/
def configure
    (fileExists : String -> Bool)
    (target : Target)
    (entries : List (String × Element)) : Report Configured :=
  entries.foldlM (configureEntry fileExists) ⟨.ofTarget target, .empty⟩

/-- The settings of a target declaration. -/
def configureNamed
    (fileExists : String -> Bool)
    (targetName : String)
    (entries : List (String × Element)) : Report (Except ConfigError Configured) :=
  match Target.ofName? targetName with
  | none => pure (.error (.unknownTarget targetName))
  | some target => do
    let configured ← configure fileExists target entries
    return .ok configured

end ReactorGen
