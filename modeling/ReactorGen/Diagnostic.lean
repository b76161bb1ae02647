import ReactorGen.Span

/-!
# Diagnostics

A diagnostic reports one problem: its code, how severe it is, what it is about
and where that stands.  `Diagnostics` collects the problems of a whole run; it
keeps the first errors and counts all of them.
-/

namespace ReactorGen

/-- How much a diagnostic prevents.  Warnings never block generated output. -/
inductive Severity
  | error
  | warning
deriving DecidableEq, Repr

/-- What kind of problem a diagnostic reports. -/
inductive Category
  /-- A configuration value or name does not fit what is declared. -/
  | validation
  /-- Generated layout or linkage cannot be verified. -/
  | structural
  /-- An optional capability is missing. -/
  | degradation
deriving DecidableEq, Repr

/-- The spelling of a category in messages. -/
def Category.text : Category -> String
  | validation => "validation"
  | structural => "structural"
  | degradation => "degradation"

/-- The number of a kind of problem. -/
structure Code where
  number : UInt16
deriving DecidableEq, Repr

namespace Code

def unknownProperty : Code := ⟨100⟩
def propertyTypeMismatch : Code := ⟨101⟩
def unsupportedProperty : Code := ⟨102⟩
def unknownTarget : Code := ⟨103⟩
def unresolvedStructField : Code := ⟨200⟩
def missingSerializer : Code := ⟨201⟩
def unresolvedMode : Code := ⟨202⟩
def unknownReactorClass : Code := ⟨203⟩
def internal : Code := ⟨299⟩
def fileNotFound : Code := ⟨300⟩
def missingTool : Code := ⟨301⟩

/-- The category a code belongs to, by its hundred. -/
def category (code : Code) : Category :=
  match code.number.toNat / 100 with
  | 2 => .structural
  | 3 => .degradation
  | _ => .validation

/-- The spelling of a code in messages. -/
def text (code : Code) : String :=
  "E" ++ toString code.number.toNat

end Code

/-- A problem with one subject. -/
structure Diagnostic where
  /-- The kind of problem. -/
  code : Code
  /-- How much it prevents. -/
  severity : Severity
  /-- The category of the kind of problem. -/
  category : Category
  /-- The report itself. -/
  message : String
  /-- The property path, class, action, connection or instance it is about. -/
  subject : String
  /-- Where the subject stands, if that is known. -/
  span : Option Span
deriving DecidableEq, Repr

namespace Diagnostic

/-- An error about `subject`. -/
def error (code : Code) (subject message : String) : Diagnostic :=
  ⟨code, .error, code.category, message, subject, none⟩

/-- A warning about `subject`. -/
def warning (code : Code) (subject message : String) : Diagnostic :=
  { error code subject message with severity := .warning }

/-- The diagnostic with the place of its subject. -/
def withSpan (diagnostic : Diagnostic) (span : Span) : Diagnostic :=
  { diagnostic with span := some span }

/-- Whether the diagnostic is an error. -/
def isError (diagnostic : Diagnostic) : Bool :=
  diagnostic.severity == .error

/-- The report as one line. -/
def line (diagnostic : Diagnostic) : String :=
  let place :=
    match diagnostic.span with
    | some span => span.text ++ ": "
    | none => ""
  place ++ diagnostic.code.text ++ " [" ++ diagnostic.category.text ++ "] " ++
    diagnostic.subject ++ ": " ++ diagnostic.message

@[simp] theorem isError_error (code : Code) (subject message : String) :
    (error code subject message).isError = true := rfl

@[simp] theorem isError_warning (code : Code) (subject message : String) :
    (warning code subject message).isError = false := rfl

end Diagnostic

/-- The problems of one run. -/
structure Diagnostics where
  /-- The errors that were kept. -/
  errors : List Diagnostic
  /-- Every warning. -/
  warnings : List Diagnostic
  /-- How many errors there were. -/
  totalErrors : Nat
  /-- How many warnings there were. -/
  totalWarnings : Nat
deriving DecidableEq, Repr

namespace Diagnostics

/-- How many errors are kept. -/
def errorLimit : Nat := 20

/-- No problems. -/
def empty : Diagnostics := ⟨[], [], 0, 0⟩

/-- Whether there was an error. -/
def hasErrors (diagnostics : Diagnostics) : Bool :=
  0 < diagnostics.totalErrors

/-- Add one problem.  An error beyond the limit is only counted. -/
def push (diagnostics : Diagnostics) (diagnostic : Diagnostic) : Diagnostics :=
  match diagnostic.severity with
  | .error =>
    { diagnostics with
      errors :=
        if diagnostics.errors.length < errorLimit then
          diagnostics.errors ++ [diagnostic]
        else diagnostics.errors
      totalErrors := diagnostics.totalErrors + 1 }
  | .warning =>
    { diagnostics with
      warnings := diagnostics.warnings ++ [diagnostic]
      totalWarnings := diagnostics.totalWarnings + 1 }

/-- Add problems in order. -/
def extend (diagnostics : Diagnostics) (added : List Diagnostic) : Diagnostics :=
  added.foldl push diagnostics

/-- The problems of a list. -/
def ofList (diagnostics : List Diagnostic) : Diagnostics :=
  empty.extend diagnostics

/-- Add the problems of another run, counting also the errors it did not keep. -/
def merge (diagnostics other : Diagnostics) : Diagnostics :=
  let merged := (diagnostics.extend other.errors).extend other.warnings
  { merged with
    totalErrors := merged.totalErrors + (other.totalErrors - other.errors.length) }

/-- The kept errors and then the warnings. -/
def toList (diagnostics : Diagnostics) : List Diagnostic :=
  diagnostics.errors ++ diagnostics.warnings

@[simp] theorem extend_nil (diagnostics : Diagnostics) :
    diagnostics.extend [] = diagnostics := rfl

@[simp] theorem extend_cons
    (diagnostics : Diagnostics)
    (first : Diagnostic)
    (rest : List Diagnostic) :
    diagnostics.extend (first :: rest) = (diagnostics.push first).extend rest := rfl

theorem extend_append
    (diagnostics : Diagnostics)
    (left right : List Diagnostic) :
    diagnostics.extend (left ++ right) = (diagnostics.extend left).extend right := by
  simp [extend]

end Diagnostics
end ReactorGen
