import ReactorGen.Diagnostic
import ReactorGen.Json.Record

/-!
# Diagnostics as JSON

A place that is not known is left out; everything else is always written.
-/

namespace ReactorGen

open JsonFormat

instance : JsonFormat Span where
  write span := .object [
    ("line", write span.line),
    ("column", write span.column),
    ("end_line", write span.endLine),
    ("end_column", write span.endColumn)
  ]
  readWith := readRecord do
    let line ← field UInt32 "line"
    let column ← field UInt32 "column"
    let endLine ← field UInt32 "end_line"
    let endColumn ← field UInt32 "end_column"
    return ⟨line, column, endLine, endColumn⟩

/-- The spelling of a severity. -/
def Severity.name : Severity -> String
  | error => "error"
  | warning => "warning"

instance : JsonFormat Severity where
  write severity := .string severity.name
  readWith := readNamed Severity.name [.error, .warning]

instance : JsonFormat Category where
  write category := .string category.text
  readWith := readNamed Category.text [.validation, .structural, .degradation]

instance : JsonFormat Code where
  write code := write code.number
  readWith leniency json := (readWith leniency json).map Code.mk

instance : JsonFormat Diagnostic where
  write diagnostic := .object ([
      ("code", write diagnostic.code),
      ("severity", write diagnostic.severity),
      ("category", write diagnostic.category),
      ("message", write diagnostic.message),
      ("subject", write diagnostic.subject)
    ] ++ whenPresent "span" diagnostic.span)
  readWith := readRecord do
    let code ← field Code "code"
    let severity ← field Severity "severity"
    let category ← field Category "category"
    let message ← field String "message"
    let subject ← field String "subject"
    let span ← optionalField Span "span"
    return ⟨code, severity, category, message, subject, span⟩

instance : JsonFormat Diagnostics where
  write diagnostics := .object [
    ("errors", write diagnostics.errors),
    ("warnings", write diagnostics.warnings),
    ("total_errors", write diagnostics.totalErrors),
    ("total_warnings", write diagnostics.totalWarnings)
  ]
  readWith := readRecord do
    let errors ← field (List Diagnostic) "errors"
    let warnings ← field (List Diagnostic) "warnings"
    let totalErrors ← field Nat "total_errors"
    let totalWarnings ← field Nat "total_warnings"
    return ⟨errors, warnings, totalErrors, totalWarnings⟩

end ReactorGen
