import ReactorGen.Diagnostic

/-!
# Reports

What a run says while it works.  Events are collected in the order in which they
happen, and they are kept when the run fails.  A degradation is an event that is
reported twice: as a line of the log and as a warning in the diagnostics.
-/

namespace ReactorGen

/-- How important a line of the log is. -/
inductive LogLevel
  | debug
  | info
  | warn
deriving DecidableEq, Repr

/-- The spelling of a level at the start of a line. -/
def LogLevel.name : LogLevel -> String
  | debug => "DEBUG"
  | info => "INFO"
  | warn => "WARN"

/-- Something that happened during a run. -/
inductive Event
  /-- A line of the log. -/
  | message (level : LogLevel) (text : String)
  /-- A capability of `subject` that is left out. -/
  | degradation (code : Code) (subject text : String)
deriving DecidableEq, Repr

namespace Event

/-- The event as a line of the log. -/
def line : Event -> String
  | message level text => level.name ++ " " ++ text
  | degradation _ subject text =>
    LogLevel.warn.name ++ " " ++ subject ++ ": " ++ text

/-- The warning that a degradation leaves in the diagnostics. -/
def warning? : Event -> Option Diagnostic
  | message _ _ => none
  | degradation code subject text => some (.warning code subject text)

end Event

/-- A result with the events on the way to it. -/
structure Report (α : Type) where
  events : List Event
  result : α

namespace Report

instance : Monad Report where
  pure result := ⟨[], result⟩
  bind first next :=
    let second := next first.result
    ⟨first.events ++ second.events, second.result⟩

/-- One event. -/
def event (event : Event) : Report Unit := ⟨[event], ()⟩

/-- One line of the log. -/
def log (level : LogLevel) (text : String) : Report Unit :=
  event (.message level text)

/-- The lines of the log. -/
def lines (report : Report α) : List String :=
  report.events.map Event.line

@[simp] theorem events_pure (result : α) :
    (pure result : Report α).events = [] := rfl

@[simp] theorem result_pure (result : α) :
    (pure result : Report α).result = result := rfl

@[simp] theorem events_bind (first : Report α) (next : α -> Report β) :
    (first >>= next).events = first.events ++ (next first.result).events := rfl

@[simp] theorem result_bind (first : Report α) (next : α -> Report β) :
    (first >>= next).result = (next first.result).result := rfl

theorem ext
    {left right : Report α}
    (events : left.events = right.events)
    (result : left.result = right.result) :
    left = right := by
  cases left
  cases right
  simp_all

@[simp] theorem events_map (report : Report α) (function : α -> β) :
    (function <$> report).events = report.events := by
  simp [Functor.map]

@[simp] theorem result_map (report : Report α) (function : α -> β) :
    (function <$> report).result = function report.result := rfl

instance : LawfulMonad Report :=
  LawfulMonad.mk' Report
    (fun _ => ext (by simp) rfl)
    (fun _ _ => ext (by simp) rfl)
    (fun _ _ _ => ext (by simp) rfl)

end Report
end ReactorGen
