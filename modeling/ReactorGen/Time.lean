import ReactorGen.Text.Blank
import ReactorGen.Text.Digits
import ReactorGen.Text.Name

/-!
# Time values

A time value is a magnitude with a unit, such as `100 msec`.  This module reads
the spelling that programs use, which knows several names for each unit, prints
the canonical spelling, and renders a time value as an expression of the native
runtime.
-/

namespace ReactorGen

/-- A unit of time. -/
inductive TimeUnit
  | nanosecond
  | microsecond
  | millisecond
  | second
  | minute
  | hour
  | day
  | week
deriving DecidableEq, Repr

namespace TimeUnit

/-- Every unit, shortest first. -/
def all : List TimeUnit :=
  [nanosecond, microsecond, millisecond, second, minute, hour, day, week]

/-- The canonical spelling of a unit. -/
def name : TimeUnit -> String
  | nanosecond => "nsec"
  | microsecond => "usec"
  | millisecond => "msec"
  | second => "sec"
  | minute => "min"
  | hour => "hour"
  | day => "day"
  | week => "week"

/-- Nanoseconds in one unit. -/
def nanoseconds : TimeUnit -> Nat
  | nanosecond => 1
  | microsecond => 1000
  | millisecond => 1000000
  | second => 1000000000
  | minute => 60 * 1000000000
  | hour => 3600 * 1000000000
  | day => 86400 * 1000000000
  | week => 604800 * 1000000000

/-- The runtime's conversion from a magnitude in this unit. -/
def conversion : TimeUnit -> String
  | nanosecond => "NSEC"
  | microsecond => "USEC"
  | millisecond => "MSEC"
  | second => "SEC"
  | minute => "MINUTE"
  | hour => "HOUR"
  | day => "DAY"
  | week => "WEEK"

/-- Every accepted spelling of a unit. -/
def spellings : List (String × TimeUnit) := [
  ("nsec", nanosecond), ("nsecs", nanosecond), ("ns", nanosecond),
  ("usec", microsecond), ("usecs", microsecond), ("us", microsecond),
  ("msec", millisecond), ("msecs", millisecond), ("ms", millisecond),
  ("sec", second), ("secs", second), ("second", second), ("seconds", second),
  ("s", second),
  ("min", minute), ("mins", minute), ("minute", minute), ("minutes", minute),
  ("hour", hour), ("hours", hour), ("h", hour),
  ("day", day), ("days", day), ("d", day),
  ("week", week), ("weeks", week)
]

/-- The unit with the given spelling in any letter case. -/
def ofSpelling? (spelling : String) : Option TimeUnit :=
  (Text.lookupNamed Prod.fst spelling spellings).map Prod.snd

theorem mem_all (unit : TimeUnit) : unit ∈ all := by
  cases unit <;> simp [all]

@[simp] theorem ofSpelling?_name (unit : TimeUnit) :
    ofSpelling? unit.name = some unit := by
  cases unit <;> decide +kernel

end TimeUnit

/-- A magnitude with a unit. -/
structure TimeValue where
  /-- How many units. -/
  magnitude : UInt64
  /-- The unit that is counted. -/
  unit : TimeUnit
deriving DecidableEq, Repr

/-- Why a text is not a time value.  Each cause holds the text it is about. -/
inductive TimeError
  /-- The text does not start with a digit. -/
  | missingMagnitude (text : String)
  /-- The magnitude does not fit into 64 bits. -/
  | invalidMagnitude (text : String)
  /-- A magnitude other than zero stands alone. -/
  | missingUnit (text : String)
  /-- No unit has this spelling. -/
  | unknownUnit (spelling : String)
deriving DecidableEq, Repr

/-- The wording of a time error. -/
def TimeError.message : TimeError -> String
  | missingMagnitude text => s!"missing magnitude in time value '{text}'"
  | invalidMagnitude text => s!"invalid magnitude in time value '{text}'"
  | missingUnit text => s!"missing unit in time value '{text}'"
  | unknownUnit spelling => s!"unknown time unit '{spelling}'"

namespace TimeValue

/-- The longest duration that is told apart, in nanoseconds. -/
def longestNanoseconds : Nat := UInt64.size - 1

/-- The largest magnitude: it is held in 64 bits. -/
def largestMagnitude : Nat := UInt64.size - 1

/-- No time at all. -/
def zero : TimeValue := ⟨0, .nanosecond⟩

/-- Whether a time value has no length. -/
def isZero (time : TimeValue) : Bool :=
  time.magnitude == 0

/-- The length in nanoseconds; everything too long to be told apart counts as
the longest duration. -/
def nanoseconds (time : TimeValue) : Nat :=
  min (time.magnitude.toNat * time.unit.nanoseconds) longestNanoseconds

/-- The length as whole seconds and remaining nanoseconds. -/
def secondsAndNanoseconds (time : TimeValue) : Nat × Nat :=
  (time.nanoseconds / 1000000000, time.nanoseconds % 1000000000)

/-- The canonical spelling. -/
def text (time : TimeValue) : String :=
  toString time.magnitude.toNat ++ " " ++ time.unit.name

/-- The time value as an expression of the native runtime. -/
def expression (time : TimeValue) : String :=
  if time.isZero then "0"
  else time.unit.conversion ++ "(" ++ toString time.magnitude.toNat ++ ")"

/-- Read digits followed by a unit, with white space around and between them.
Only zero may stand without a unit. -/
def ofText (text : String) : Except TimeError TimeValue :=
  let chars := Text.trimChars text.toList
  let digits := chars.takeWhile Text.isDecimalDigit
  let spelling := String.ofList (Text.trimChars (chars.dropWhile Text.isDecimalDigit))
  match Text.number? 10 digits with
  | none => .error (.missingMagnitude text)
  | some magnitude =>
    if largestMagnitude < magnitude then .error (.invalidMagnitude text)
    else if spelling.isEmpty then
      if magnitude = 0 then .ok zero else .error (.missingUnit text)
    else
      match TimeUnit.ofSpelling? spelling with
      | none => .error (.unknownUnit spelling)
      | some unit => .ok ⟨UInt64.ofNat magnitude, unit⟩

end TimeValue
end ReactorGen
