import ReactorGen.Property.ClockSync

/-!
# The types in use

The property types that target properties have.
-/

namespace ReactorGen
namespace PropertyType

def boolean : PropertyType := .value .boolean
def integer : PropertyType := .value .integer
def nonNegativeInteger : PropertyType := .value .nonNegativeInteger
def time : PropertyType := .value .time
def string : PropertyType := .value .string
def file : PropertyType := .value .file

/-- A list of strings. -/
def stringArray : PropertyType := .array string

/-- A list of paths to files. -/
def fileArray : PropertyType := .array file

/-- One string or a list of strings. -/
def stringOrStringArray : PropertyType :=
  .union [.type string, .type stringArray] none

/-- One path or a list of paths. -/
def fileOrFileArray : PropertyType :=
  .union [.type file, .type fileArray] none

/-- A build type. -/
def buildType : PropertyType :=
  .union (BuildType.all.map fun value => .word value.name) none

/-- A mode of clock synchronization; synchronizing at the start is the default. -/
def clockSync : PropertyType :=
  .union (ClockSync.all.map fun value => .word value.name) (some 1)

/-- A kind of coordination; the centralized one is the default. -/
def coordination : PropertyType :=
  .union (Coordination.all.map fun value => .word value.name) (some 0)

/-- A level of reporting; information is the default. -/
def verbosity : PropertyType :=
  .union (Verbosity.all.map fun value => .word value.name) (some 2)

/-- The options of clock synchronization. -/
def clockSyncOptions : PropertyType :=
  .dictionary (ClockSyncKey.all.map fun key => (key.name, key.type))

/-- The types in use by name. -/
def table : List (String × PropertyType) := [
  ("BOOLEAN", boolean),
  ("INTEGER", integer),
  ("NON_NEGATIVE_INTEGER", nonNegativeInteger),
  ("TIME_VALUE", time),
  ("STRING", string),
  ("FILE", file),
  ("STRING_ARRAY", stringArray),
  ("FILE_ARRAY", fileArray),
  ("STRING_OR_STRING_ARRAY", stringOrStringArray),
  ("FILE_OR_FILE_ARRAY", fileOrFileArray),
  ("BUILD_TYPE_UNION", buildType),
  ("CLOCK_SYNC_UNION", clockSync),
  ("COORDINATION_UNION", coordination),
  ("LOGGING_UNION", verbosity),
  ("CLOCK_SYNC_OPTION_DICT", clockSyncOptions)
]

/-- The type of a name. -/
def named? (name : String) : Option PropertyType :=
  table.lookup name

end PropertyType
end ReactorGen
