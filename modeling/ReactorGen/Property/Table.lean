import ReactorGen.Property.Kinds

/-!
# Target properties

Every property that a target declaration can have: its name, the type of its
value, the targets that support it and the setting that it changes.
-/

namespace ReactorGen

/-- A property of a target declaration. -/
inductive Property
  | build
  | buildType
  | clockSync
  | clockSyncOptions
  | cmakeInclude
  | compiler
  | fast
  | files
  | flags
  | coordination
  | keepalive
  | logging
  | noCompile
  | noRuntimeValidation
  | protobufs
  | threads
  | timeout
  | tracing
deriving DecidableEq, Repr

namespace Property

/-- Every property in the order of declaration. -/
def all : List Property := [
  build, buildType, clockSync, clockSyncOptions, cmakeInclude, compiler, fast,
  files, flags, coordination, keepalive, logging, noCompile,
  noRuntimeValidation, protobufs, threads, timeout, tracing
]

/-- The name of a property in a target declaration. -/
def name : Property -> String
  | build => "build"
  | buildType => "build-type"
  | clockSync => "clock-sync"
  | clockSyncOptions => "clock-sync-options"
  | cmakeInclude => "cmake-include"
  | compiler => "compiler"
  | fast => "fast"
  | files => "files"
  | flags => "flags"
  | coordination => "coordination"
  | keepalive => "keepalive"
  | logging => "logging"
  | noCompile => "no-compile"
  | noRuntimeValidation => "no-runtime-validation"
  | protobufs => "protobufs"
  | threads => "threads"
  | timeout => "timeout"
  | tracing => "tracing"

/-- The type of the values of a property. -/
def type : Property -> PropertyType
  | build => .stringOrStringArray
  | buildType => .buildType
  | clockSync => .clockSync
  | clockSyncOptions => .clockSyncOptions
  | cmakeInclude => .string
  | compiler => .string
  | fast => .boolean
  | files => .fileOrFileArray
  | flags => .stringOrStringArray
  | coordination => .coordination
  | keepalive => .boolean
  | logging => .verbosity
  | noCompile => .boolean
  | noRuntimeValidation => .boolean
  | protobufs => .fileOrFileArray
  | threads => .nonNegativeInteger
  | timeout => .time
  | tracing => .boolean

/-- The targets that support a property. -/
def supportedBy : Property -> List Target
  | build => [.c]
  | buildType => [.cpp]
  | clockSync => [.c, .ccpp]
  | clockSyncOptions => [.c, .ccpp]
  | cmakeInclude => [.cpp]
  | compiler => Target.all
  | fast => Target.all
  | files => Target.all
  | flags => [.c, .ccpp]
  | coordination => [.c, .ccpp, .python]
  | keepalive => Target.all
  | logging => Target.all
  | noCompile => [.c, .cpp, .ccpp]
  | noRuntimeValidation => [.cpp]
  | protobufs => [.c, .typeScript, .python]
  | threads => [.c, .cpp, .ccpp]
  | timeout => Target.all
  | tracing => [.c, .cpp]

/-- Whether a target supports a property. -/
def supports (property : Property) (target : Target) : Bool :=
  property.supportedBy.contains target

/-- The property with the given name in any letter case. -/
def ofName? (propertyName : String) : Option Property :=
  Text.lookupNamed name propertyName all

/-- The number of threads that an element denotes. -/
def threadCount? (element : Element) : Option UInt32 :=
  match element.integer? with
  | none => none
  | some value =>
    if 0 ≤ value.toInt then some (UInt32.ofNat value.toInt.toNat) else none

/-- Store a value in the setting that the property owns.  A value that cannot be
read leaves the setting as it was, except that an unreadable timeout removes the
timeout. -/
def store (property : Property) (element : Element) (settings : Settings) : Settings :=
  match property with
  | build => { settings with buildCommands := element.texts }
  | buildType =>
    { settings with
      buildType := (BuildType.ofName? element.text).getD settings.buildType }
  | clockSync =>
    { settings with
      clockSync := (ClockSync.ofName? element.text).getD settings.clockSync }
  | clockSyncOptions =>
    { settings with
      clockSyncOptions :=
        settings.clockSyncOptions.storeAll (element.entries?.getD []) }
  | cmakeInclude => { settings with cmakeInclude := some element.text }
  | compiler => { settings with compiler := some element.text }
  | fast => { settings with fast := element.bool }
  | files => { settings with files := element.texts }
  | flags => { settings with compilerFlags := element.texts }
  | coordination =>
    { settings with
      coordination :=
        (Coordination.ofName? element.text).getD settings.coordination }
  | keepalive => { settings with keepalive := element.bool }
  | logging =>
    { settings with
      verbosity := (Verbosity.ofName? element.text).getD settings.verbosity }
  | noCompile => { settings with noCompile := element.bool }
  | noRuntimeValidation => { settings with noRuntimeValidation := element.bool }
  | protobufs => { settings with protoFiles := element.texts }
  | threads =>
    { settings with threads := (threadCount? element).getD settings.threads }
  | timeout => { settings with timeout := element.time? }
  | tracing =>
    { settings with tracing := if element.bool then some ⟨none⟩ else none }

/-- A property with the targets that support it, as one line. -/
def summary (property : Property) : String :=
  "TargetProperty \x7b name: \"" ++ property.name ++ "\", supported_by: [" ++
    ", ".intercalate (property.supportedBy.map Target.name) ++ "] \x7d"

theorem mem_all (property : Property) : property ∈ all := by
  cases property <;> simp [all]

/-- No two properties share a name, whatever the letter case. -/
@[simp] theorem ofName?_name (property : Property) :
    ofName? property.name = some property := by
  cases property <;> decide +kernel

end Property

/-- The properties that a target supports, in the order of declaration. -/
def Target.properties (target : Target) : List Property :=
  Property.all.filter (·.supports target)

/-- Whether a target supports a property with exactly this name. -/
def Target.accepts (target : Target) (propertyName : String) : Bool :=
  target.properties.any (·.name == propertyName)

end ReactorGen
