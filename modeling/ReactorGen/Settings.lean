import ReactorGen.Target
import ReactorGen.Text.Name
import ReactorGen.Time

/-!
# Settings

The typed settings of one compilation.  They start from the defaults of a target
and are changed only by the properties of a target declaration.
-/

namespace ReactorGen

/-- How the build tool optimises. -/
inductive BuildType
  | release
  | debug
  | releaseWithDebugInfo
  | minimalSize
deriving DecidableEq, Repr

namespace BuildType

/-- Every build type in the order of declaration. -/
def all : List BuildType := [release, debug, releaseWithDebugInfo, minimalSize]

/-- The word that selects a build type. -/
def name : BuildType -> String
  | release => "Release"
  | debug => "Debug"
  | releaseWithDebugInfo => "RelWithDebInfo"
  | minimalSize => "MinSizeRel"

/-- The build type with the given name in any letter case. -/
def ofName? (word : String) : Option BuildType :=
  Text.lookupNamed name word all

end BuildType

/-- When the clocks of federates are synchronized. -/
inductive ClockSync
  /-- Never. -/
  | off
  /-- When execution starts. -/
  | initial
  /-- When execution starts and again and again after that. -/
  | on
deriving DecidableEq, Repr

namespace ClockSync

/-- Every mode in the order of declaration. -/
def all : List ClockSync := [off, initial, on]

/-- The word that selects a mode. -/
def name : ClockSync -> String
  | off => "off"
  | initial => "initial"
  | on => "on"

/-- The mode with the given name in any letter case. -/
def ofName? (word : String) : Option ClockSync :=
  Text.lookupNamed name word all

end ClockSync

/-- How federates agree on the order of events. -/
inductive Coordination
  | centralized
  | decentralized
deriving DecidableEq, Repr

namespace Coordination

/-- Every kind of coordination in the order of declaration. -/
def all : List Coordination := [centralized, decentralized]

/-- The word that selects a kind of coordination. -/
def name : Coordination -> String
  | centralized => "centralized"
  | decentralized => "decentralized"

/-- The kind of coordination with the given name in any letter case. -/
def ofName? (word : String) : Option Coordination :=
  Text.lookupNamed name word all

end Coordination

/-- How much the runtime reports, least first. -/
inductive Verbosity
  | error
  | warn
  | info
  | log
  | debug
deriving DecidableEq, Repr

namespace Verbosity

/-- Every level in the order of declaration. -/
def all : List Verbosity := [error, warn, info, log, debug]

/-- The word that selects a level. -/
def name : Verbosity -> String
  | error => "error"
  | warn => "warn"
  | info => "info"
  | log => "log"
  | debug => "debug"

/-- The level with the given name in any letter case. -/
def ofName? (word : String) : Option Verbosity :=
  Text.lookupNamed name word all

/-- The number by which the runtime knows a level. -/
def number : Verbosity -> Nat
  | error => 0
  | warn => 1
  | info => 2
  | log => 3
  | debug => 4

end Verbosity

/-- The details of clock synchronization. -/
structure ClockSyncOptions where
  /-- How much an adjustment is damped. -/
  attenuation : Int32
  /-- Whether statistics are collected. -/
  collectStats : Bool
  /-- Whether federates on one host are synchronized, too. -/
  localFederatesOn : Bool
  /-- The time between two rounds. -/
  period : TimeValue
  /-- An artificial offset of the clock, for tests. -/
  testOffset : Option TimeValue
  /-- How many messages are exchanged in a round. -/
  trials : Int32
deriving DecidableEq, Repr

/-- The details that hold unless a program gives others. -/
def ClockSyncOptions.default : ClockSyncOptions :=
  ⟨10, true, false, ⟨5, .millisecond⟩, none, 10⟩

/-- The details of tracing. -/
structure Tracing where
  /-- The name of the trace file; without one the runtime picks it. -/
  fileName : Option String
deriving DecidableEq, Repr

/-- The settings of one compilation. -/
structure Settings where
  target : Target
  buildCommands : List String
  buildType : BuildType
  cmakeInclude : Option String
  clockSync : ClockSync
  clockSyncOptions : ClockSyncOptions
  compiler : Option String
  compilerFlags : List String
  coordination : Coordination
  fast : Bool
  files : List String
  keepalive : Bool
  verbosity : Verbosity
  noCompile : Bool
  noRuntimeValidation : Bool
  protoFiles : List String
  /-- How many worker threads the runtime uses. -/
  threads : UInt32
  /-- When execution ends at the latest. -/
  timeout : Option TimeValue
  tracing : Option Tracing
deriving DecidableEq, Repr

/-- The settings of a target declaration without properties. -/
def Settings.ofTarget (target : Target) : Settings where
  target := target
  buildCommands := []
  buildType := .release
  cmakeInclude := none
  clockSync := .initial
  clockSyncOptions := .default
  compiler := none
  compilerFlags := []
  coordination := .centralized
  fast := false
  files := []
  keepalive := false
  verbosity := .info
  noCompile := false
  noRuntimeValidation := false
  protoFiles := []
  threads := 0
  timeout := none
  tracing := none

end ReactorGen
