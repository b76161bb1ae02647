import ReactorGen.Property.Type
import ReactorGen.Settings

/-!
# The options of clock synchronization

The keys of the dictionary that sets the details of clock synchronization, each
with the type of its value and what the value changes.
-/

namespace ReactorGen

/-- A key of the dictionary. -/
inductive ClockSyncKey
  | attenuation
  | localFederatesOn
  | period
  | testOffset
  | trials
  | collectStats
deriving DecidableEq, Repr

namespace ClockSyncKey

/-- Every key in the order of declaration. -/
def all : List ClockSyncKey :=
  [attenuation, localFederatesOn, period, testOffset, trials, collectStats]

/-- The spelling of a key. -/
def name : ClockSyncKey -> String
  | attenuation => "attenuation"
  | localFederatesOn => "local-federates-on"
  | period => "period"
  | testOffset => "test-offset"
  | trials => "trials"
  | collectStats => "collect-stats"

/-- The type of the value of a key. -/
def type : ClockSyncKey -> PropertyType
  | attenuation => .value .nonNegativeInteger
  | localFederatesOn => .value .boolean
  | period => .value .time
  | testOffset => .value .time
  | trials => .value .nonNegativeInteger
  | collectStats => .value .boolean

/-- The key with the given spelling in any letter case. -/
def ofName? (key : String) : Option ClockSyncKey :=
  Text.lookupNamed name key all

/-- Store a value under a key.  A value that cannot be read leaves its option as
it was, except that an unreadable test offset removes the offset. -/
def store
    (key : ClockSyncKey)
    (element : Element)
    (options : ClockSyncOptions) : ClockSyncOptions :=
  match key with
  | attenuation =>
    { options with attenuation := element.integer?.getD options.attenuation }
  | localFederatesOn => { options with localFederatesOn := element.bool }
  | period => { options with period := element.time?.getD options.period }
  | testOffset => { options with testOffset := element.time? }
  | trials => { options with trials := element.integer?.getD options.trials }
  | collectStats => { options with collectStats := element.bool }

end ClockSyncKey

/-- Store the entries of a dictionary in order; entries with unknown keys are
passed over. -/
def ClockSyncOptions.storeAll
    (options : ClockSyncOptions)
    (entries : List (String × Element)) : ClockSyncOptions :=
  entries.foldl
    (fun options entry =>
      match ClockSyncKey.ofName? entry.1 with
      | some key => key.store entry.2 options
      | none => options)
    options

end ReactorGen
