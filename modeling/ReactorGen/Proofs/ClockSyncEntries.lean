import Mathlib.Data.List.Induction
import ReactorGen.Proofs.CheckFindings

/-!
# Reported entries of a dictionary

The options of clock synchronization are stored entry by entry, and each option holds
the last value that was read for it.  Reading is more liberal than the check, so an
entry that is reported may still be stored: its value stays exactly if no later entry
is read for the same option.
-/

namespace ReactorGen

/-! ## What the options hold -/

/-- What an option of clock synchronization holds. -/
inductive ClockSyncValue
  | integer (value : Int32)
  | truth (value : Bool)
  | time (value : TimeValue)
  | offset (value : Option TimeValue)
deriving DecidableEq, Repr

namespace ClockSyncKey

/-- The value of the option that a key stands for. -/
def held (options : ClockSyncOptions) : ClockSyncKey -> ClockSyncValue
  | attenuation => .integer options.attenuation
  | localFederatesOn => .truth options.localFederatesOn
  | period => .time options.period
  | testOffset => .offset options.testOffset
  | trials => .integer options.trials
  | collectStats => .truth options.collectStats

/-- The value that is read from an element for a key, if one is. -/
def reading? (element : Element) : ClockSyncKey -> Option ClockSyncValue
  | attenuation => element.integer?.map .integer
  | localFederatesOn => some (.truth element.bool)
  | period => element.time?.map .time
  | testOffset => some (.offset element.time?)
  | trials => element.integer?.map .integer
  | collectStats => some (.truth element.bool)

theorem held_store_self
    (key : ClockSyncKey)
    (element : Element)
    (options : ClockSyncOptions) :
    key.held (key.store element options) =
      (key.reading? element).getD (key.held options) := by
  cases key with
  | attenuation => cases read : element.integer? <;> simp [held, store, reading?, read]
  | localFederatesOn => rfl
  | period => cases read : element.time? <;> simp [held, store, reading?, read]
  | testOffset => rfl
  | trials => cases read : element.integer? <;> simp [held, store, reading?, read]
  | collectStats => rfl

/-- Storing under one key leaves the options of all other keys as they were. -/
theorem held_store_of_ne
    {key other : ClockSyncKey}
    (different : other ≠ key)
    (element : Element)
    (options : ClockSyncOptions) :
    key.held (other.store element options) = key.held options := by
  cases key <;> cases other <;> first | rfl | exact absurd rfl different

theorem ext_held
    {first second : ClockSyncOptions}
    (equal : ∀ key : ClockSyncKey, key.held first = key.held second) :
    first = second := by
  have attenuations := equal attenuation
  have federates := equal localFederatesOn
  have periods := equal period
  have offsets := equal testOffset
  have trialCounts := equal trials
  have statistics := equal collectStats
  simp only [held, ClockSyncValue.integer.injEq, ClockSyncValue.truth.injEq,
    ClockSyncValue.time.injEq, ClockSyncValue.offset.injEq] at *
  cases first
  cases second
  simp_all

/-- The value that is read from an entry for a key, if it is an entry for the key. -/
def readFrom? (key : ClockSyncKey) (entry : String × Element) : Option ClockSyncValue :=
  if ofName? entry.1 = some key then key.reading? entry.2 else none

/-- The last value that is read from entries for a key. -/
def lastRead? (key : ClockSyncKey) (entries : List (String × Element)) :
    Option ClockSyncValue :=
  entries.reverse.findSome? key.readFrom?

theorem lastRead?_append
    (key : ClockSyncKey)
    (entries : List (String × Element))
    (entry : String × Element) :
    key.lastRead? (entries ++ [entry]) =
      (key.readFrom? entry).or (key.lastRead? entries) := by
  rw [lastRead?, List.reverse_append, List.reverse_singleton, List.singleton_append,
    List.findSome?_cons]
  cases key.readFrom? entry <;> rfl

theorem lastRead?_eq_none_iff
    {key : ClockSyncKey}
    {entries : List (String × Element)} :
    key.lastRead? entries = none ↔ ∀ entry ∈ entries, key.readFrom? entry = none := by
  simp [lastRead?, List.findSome?_eq_none_iff]

theorem lastRead?_eq_some_iff
    {key : ClockSyncKey}
    {entries : List (String × Element)}
    {value : ClockSyncValue} :
    key.lastRead? entries = some value ↔
      ∃ before entry after, entries = before ++ entry :: after ∧
        key.readFrom? entry = some value ∧
        ∀ later ∈ after, key.readFrom? later = none := by
  rw [lastRead?, List.findSome?_eq_some_iff]
  constructor
  · rintro ⟨after, entry, before, reverse_eq, read, unread⟩
    refine ⟨before.reverse, entry, after.reverse, ?_, read, ?_⟩
    · have entries_eq := congrArg List.reverse reverse_eq
      simpa using entries_eq
    · exact fun later member => unread later (List.mem_reverse.mp member)
  · rintro ⟨before, entry, after, rfl, read, unread⟩
    refine ⟨after.reverse, entry, before.reverse, by simp, read, ?_⟩
    exact fun later member => unread later (List.mem_reverse.mp member)

end ClockSyncKey

/-- Each option holds the last value that is read for it, or what it held before. -/
theorem ClockSyncOptions.held_storeAll
    (options : ClockSyncOptions)
    (entries : List (String × Element))
    (key : ClockSyncKey) :
    key.held (options.storeAll entries) =
      (key.lastRead? entries).getD (key.held options) := by
  induction entries using List.reverseRecOn with
  | nil => rfl
  | append_singleton entries entry inductionHypothesis =>
    rw [key.lastRead?_append, storeAll, List.foldl_append, List.foldl_cons, List.foldl_nil,
      ← storeAll, ClockSyncKey.readFrom?]
    cases known : ClockSyncKey.ofName? entry.1 with
    | none => simpa using inductionHypothesis
    | some other =>
      by_cases same : other = key
      · subst same
        dsimp only
        rw [other.held_store_self, inductionHypothesis, if_pos rfl]
        cases other.reading? entry.2 <;> rfl
      · dsimp only
        rw [ClockSyncKey.held_store_of_ne same, inductionHypothesis,
          if_neg fun equal => same (Option.some.inj equal), Option.none_or]

/-! ## What is reported -/

namespace PropertyType

/-- Whether the check of a dictionary reports an error for an entry. -/
def reports
    (type : PropertyType)
    (fileExists : String -> Bool)
    (name : String)
    (entry : String × Element) : Bool :=
  (type.check fileExists name (.dictionary [entry])).any Diagnostic.isError

/-- The entries that the check of a dictionary reports no error for. -/
def unreported
    (type : PropertyType)
    (fileExists : String -> Bool)
    (name : String)
    (entries : List (String × Element)) : List (String × Element) :=
  entries.filter fun entry => !type.reports fileExists name entry

end PropertyType

namespace ClockSyncKey

theorem any_isError_check
    (fileExists : String -> Bool)
    (name : String)
    (element : Element)
    (key : ClockSyncKey) :
    (key.type.check fileExists name element).any Diagnostic.isError =
      !key.type.accepts element := by
  cases key <;> exact ValueKind.any_isError_check fileExists name element _

/-- The check of an entry looks its key up among the keys. -/
theorem checkKey_eq
    (fileExists : String -> Bool)
    (path name : String)
    (element : Element)
    (keys : List ClockSyncKey) :
    checkKey fileExists path name element (keys.map fun key => (key.name, key.type)) =
      (Text.lookupNamed ClockSyncKey.name name keys).map fun key =>
        key.type.check fileExists path element := by
  induction keys with
  | nil => rfl
  | cons first rest inductionHypothesis =>
    rw [List.map_cons, checkKey, Text.lookupNamed, List.find?_cons]
    cases Text.sameName first.name name with
    | true => rfl
    | false => simpa [Text.lookupNamed] using inductionHypothesis

/-- An entry is reported if its key is not known or its value does not belong to the
type of the key. -/
theorem reports_eq
    (fileExists : String -> Bool)
    (path : String)
    (entry : String × Element) :
    PropertyType.clockSyncOptions.reports fileExists path entry =
      match ofName? entry.1 with
      | none => true
      | some key => !key.type.accepts entry.2 := by
  rw [PropertyType.reports, PropertyType.clockSyncOptions, PropertyType.check,
    List.flatMap_singleton]
  dsimp only
  rw [checkKey_eq, ← ofName?]
  cases ofName? entry.1 with
  | none => rfl
  | some key => exact key.any_isError_check fileExists _ entry.2

/-- The value that is read from an element that the type of a key rejects: an integer
even if it is negative or no literal, falsehood for what is no truth value, and no
offset for what is no time. -/
def misread? (element : Element) : ClockSyncKey -> Option ClockSyncValue
  | attenuation => element.integer?.map .integer
  | localFederatesOn => some (.truth false)
  | period => none
  | testOffset => some (.offset none)
  | trials => element.integer?.map .integer
  | collectStats => some (.truth false)

theorem reading?_of_not_accepts
    {key : ClockSyncKey}
    {element : Element}
    (rejected : key.type.accepts element = false) :
    key.reading? element = key.misread? element := by
  have truth : ValueKind.boolean.accepts element = false -> element.bool = false :=
    fun rejected => (Bool.or_eq_false_iff.mp rejected).1
  have time : ValueKind.time.accepts element = false -> element.time? = none :=
    fun rejected => by simpa [ValueKind.accepts] using rejected
  cases key with
  | attenuation => rfl
  | localFederatesOn => rw [reading?, misread?, truth rejected]
  | period => rw [reading?, misread?, time rejected, Option.map_none]
  | testOffset => rw [reading?, misread?, time rejected]
  | trials => rfl
  | collectStats => rw [reading?, misread?, truth rejected]

/-- Whether a value is read from a rejected entry and no later entry replaces it. -/
def Retains
    (key : ClockSyncKey)
    (entries : List (String × Element))
    (value : ClockSyncValue) : Prop :=
  ∃ before entry after, entries = before ++ entry :: after ∧
    ofName? entry.1 = some key ∧
    key.type.accepts entry.2 = false ∧
    key.misread? entry.2 = some value ∧
    ∀ later ∈ after, key.readFrom? later = none

theorem readFrom?_eq_some_iff
    {key : ClockSyncKey}
    {entry : String × Element}
    {value : ClockSyncValue} :
    key.readFrom? entry = some value ↔
      ofName? entry.1 = some key ∧ key.reading? entry.2 = some value := by
  rw [readFrom?]
  split
  case isTrue known => simp [known]
  case isFalse unknown => simp [unknown]

/-- A value is retained from the last entry that is read, if this entry is reported. -/
theorem retains_iff
    {key : ClockSyncKey}
    {entries : List (String × Element)}
    {value : ClockSyncValue}
    (fileExists : String -> Bool)
    (path : String) :
    key.Retains entries value ↔
      ∃ before entry after, entries = before ++ entry :: after ∧
        PropertyType.clockSyncOptions.reports fileExists path entry = true ∧
        key.readFrom? entry = some value ∧
        ∀ later ∈ after, key.readFrom? later = none := by
  constructor
  · rintro ⟨before, entry, after, entries_eq, known, rejected, misread, unread⟩
    refine ⟨before, entry, after, entries_eq, ?_, ?_, unread⟩
    · rw [reports_eq, known]
      simp [rejected]
    · rw [readFrom?_eq_some_iff, reading?_of_not_accepts rejected]
      exact ⟨known, misread⟩
  · rintro ⟨before, entry, after, entries_eq, reported, read, unread⟩
    obtain ⟨known, read⟩ := readFrom?_eq_some_iff.mp read
    have rejected : key.type.accepts entry.2 = false := by
      rw [reports_eq, known] at reported
      simpa using reported
    rw [reading?_of_not_accepts rejected] at read
    exact ⟨before, entry, after, entries_eq, known, rejected, read, unread⟩

/-- A value that is not retained is read from the entries that are not reported. -/
theorem lastRead?_unreported
    {key : ClockSyncKey}
    {entries : List (String × Element)}
    {value : ClockSyncValue}
    {fileExists : String -> Bool}
    {path : String}
    (read : key.lastRead? entries = some value)
    (notRetained : ¬ key.Retains entries value) :
    key.lastRead? (PropertyType.clockSyncOptions.unreported fileExists path entries) =
      some value := by
  obtain ⟨before, entry, after, entries_eq, read, unread⟩ := lastRead?_eq_some_iff.mp read
  have kept : (!PropertyType.clockSyncOptions.reports fileExists path entry) = true := by
    rw [retains_iff fileExists path] at notRetained
    rw [Bool.not_eq_true', ← Bool.not_eq_true]
    exact fun reported =>
      notRetained ⟨before, entry, after, entries_eq, reported, read, unread⟩
  rw [lastRead?_eq_some_iff, PropertyType.unreported, entries_eq, List.filter_append,
    List.filter_cons, if_pos kept]
  refine ⟨_, entry, _, rfl, read, ?_⟩
  exact fun later member => unread later (List.mem_filter.mp member).1

end ClockSyncKey

/-- Reported entries make no difference exactly if whatever is retained of them is held
without them, too. -/
theorem ClockSyncOptions.storeAll_eq_unreported_iff
    (options : ClockSyncOptions)
    (fileExists : String -> Bool)
    (path : String)
    (entries : List (String × Element)) :
    options.storeAll entries =
        options.storeAll
          (PropertyType.clockSyncOptions.unreported fileExists path entries) ↔
      ∀ (key : ClockSyncKey) (value : ClockSyncValue), key.Retains entries value ->
        key.held (options.storeAll
          (PropertyType.clockSyncOptions.unreported fileExists path entries)) = value := by
  constructor
  · intro equal key value retains
    have read : key.lastRead? entries = some value := by
      obtain ⟨before, entry, after, entries_eq, _, read, unread⟩ :=
        (ClockSyncKey.retains_iff fileExists path).mp retains
      exact ClockSyncKey.lastRead?_eq_some_iff.mpr
        ⟨before, entry, after, entries_eq, read, unread⟩
    rw [← equal, held_storeAll, read, Option.getD_some]
  · intro harmless
    apply ClockSyncKey.ext_held
    intro key
    cases read : key.lastRead? entries with
    | none =>
      have unread : key.lastRead?
          (PropertyType.clockSyncOptions.unreported fileExists path entries) = none := by
        rw [ClockSyncKey.lastRead?_eq_none_iff] at read ⊢
        exact fun entry member => read entry (List.mem_filter.mp member).1
      rw [held_storeAll, held_storeAll, read, unread]
    | some value =>
      by_cases retains : key.Retains entries value
      · rw [held_storeAll, read, Option.getD_some, harmless key value retains]
      · rw [held_storeAll, held_storeAll, read,
          ClockSyncKey.lastRead?_unreported read retains]

/-! ## What is stored -/

/-- The options of clock synchronization after a value has been applied. -/
def appliedOptions
    (fileExists : String -> Bool)
    (settings : Settings)
    (property : Property)
    (element : Element) : ClockSyncOptions :=
  (applyProperty fileExists settings property element).result.1.clockSyncOptions

/-- Among the properties only one has dictionaries as values. -/
theorem Property.accepts_dictionary
    {property : Property}
    (other : property ≠ .clockSyncOptions)
    (entries : List (String × Element)) :
    property.type.accepts (.dictionary entries) = false := by
  cases property <;> first | rfl | exact absurd rfl other

/-- A value that is reported itself is not stored.  The entries of a dictionary that are
reported make no difference exactly if whatever is retained of them is held without
them, too. -/
theorem applyProperty_reported
    (fileExists : String -> Bool)
    (settings : Settings)
    (property : Property) :
    (∀ element, ∀ problem ∈ property.type.check fileExists property.name element,
      problem.isError = true -> problem.subject = property.name ->
        (applyProperty fileExists settings property element).result.1 = settings) ∧
      ∀ entries,
        appliedOptions fileExists settings property (.dictionary entries) =
            appliedOptions fileExists settings property (.dictionary
              (property.type.unreported fileExists property.name entries)) ↔
          (property = .clockSyncOptions ->
            ∀ (key : ClockSyncKey) (value : ClockSyncValue), key.Retains entries value ->
              key.held (appliedOptions fileExists settings property (.dictionary
                (property.type.unreported fileExists property.name entries))) = value) := by
  constructor
  · intro element problem member isError subject_eq
    have rejected := PropertyType.accepts_of_error member isError subject_eq
    rw [applyProperty]
    exact if_neg (by rw [rejected]; exact Bool.false_ne_true)
  · intro entries
    by_cases same : property = .clockSyncOptions
    · subst same
      have options := settings.clockSyncOptions.storeAll_eq_unreported_iff fileExists
        Property.clockSyncOptions.name entries
      exact options.trans ⟨fun harmless _ => harmless, fun harmless => harmless rfl⟩
    · have unchanged : ∀ entries, appliedOptions fileExists settings property
          (.dictionary entries) = settings.clockSyncOptions := by
        intro entries
        rw [appliedOptions, applyProperty]
        exact congrArg Settings.clockSyncOptions
          (if_neg (by rw [Property.accepts_dictionary same]; exact Bool.false_ne_true))
      rw [unchanged, unchanged]
      exact ⟨fun _ equal => absurd equal same, fun _ => rfl⟩

/-! ## Rejected values -/

namespace RejectedValues

/-- An entry that is reported and one that overrides it. -/
def overridden : List (String × Element) := [
  ("attenuation", .literal "-3"),
  ("Attenuation", .literal "5")
]

/-- Nothing is retained from the entry that is overridden. -/
theorem not_retains (key : ClockSyncKey) (value : ClockSyncValue) :
    ¬ key.Retains overridden value := by
  rintro ⟨before, entry, after, entries_eq, known, rejected, _, unread⟩
  match before with
  | [] =>
    obtain ⟨rfl, rfl⟩ := List.cons.inj entries_eq
    obtain rfl : ClockSyncKey.attenuation = key := Option.some.inj known
    have read := unread _ (List.mem_singleton_self _)
    exact absurd read (by decide +kernel)
  | [first] =>
    obtain ⟨_, rest_eq⟩ := List.cons.inj entries_eq
    obtain ⟨rfl, rfl⟩ := List.cons.inj rest_eq
    obtain rfl : ClockSyncKey.attenuation = key := Option.some.inj known
    exact absurd rejected (by decide +kernel)
  | _ :: _ :: _ => simp [overridden] at entries_eq

/-- A negative number of threads is not stored; and a negative attenuation makes no
difference if another one follows. -/
theorem overridden_harmless :
    (applyProperty (fun _ => true) (.ofTarget .c) .threads (.literal "-1")).result.1 =
        .ofTarget .c ∧
      appliedOptions (fun _ => true) (.ofTarget .c) .clockSyncOptions
          (.dictionary overridden) =
        appliedOptions (fun _ => true) (.ofTarget .c) .clockSyncOptions (.dictionary
          (Property.clockSyncOptions.type.unreported (fun _ => true)
            Property.clockSyncOptions.name overridden)) := by
  constructor
  · have mismatch : typeMismatch "threads" ValueKind.nonNegativeInteger.description ∈
        Property.threads.type.check (fun _ => true) Property.threads.name
          (.literal "-1") := by decide +kernel
    have unchanged := (applyProperty_reported (fun _ => true) (.ofTarget .c) .threads).1
    exact unchanged _ _ mismatch rfl rfl
  · have harmless :=
      (applyProperty_reported (fun _ => true) (.ofTarget .c) .clockSyncOptions).2 overridden
    exact harmless.mpr fun _ key value retains => absurd retains (not_retains key value)

/-- Entries of which only the first offset is not reported. -/
def rejected : List (String × Element) := [
  ("attenuation", .literal "-3"),
  ("collect-stats", .literal "maybe"),
  ("test-offset", .time 20 (some .millisecond)),
  ("test-offset", .literal "20"),
  ("trials", .id "7"),
  ("period", .literal "5")
]

/-- The entries that are not reported. -/
def kept : List (String × Element) :=
  Property.clockSyncOptions.type.unreported (fun _ => true)
    Property.clockSyncOptions.name rejected

/-- All entries that are reported are stored nevertheless, except for the period. -/
theorem rejected_stored :
    kept = [("test-offset", .time 20 (some .millisecond))] ∧
      appliedOptions (fun _ => true) (.ofTarget .c) .clockSyncOptions
          (.dictionary kept) =
        ⟨10, true, false, ⟨5, .millisecond⟩, some ⟨20, .millisecond⟩, 10⟩ ∧
      appliedOptions (fun _ => true) (.ofTarget .c) .clockSyncOptions
          (.dictionary rejected) =
        ⟨-3, false, false, ⟨5, .millisecond⟩, none, 7⟩ ∧
      appliedOptions (fun _ => true) (.ofTarget .c) .clockSyncOptions
          (.dictionary rejected) ≠
        appliedOptions (fun _ => true) (.ofTarget .c) .clockSyncOptions
          (.dictionary kept) := by
  refine ⟨rfl, ?_, ?_, ?_⟩
  · decide +kernel
  · decide +kernel
  · decide +kernel

end RejectedValues
end ReactorGen
