import Mathlib.Data.List.Perm.Basic
import ReactorGen.Proofs.ConfigurationReports

/-!
# The last valid entry

Every property owns one setting.  After a target declaration has been processed, a
setting holds what the last valid entry of its property says, or its default without
one, and entries of other properties make no difference to it.  The order of entries
therefore matters only among the entries of one property.
-/

namespace ReactorGen

/-! ## Words in any letter case -/

/-- An element that belongs to a union of words is found by its text. -/
theorem exists_lookupNamed_of_anyAccepts
    {element : Element}
    {nameOf : α -> String}
    {candidates : List α}
    (accepted :
      anyAccepts element (candidates.map fun value => .word (nameOf value)) = true) :
    ∃ value, Text.lookupNamed nameOf element.text candidates = some value ∧
      Text.sameName element.text (nameOf value) = true := by
  induction candidates with
  | nil => simp [anyAccepts] at accepted
  | cons first rest inductionHypothesis =>
    rw [List.map_cons, anyAccepts, UnionOption.accepts, Bool.or_eq_true] at accepted
    by_cases same : Text.sameName (nameOf first) element.text = true
    · refine ⟨first, ?_, by rwa [Text.sameName_comm]⟩
      simp [Text.lookupNamed, same]
    · have later : anyAccepts element
          (rest.map fun value => .word (nameOf value)) = true := by
        refine accepted.resolve_left ?_
        rw [Text.sameName_comm, Bool.and_eq_true]
        exact fun both => same both.2
      obtain ⟨value, found, value_same⟩ := inductionHypothesis later
      refine ⟨value, ?_, value_same⟩
      simpa [Text.lookupNamed, same] using found

@[simp] theorem BuildType.ofName?_name (value : BuildType) :
    BuildType.ofName? value.name = some value := by
  cases value <;> decide

@[simp] theorem ClockSync.ofName?_name (value : ClockSync) :
    ClockSync.ofName? value.name = some value := by
  cases value <;> decide

@[simp] theorem Coordination.ofName?_name (value : Coordination) :
    Coordination.ofName? value.name = some value := by
  cases value <;> decide

@[simp] theorem Verbosity.ofName?_name (value : Verbosity) :
    Verbosity.ofName? value.name = some value := by
  cases value <;> decide

/-! ## What the settings hold -/

namespace Property

/-- What the setting of a property can hold. -/
def Setting : Property -> Type
  | build => List String
  | buildType => BuildType
  | clockSync => ClockSync
  | clockSyncOptions => ClockSyncOptions
  | cmakeInclude => Option String
  | compiler => Option String
  | fast => Bool
  | files => List String
  | flags => List String
  | coordination => Coordination
  | keepalive => Bool
  | logging => Verbosity
  | noCompile => Bool
  | noRuntimeValidation => Bool
  | protobufs => List String
  | threads => UInt32
  | timeout => Option TimeValue
  | tracing => Option Tracing

/-- What the setting that a property owns holds. -/
def held (settings : Settings) : (property : Property) -> property.Setting
  | build => settings.buildCommands
  | buildType => settings.buildType
  | clockSync => settings.clockSync
  | clockSyncOptions => settings.clockSyncOptions
  | cmakeInclude => settings.cmakeInclude
  | compiler => settings.compiler
  | fast => settings.fast
  | files => settings.files
  | flags => settings.compilerFlags
  | coordination => settings.coordination
  | keepalive => settings.keepalive
  | logging => settings.verbosity
  | noCompile => settings.noCompile
  | noRuntimeValidation => settings.noRuntimeValidation
  | protobufs => settings.protoFiles
  | threads => settings.threads
  | timeout => settings.timeout
  | tracing => settings.tracing

/-- The target and what the properties own are all there is to settings. -/
theorem ext_held
    {first second : Settings}
    (target_eq : first.target = second.target)
    (equal : ∀ property : Property, property.held first = property.held second) :
    first = second := by
  cases first
  cases second
  simp only [Settings.mk.injEq]
  exact ⟨target_eq, equal build, equal buildType, equal cmakeInclude, equal clockSync,
    equal clockSyncOptions, equal compiler, equal flags, equal coordination, equal fast,
    equal files, equal keepalive, equal logging, equal noCompile,
    equal noRuntimeValidation, equal protobufs, equal threads, equal timeout,
    equal tracing⟩

/-- Storing a value changes only the setting that the property owns. -/
theorem held_store_of_ne
    {property other : Property}
    (different : other ≠ property)
    (element : Element)
    (settings : Settings) :
    property.held (other.store element settings) = property.held settings := by
  cases property <;> cases other <;> first | rfl | exact absurd rfl different

end Property

/-! ## What a value says -/

/-- Whether an element says that something is so, or that it is not. -/
def Element.SaysTruth (element : Element) (truth : Bool) : Prop :=
  Text.sameName element.text (toString truth) = true

/-- A truth value expresses what is read from it. -/
theorem Element.saysTruth_bool
    {element : Element}
    (accepted : ValueKind.boolean.accepts element = true) :
    element.SaysTruth element.bool := by
  rw [ValueKind.accepts, Bool.or_eq_true] at accepted
  rw [SaysTruth, bool]
  cases isTrue : Text.sameName element.text "true" with
  | true => exact isTrue
  | false => exact accepted.resolve_left (by simp [isTrue])

theorem Element.SaysTruth.unique
    {element : Element}
    {first second : Bool}
    (firstSays : element.SaysTruth first)
    (secondSays : element.SaysTruth second) :
    first = second := by
  have same : Text.sameName (toString first) (toString second) = true := by
    rw [SaysTruth, Text.sameName_comm] at firstSays
    rw [← Text.sameName_congr secondSays, firstSays]
  revert same
  cases first <;> cases second <;> decide

/-- An element that belongs to a union of words is read as a value that has its text
for a name. -/
theorem sameName_getD_of_accepts
    {element : Element}
    {nameOf : α -> String}
    {candidates : List α}
    {default : Option Nat}
    (accepted : PropertyType.accepts element
      (.union (candidates.map fun value => .word (nameOf value)) default) = true)
    (other : α) :
    Text.sameName element.text
      (nameOf ((Text.lookupNamed nameOf element.text candidates).getD other)) = true := by
  obtain ⟨value, found, same⟩ := exists_lookupNamed_of_anyAccepts accepted
  rw [found]
  exact same

/-- An element names at most one value if all values are found by their own names. -/
theorem eq_of_sameName
    {element : Element}
    {nameOf : α -> String}
    {candidates : List α}
    (distinct : ∀ value,
      Text.lookupNamed nameOf (nameOf value) candidates = some value)
    {first second : α}
    (firstSame : Text.sameName element.text (nameOf first) = true)
    (secondSame : Text.sameName element.text (nameOf second) = true) :
    first = second := by
  rw [Text.sameName_comm] at firstSame secondSame
  have firstFound := Text.lookupNamed_eq_some (distinct first) firstSame
  have secondFound := Text.lookupNamed_eq_some (distinct second) secondSame
  exact Option.some.inj (firstFound.symm.trans secondFound)

/-- A non-negative integer is a number of threads. -/
theorem exists_threadCount?_of_accepts
    {element : Element}
    (accepted : ValueKind.nonNegativeInteger.accepts element = true) :
    ∃ count, Property.threadCount? element = some count ∧
      element.integer?.map Int32.toInt = some (count.toNat : Int) := by
  rw [ValueKind.accepts, Bool.and_eq_true, Option.any_eq_true] at accepted
  obtain ⟨_, value, value_eq, nonNegative⟩ := accepted
  have nonNegative : 0 ≤ value.toInt := of_decide_eq_true nonNegative
  have bound : value.toInt < 2 ^ 31 := value.toInt_lt
  refine ⟨UInt32.ofNat value.toInt.toNat, ?_, ?_⟩
  · simp [Property.threadCount?, value_eq, nonNegative]
  · have small : value.toInt.toNat < 2 ^ 32 := by omega
    rw [value_eq, Option.map_some, UInt32.toNat_ofNat', Nat.mod_eq_of_lt small,
      Int.toNat_of_nonneg nonNegative]

namespace Property

/-- The element says what the setting of the property is.  The options of clock
synchronization are not determined by one dictionary: it changes those that it names. -/
def Reads (element : Element) : (property : Property) -> property.Setting -> Prop
  | build, commands => commands = element.texts
  | buildType, (value : BuildType) => Text.sameName element.text value.name = true
  | clockSync, (mode : ClockSync) => Text.sameName element.text mode.name = true
  | clockSyncOptions, options => ∃ (before : ClockSyncOptions) (entries : _),
      element.entries? = some entries ∧ options = before.storeAll entries
  | cmakeInclude, path => path = some element.text
  | compiler, command => command = some element.text
  | fast, isFast => element.SaysTruth isFast
  | files, paths => paths = element.texts
  | flags, arguments => arguments = element.texts
  | coordination, (kind : Coordination) => Text.sameName element.text kind.name = true
  | keepalive, isKept => element.SaysTruth isKept
  | logging, (level : Verbosity) => Text.sameName element.text level.name = true
  | noCompile, isOff => element.SaysTruth isOff
  | noRuntimeValidation, isOff => element.SaysTruth isOff
  | protobufs, paths => paths = element.texts
  | threads, (count : UInt32) => element.integer?.map Int32.toInt = some (count.toNat : Int)
  | timeout, limit => element.time?.isSome = true ∧ limit = element.time?
  | tracing, details => ∃ isOn, element.SaysTruth isOn ∧
      details = if isOn then some ⟨none⟩ else none

/-- What is stored for a valid value is what the value expresses. -/
theorem reads_store
    {property : Property}
    {element : Element}
    (accepted : property.type.accepts element = true)
    (settings : Settings) :
    property.Reads element (property.held (property.store element settings)) := by
  cases property with
  | build => rfl
  | buildType => exact sameName_getD_of_accepts accepted _
  | clockSync => exact sameName_getD_of_accepts accepted _
  | clockSyncOptions =>
    obtain ⟨entries, entries_eq⟩ := Option.isSome_iff_exists.mp accepted
    refine ⟨settings.clockSyncOptions, entries, entries_eq, ?_⟩
    rw [held, store, entries_eq]
    rfl
  | cmakeInclude => rfl
  | compiler => rfl
  | fast => exact Element.saysTruth_bool accepted
  | files => rfl
  | flags => rfl
  | coordination => exact sameName_getD_of_accepts accepted _
  | keepalive => exact Element.saysTruth_bool accepted
  | logging => exact sameName_getD_of_accepts accepted _
  | noCompile => exact Element.saysTruth_bool accepted
  | noRuntimeValidation => exact Element.saysTruth_bool accepted
  | protobufs => rfl
  | threads =>
    obtain ⟨count, count_eq, value_eq⟩ := exists_threadCount?_of_accepts accepted
    rw [held, store, count_eq]
    exact value_eq
  | timeout => exact ⟨accepted, rfl⟩
  | tracing => exact ⟨element.bool, Element.saysTruth_bool accepted, rfl⟩

/-- A valid value determines the setting of its property. -/
theorem reads_unique
    {property : Property}
    (notOptions : property ≠ .clockSyncOptions)
    {element : Element}
    {first second : property.Setting}
    (firstRead : property.Reads element first)
    (secondRead : property.Reads element second) :
    first = second := by
  cases property with
  | build => exact firstRead.trans secondRead.symm
  | buildType => exact eq_of_sameName BuildType.ofName?_name firstRead secondRead
  | clockSync => exact eq_of_sameName ClockSync.ofName?_name firstRead secondRead
  | clockSyncOptions => exact absurd rfl notOptions
  | cmakeInclude => exact firstRead.trans secondRead.symm
  | compiler => exact firstRead.trans secondRead.symm
  | fast => exact Element.SaysTruth.unique firstRead secondRead
  | files => exact firstRead.trans secondRead.symm
  | flags => exact firstRead.trans secondRead.symm
  | coordination => exact eq_of_sameName Coordination.ofName?_name firstRead secondRead
  | keepalive => exact Element.SaysTruth.unique firstRead secondRead
  | logging => exact eq_of_sameName Verbosity.ofName?_name firstRead secondRead
  | noCompile => exact Element.SaysTruth.unique firstRead secondRead
  | noRuntimeValidation => exact Element.SaysTruth.unique firstRead secondRead
  | protobufs => exact firstRead.trans secondRead.symm
  | threads =>
    have counts := Option.some.inj (firstRead.symm.trans secondRead)
    exact UInt32.toNat_inj.mp (Int.ofNat.inj counts)
  | timeout => exact firstRead.2.trans secondRead.2.symm
  | tracing =>
    obtain ⟨firstOn, firstSays, rfl⟩ := firstRead
    obtain ⟨secondOn, secondSays, rfl⟩ := secondRead
    rw [firstSays.unique secondSays]

/-! ## Entries -/

/-- Whether an entry is one of the property, whatever the letter case of its name. -/
def names (property : Property) (entry : String × Element) : Bool :=
  Text.sameName property.name entry.1

/-- Whether an entry is a valid one of the property. -/
def assigns (property : Property) (entry : String × Element) : Bool :=
  property.names entry && property.type.accepts entry.2

theorem ofName?_eq_some_iff {property : Property} {name : String} :
    ofName? name = some property ↔ Text.sameName property.name name = true := by
  constructor
  · intro found
    exact List.find?_some
      (p := fun candidate : Property => Text.sameName candidate.name name) found
  · exact Text.lookupNamed_eq_some (ofName?_name property)

end Property

/-- The settings after one entry. -/
def Settings.after (settings : Settings) (entry : String × Element) : Settings :=
  match Property.ofName? entry.1 with
  | none => settings
  | some property =>
    if property.type.accepts entry.2 then property.store entry.2 settings else settings

theorem settings_configureEntry
    (fileExists : String -> Bool)
    (configured : Configured)
    (entry : String × Element) :
    (configureEntry fileExists configured entry).result.settings =
      configured.settings.after entry := by
  cases found : Property.ofName? entry.1 with
  | none => simp [configureEntry, applyEntry, Settings.after, found]
  | some property =>
    simp [configureEntry, applyEntry, applyProperty, Settings.after, found]

/-- The settings of a target declaration come about entry by entry. -/
theorem settings_configure
    (fileExists : String -> Bool)
    (target : Target)
    (entries : List (String × Element)) :
    (configure fileExists target entries).result.settings =
      entries.foldl Settings.after (.ofTarget target) := by
  suffices general : ∀ configured : Configured,
      (entries.foldlM (configureEntry fileExists) configured).result.settings =
        entries.foldl Settings.after configured.settings from general _
  induction entries with
  | nil => simp
  | cons entry rest inductionHypothesis =>
    intro configured
    rw [List.foldlM_cons, Report.result_bind, inductionHypothesis,
      settings_configureEntry, List.foldl_cons]

namespace Property

/-- An entry changes a setting only if it is a valid one of the property. -/
theorem held_after
    (property : Property)
    (settings : Settings)
    (entry : String × Element) :
    property.held (settings.after entry) =
      if property.assigns entry then property.held (property.store entry.2 settings)
      else property.held settings := by
  rw [Settings.after, assigns, names]
  cases found : ofName? entry.1 with
  | none =>
    have other : ¬ Text.sameName property.name entry.1 = true := by
      rw [← ofName?_eq_some_iff, found]
      exact nofun
    simp [other]
  | some owner =>
    by_cases same : owner = property
    · subst same
      simp only [ofName?_eq_some_iff.mp found, Bool.true_and]
      split <;> rfl
    · have other : ¬ Text.sameName property.name entry.1 = true := by
        rw [← ofName?_eq_some_iff, found]
        exact fun equal => same (Option.some.inj equal)
      simp only [other, Bool.false_and, Bool.false_eq_true, if_false]
      split
      · exact held_store_of_ne same _ _
      · rfl

/-- Without a valid entry a setting stays as it was. -/
theorem held_foldl_after_of_not_assigns
    {property : Property}
    {entries : List (String × Element)}
    (none : ∀ entry ∈ entries, property.assigns entry = false)
    (settings : Settings) :
    property.held (entries.foldl Settings.after settings) = property.held settings := by
  induction entries generalizing settings with
  | nil => rfl
  | cons entry rest inductionHypothesis =>
    rw [List.forall_mem_cons] at none
    rw [List.foldl_cons, inductionHypothesis none.2, held_after, none.1]
    rfl

/-- A setting holds what the last valid entry expresses. -/
theorem reads_foldl_after
    {property : Property}
    {before after : List (String × Element)}
    {entry : String × Element}
    (assigned : property.assigns entry = true)
    (none : ∀ later ∈ after, property.assigns later = false)
    (settings : Settings) :
    property.Reads entry.2 (property.held
      ((before ++ entry :: after).foldl Settings.after settings)) := by
  have accepted := (Bool.and_eq_true_iff.mp assigned).2
  rw [List.foldl_append, List.foldl_cons, held_foldl_after_of_not_assigns none,
    held_after, if_pos assigned]
  exact reads_store accepted _

/-- What a setting holds after a value was stored depends on the value and on what it
held before. -/
theorem held_store_congr
    {property : Property}
    {first second : Settings}
    (equal : property.held first = property.held second)
    (element : Element) :
    property.held (property.store element first) =
      property.held (property.store element second) := by
  cases property
  case buildType => exact congrArg (Option.getD _) equal
  case clockSync => exact congrArg (Option.getD _) equal
  case clockSyncOptions =>
    exact congrArg (ClockSyncOptions.storeAll · (element.entries?.getD [])) equal
  case coordination => exact congrArg (Option.getD _) equal
  case logging => exact congrArg (Option.getD _) equal
  case threads => exact congrArg (Option.getD _) equal
  all_goals rfl

/-- Entries that are not of the property make no difference to its setting. -/
theorem held_foldl_after_filter
    {property : Property}
    {first second : Settings}
    (equal : property.held first = property.held second)
    (entries : List (String × Element)) :
    property.held (entries.foldl Settings.after first) =
      property.held ((entries.filter property.names).foldl Settings.after second) := by
  induction entries generalizing first second with
  | nil => exact equal
  | cons entry rest inductionHypothesis =>
    cases named : property.names entry with
    | false =>
      rw [List.foldl_cons, List.filter_cons_of_neg (by simp [named])]
      apply inductionHypothesis
      rw [held_after, assigns, named]
      exact equal
    | true =>
      rw [List.filter_cons_of_pos named, List.foldl_cons, List.foldl_cons]
      apply inductionHypothesis
      rw [held_after, held_after]
      split
      · exact held_store_congr equal _
      · exact equal

end Property

/-! ## The configuration of a target declaration -/

/-- Entries in another order, in which the entries of each property stand in their
order. -/
structure KeepsOrder (entries reordered : List (String × Element)) : Prop where
  perm : reordered.Perm entries
  filter_eq : ∀ property : Property,
    reordered.filter property.names = entries.filter property.names

/-- How many errors and warnings there are does not depend on the order of problems. -/
theorem Diagnostics.totals_ofList_perm
    {first second : List Diagnostic}
    (perm : first.Perm second) :
    (Diagnostics.ofList first).totalErrors = (Diagnostics.ofList second).totalErrors ∧
      (Diagnostics.ofList first).totalWarnings =
        (Diagnostics.ofList second).totalWarnings := by
  rw [ofList_eq, ofList_eq]
  exact ⟨(perm.filter _).length_eq, (perm.filter _).length_eq⟩

/-- The target is kept.  Every setting holds what the last valid entry of its property
expresses, or its default without one; a valid value expresses exactly one setting,
except for the options of clock synchronization.  Entries of other properties make no
difference to a setting, and so an order that keeps the order of the entries of each
property gives the same settings and as many errors and warnings. -/
theorem configure_holdsLast
    (fileExists : String -> Bool)
    (target : Target)
    (entries : List (String × Element)) :
    let configured := (configure fileExists target entries).result
    configured.settings.target = target ∧
      (∀ property : Property,
        (∀ before entry after, entries = before ++ entry :: after ->
          property.assigns entry = true ->
          (∀ later ∈ after, property.assigns later = false) ->
            property.Reads entry.2 (property.held configured.settings)) ∧
        ((∀ entry ∈ entries, property.assigns entry = false) ->
          property.held configured.settings = property.held (.ofTarget target))) ∧
      (∀ property : Property, property ≠ .clockSyncOptions -> ∀ element,
        property.type.accepts element = true ->
          ∃! value, property.Reads element value) ∧
      (∀ property : Property,
        property.held configured.settings = property.held
          (configure fileExists target (entries.filter property.names)).result.settings) ∧
      ∀ reordered, KeepsOrder entries reordered ->
        let other := (configure fileExists target reordered).result
        other.settings = configured.settings ∧
          other.diagnostics.totalErrors = configured.diagnostics.totalErrors ∧
          other.diagnostics.totalWarnings = configured.diagnostics.totalWarnings := by
  have onlyOwn : ∀ (entries : List (String × Element)) (property : Property),
      property.held (configure fileExists target entries).result.settings = property.held
        (configure fileExists target (entries.filter property.names)).result.settings := by
    intro entries property
    rw [settings_configure, settings_configure]
    exact Property.held_foldl_after_filter rfl entries
  refine ⟨target_configure .., ?_, ?_, onlyOwn entries, ?_⟩
  · intro property
    rw [settings_configure]
    constructor
    · rintro before entry after rfl assigned none
      exact Property.reads_foldl_after assigned none _
    · exact fun none => Property.held_foldl_after_of_not_assigns none _
  · intro property notOptions element accepted
    refine ⟨_, Property.reads_store accepted (.ofTarget target), ?_⟩
    exact fun value read => Property.reads_unique notOptions read
      (Property.reads_store accepted _)
  · intro reordered keeps
    refine ⟨Property.ext_held ?_ ?_, ?_⟩
    · rw [target_configure, target_configure]
    · intro property
      rw [onlyOwn, keeps.filter_eq property, ← onlyOwn]
    · rw [diagnostics_configure, diagnostics_configure]
      exact Diagnostics.totals_ofList_perm (keeps.perm.flatMap_right _)

namespace RepeatedEntries

/-- Entries for the number of threads, of which the last is not valid. -/
def threads : List (String × Element) := [
  ("threads", .literal "4"),
  ("Threads", .literal "0x10"),
  ("threads", .literal "-1")
]

/-- Entries for the level of reporting. -/
def logging : List (String × Element) := [
  ("logging", .id "DEBUG"),
  ("LOGGING", .literal "\"Warn\"")
]

theorem keepsOrder : KeepsOrder (threads ++ logging) (logging ++ threads) where
  perm := List.perm_append_comm
  filter_eq := by
    intro property
    cases property <;> rfl

/-- The number of threads is what the last valid entry gives, and it does not matter
whether the level of reporting is given before or after it. -/
theorem threads_hold_last :
    let configured := (configure (fun _ => true) .c (threads ++ logging)).result
    let reordered := (configure (fun _ => true) .c (logging ++ threads)).result
    Property.threads.Reads (.literal "0x10") configured.settings.threads ∧
      configured.settings.threads = 16 ∧
      reordered.settings = configured.settings ∧
      reordered.diagnostics.totalErrors = configured.diagnostics.totalErrors := by
  have ⟨_, holds, _, _, ordered⟩ := configure_holdsLast (fun _ => true) .c (threads ++ logging)
  have same := ordered _ keepsOrder
  have last := (holds .threads).1 [("threads", .literal "4")] ("Threads", .literal "0x10")
    (("threads", .literal "-1") :: logging) rfl (by decide +kernel) (by decide +kernel)
  exact ⟨last, by decide +kernel, same.1, same.2.1⟩

end RepeatedEntries
end ReactorGen
