import ReactorGen.Proofs.BuildSettings
import ReactorGen.Proofs.ErrorScope
import ReactorGen.Proofs.LastValidEntry

/-!
# Properties that a target does not support

The warning about such a property says that it will be ignored, but its value is stored
like any other.  What is generated from the settings then changes only for the
interpreter, which supports neither threads nor tracing but looks at both: with other
values for them every federate gets another build, or other native code.
-/

namespace ReactorGen

/-! ## What is stored -/

namespace Property

/-- Whatever a setting holds, some valid value changes it. -/
theorem exists_changing (property : Property) (settings : Settings) :
    ∃ element, property.type.accepts element = true ∧
      property.held (property.store element settings) ≠ property.held settings := by
  suffices twoValues : ∃ first second,
      property.type.accepts first = true ∧ property.type.accepts second = true ∧
        property.held (property.store first settings) ≠
          property.held (property.store second settings) by
    obtain ⟨first, second, firstAccepted, secondAccepted, different⟩ := twoValues
    by_cases same : property.held (property.store first settings) = property.held settings
    case pos => exact ⟨second, secondAccepted, fun equal => different (same.trans equal.symm)⟩
    case neg => exact ⟨first, firstAccepted, same⟩
  have words : (["first"] : List String) ≠ ["second"] := by decide
  have word : some "first" ≠ some "second" := by decide
  cases property with
  | build => exact ⟨.id "first", .id "second", rfl, rfl, words⟩
  | buildType =>
    exact ⟨.id "Release", .id "Debug", rfl, rfl, (by decide : BuildType.release ≠ .debug)⟩
  | clockSync => exact ⟨.id "off", .id "on", rfl, rfl, (by decide : ClockSync.off ≠ .on)⟩
  | clockSyncOptions =>
    refine ⟨.dictionary [("collect-stats", .id "true")],
      .dictionary [("collect-stats", .id "false")], rfl, rfl, fun equal => ?_⟩
    exact absurd (congrArg ClockSyncOptions.collectStats equal) (by decide : true ≠ false)
  | cmakeInclude => exact ⟨.id "first", .id "second", rfl, rfl, word⟩
  | compiler => exact ⟨.id "first", .id "second", rfl, rfl, word⟩
  | fast => exact ⟨.id "true", .id "false", rfl, rfl, (by decide : true ≠ false)⟩
  | files => exact ⟨.id "first", .id "second", rfl, rfl, words⟩
  | flags => exact ⟨.id "first", .id "second", rfl, rfl, words⟩
  | coordination =>
    exact ⟨.id "centralized", .id "decentralized", rfl, rfl,
      (by decide : Coordination.centralized ≠ .decentralized)⟩
  | keepalive => exact ⟨.id "true", .id "false", rfl, rfl, (by decide : true ≠ false)⟩
  | logging =>
    exact ⟨.id "info", .id "debug", rfl, rfl, (by decide : Verbosity.info ≠ .debug)⟩
  | noCompile => exact ⟨.id "true", .id "false", rfl, rfl, (by decide : true ≠ false)⟩
  | noRuntimeValidation =>
    exact ⟨.id "true", .id "false", rfl, rfl, (by decide : true ≠ false)⟩
  | protobufs => exact ⟨.id "first", .id "second", rfl, rfl, words⟩
  | threads =>
    exact ⟨.literal "1", .literal "2", rfl, rfl, (by decide : (1 : UInt32) ≠ 2)⟩
  | timeout =>
    exact ⟨.time 1 (some .second), .time 2 (some .second), rfl, rfl,
      (by decide : some (TimeValue.mk 1 .second) ≠ some ⟨2, .second⟩)⟩
  | tracing =>
    exact ⟨.id "true", .id "false", rfl, rfl, (by decide : some (Tracing.mk none) ≠ none)⟩

/-- What becomes of a value of a property that the target does not support: the warning
about it, and all the same a setting that holds the value. -/
structure StoredThough
    (property : Property)
    (fileExists : String -> Bool)
    (settings : Settings)
    (element : Element) : Prop where
  reported : (applyProperty fileExists settings property element).result.2 =
    property.type.check fileExists property.name element ++
      [.warning .unsupportedProperty property.name
        (unsupportedMessage property settings.target)]
  /-- A valid value is stored. -/
  reads : property.type.accepts element = true ->
    property.Reads element
      (property.held (applyProperty fileExists settings property element).result.1)
  /-- No other setting changes. -/
  others : ∀ other, other ≠ property ->
    other.held (applyProperty fileExists settings property element).result.1 =
      other.held settings
  /-- The settings stay as they are only if the value is not valid or adds nothing. -/
  unchanged_iff : (applyProperty fileExists settings property element).result.1 = settings ↔
    (property.type.accepts element = true ->
      property.held (property.store element settings) = property.held settings)

theorem storedThough
    {property : Property}
    {settings : Settings}
    (unsupported : property.supports settings.target = false)
    (fileExists : String -> Bool)
    (element : Element) :
    property.StoredThough fileExists settings element := by
  constructor
  case reported =>
    rw [applyProperty, unsupportedDiagnostics, unsupported]
    rfl
  case reads =>
    intro accepted
    rw [applyProperty, if_pos accepted]
    exact reads_store accepted settings
  case others =>
    intro other different
    rw [applyProperty]
    dsimp only
    split
    case isTrue => exact held_store_of_ne (Ne.symm different) element settings
    case isFalse => rfl
  case unchanged_iff =>
    rw [applyProperty]
    dsimp only
    split
    case isTrue accepted =>
      constructor
      · intro unchanged _
        rw [unchanged]
      · intro same
        refine ext_held (target_store ..) fun other => ?_
        by_cases isSame : other = property
        · rw [isSame]
          exact same accepted
        · exact held_store_of_ne (Ne.symm isSame) element settings
    case isFalse notAccepted =>
      exact iff_of_true rfl fun accepted => absurd accepted notAccepted

/-- Some valid value changes the settings. -/
theorem exists_applyProperty_ne
    (property : Property)
    (fileExists : String -> Bool)
    (settings : Settings) :
    ∃ element, property.type.accepts element = true ∧
      (applyProperty fileExists settings property element).result.1 ≠ settings := by
  obtain ⟨element, accepted, changed⟩ := property.exists_changing settings
  refine ⟨element, accepted, fun unchanged => changed ?_⟩
  rw [applyProperty, if_pos accepted] at unchanged
  dsimp only at unchanged
  rw [unchanged]

end Property

/-! ## Which settings depend on supported entries alone -/

/-- Whether an entry is not one that the target should ignore. -/
def Target.heeds (target : Target) (entry : String × Element) : Bool :=
  match Property.ofName? entry.1 with
  | none => true
  | some property => property.supports target

theorem Target.filter_heeds
    {target : Target}
    {property : Property}
    (supported : property.supports target = true)
    (entries : List (String × Element)) :
    (entries.filter target.heeds).filter property.names = entries.filter property.names := by
  rw [List.filter_filter]
  apply List.filter_congr
  intro entry _
  cases named : property.names entry with
  | false => rfl
  | true =>
    rw [heeds, Property.ofName?_eq_some_iff.mpr named]
    simp [supported]

/-- A supported property does not depend on entries of properties that are not
supported. -/
theorem held_configure_of_supports
    {target : Target}
    {property : Property}
    (supported : property.supports target = true)
    {first second : List (String × Element)}
    (same : first.filter target.heeds = second.filter target.heeds)
    (fileExists : String -> Bool) :
    property.held (configure fileExists target first).result.settings =
      property.held (configure fileExists target second).result.settings := by
  rw [settings_configure, settings_configure, Property.held_foldl_after_filter rfl first,
    Property.held_foldl_after_filter rfl second, ← Target.filter_heeds supported, same,
    Target.filter_heeds supported]

/-- No entry gives the trace file a name. -/
theorem Settings.TracesUnnamed.after
    {settings : Settings}
    (unnamed : settings.TracesUnnamed)
    (entry : String × Element) :
    (settings.after entry).TracesUnnamed := by
  have after_eq := Property.tracing.held_after settings entry
  change (settings.after entry).tracing = _ at after_eq
  rw [TracesUnnamed, after_eq]
  split
  case isTrue =>
    rw [Property.held, Property.store]
    cases entry.2.bool with
    | true => exact .inr rfl
    | false => exact .inl rfl
  case isFalse => exact unnamed

theorem tracesUnnamed_configure
    (fileExists : String -> Bool)
    (target : Target)
    (entries : List (String × Element)) :
    (configure fileExists target entries).result.settings.TracesUnnamed := by
  rw [settings_configure]
  exact List.foldlRecOn (motive := Settings.TracesUnnamed) entries Settings.after (.inl rfl)
    fun _ unnamed entry _ => unnamed.after entry

/-- With the same supported entries the settings for the interpreter differ only in
threads, in tracing, and in what is not looked at. -/
theorem alikeButWorkers_configure
    {first second : List (String × Element)}
    (same : first.filter Target.python.heeds = second.filter Target.python.heeds)
    (fileExists : String -> Bool) :
    (configure fileExists .python first).result.settings.AlikeButWorkers
      (configure fileExists .python second).result.settings where
  target := by rw [target_configure, target_configure]
  coordination := @held_configure_of_supports .python .coordination (by decide) _ _ same _
  verbosity := @held_configure_of_supports .python .logging (by decide) _ _ same _
  files := @held_configure_of_supports .python .files (by decide) _ _ same _
  protoFiles := @held_configure_of_supports .python .protobufs (by decide) _ _ same _
  firstUnnamed := tracesUnnamed_configure ..
  secondUnnamed := tracesUnnamed_configure ..

/-! ## What is generated -/

/-- What became of a federate in two compilations: it was generated in both, or
suppressed in both for the same reason. -/
inductive FederateOutput.Alike (related : FederateArtifacts -> FederateArtifacts -> Prop) :
    FederateOutput -> FederateOutput -> Prop
  | generated {first second : FederateArtifacts} (holds : related first second) :
    Alike related (.generated first) (.generated second)
  | suppressed (federate : String) (reason : Diagnostic) :
    Alike related (.suppressed federate reason) (.suppressed federate reason)

/-- What became of the federates of two compilations, one by one. -/
def CompileResult.FederatesAlike
    (related : FederateArtifacts -> FederateArtifacts -> Prop)
    (first second : CompileResult) : Prop :=
  List.Forall₂ (FederateOutput.Alike related) first.federates second.federates

/-- What was generated is related one by one, too. -/
theorem CompileResult.FederatesAlike.generated
    {related : FederateArtifacts -> FederateArtifacts -> Prop}
    {first second : CompileResult}
    (alike : first.FederatesAlike related second) :
    List.Forall₂ related first.generated second.generated := by
  rw [FederatesAlike] at alike
  rw [CompileResult.generated, CompileResult.generated]
  generalize first.federates = firstOutputs at alike ⊢
  generalize second.federates = secondOutputs at alike ⊢
  induction alike with
  | nil => exact .nil
  | cons outputs _ inductionHypothesis =>
    cases outputs with
    | generated holds => exact .cons holds inductionHypothesis
    | suppressed federate reason => exact inductionHypothesis

namespace Program

/-- Two compilations go on and end alike if every federate has the same fault in both or
is generated in both. -/
theorem compileFederates_alike
    {program : Program}
    {first second : Environment}
    {baseName : String}
    {related : FederateArtifacts -> FederateArtifacts -> Prop}
    (alike : ∀ federate, Result.Alike related
      (program.federateResult first baseName federate)
      (program.federateResult second baseName federate))
    {firstProgress secondProgress : CompileProgress}
    (outputs : List.Forall₂ (FederateOutput.Alike related)
      firstProgress.federates secondProgress.federates)
    (federates : List Federate) :
    Result.Alike (CompileResult.FederatesAlike related)
      (program.compileFederates first baseName firstProgress federates).run.result
      (program.compileFederates second baseName secondProgress federates).run.result := by
  induction federates generalizing firstProgress secondProgress with
  | nil => exact .ok outputs
  | cons federate rest inductionHypothesis =>
    rw [compileFederates_cons, compileFederates_cons]
    have results := alike federate
    generalize program.federateResult first baseName federate = firstResult at results
    generalize program.federateResult second baseName federate = secondResult at results
    cases results with
    | ok holds =>
      exact inductionHypothesis (List.rel_append outputs (.cons (.generated holds) .nil))
    | error failure =>
      cases failure with
      | dangling reference => exact .error reference
      | fault fault =>
        cases aborts : fault.aborts with
        | true =>
          simp only [aborts, if_true]
          exact .ok .nil
        | false =>
          simp only [aborts, Bool.false_eq_true, if_false]
          exact inductionHypothesis
            (List.rel_append outputs (.cons (.suppressed federate.name fault.diagnostic) .nil))

/-- With the same supported entries a program is compiled alike: whatever is generated
can be told apart exactly by the settings that the interpreter's build looks at. -/
theorem compile_alike
    {program : Program}
    {target : Target}
    (known : Target.ofName? program.target = some target)
    (generated : target.isGenerated = true)
    {first second : List (String × Element)}
    (same : first.filter target.heeds = second.filter target.heeds)
    (files : FileSystem)
    (options : CompileOptions) :
    Result.Alike
      (CompileResult.FederatesAlike (FederateArtifacts.SameExactlyIf
        (program.BuildsAlike (options.configured files target first).settings
          (options.configured files target second).settings)))
      (program.compile files first options).run.result
      (program.compile files second options).run.result := by
  have firstTarget := options.target_configured files target first
  have secondTarget := options.target_configured files target second
  have firstGenerated :
      (options.configured files target first).settings.target.isGenerated = true := by
    rw [firstTarget]
    exact generated
  have secondGenerated :
      (options.configured files target second).settings.target.isGenerated = true := by
    rw [secondTarget]
    exact generated
  rw [compile_of_known known, compile_of_known known,
    compileConfigured_of_isGenerated firstGenerated,
    compileConfigured_of_isGenerated secondGenerated]
  refine compileFederates_alike (fun federate => ?_) .nil program.federates
  refine program.federateResult_alike (firstTarget.trans secondTarget.symm) (fun isPython => ?_)
    options.tools options.sourceDirectory _ federate
  obtain rfl : target = .python := firstTarget.symm.trans isPython
  exact alikeButWorkers_configure same _

end Program

/-- A property that the target does not support is reported with the warning that it will
be ignored, and yet a valid value is stored like any other; whatever the settings are, some
valid value changes them.  With or without such entries a program for the target has the
same outcome, but for the interpreter everything generated differs unless every federate
has as many threads and tracing is the same. -/
theorem unsupported_stored
    (fileExists : String -> Bool)
    (settings : Settings)
    (property : Property)
    (unsupported : property.supports settings.target = false) :
    (∀ element, property.StoredThough fileExists settings element) ∧
      (∃ element, property.type.accepts element = true ∧
        (applyProperty fileExists settings property element).result.1 ≠ settings) ∧
      ∀ (program : Program) (files : FileSystem) (options : CompileOptions)
        (first second : List (String × Element)),
        Target.ofName? program.target = some settings.target ->
        settings.target.isGenerated = true ->
        first.filter settings.target.heeds = second.filter settings.target.heeds ->
          Result.Alike
            (CompileResult.FederatesAlike (FederateArtifacts.SameExactlyIf
              (program.BuildsAlike
                (options.configured files settings.target first).settings
                (options.configured files settings.target second).settings)))
            (program.compile files first options).run.result
            (program.compile files second options).run.result := by
  refine ⟨Property.storedThough unsupported fileExists,
    property.exists_applyProperty_ne fileExists settings, ?_⟩
  intro program files options first second known generated same
  exact Program.compile_alike known generated same files options

namespace Courier

/-- A number of threads, which the interpreter does not support. -/
def threads : List (String × Element) := [("threads", .literal "4")]

theorem filter_threads : [].filter Target.python.heeds = threads.filter Target.python.heeds :=
  (List.filter_eq_nil_iff.mpr (by decide +kernel)).symm

theorem not_buildsAlike :
    ¬(program []).BuildsAlike (options.configured .empty .python []).settings
      (options.configured .empty .python threads).settings := by
  intro buildsAlike
  exact absurd (buildsAlike rfl).1 (by decide +kernel)

/-- With threads, the courier is generated with another build than without. -/
theorem threads_tellApart :
    Property.threads.StoredThough (fun _ => true) (.ofTarget .python) (.literal "4") ∧
      ∃ first second,
        ((program []).compile .empty [] options).run.result = .ok first ∧
          ((program []).compile .empty threads options).run.result = .ok second ∧
          first.generated.length = 1 ∧
          List.Forall₂ (· ≠ ·) first.generated second.generated := by
  obtain ⟨storedThough, _, compiled⟩ :=
    unsupported_stored (fun _ => true) (.ofTarget .python) .threads (by decide)
  obtain ⟨first, first_eq, length_eq⟩ : ∃ first,
      ((program []).compile .empty [] options).run.result = .ok first ∧
        first.generated.length = 1 := ⟨_, rfl, rfl⟩
  obtain ⟨second, second_eq⟩ : ∃ second,
      ((program []).compile .empty threads options).run.result = .ok second := ⟨_, rfl⟩
  have alike := compiled (program []) .empty options [] threads rfl rfl filter_threads
  rw [first_eq, second_eq] at alike
  refine ⟨storedThough (.literal "4"), first, second, first_eq, second_eq, length_eq, ?_⟩
  cases alike with
  | ok federates =>
    refine federates.generated.imp ?_
    intro _ _ same equal
    exact not_buildsAlike (same.eq_iff.mp equal)

/-- The threads are stored although they are not supported, and what is generated is not
the same as without them. -/
theorem threads_stored :
    Property.threads.supports .python = false ∧
      (applyProperty (fun _ => true) (.ofTarget .python) .threads
        (.literal "4")).result.1 ≠ .ofTarget .python ∧
      [].filter Target.python.heeds = threads.filter Target.python.heeds ∧
      ∃ first second,
        ((program []).compile .empty [] options).run.result = .ok first ∧
          ((program []).compile .empty threads options).run.result = .ok second ∧
          first.generated ≠ second.generated := by
  obtain ⟨first, first_eq, length_eq⟩ : ∃ first,
      ((program []).compile .empty [] options).run.result = .ok first ∧
        first.generated.length = 1 := ⟨_, rfl, rfl⟩
  obtain ⟨second, second_eq⟩ : ∃ second,
      ((program []).compile .empty threads options).run.result = .ok second := ⟨_, rfl⟩
  have isPython : Target.ofName? (program []).target = some .python := rfl
  have alike := Program.compile_alike isPython rfl filter_threads .empty options
  rw [first_eq, second_eq] at alike
  refine ⟨by decide, by decide +kernel, filter_threads, first, second, first_eq, second_eq,
    fun equal => ?_⟩
  cases alike with
  | ok federates =>
    have generated := federates.generated
    rw [← equal] at generated
    obtain ⟨artifacts, single⟩ := List.length_eq_one_iff.mp length_eq
    rw [single] at generated
    cases generated with
    | cons same _ => exact not_buildsAlike (same.eq_iff.mp rfl)

end Courier
end ReactorGen
