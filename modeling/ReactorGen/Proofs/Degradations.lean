import ReactorGen.Proofs.CheckFindings
import ReactorGen.Proofs.ErrorScope
import ReactorGen.Proofs.SerializerAgreement

/-!
# Degradations

What a compilation leaves out is logged and kept as a warning of the federate that it
arose in.  The only thing that is left out is the build of protocol buffers where their
compiler is not installed.  A federate that has a fault after that is recorded with the
fault alone: its warning is in the log and not in the diagnostics of the compilation.
-/

namespace ReactorGen

/-! ## What runs leave out -/

namespace Report

/-- What a run leaves out, as the warnings about it. -/
def omissions (report : Report α) : List Diagnostic :=
  report.events.filterMap Event.warning?

@[simp] theorem omissions_pure (value : α) :
    (pure value : Report α).omissions = [] := rfl

@[simp] theorem omissions_bind (first : Report α) (next : α -> Report β) :
    (first >>= next).omissions = first.omissions ++ (next first.result).omissions := by
  simp [omissions]

@[simp] theorem omissions_log (level : LogLevel) (text : String) :
    (Report.log level text).omissions = [] := rfl

@[simp] theorem omissions_run_pure (value : α) :
    (pure value : ExceptT ε Report α).run.omissions = [] := rfl

@[simp] theorem omissions_run_lift (report : Report α) :
    (ExceptT.lift report : ExceptT ε Report α).run.omissions = report.omissions := by
  rw [omissions, omissions, ExceptT.run_lift, events_map]

/-- A sequence leaves out what its first part does, and what its second part does if
that is reached. -/
theorem omissions_run_bind
    (first : ExceptT ε Report α)
    (next : α -> ExceptT ε Report β) :
    (first >>= next).run.omissions = first.run.omissions ++
      match first.run.result with
      | .ok value => (next value).run.omissions
      | .error _ => [] := by
  rw [ExceptT.run_bind, omissions_bind]
  cases first.run.result <;> rfl

/-- What comes after the first part makes no difference if it leaves out nothing. -/
theorem omissions_run_bind_of_forall
    (first : ExceptT ε Report α)
    {next : α -> ExceptT ε Report β}
    (complete : ∀ value, (next value).run.omissions = []) :
    (first >>= next).run.omissions = first.run.omissions := by
  rw [omissions_run_bind]
  cases first.run.result with
  | error failure => exact List.append_nil _
  | ok value => exact (congrArg _ (complete value)).trans (List.append_nil _)

theorem omissions_run_mapM
    {step : α -> ExceptT ε Report β}
    (complete : ∀ item, (step item).run.omissions = [])
    (items : List α) :
    (items.mapM step).run.omissions = [] := by
  induction items with
  | nil => rfl
  | cons first rest inductionHypothesis =>
    rw [List.mapM_cons, omissions_run_bind_of_forall, complete]
    intro value
    rw [omissions_run_bind_of_forall, inductionHypothesis]
    exact fun _ => rfl

end Report

namespace Generation

@[simp] theorem omissions_ofExcept (result : Except Failure α) :
    (ofExcept result).run.omissions = [] := rfl

@[simp] theorem omissions_log (level : LogLevel) (text : String) :
    (Generation.log level text).run.omissions = [] := rfl

@[simp] theorem omissions_withWarnings (generation : Generation α) :
    generation.withWarnings.run.omissions = generation.run.omissions := rfl

theorem omissions_forIn_log
    (level : LogLevel)
    (textOf : α -> String)
    (items : List α) :
    (forIn items PUnit.unit fun item _ => do
      Generation.log level (textOf item)
      pure (ForInStep.yield PUnit.unit) : Generation PUnit).run.omissions = [] := by
  induction items with
  | nil => rfl
  | cons first rest inductionHypothesis =>
    rw [List.forIn_cons, Report.omissions_run_bind, Report.omissions_run_bind]
    exact inductionHypothesis

end Generation

/-! ## What a federate leaves out -/

/-- The warning that protocol buffers are not built. -/
def missingCompiler : Diagnostic :=
  .warning .missingTool protocolCompiler
    "Processing .proto files requires libprotoc >= 3.6.1"

theorem omissions_protocolSupport
    (environment : Environment)
    (support : SerializationSupport) :
    (protocolSupport environment support).run.omissions =
      if environment.tools protocolCompiler = none then [missingCompiler] else [] := by
  unfold protocolSupport
  cases environment.tools protocolCompiler with
  | none => rfl
  | some compiler =>
    rw [Report.omissions_run_bind_of_forall _ fun _ => rfl]
    exact Generation.omissions_forIn_log _ _ _

/-- Whether the build of protocol buffers is asked for and cannot be done. -/
def Environment.LacksCompiler (environment : Environment) : Prop :=
  environment.settings.target = .python ∧ environment.settings.protoFiles ≠ [] ∧
    environment.tools protocolCompiler = none

instance (environment : Environment) : Decidable environment.LacksCompiler :=
  inferInstanceAs (Decidable (_ ∧ _))

namespace Program

variable
  {program : Program}
  {environment : Environment}
  {federate : Federate}

/-- Whether generation reaches the build of a federate: the classes of its instances
are known, and the serializers that its connections request are served. -/
def ReachesBuild
    (program : Program)
    (settings : Settings)
    (federate : Federate) : Prop :=
  (program.federateClasses federate).isOk = true ∧
    ∀ connection ∈ program.connections, connection.concerns federate = true ->
      ¬connection.IsUnserved settings

instance (program : Program) (settings : Settings) (federate : Federate) :
    Decidable (program.ReachesBuild settings federate) :=
  inferInstanceAs (Decidable (_ ∧ _))

/-- The serializers of a federate are known if its connections are served; protocol
buffers are among them if there are files for them. -/
theorem enabledSerializers_of_served
    {settings : Settings}
    (served : ∀ connection ∈ program.connections, connection.concerns federate = true ->
      ¬connection.IsUnserved settings) :
    ∃ enabled, program.enabledSerializers settings federate = .ok enabled ∧
      (.proto ∈ enabled ↔ settings.protoFiles ≠ []) := by
  have resolves : ∀ connection ∈ program.federateConnections federate,
      program.resolveSerializer settings connection =
        .ok connection.requestedSerializer := by
    intro connection member
    obtain ⟨isConnection, concerned⟩ := List.mem_filter.mp member
    exact resolveSerializer_eq_ok.mpr ⟨served connection isConnection concerned, rfl⟩
  obtain ⟨used, used_eq⟩ := Result.exists_mapM fun connection member =>
    ⟨_, resolves connection member⟩
  refine ⟨_, by rw [enabledSerializers, used_eq]; rfl, ?_⟩
  rw [List.mem_filter]
  constructor
  · rintro ⟨_, inUse⟩ noFiles
    simp only [noFiles, List.isEmpty_nil, Bool.not_true, Bool.and_false, Bool.or_false,
      List.contains_iff_mem] at inUse
    obtain ⟨connection, member, resolved⟩ := Result.exists_item_of_mapM used_eq inUse
    have requested := Except.ok.inj ((resolves connection member).symm.trans resolved)
    obtain ⟨isConnection, concerned⟩ := List.mem_filter.mp member
    refine served connection isConnection concerned (.inr ⟨?_, noFiles⟩)
    rw [NetworkConnection.requestedSerializer] at requested
    cases asked : connection.serializer with
    | none => simp [asked] at requested
    | some serializer => simpa [asked] using requested
  · intro files
    exact ⟨Serializer.mem_all _, by simp [files]⟩

/-- Without their compiler, protocol buffers are left out as soon as the serializers
are known. -/
theorem omissions_enableSerializers
    (served : ∀ connection ∈ program.connections, connection.concerns federate = true ->
      ¬connection.IsUnserved environment.settings) :
    (program.enableSerializers environment federate).run.omissions =
      if environment.settings.protoFiles ≠ [] ∧
          environment.tools protocolCompiler = none then [missingCompiler] else [] := by
  obtain ⟨enabled, enabled_eq, protocol⟩ := enabledSerializers_of_served served
  rw [enableSerializers, Report.omissions_run_bind, Generation.omissions_ofExcept,
    Generation.result_ofExcept, enabled_eq, List.nil_append]
  by_cases files : environment.settings.protoFiles = []
  · have unused : .proto ∉ enabled := fun inUse => protocol.mp inUse files
    simp [files, unused]
  · simp [files, protocol.mpr files, omissions_protocolSupport]

/-- A federate with a connection that is not served leaves nothing out. -/
theorem omissions_enableSerializers_of_unserved
    {connection : NetworkConnection}
    (isConnection : connection ∈ program.connections)
    (concerned : connection.concerns federate = true)
    (unserved : connection.IsUnserved environment.settings) :
    (program.enableSerializers environment federate).run.omissions = [] := by
  rw [enableSerializers, Report.omissions_run_bind, Generation.omissions_ofExcept,
    Generation.result_ofExcept]
  cases enabled_eq : program.enabledSerializers environment.settings federate with
  | error failure => rfl
  | ok enabled =>
    rw [enabledSerializers, Result.bind_eq_ok] at enabled_eq
    obtain ⟨used, used_eq, _⟩ := enabled_eq
    obtain ⟨_, _, resolved⟩ := Result.exists_mem_of_mapM used_eq
      (List.mem_filter.mpr ⟨isConnection, concerned⟩)
    exact absurd unserved (resolveSerializer_eq_ok.mp resolved).1

/-- The settings of a federate differ from those of the program in the number of
threads only. -/
theorem federateSettings_eq (program : Program) (settings : Settings) :
    ∃ threads, program.federateSettings settings = { settings with threads := threads } := by
  rw [federateSettings]
  split
  · exact ⟨_, rfl⟩
  · exact ⟨settings.threads, rfl⟩

theorem omissions_interpreterFiles (topLevelName : String) (classes : List ClassId) :
    (program.interpreterFiles environment federate topLevelName classes).run.omissions =
      (program.enableSerializers environment federate).run.omissions := by
  rw [interpreterFiles, Report.omissions_run_bind_of_forall]
  intro support
  -- Everything after the serializers is logged line by line or is no report at all.
  rw [Report.omissions_run_bind_of_forall, Report.omissions_run_mapM]
  · intro id
    rw [collectClass, Report.omissions_run_bind_of_forall _ fun _ => ?_]
    · rfl
    · rw [Report.omissions_run_bind_of_forall _ fun _ => rfl]
      rfl
  · intro code
    rw [Report.omissions_run_bind_of_forall _ fun _ => ?_]
    · rfl
    · rw [Report.omissions_run_bind_of_forall _ fun _ => ?_]
      · rfl
      · rw [Report.omissions_run_bind_of_forall _ fun _ => rfl]
        rfl

theorem omissions_triggerFiles (topLevelName : String) :
    (program.triggerFiles federate topLevelName).run.omissions = [] := by
  rw [triggerFiles, Report.omissions_run_bind_of_forall _ fun _ => rfl]
  rfl

theorem omissions_federateFiles (topLevelName : String) :
    (program.federateFiles environment federate topLevelName).run.omissions =
      if environment.LacksCompiler ∧ program.ReachesBuild environment.settings federate
      then [missingCompiler] else [] := by
  rw [federateFiles, Report.omissions_run_bind, Generation.omissions_ofExcept,
    Generation.result_ofExcept, List.nil_append]
  cases classes_eq : program.federateClasses federate with
  | error failure =>
    have unreached : ¬ program.ReachesBuild environment.settings federate := by
      rw [ReachesBuild, classes_eq]
      exact fun reached => Bool.false_ne_true reached.1
    rw [if_neg fun both => unreached both.2]
  | ok classes =>
    by_cases python : environment.settings.target = .python
    · simp only [if_pos python, omissions_interpreterFiles]
      by_cases reached : program.ReachesBuild environment.settings federate
      · rw [omissions_enableSerializers reached.2]
        simp [Environment.LacksCompiler, python, reached]
      · rw [if_neg fun both => reached both.2]
        rw [ReachesBuild, classes_eq, and_iff_right (by rfl)] at reached
        push Not at reached
        obtain ⟨connection, isConnection, concerned, unserved⟩ := reached
        exact omissions_enableSerializers_of_unserved isConnection concerned unserved
    · simp only [if_neg python, omissions_triggerFiles]
      rw [if_neg fun both => python both.1.1]

/-- What generation leaves out of a federate is the build of protocol buffers, where it
is reached and cannot be done. -/
theorem omissions_generateFederate (baseName : String) :
    (program.generateFederate environment federate baseName).run.omissions =
      if environment.LacksCompiler ∧ program.ReachesBuild environment.settings federate
      then [missingCompiler] else [] := by
  obtain ⟨threads, settings_eq⟩ := program.federateSettings_eq environment.settings
  rw [generateFederate, Report.omissions_run_bind, Generation.omissions_log,
    Generation.result_log, List.nil_append, settings_eq]
  exact (Report.omissions_run_bind_of_forall _ fun _ => rfl).trans (omissions_federateFiles _)

theorem warningsOf_omissions (report : Report α) :
    Diagnostics.warningsOf report.omissions = report.omissions := by
  refine List.filter_eq_self.mpr fun warning member => ?_
  obtain ⟨event, _, left⟩ := List.mem_filterMap.mp member
  rw [Event.isError_of_warning? left, Bool.not_false]

/-- A federate that was generated keeps all that was left out. -/
theorem warnings_of_federateResult
    {baseName : String}
    {artifacts : FederateArtifacts}
    (generated : program.federateResult environment baseName federate = .ok artifacts) :
    artifacts.diagnostics.warnings =
      (program.generateFederate environment federate baseName).run.omissions := by
  rw [generateFederate, Report.omissions_run_bind, Generation.omissions_log,
    Generation.result_log, List.nil_append]
  refine Eq.trans ?_ (Report.omissions_run_bind_of_forall _ fun _ => rfl).symm
  simp only [federateResult, generateFederate, Report.result_run_bind,
    Report.result_run_pure, Generation.result_log, Generation.result_withWarnings,
    Result.bind_eq_ok] at generated
  obtain ⟨_, _, ⟨files, warnings⟩, files_eq, artifacts_eq⟩ := generated
  obtain ⟨_, _, pair_eq⟩ := Result.map_eq_ok.mp files_eq
  obtain ⟨_, rfl⟩ := Prod.mk.inj pair_eq
  rw [← Except.ok.inj artifacts_eq, Diagnostics.ofList_eq]
  exact warningsOf_omissions _

end Program

/-! ## What federates leave out one after the other -/

section

variable
  {program : Program}
  {environment : Environment}
  {baseName : String}
  {result : CompileResult}

/-- What a compilation keeps of a federate: its warnings, if it was generated. -/
def keptWarnings : Except Failure FederateArtifacts -> List Diagnostic
  | .ok artifacts => artifacts.diagnostics.warnings
  | .error _ => []

namespace Program

/-- A compilation that has a result leaves out what the federates that it reaches leave
out. -/
theorem omissions_compileFederates
    {progress : CompileProgress}
    {federates : List Federate}
    (compiled : (program.compileFederates environment baseName progress
      federates).run.result = .ok result) :
    (program.compileFederates environment baseName progress federates).run.omissions =
      (reachedFederates (program.federateResult environment baseName) federates).flatMap
        fun federate =>
          (program.generateFederate environment federate baseName).run.omissions := by
  induction federates generalizing progress with
  | nil => rfl
  | cons federate rest inductionHypothesis =>
    rw [compileFederates_cons] at compiled
    rw [compileFederates, Report.omissions_run_bind, Report.omissions_run_lift,
      Report.result_run_lift, reachedFederates, List.flatMap_cons]
    have result_eq : (program.generateFederate environment federate baseName).run.result =
      program.federateResult environment baseName federate := rfl
    congr 1
    cases generated : program.federateResult environment baseName federate with
    | ok artifacts =>
      rw [generated] at compiled
      simp only [result_eq, generated]
      exact inductionHypothesis compiled
    | error failure =>
      rw [generated] at compiled
      simp only [result_eq, generated]
      cases failure with
      | dangling reference => cases compiled
      | fault fault =>
        rw [endsCompilation_fault]
        cases aborts : fault.aborts with
        | true =>
          simp only [aborts, if_true]
          rfl
        | false =>
          simp only [aborts, Bool.false_eq_true, if_false] at compiled ⊢
          rw [Report.omissions_run_bind]
          exact inductionHypothesis compiled

/-- The warnings of a compilation are those of the federates that were generated. -/
theorem warnings_compileFederates
    {progress : CompileProgress}
    {federates : List Federate}
    (compiled : (program.compileFederates environment baseName progress
      federates).run.result = .ok result) :
    result.diagnostics.warnings = progress.diagnostics.warnings ++
      (reachedFederates (program.federateResult environment baseName) federates).flatMap
        fun federate => keptWarnings (program.federateResult environment baseName federate) := by
  induction federates generalizing progress with
  | nil =>
    rw [← Except.ok.inj compiled]
    exact (List.append_nil _).symm
  | cons federate rest inductionHypothesis =>
    rw [compileFederates_cons] at compiled
    rw [reachedFederates, List.flatMap_cons]
    cases generated : program.federateResult environment baseName federate with
    | ok artifacts =>
      rw [generated] at compiled
      have merged := (onlyWarnings_of_federateResult generated).merge progress.diagnostics
      have warnings_eq : Diagnostics.warningsOf artifacts.diagnostics.warnings =
          artifacts.diagnostics.warnings := by
        rw [warnings_of_federateResult generated, warningsOf_omissions]
      rw [inductionHypothesis compiled, CompileProgress.generated, merged.1,
        Diagnostics.extend_eq, warnings_eq, List.append_assoc]
      rfl
    | error failure =>
      rw [generated] at compiled
      cases failure with
      | dangling reference => cases compiled
      | fault fault =>
        rw [endsCompilation_fault]
        cases aborts : fault.aborts with
        | true =>
          simp only [aborts, if_true] at compiled ⊢
          rw [← Except.ok.inj compiled]
          exact (List.append_nil _).symm
        | false =>
          simp only [aborts, Bool.false_eq_true, if_false] at compiled ⊢
          have later := inductionHypothesis compiled
          exact later

end Program
end

/-- A compilation that has a result has met no dangling reference. -/
theorem Program.not_dangling_of_compileFederates
    {program : Program}
    {environment : Environment}
    {baseName : String}
    {progress : CompileProgress}
    {federates : List Federate}
    {result : CompileResult}
    (compiled : (program.compileFederates environment baseName progress
      federates).run.result = .ok result)
    {federate : Federate}
    (reached : federate ∈
      reachedFederates (program.federateResult environment baseName) federates)
    (reference : DanglingReference) :
    program.federateResult environment baseName federate ≠ .error (.dangling reference) := by
  induction federates generalizing progress with
  | nil => exact absurd reached List.not_mem_nil
  | cons first rest inductionHypothesis =>
    rw [compileFederates_cons] at compiled
    intro dangles
    rw [reachedFederates, List.mem_cons] at reached
    rcases reached with rfl | reached
    · rw [dangles] at compiled
      cases compiled
    · cases ends : endsCompilation (program.federateResult environment baseName first) with
      | true => simp [ends] at reached
      | false =>
        rw [ends, if_neg Bool.false_ne_true] at reached
        cases generated : program.federateResult environment baseName first with
        | ok artifacts =>
          rw [generated] at compiled
          exact inductionHypothesis compiled reached dangles
        | error failure =>
          rw [generated] at compiled ends
          cases failure with
          | dangling reference => cases compiled
          | fault fault =>
            rw [endsCompilation_fault] at ends
            simp only [ends, Bool.false_eq_true, if_false] at compiled
            exact inductionHypothesis compiled reached dangles

/-! ## What configuration reports -/

/-- Configuration reports nothing about tools. -/
theorem code_ne_missingTool
    {fileExists : String -> Bool}
    {target : Target}
    {entries : List (String × Element)}
    {problem : Diagnostic}
    (member : problem ∈ configurationReports fileExists target entries) :
    problem.code ≠ .missingTool := by
  have codes_differ : Code.propertyTypeMismatch ≠ .missingTool ∧
      Code.unknownProperty ≠ .missingTool ∧ Code.fileNotFound ≠ .missingTool ∧
        Code.unsupportedProperty ≠ .missingTool := by decide
  obtain ⟨entry, _, inReports⟩ := List.mem_flatMap.mp member
  rw [entryReports] at inReports
  cases found : Property.ofName? entry.1 with
  | none =>
    rw [found] at inReports
    rw [List.mem_singleton.mp inReports]
    exact codes_differ.2.1
  | some property =>
    rw [found] at inReports
    rcases List.mem_append.mp inReports with checked | unsupported
    · rcases property.type.code_of_mem_check checked with code_eq | code_eq
      · rw [code_eq]
        exact codes_differ.1
      · rw [code_eq]
        exact codes_differ.2.2.1
    · rw [unsupportedDiagnostics] at unsupported
      split at unsupported
      case isTrue => exact absurd unsupported List.not_mem_nil
      case isFalse =>
        rw [List.mem_singleton.mp unsupported]
        exact codes_differ.2.2.2

/-! ## What a compilation leaves out -/

theorem omissions_configure
    (fileExists : String -> Bool)
    (target : Target)
    (entries : List (String × Element)) :
    (configure fileExists target entries).omissions = [] := by
  suffices general : ∀ configured : Configured,
      (entries.foldlM (configureEntry fileExists) configured).omissions = [] from general _
  induction entries with
  | nil => exact fun _ => rfl
  | cons entry rest inductionHypothesis =>
    intro configured
    rw [List.foldlM_cons, Report.omissions_bind, inductionHypothesis, List.append_nil,
      configureEntry, Report.omissions_bind, applyEntry]
    cases found : Property.ofName? entry.1 with
    | none => rfl
    | some property =>
      have silent : ∀ event ∈ entryEvents property entry.2 configured.settings.target,
          event.warning? = none := by
        intro event member
        rcases List.mem_append.mp member with inFirst | inSecond
        · split at inFirst
          case isTrue => exact absurd inFirst List.not_mem_nil
          case isFalse => rw [List.mem_singleton.mp inFirst, Event.warning?]
        · split at inSecond
          case isTrue => rw [List.mem_singleton.mp inSecond, Event.warning?]
          case isFalse => exact absurd inSecond List.not_mem_nil
      have applied := List.filterMap_eq_nil_iff.mpr silent
      simp only [Report.omissions_bind, Report.result_bind, Report.result_pure,
        Report.omissions_pure, List.append_nil]
      exact applied

/-- Whatever is left out appears in the diagnostics, as often as it is logged. -/
def CompileResult.KeepsOmissions (result : CompileResult) (logged : List Diagnostic) : Prop :=
  ∀ warning ∈ logged,
    result.diagnostics.warnings.count warning = logged.count warning

namespace Program

/-- Whether a compilation drops a warning: it cannot build protocol buffers, and one of
the federates that it reaches has a fault that was found after that. -/
def DropsOmission
    (program : Program)
    (files : FileSystem)
    (properties : List (String × Element))
    (options : CompileOptions) : Prop :=
  ∃ target, Target.ofName? program.target = some target ∧
    let settings := (options.configured files target properties).settings
    Environment.LacksCompiler ⟨settings, options.tools, options.sourceDirectory⟩ ∧
    ∃ federate ∈ reachedFederates (program.federateAlone options settings)
        program.federates,
      program.ReachesBuild settings federate ∧
        ∃ fault, program.federateAlone options settings federate = .error (.fault fault)

/-- Where protocol buffers cannot be built, the warnings that the federates of a
compilation leave are as many as the federates that reach the build. -/
theorem count_flatMap_missingCompiler
    (federates : List Federate)
    (reaches : Federate -> Prop)
    [DecidablePred reaches] :
    (federates.flatMap fun federate =>
      if reaches federate then [missingCompiler] else []).count missingCompiler =
        federates.countP (reaches ·) := by
  induction federates with
  | nil => rfl
  | cons federate rest inductionHypothesis =>
    rw [List.flatMap_cons, List.count_append, inductionHypothesis, List.countP_cons,
      Nat.add_comm]
    by_cases isReached : reaches federate
    · simp [isReached]
    · simp [isReached]

/-- The warnings of federates are all kept exactly if no federate has a fault after the
build was reached. -/
theorem compileFederates_keepsOmissions_iff
    {program : Program}
    {environment : Environment}
    {baseName : String}
    {progress : CompileProgress}
    {federates : List Federate}
    {result : CompileResult}
    (compiled : (program.compileFederates environment baseName progress
      federates).run.result = .ok result)
    (unreported : missingCompiler ∉ progress.diagnostics.warnings)
    (lacks : environment.LacksCompiler) :
    result.KeepsOmissions
        (program.compileFederates environment baseName progress federates).run.omissions ↔
      ∀ federate ∈
          reachedFederates (program.federateResult environment baseName) federates,
        program.ReachesBuild environment.settings federate ->
          (program.federateResult environment baseName federate).isOk = true := by
  let reached := reachedFederates (program.federateResult environment baseName) federates
  have omissions_eq : ∀ federate,
      (program.generateFederate environment federate baseName).run.omissions =
        if program.ReachesBuild environment.settings federate
        then [missingCompiler] else [] := by
    intro federate
    simp only [omissions_generateFederate, lacks, true_and]
  have kept_eq : ∀ federate,
      keptWarnings (program.federateResult environment baseName federate) =
        if program.ReachesBuild environment.settings federate ∧
          (program.federateResult environment baseName federate).isOk = true
        then [missingCompiler] else [] := by
    intro federate
    cases generated : program.federateResult environment baseName federate with
    | ok artifacts =>
      simp [keptWarnings, warnings_of_federateResult generated, omissions_eq, Except.isOk,
        Except.toBool]
    | error failure => simp [keptWarnings, Except.isOk, Except.toBool]
  have logged_eq := omissions_compileFederates compiled
  have warnings_eq := warnings_compileFederates compiled
  simp only [omissions_eq] at logged_eq
  simp only [kept_eq] at warnings_eq
  let reaching := reached.filter (program.ReachesBuild environment.settings ·)
  have loggedCount :
      (program.compileFederates environment baseName progress federates).run.omissions.count
        missingCompiler = reaching.length := by
    rw [logged_eq, count_flatMap_missingCompiler, List.countP_eq_length_filter]
  have keptCount : result.diagnostics.warnings.count missingCompiler =
      reaching.countP fun federate =>
        (program.federateResult environment baseName federate).isOk := by
    rw [warnings_eq, List.count_append, List.count_eq_zero_of_not_mem unreported,
      Nat.zero_add, count_flatMap_missingCompiler, List.countP_filter]
    simp [reached, Bool.and_comm]
  have onlyMissing : ∀ warning ∈
      (program.compileFederates environment baseName progress federates).run.omissions,
        warning = missingCompiler := by
    intro warning member
    rw [logged_eq] at member
    obtain ⟨federate, _, left⟩ := List.mem_flatMap.mp member
    split at left
    case isTrue => exact List.mem_singleton.mp left
    case isFalse => exact absurd left List.not_mem_nil
  have allOk : reaching.countP (fun federate =>
        (program.federateResult environment baseName federate).isOk) = reaching.length ↔
      ∀ federate ∈ reached, program.ReachesBuild environment.settings federate ->
        (program.federateResult environment baseName federate).isOk = true := by
    rw [List.countP_eq_length]
    simp [reaching]
  rw [← allOk, ← keptCount, ← loggedCount]
  constructor
  · intro keeps
    by_cases logged : missingCompiler ∈
        (program.compileFederates environment baseName progress federates).run.omissions
    · exact keeps _ logged
    · have noneLogged := List.count_eq_zero_of_not_mem logged
      rw [loggedCount] at noneLogged
      rw [keptCount, loggedCount, noneLogged, List.eq_nil_of_length_eq_zero noneLogged]
      rfl
  · intro equal warning member
    rw [onlyMissing warning member]
    exact equal

section

variable
  {program : Program}
  {files : FileSystem}
  {properties : List (String × Element)}
  {options : CompileOptions}

theorem omissions_compile_of_unknown (unknown : Target.ofName? program.target = none) :
    (program.compile files properties options).run.omissions = [] := by
  rw [compile, Report.omissions_run_bind, Report.omissions_run_lift, Report.result_run_lift,
    Report.omissions_run_bind, Report.omissions_run_lift, Report.result_run_lift,
    configureNamed, unknown]
  rfl

theorem omissions_compile_of_known
    {target : Target}
    (known : Target.ofName? program.target = some target) :
    (program.compile files properties options).run.omissions =
      (program.compileConfigured options
        (options.configured files target properties)).run.omissions := by
  rw [compile, Report.omissions_run_bind, Report.omissions_run_lift, Report.result_run_lift,
    Report.omissions_run_bind, Report.omissions_run_lift, Report.result_run_lift,
    configureNamed, known, Report.omissions_bind, omissions_configure]
  rfl

theorem omissions_compileConfigured_of_isGenerated
    {configured : Configured}
    (generated : configured.settings.target.isGenerated = true) :
    (program.compileConfigured options configured).run.omissions =
      (program.compileFederates
        ⟨configured.settings, options.tools, options.sourceDirectory⟩
        (options.baseName.getD program.name) ⟨[], configured.diagnostics⟩
        program.federates).run.omissions := by
  simp only [compileConfigured, generated, if_true]
  split
  · rw [Report.omissions_run_bind]
    rfl
  · rfl

theorem omissions_compileConfigured_of_not_isGenerated
    {configured : Configured}
    (notGenerated : configured.settings.target.isGenerated = false) :
    (program.compileConfigured options configured).run.omissions = [] := by
  simp only [compileConfigured, notGenerated, Bool.false_eq_true, if_false]
  rfl

/-- Nothing is left out where the build of protocol buffers can be done. -/
theorem omissions_compileConfigured_of_not_lacksCompiler
    {configured : Configured}
    {result : CompileResult}
    (compiled : (program.compileConfigured options configured).run.result = .ok result)
    (buildable : ¬ Environment.LacksCompiler
      ⟨configured.settings, options.tools, options.sourceDirectory⟩) :
    (program.compileConfigured options configured).run.omissions = [] := by
  cases generated : configured.settings.target.isGenerated with
  | false => exact omissions_compileConfigured_of_not_isGenerated generated
  | true =>
    rw [compileConfigured_of_isGenerated generated] at compiled
    rw [omissions_compileConfigured_of_isGenerated generated,
      omissions_compileFederates compiled, List.flatMap_eq_nil_iff]
    intro federate _
    rw [omissions_generateFederate, if_neg fun both => buildable both.1]

/-- Everything that is left out appears in the diagnostics exactly if no federate has a
fault after something was left out of it. -/
theorem compile_keepsOmissions_iff
    {result : CompileResult}
    (compiled : (program.compile files properties options).run.result = .ok result) :
    result.KeepsOmissions (program.compile files properties options).run.omissions ↔
      ¬ program.DropsOmission files properties options := by
  cases known : Target.ofName? program.target with
  | none =>
    rw [omissions_compile_of_unknown known]
    refine iff_of_true (fun _ member => absurd member List.not_mem_nil) ?_
    rintro ⟨target, target_eq, _⟩
    exact nomatch known.symm.trans target_eq
  | some target =>
    rw [compile_of_known known] at compiled
    rw [omissions_compile_of_known known]
    by_cases lacks : Environment.LacksCompiler
      ⟨(options.configured files target properties).settings, options.tools,
        options.sourceDirectory⟩
    · have generated :
          (options.configured files target properties).settings.target.isGenerated = true := by
        rw [lacks.1]
        rfl
      have unreported : missingCompiler ∉
          (options.configured files target properties).diagnostics.warnings := by
        rw [CompileOptions.configured, diagnostics_configure, Diagnostics.ofList_eq]
        intro member
        exact code_ne_missingTool (List.mem_filter.mp member).1 rfl
      rw [compileConfigured_of_isGenerated generated] at compiled
      rw [omissions_compileConfigured_of_isGenerated generated,
        compileFederates_keepsOmissions_iff compiled unreported lacks]
      constructor
      · rintro keeps ⟨other, other_eq, _, federate, reached, reaches, fault, failed⟩
        obtain rfl := Option.some.inj (known.symm.trans other_eq)
        have isOk := keeps federate reached reaches
        rw [federateAlone] at failed
        rw [failed] at isOk
        exact Bool.false_ne_true isOk
      · intro drops federate reached reaches
        cases resultValue : program.federateAlone options
            (options.configured files target properties).settings federate with
        | ok artifacts =>
          rw [federateAlone] at resultValue
          rw [resultValue]
          rfl
        | error failure =>
          cases failure with
          | dangling reference =>
            exact absurd resultValue
              (not_dangling_of_compileFederates compiled reached reference)
          | fault fault =>
            exact absurd ⟨target, known, lacks, federate, reached, reaches, fault, resultValue⟩
              drops
    · rw [omissions_compileConfigured_of_not_lacksCompiler compiled lacks]
      refine iff_of_true (fun _ member => absurd member List.not_mem_nil) ?_
      rintro ⟨other, other_eq, otherLacks, _⟩
      obtain rfl := Option.some.inj (known.symm.trans other_eq)
      exact lacks otherLacks

end

end Program

namespace Courier

/-- The main reactor with the given actions. -/
def tree (actions : List ActionInstance) : ReactorTree :=
  ⟨[{ ReactorInstance.ofName "Courier" ⟨0⟩ none with actions := actions }], []⟩

/-- A program for the interpreter that is not divided. -/
def program (actions : List ActionInstance) : Program where
  name := "Courier"
  target := "Python"
  properties := []
  preambles := []
  classes := [{ ReactorClass.ofName "Courier" with isMain := true }]
  tree := tree actions
  federates := [.singleton]
  connections := []

/-- A description of protocol buffers. -/
def properties : List (String × Element) := [("protobufs", .id "parcel.proto")]

/-- No tool is installed. -/
def options : CompileOptions := ⟨none, none, fun _ => none⟩

/-- An action that is bound to a mode, while there are no modes. -/
def delivery : ActionInstance := (ActionInstance.ofName "delivery" .zero).inMode ⟨0⟩

/-- Without a fault the warning is in the diagnostics. -/
theorem sound_keepsOmissions :
    ∃ result, ((program []).compile .empty properties options).run.result = .ok result ∧
      missingCompiler ∈ ((program []).compile .empty properties options).run.omissions ∧
      result.KeepsOmissions
        ((program []).compile .empty properties options).run.omissions := by
  obtain ⟨result, compiled⟩ :
    ∃ result, ((program []).compile .empty properties options).run.result = .ok result :=
      ⟨_, rfl⟩
  have logged : ((program []).compile .empty properties options).run.omissions =
    [missingCompiler] := rfl
  refine ⟨result, compiled, by rw [logged]; exact List.mem_singleton_self _, ?_⟩
  apply (Program.compile_keepsOmissions_iff compiled).mpr
  rintro ⟨target, known, _, federate, isReached, _, fault, failed⟩
  obtain rfl : Target.python = target := Option.some.inj known
  have reached : reachedFederates ((program []).federateAlone options
      (options.configured .empty .python properties).settings) (program []).federates =
    [.singleton] := rfl
  rw [reached, List.mem_singleton] at isReached
  subst isReached
  have generated : ((program []).federateAlone options
      (options.configured .empty .python properties).settings .singleton).isOk = true := rfl
  rw [failed] at generated
  exact Bool.false_ne_true generated

/-- With a fault that is found later the warning is in the log only. -/
theorem faulty_loses_warning :
    ∃ result,
      ((program [delivery]).compile .empty properties options).run.result = .ok result ∧
      missingCompiler ∈
        ((program [delivery]).compile .empty properties options).run.omissions ∧
      missingCompiler ∉ result.diagnostics.warnings := by
  have logged : ((program [delivery]).compile .empty properties options).run.omissions =
    [missingCompiler] := rfl
  refine ⟨_, rfl, by rw [logged]; exact List.mem_singleton_self _, ?_⟩
  decide +kernel

end Courier
end ReactorGen
