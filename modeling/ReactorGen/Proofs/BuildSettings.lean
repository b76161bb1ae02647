import ReactorGen.Proofs.Degradations
import ReactorGen.Proofs.NamesApart
import ReactorGen.Proofs.OtherClasses
import ReactorGen.Proofs.TextCuts

/-!
# Settings in generated code

Which settings reach the files of a federate.  For the interpreter, the code of classes,
triggers and modules is put together without a look at the number of threads or at
tracing: these two stand only in the native preamble and in the build of the module, and
there every difference shows.  No other target looks at any setting.
-/

namespace ReactorGen

/-! ## Results of the same kind -/

/-- Two results that fail alike or succeed with related values. -/
inductive Result.Alike (related : α -> β -> Prop) :
    Except ε α -> Except ε β -> Prop
  | ok {first : α} {second : β} (holds : related first second) :
    Alike related (.ok first) (.ok second)
  | error (failure : ε) : Alike related (.error failure) (.error failure)

theorem Result.Alike.map
    {related : β -> γ -> Prop}
    {first : α -> β}
    {second : α -> γ}
    (result : Except ε α)
    (holds : ∀ value, related (first value) (second value)) :
    Alike related (result.map first) (result.map second) := by
  cases result with
  | error failure => exact .error failure
  | ok value => exact .ok (holds value)

/-! ## What the code of a federate is put together from -/

/-- The settings that code is generated from; all others are left at what holds without
properties. -/
def Settings.codeOnly (settings : Settings) : Settings :=
  { Settings.ofTarget settings.target with
    coordination := settings.coordination
    protoFiles := settings.protoFiles }

def Environment.codeOnly (environment : Environment) : Environment :=
  { environment with settings := environment.settings.codeOnly }

/-- What the files of a federate for the interpreter are put together from. -/
structure FederateParts where
  support : SerializationSupport
  classes : List ClassCode
  initialization : Initialization
  module : PythonModule

namespace FederateParts

/-- The native code of a federate with these parts. -/
def source
    (parts : FederateParts)
    (program : Program)
    (settings : Settings) : NativeSource where
  preamble := nativePreamble settings program.isFederated program.federates.length
  serializerPreamble := parts.support.nativePreamble
  classes := parts.classes
  initialization := parts.initialization

/-- The build of the native code. -/
def build
    (parts : FederateParts)
    (settings : Settings)
    (topLevelName : String) : BuildDescriptor :=
  .ofSettings settings topLevelName parts.support.requirements parts.support.preBuild

/-- The files of a federate with these parts. -/
def files
    (parts : FederateParts)
    (program : Program)
    (settings : Settings)
    (topLevelName : String) : FederateFiles :=
  ⟨nativeArtifacts topLevelName (parts.source program settings) parts.module
    (parts.build settings topLevelName), parts.initialization⟩

end FederateParts

/-- What is generated for a federate with these files. -/
def FederateFiles.generated
    (files : FederateFiles)
    (federate topLevelName : String)
    (warnings : List Diagnostic) : FederateArtifacts where
  federate := federate
  topLevelName := topLevelName
  artifacts := files.artifacts ++ [triggerList files.initialization.triggers]
  triggers := files.initialization.triggers
  tokens := files.initialization.tokens
  diagnostics := .ofList warnings

@[simp] theorem Generation.result_map
    (generation : Generation α)
    (function : α -> β) :
    (function <$> generation).run.result = generation.run.result.map function := by
  rw [ExceptT.run_map, Report.result_map]

@[simp] theorem Generation.omissions_map
    (generation : Generation α)
    (function : α -> β) :
    (function <$> generation).run.omissions = generation.run.omissions := by
  rw [ExceptT.run_map, Report.omissions, Report.events_map, Report.omissions]

namespace Program

variable
  (program : Program)
  (environment : Environment)
  (federate : Federate)

/-- The parts of the files of a federate for the interpreter. -/
def interpreterParts (topLevelName : String) : Generation FederateParts := do
  let classes ← Generation.ofExcept (program.federateClasses federate)
  let support ← program.enableSerializers environment federate
  let code ← classes.mapM (program.collectClass environment.settings federate)
  let preamble ← Generation.ofExcept (program.modulePreamble classes support)
  let initialization ← Generation.ofExcept (program.initialization federate true)
  let module ← Generation.ofExcept
    (program.pythonModule federate classes topLevelName preamble)
  return ⟨support, code, initialization, module⟩

/-- The parts are generated from few settings. -/
theorem interpreterParts_codeOnly (topLevelName : String) :
    program.interpreterParts environment.codeOnly federate topLevelName =
      program.interpreterParts environment federate topLevelName := rfl

theorem federateFiles_of_python
    {environment : Environment}
    (isPython : environment.settings.target = .python)
    (topLevelName : String) :
    program.federateFiles environment federate topLevelName =
      (fun parts : FederateParts => parts.files program environment.settings topLevelName) <$>
        program.interpreterParts environment federate topLevelName := by
  simp only [federateFiles, if_pos isPython, interpreterFiles, interpreterParts, map_bind,
    map_pure]
  rfl

/-- The environment in which a federate is generated. -/
def federateEnvironment : Environment :=
  { environment with settings := program.federateSettings environment.settings }

/-- Another target looks at no setting. -/
theorem federateFiles_of_not_python
    {environment : Environment}
    (notPython : environment.settings.target ≠ .python)
    (topLevelName : String) :
    program.federateFiles environment federate topLevelName =
      Generation.ofExcept (program.federateClasses federate) >>= fun _ =>
        program.triggerFiles federate topLevelName := by
  simp only [federateFiles, if_neg notPython]

/-- What is generated for a federate are its files, with what was left out on the way. -/
theorem federateResult_eq (baseName : String) :
    program.federateResult environment baseName federate =
      (program.federateFiles (program.federateEnvironment environment) federate
          (program.topLevelName baseName federate)).run.result.map fun files =>
        files.generated federate.name (program.topLevelName baseName federate)
          (program.federateFiles (program.federateEnvironment environment) federate
            (program.topLevelName baseName federate)).run.omissions := by
  simp only [federateResult, generateFederate, Report.result_run_bind, Generation.result_log,
    Result.ok_bind, Generation.result_withWarnings, Report.result_run_pure]
  change (Except.map _ (program.federateFiles (program.federateEnvironment environment) federate
    (program.topLevelName baseName federate)).run.result >>= _) = _
  rw [Result.map_bind, Result.map_eq_bind]
  rfl

/-- What is generated for a federate of the interpreter is put together from its parts. -/
theorem federateResult_of_python
    {environment : Environment}
    (isPython : environment.settings.target = .python)
    (baseName : String) :
    program.federateResult environment baseName federate =
      (program.interpreterParts (program.federateEnvironment environment) federate
          (program.topLevelName baseName federate)).run.result.map fun parts =>
        (parts.files program (program.federateSettings environment.settings)
            (program.topLevelName baseName federate)).generated federate.name
          (program.topLevelName baseName federate)
          (program.interpreterParts (program.federateEnvironment environment) federate
            (program.topLevelName baseName federate)).run.omissions := by
  have isPython : (program.federateEnvironment environment).settings.target = .python :=
    (program.target_federateSettings _).trans isPython
  rw [federateResult_eq, federateFiles_of_python program federate isPython,
    Generation.result_map, Generation.omissions_map, Result.map_eq_bind, Result.map_bind,
    Result.map_eq_bind]
  rfl

end Program

/-! ## Where settings show -/

/-- The preamble can be read off the native code. -/
theorem NativeSource.joinLines_preamble_inj
    {first second : NativeSource}
    (serializers_eq : first.serializerPreamble = second.serializerPreamble)
    (classes_eq : first.classes = second.classes)
    (initialization_eq : first.initialization = second.initialization)
    (text_eq : first.text = second.text) :
    Text.joinLines first.preamble = Text.joinLines second.preamble := by
  obtain ⟨next, rest, first_eq, second_eq⟩ : ∃ next rest,
      first.sections = Text.joinLines first.preamble :: next :: rest ∧
        second.sections = Text.joinLines second.preamble :: next :: rest := by
    have notEmpty : second.sections.tail ≠ [] := by simp [sections]
    obtain ⟨next, rest, tail_eq⟩ := List.exists_cons_of_ne_nil notEmpty
    refine ⟨next, rest, ?_, ?_⟩
    · rw [← tail_eq, sections, sections, serializers_eq, classes_eq, initialization_eq]
      rfl
    · rw [← tail_eq]
      rfl
  rw [NativeSource.text, NativeSource.text, first_eq, second_eq] at text_eq
  simpa only [String.intercalate_cons_cons, String.append_assoc, String.append_left_inj]
    using text_eq

/-- Traces show in the native preamble. -/
theorem joinLines_nativePreamble_ne
    {first second : Settings}
    (verbosity_eq : first.verbosity = second.verbosity)
    (coordination_eq : first.coordination = second.coordination)
    (traced : first.tracing = some ⟨none⟩)
    (untraced : second.tracing = none)
    (federated : Bool)
    (count : Nat) :
    Text.joinLines (nativePreamble first federated count) ≠
      Text.joinLines (nativePreamble second federated count) := by
  let opening := ["#define LOG_LEVEL " ++ toString second.verbosity.number] ++
    (if federated then federatedDefinitions second.coordination else []) ++
    ["#define _LF_GARBAGE_COLLECTED"]
  let closing := "#define NUMBER_OF_FEDERATES " ++ toString count
  have definition : Tracing.definition ⟨none⟩ = "#define LINGUA_FRANCA_TRACE" := by decide
  have first_eq : nativePreamble first federated count = opening ++
      ["#define LINGUA_FRANCA_TRACE", "#include \"pythontarget.c\"",
        "#include \"core/trace.c\"", closing] := by
    simp [nativePreamble, opening, closing, traced, verbosity_eq, coordination_eq, definition]
  have second_eq : nativePreamble second federated count = opening ++
      ["#include \"pythontarget.c\"", closing] := by
    simp [nativePreamble, opening, closing, untraced]
  have notEmpty : opening ≠ [] := by simp [opening]
  intro equal
  rw [first_eq, second_eq, Text.joinLines, Text.joinLines,
    String.intercalate_append_of_ne_nil notEmpty (List.cons_ne_nil _ _),
    String.intercalate_append_of_ne_nil notEmpty (List.cons_ne_nil _ _),
    String.append_right_inj] at equal
  simp only [String.intercalate_cons_cons, String.append_assoc] at equal
  exact Text.append_ne_append_of_take 10 (by decide) (by decide) (by decide) _ _ equal

namespace BuildDescriptor

/-- The definitions can be read off the script. -/
theorem bracketed_macros_eq
    {first second : BuildDescriptor}
    (moduleName_eq : first.moduleName = second.moduleName)
    (sources_eq : first.sources = second.sources)
    (requirements_eq : first.requirements = second.requirements)
    (script_eq : first.script = second.script) :
    bracketed (first.macros.map macroPair) = bracketed (second.macros.map macroPair) := by
  simpa only [script, extensionVariable, moduleName_eq, sources_eq, requirements_eq,
    Text.joinLines, String.intercalate_cons_cons, String.append_assoc,
    String.append_right_inj, String.append_left_inj] using script_eq

/-- A definition with another value is another text. -/
theorem macroPair_inj
    {name first second : String}
    (pair_eq : macroPair (name, first) = macroPair (name, second)) :
    first = second := by
  simpa only [macroPair, quoted, String.append_assoc, String.append_right_inj,
    String.append_left_inj] using pair_eq

/-- What the list of definitions says about workers. -/
def workersPart (settings : Settings) : String :=
  if settings.threads != 0 || settings.tracing.isSome then
    ", " ++ macroPair ("NUMBER_OF_WORKERS", toString settings.threads.toNat)
  else ""

theorem bracketed_macrosOf (settings : Settings) (moduleName : String) :
    bracketed ((macrosOf settings moduleName).map macroPair) =
      "[" ++ macroPair ("MODULE_NAME", moduleName) ++ workersPart settings ++ "]" := by
  rw [bracketed, macrosOf, workersPart]
  split
  case isTrue =>
    rw [List.map_cons, List.map_singleton, String.intercalate_cons_cons,
      String.intercalate_singleton]
    simp only [String.append_assoc]
  case isFalse =>
    rw [List.map_singleton, String.intercalate_singleton, String.append_empty]

/-- The number of workers can be read off. -/
theorem workersPart_inj
    {first second : Settings}
    (tracing_eq : first.tracing = second.tracing)
    (part_eq : workersPart first = workersPart second) :
    first.threads = second.threads := by
  have notEmpty : ∀ text : String, ", " ++ text ≠ "" := by simp
  rw [workersPart, workersPart, tracing_eq] at part_eq
  split at part_eq
  case isTrue =>
    split at part_eq
    case isTrue =>
      rw [String.append_right_inj] at part_eq
      exact UInt32.toNat_inj.mp (Text.toString_inj.mp (macroPair_inj part_eq))
    case isFalse => exact absurd part_eq (notEmpty _)
  case isFalse unused =>
    split at part_eq
    case isTrue => exact absurd part_eq.symm (notEmpty _)
    case isFalse otherUnused =>
      simp only [Bool.or_eq_true, bne_iff_ne, not_or, not_not] at unused otherUnused
      rw [unused.1, otherUnused.1]

end BuildDescriptor

/-- Tracing is off, or it is on and the runtime picks the file. -/
def Settings.TracesUnnamed (settings : Settings) : Prop :=
  settings.tracing = none ∨ settings.tracing = some ⟨none⟩

/-- Settings that differ at most in the number of threads, in tracing, and in what is not
looked at when code is generated. -/
structure Settings.AlikeButWorkers (first second : Settings) : Prop where
  target : first.target = second.target
  coordination : first.coordination = second.coordination
  verbosity : first.verbosity = second.verbosity
  files : first.files = second.files
  protoFiles : first.protoFiles = second.protoFiles
  firstUnnamed : first.TracesUnnamed
  secondUnnamed : second.TracesUnnamed

namespace FederateParts

open BuildDescriptor

variable
  (parts : FederateParts)
  (program : Program)
  {first second : Settings}

/-- Tracing can be read off the native code. -/
theorem tracing_eq_of_text
    (alike : first.AlikeButWorkers second)
    (text_eq : (parts.source program first).text = (parts.source program second).text) :
    first.tracing = second.tracing := by
  have preamble_eq := @NativeSource.joinLines_preamble_inj (parts.source program first)
    (parts.source program second) rfl rfl rfl text_eq
  rcases alike.firstUnnamed with firstOff | firstOn
  case inl =>
    rcases alike.secondUnnamed with secondOff | secondOn
    case inl => rw [firstOff, secondOff]
    case inr =>
      exact absurd preamble_eq.symm (joinLines_nativePreamble_ne alike.verbosity.symm
        alike.coordination.symm secondOn firstOff _ _)
  case inr =>
    rcases alike.secondUnnamed with secondOff | secondOn
    case inl =>
      exact absurd preamble_eq (joinLines_nativePreamble_ne alike.verbosity
        alike.coordination firstOn secondOff _ _)
    case inr => rw [firstOn, secondOn]

/-- The number of threads can be read off the script that builds the module. -/
theorem threads_eq_of_script
    (alike : first.AlikeButWorkers second)
    (tracing_eq : first.tracing = second.tracing)
    {topLevelName : String}
    (script_eq :
      (parts.build first topLevelName).script = (parts.build second topLevelName).script) :
    first.threads = second.threads := by
  have sources_eq :
      (parts.build first topLevelName).sources = (parts.build second topLevelName).sources := by
    rw [build, build, BuildDescriptor.ofSettings, BuildDescriptor.ofSettings, alike.files]
  have macros_eq := @bracketed_macros_eq (parts.build first topLevelName)
    (parts.build second topLevelName) rfl sources_eq rfl script_eq
  change bracketed ((macrosOf first _).map macroPair) =
    bracketed ((macrosOf second _).map macroPair) at macros_eq
  rw [bracketed_macrosOf, bracketed_macrosOf, String.append_left_inj,
    String.append_right_inj] at macros_eq
  exact workersPart_inj tracing_eq macros_eq

/-- What is generated from the same parts is the same exactly when the numbers of threads
and tracing are. -/
theorem generated_eq_iff
    (alike : first.AlikeButWorkers second)
    (federate topLevelName : String)
    (warnings : List Diagnostic) :
    (parts.files program first topLevelName).generated federate topLevelName warnings =
        (parts.files program second topLevelName).generated federate topLevelName warnings ↔
      first.threads = second.threads ∧ first.tracing = second.tracing := by
  constructor
  · intro equal
    have contents_eq := congrArg (fun generated => generated.artifacts.map Artifact.contents) equal
    obtain ⟨text_eq, contents_eq⟩ := List.cons.inj contents_eq
    obtain ⟨_, contents_eq⟩ := List.cons.inj contents_eq
    obtain ⟨script_eq, _⟩ := List.cons.inj contents_eq
    have tracing_eq := parts.tracing_eq_of_text program alike text_eq
    exact ⟨parts.threads_eq_of_script alike tracing_eq script_eq, tracing_eq⟩
  · rintro ⟨threads_eq, tracing_eq⟩
    simp only [files, source, build, nativePreamble, BuildDescriptor.ofSettings, macrosOf,
      alike.coordination, alike.verbosity, alike.files, threads_eq, tracing_eq]

end FederateParts

/-- What is generated for a federate in two compilations, which can be told apart only by
its native preamble and its build. -/
structure FederateArtifacts.SameExactlyIf
    (same : Prop)
    (first second : FederateArtifacts) : Prop where
  federate : first.federate = second.federate
  triggers : first.triggers = second.triggers
  tokens : first.tokens = second.tokens
  diagnostics : first.diagnostics = second.diagnostics
  eq_iff : first = second ↔ same

theorem FederateArtifacts.SameExactlyIf.refl
    {same : Prop}
    (holds : same)
    (generated : FederateArtifacts) :
    generated.SameExactlyIf same generated :=
  ⟨rfl, rfl, rfl, rfl, iff_of_true rfl holds⟩

namespace Program

/-- Settings that make no difference to what is generated: for the interpreter every
federate has as many threads, and both are traced or neither is. -/
def BuildsAlike (program : Program) (first second : Settings) : Prop :=
  first.target = .python ->
    (program.federateSettings first).threads = (program.federateSettings second).threads ∧
      first.tracing = second.tracing

theorem alikeButWorkers_federateSettings
    (program : Program)
    {first second : Settings}
    (alike : first.AlikeButWorkers second) :
    (program.federateSettings first).AlikeButWorkers (program.federateSettings second) := by
  obtain ⟨firstThreads, first_eq⟩ := program.federateSettings_eq first
  obtain ⟨secondThreads, second_eq⟩ := program.federateSettings_eq second
  rw [first_eq, second_eq]
  exact ⟨alike.target, alike.coordination, alike.verbosity, alike.files, alike.protoFiles,
    alike.firstUnnamed, alike.secondUnnamed⟩

theorem tracing_federateSettings (program : Program) (settings : Settings) :
    (program.federateSettings settings).tracing = settings.tracing := by
  obtain ⟨threads, settings_eq⟩ := program.federateSettings_eq settings
  rw [settings_eq]

/-- A federate has the same fault with such settings, or it is generated with both; and
what is generated is the same exactly when the settings make no difference. -/
theorem federateResult_alike
    (program : Program)
    {first second : Settings}
    (target_eq : first.target = second.target)
    (alike : first.target = .python -> first.AlikeButWorkers second)
    (tools : ToolLocator)
    (sourceDirectory : Option String)
    (baseName : String)
    (federate : Federate) :
    Result.Alike (FederateArtifacts.SameExactlyIf (program.BuildsAlike first second))
      (program.federateResult ⟨first, tools, sourceDirectory⟩ baseName federate)
      (program.federateResult ⟨second, tools, sourceDirectory⟩ baseName federate) := by
  by_cases isPython : first.target = .python
  case pos =>
    have federateAlike := program.alikeButWorkers_federateSettings (alike isPython)
    have parts_eq : ∀ topLevelName,
        program.interpreterParts
            (program.federateEnvironment ⟨first, tools, sourceDirectory⟩) federate
            topLevelName =
          program.interpreterParts
            (program.federateEnvironment ⟨second, tools, sourceDirectory⟩) federate
            topLevelName := by
      intro topLevelName
      have codeOnly_eq :
          (program.federateEnvironment ⟨first, tools, sourceDirectory⟩).codeOnly =
            (program.federateEnvironment ⟨second, tools, sourceDirectory⟩).codeOnly := by
        simp only [federateEnvironment, Environment.codeOnly, Settings.codeOnly,
          federateAlike.target, federateAlike.coordination, federateAlike.protoFiles]
      rw [← interpreterParts_codeOnly, codeOnly_eq, interpreterParts_codeOnly]
    rw [federateResult_of_python program federate isPython,
      federateResult_of_python program federate (target_eq.symm.trans isPython), parts_eq]
    refine Result.Alike.map _ fun parts => ⟨rfl, rfl, rfl, rfl, ?_⟩
    rw [parts.generated_eq_iff program federateAlike, BuildsAlike,
      tracing_federateSettings, tracing_federateSettings]
    exact ⟨fun same _ => same, fun same => same isPython⟩
  case neg =>
    have notPython : (program.federateSettings first).target ≠ .python := by
      rw [target_federateSettings]
      exact isPython
    have otherNotPython : (program.federateSettings second).target ≠ .python := by
      rw [target_federateSettings, ← target_eq]
      exact isPython
    have files_eq : ∀ topLevelName,
        program.federateFiles
            (program.federateEnvironment ⟨first, tools, sourceDirectory⟩) federate
            topLevelName =
          program.federateFiles
            (program.federateEnvironment ⟨second, tools, sourceDirectory⟩) federate
            topLevelName := by
      intro topLevelName
      rw [federateFiles_of_not_python program federate notPython,
        federateFiles_of_not_python program federate otherNotPython]
    have result_eq : program.federateResult ⟨first, tools, sourceDirectory⟩ baseName federate =
        program.federateResult ⟨second, tools, sourceDirectory⟩ baseName federate := by
      rw [federateResult_eq, federateResult_eq, files_eq]
    rw [result_eq]
    cases program.federateResult ⟨second, tools, sourceDirectory⟩ baseName federate with
    | error failure => exact .error failure
    | ok generated => exact .ok (.refl (fun python => absurd python isPython) generated)

end Program
end ReactorGen
