import ReactorGen.Proofs.ConfigurationReports
import ReactorGen.Proofs.FederateSequence

/-!
# The reach of errors

How far an error reaches in a compilation.  A program whose target is not known,
or is not generated, has no federates.  Otherwise every federate is generated as
if it were alone, until one of them has a variable that no self struct holds: then
the compilation is given up.  Every other fault suppresses its own federate only,
and it adds one error to those of the configuration.
-/

namespace ReactorGen

/-- What the properties of a program configure for a target. -/
def CompileOptions.configured
    (options : CompileOptions)
    (files : FileSystem)
    (target : Target)
    (properties : List (String × Element)) : Configured :=
  (configure (files.sourceExists options.sourceDirectory) target properties).result

/-- What generation gives for a federate on its own. -/
def Program.federateAlone
    (program : Program)
    (options : CompileOptions)
    (settings : Settings)
    (federate : Federate) : Except Failure FederateArtifacts :=
  program.federateResult ⟨settings, options.tools, options.sourceDirectory⟩
    (options.baseName.getD program.name) federate

namespace CompileResult

/-- A compilation that stopped with the given errors after those of the
configuration. -/
structure GivesUp
    (result : CompileResult)
    (configured : Configured)
    (added : List Diagnostic) : Prop where
  success : result.success = false
  settings : result.settings = some configured.settings
  federates : result.federates = []
  /-- Every error is counted. -/
  totalErrors : result.diagnostics.totalErrors =
    configured.diagnostics.totalErrors + added.length
  /-- The first errors are kept. -/
  errors : result.diagnostics.errors =
    (configured.diagnostics.errors ++ added).take Diagnostics.errorLimit

/-- A compilation that reached its end, with what generation gives for each
federate on its own. -/
structure Finishes
    (result : CompileResult)
    (configured : Configured)
    (resultOf : Federate -> Except Failure FederateArtifacts)
    (federates : List Federate) : Prop where
  success : result.success = true ↔ result.diagnostics.totalErrors = 0
  settings : result.settings = some configured.settings
  /-- Every federate is recorded in the order of declaration. -/
  federates : RecordsAll resultOf federates result.federates
  /-- Every suppressed federate is one more error. -/
  totalErrors : result.diagnostics.totalErrors =
    configured.diagnostics.totalErrors +
      (result.federates.filterMap FederateOutput.reason?).length
  /-- The first errors are kept. -/
  errors : result.diagnostics.errors =
    (configured.diagnostics.errors ++
      result.federates.filterMap FederateOutput.reason?).take Diagnostics.errorLimit

end CompileResult

/-- How far the errors of a compilation reach. -/
structure ErrorScope
    (program : Program)
    (files : FileSystem)
    (properties : List (String × Element))
    (options : CompileOptions)
    (result : CompileResult) : Prop where
  /-- Without a target there is nothing but the error that says so. -/
  unknownTarget : Target.ofName? program.target = none ->
    result = ⟨false, none, [],
      ⟨[(ConfigError.unknownTarget program.target).diagnostic], [], 1, 0⟩⟩
  /-- A target without generated code is one more error. -/
  notGenerated : ∀ target, Target.ofName? program.target = some target ->
    target.isGenerated = false ->
    result.GivesUp (options.configured files target properties)
      [unsupportedTarget target]
  /-- Without a variable that no self struct holds, every federate is recorded. -/
  finishes : ∀ target, Target.ofName? program.target = some target ->
    target.isGenerated = true ->
    let configured := options.configured files target properties
    (∀ federate ∈ program.federates,
      endsCompilation (program.federateAlone options configured.settings federate) =
        false) ->
    result.Finishes configured (program.federateAlone options configured.settings)
      program.federates
  /-- The first federate with a variable that no self struct holds is the last one
  that counts. -/
  givesUp : ∀ target, Target.ofName? program.target = some target ->
    target.isGenerated = true ->
    let configured := options.configured files target properties
    ∀ before federate after className reaction field span,
    program.federates = before ++ federate :: after ->
    (∀ earlier ∈ before,
      endsCompilation (program.federateAlone options configured.settings earlier) =
        false) ->
    program.federateAlone options configured.settings federate =
      .error (.fault (.unresolvedField className reaction field span)) ->
    result.GivesUp configured
      (federateFaults (program.federateAlone options configured.settings) before ++
        [(Fault.unresolvedField className reaction field span).diagnostic])

namespace CompileOptions

variable
  (options : CompileOptions)
  (files : FileSystem)
  (target : Target)
  (properties : List (String × Element))

/-- The configuration keeps the target. -/
theorem target_configured :
    (options.configured files target properties).settings.target = target :=
  target_configure _ target properties

/-- The configuration keeps no more errors than the limit. -/
theorem length_errors_configured_le :
    (options.configured files target properties).diagnostics.errors.length ≤
      Diagnostics.errorLimit := by
  rw [configured, diagnostics_configure]
  exact Diagnostics.length_errors_ofList_le _

end CompileOptions

namespace CompileResult

variable
  {configured : Configured}
  (withinLimit : configured.diagnostics.errors.length ≤ Diagnostics.errorLimit)

include withinLimit

/-- A failed compilation gives up with the errors that were added. -/
theorem givesUp_failed (added : List Diagnostic) :
    (failed (some configured.settings) (configured.diagnostics.extend added)).GivesUp
      configured (Diagnostics.errorsOf added) where
  success := rfl
  settings := rfl
  federates := rfl
  totalErrors := Diagnostics.totalErrors_extend configured.diagnostics added
  errors := Diagnostics.errors_extend withinLimit added

/-- A finished compilation records its federates and adds their faults. -/
theorem finishes_finished
    {program : Program}
    {environment : Environment}
    {baseName : String}
    {federates : List Federate}
    {outputs : List FederateOutput}
    (recorded :
      RecordsAll (program.federateResult environment baseName) federates outputs) :
    (finished configured.settings outputs
      (configured.diagnostics.extend
        (federateReports (program.federateResult environment baseName)
          federates))).Finishes
      configured (program.federateResult environment baseName) federates where
  success := by
    rw [finished, Diagnostics.hasErrors]
    simp
  settings := rfl
  federates := recorded
  totalErrors := by
    have faults := recorded.filterMap_reason?
    rw [finished, Diagnostics.totalErrors_extend, Program.errorsOf_federateReports,
      faults]
  errors := by
    have faults := recorded.filterMap_reason?
    rw [finished, Diagnostics.errors_extend withinLimit,
      Program.errorsOf_federateReports, faults]

end CompileResult

namespace Program

variable
  {program : Program}
  {files : FileSystem}
  {properties : List (String × Element)}
  {options : CompileOptions}

/-- An unknown target is reported before anything else is done. -/
theorem compile_of_unknown (unknown : Target.ofName? program.target = none) :
    (program.compile files properties options).run.result =
      .ok (.failed none
        (Diagnostics.empty.push
          (ConfigError.unknownTarget program.target).diagnostic)) := by
  rw [compile, Report.result_run_bind, Report.result_run_lift, Result.ok_bind,
    Report.result_run_bind, Report.result_run_lift, Result.ok_bind, configureNamed, unknown]
  rfl

/-- A known target is configured first. -/
theorem compile_of_known
    {target : Target}
    (known : Target.ofName? program.target = some target) :
    (program.compile files properties options).run.result =
      (program.compileConfigured options
        (options.configured files target properties)).run.result := by
  rw [compile, Report.result_run_bind, Report.result_run_lift, Result.ok_bind,
    Report.result_run_bind, Report.result_run_lift, Result.ok_bind, configureNamed, known]
  rfl

/-- Configuration errors do not keep federates from being generated. -/
theorem compileConfigured_of_isGenerated
    {configured : Configured}
    (generated : configured.settings.target.isGenerated = true) :
    (program.compileConfigured options configured).run.result =
      (program.compileFederates
        ⟨configured.settings, options.tools, options.sourceDirectory⟩
        (options.baseName.getD program.name) ⟨[], configured.diagnostics⟩
        program.federates).run.result := by
  simp only [compileConfigured, generated, if_true]
  split
  · rfl
  · rfl

theorem compileConfigured_of_not_isGenerated
    {configured : Configured}
    (notGenerated : configured.settings.target.isGenerated = false) :
    (program.compileConfigured options configured).run.result =
      .ok (.failed (some configured.settings)
        (configured.diagnostics.extend
          [unsupportedTarget configured.settings.target])) := by
  simp only [compileConfigured, notGenerated, Bool.false_eq_true, if_false]
  rfl

/-- A compilation whose federates do not end it records all of them. -/
theorem compileConfigured_of_goesOn
    {configured : Configured}
    (withinLimit : configured.diagnostics.errors.length ≤ Diagnostics.errorLimit)
    (generated : configured.settings.target.isGenerated = true)
    (defined : ∀ federate ∈
        reachedFederates (program.federateAlone options configured.settings)
          program.federates,
      ∀ reference,
        program.federateAlone options configured.settings federate ≠
          .error (.dangling reference))
    (goesOn : ∀ federate ∈ program.federates,
      endsCompilation (program.federateAlone options configured.settings federate) =
        false) :
    ∃ result,
      (program.compileConfigured options configured).run.result = .ok result ∧
        result.Finishes configured (program.federateAlone options configured.settings)
          program.federates := by
  have allReached := reachedFederates_append goesOn []
  rw [List.append_nil, reachedFederates, List.append_nil] at allReached
  rw [allReached] at defined
  obtain ⟨outputs, recorded⟩ := exists_recordsAll defined goesOn
  refine ⟨_, ?_, CompileResult.finishes_finished withinLimit recorded⟩
  rw [compileConfigured_of_isGenerated generated]
  exact compileFederates_of_recordsAll recorded configured.diagnostics

/-- A compilation is given up at the first variable that no self struct holds. -/
theorem compileConfigured_of_unresolvedField
    {configured : Configured}
    (withinLimit : configured.diagnostics.errors.length ≤ Diagnostics.errorLimit)
    (generated : configured.settings.target.isGenerated = true)
    (defined : ∀ federate ∈
        reachedFederates (program.federateAlone options configured.settings)
          program.federates,
      ∀ reference,
        program.federateAlone options configured.settings federate ≠
          .error (.dangling reference))
    {before : List Federate}
    {federate : Federate}
    {after : List Federate}
    (federates_eq : program.federates = before ++ federate :: after)
    (goesOn : ∀ earlier ∈ before,
      endsCompilation (program.federateAlone options configured.settings earlier) =
        false)
    {className field : String}
    {reaction : Nat}
    {span : Option Span}
    (failed : program.federateAlone options configured.settings federate =
      .error (.fault (.unresolvedField className reaction field span))) :
    ∃ result,
      (program.compileConfigured options configured).run.result = .ok result ∧
        result.GivesUp configured
          (federateFaults (program.federateAlone options configured.settings) before ++
            [(Fault.unresolvedField className reaction field span).diagnostic]) := by
  rw [federates_eq, reachedFederates_append goesOn] at defined
  obtain ⟨outputs, recorded⟩ := exists_recordsAll
    (fun earlier member => defined earlier (List.mem_append_left _ member)) goesOn
  have givesUp := CompileResult.givesUp_failed withinLimit
    (federateReports (program.federateAlone options configured.settings) before ++
      [(Fault.unresolvedField className reaction field span).diagnostic])
  have faults : Diagnostics.errorsOf
      (federateReports (program.federateAlone options configured.settings) before) =
        federateFaults (program.federateAlone options configured.settings) before :=
    errorsOf_federateReports before
  rw [Diagnostics.errorsOf_append, faults] at givesUp
  refine ⟨_, ?_, givesUp⟩
  rw [compileConfigured_of_isGenerated generated, federates_eq]
  exact compileFederates_of_aborts recorded failed rfl configured.diagnostics after

/-- No federate that a compilation reaches has a dangling reference. -/
def ReachesDefinedFederates
    (program : Program)
    (files : FileSystem)
    (properties : List (String × Element))
    (options : CompileOptions) : Prop :=
  ∀ target, Target.ofName? program.target = some target ->
    target.isGenerated = true ->
    let settings := (options.configured files target properties).settings
    ∀ federate ∈ reachedFederates (program.federateAlone options settings)
      program.federates,
    ∀ reference,
      program.federateAlone options settings federate ≠ .error (.dangling reference)

/-- A compilation has a result where the federates that it reaches have no dangling
reference. -/
theorem exists_compile
    (defined : program.ReachesDefinedFederates files properties options) :
    ∃ result, (program.compile files properties options).run.result = .ok result := by
  cases known : Target.ofName? program.target with
  | none => exact ⟨_, compile_of_unknown known⟩
  | some target =>
    rw [compile_of_known known]
    have target_eq := options.target_configured files target properties
    cases generated : target.isGenerated with
    | false =>
      rw [← target_eq] at generated
      exact ⟨_, compileConfigured_of_not_isGenerated generated⟩
    | true =>
      have definedHere := defined target known generated
      rw [← target_eq] at generated
      rw [compileConfigured_of_isGenerated generated]
      exact exists_compileFederates definedHere _

/-- Errors reach as far as they should: an error of the configuration or of one
federate leaves the other federates alone, and only a variable that no self struct
holds ends the compilation. -/
theorem compile_errorScope
    (defined : program.ReachesDefinedFederates files properties options) :
    ∃ result,
      (program.compile files properties options).run.result = .ok result ∧
        ErrorScope program files properties options result := by
  obtain ⟨result, compiled⟩ := exists_compile defined
  refine ⟨result, compiled, ?_, ?_, ?_, ?_⟩
  · intro unknown
    rw [compile_of_unknown unknown] at compiled
    exact (Except.ok.inj compiled).symm
  · intro target known notGenerated
    have withinLimit := options.length_errors_configured_le files target properties
    have target_eq := options.target_configured files target properties
    rw [← target_eq] at notGenerated
    rw [compile_of_known known] at compiled
    simp only [compileConfigured_of_not_isGenerated notGenerated, Except.ok.injEq,
      target_eq] at compiled
    rw [← compiled]
    exact CompileResult.givesUp_failed withinLimit _
  · intro target known generated configured goesOn
    have withinLimit := options.length_errors_configured_le files target properties
    have target_eq := options.target_configured files target properties
    obtain ⟨finished, finished_eq, finishes⟩ := compileConfigured_of_goesOn withinLimit
      (by rw [target_eq, generated]) (defined target known generated) goesOn
    rw [compile_of_known known, finished_eq] at compiled
    rw [← Except.ok.inj compiled]
    exact finishes
  · intro target known generated configured before federate after className reaction
      field span federates_eq goesOn failed
    have withinLimit := options.length_errors_configured_le files target properties
    have target_eq := options.target_configured files target properties
    obtain ⟨givenUp, givenUp_eq, givesUp⟩ := compileConfigured_of_unresolvedField
      withinLimit (by rw [target_eq, generated]) (defined target known generated)
      federates_eq goesOn failed
    rw [compile_of_known known, givenUp_eq] at compiled
    rw [← Except.ok.inj compiled]
    exact givesUp

end Program

/-! ## A program with three faults

A connection without a serializer, a variable that does not exist, and behind them a
reference to a federate that does not exist. -/

namespace FaultyProgram

/-- A connection that asks for a serializer that is not available. -/
def connection (sender receiver : Nat) : NetworkConnection where
  sendingFederate := ⟨sender⟩
  sendingPort := .own "out"
  receivingFederate := ⟨receiver⟩
  receivingPort := .own "in"
  receivingPortId := 0
  receivingAction := "received"
  type := none
  isPhysical := false
  delay := none
  serializer := some .ros2

def unserialized : Federate := .ofInstances ⟨0⟩ "unserialized" []

def unresolved : Federate :=
  { Federate.ofInstances ⟨1⟩ "unresolved" [] with networkReactions := [0] }

def dangling : Federate := .ofInstances ⟨2⟩ "dangling" []

/-- The federates in order; the last one has no generation, not even a fault. -/
def program : Program where
  name := "Faulty"
  target := "Python"
  properties := []
  preambles := []
  classes := [{ ReactorClass.ofName "Faulty" with
    reactions := [⟨[], [], [.own "missing"], "", none, none⟩]
    isMain := true
    isFederated := true }]
  tree := .ofRoot "Faulty" ⟨0⟩
  federates := [unserialized, unresolved, dangling]
  connections := [connection 2 3, connection 0 2]

/-- A property that is not known. -/
def properties : List (String × Element) := [("bogus", .id "value")]

def options : CompileOptions := ⟨none, none, fun _ => none⟩

/-- What the property configures. -/
def configured : Configured := options.configured .empty .python properties

/-- The dangling reference is not reached: there are three errors, and no federate
is left. -/
theorem compile_counts_errors :
    program.ReachesDefinedFederates .empty properties options ∧
      ∃ result,
        (program.compile .empty properties options).run.result = .ok result ∧
          result.federates = [] ∧ result.diagnostics.totalErrors = 3 := by
  have isPython : Target.ofName? program.target = some .python := rfl
  have firstFails :
      program.federateAlone options configured.settings unserialized =
        .error (.fault (.missingSerializer .ros2 "unserialized.out" "dangling.in")) := rfl
  have secondFails :
      program.federateAlone options configured.settings unresolved =
        .error (.fault (.unresolvedField "Faulty" 0 "missing" none)) := rfl
  have reached : reachedFederates (program.federateAlone options configured.settings)
      program.federates = [unserialized, unresolved] := rfl
  have defined : program.ReachesDefinedFederates .empty properties options := by
    intro target known _ settings federate member reference
    rw [isPython] at known
    obtain rfl := Option.some.inj known
    change federate ∈ reachedFederates
      (program.federateAlone options configured.settings) program.federates at member
    rw [reached] at member
    simp only [List.mem_cons, List.not_mem_nil, or_false] at member
    rcases member with rfl | rfl
    · intro dangles
      cases firstFails.symm.trans dangles
    · intro dangles
      cases secondFails.symm.trans dangles
  obtain ⟨result, compiled, scope⟩ := Program.compile_errorScope defined
  have goesOn : ∀ earlier ∈ [unserialized],
      endsCompilation (program.federateAlone options configured.settings earlier) =
        false := by
    intro earlier member
    rw [List.mem_singleton.mp member, firstFails]
    rfl
  have givesUp := scope.givesUp .python isPython rfl [unserialized] unresolved [dangling]
    "Faulty" 0 "missing" none rfl goesOn secondFails
  refine ⟨defined, result, compiled, givesUp.federates, ?_⟩
  rw [givesUp.totalErrors]
  rfl

end FaultyProgram
end ReactorGen
