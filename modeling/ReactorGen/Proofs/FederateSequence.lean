import ReactorGen.Compilation
import ReactorGen.Proofs.Accumulation
import ReactorGen.Proofs.Results

/-!
# Federates in sequence

What a compilation makes of its federates one after the other.  A federate that was
generated adds warnings and no error, a federate with a fault adds that fault; both
are recorded, and the compilation goes on.  Only a variable that no self struct
holds ends it.
-/

namespace ReactorGen

/-! ## Federates on their own -/

/-- Diagnostics that hold warnings and no error. -/
def Diagnostics.OnlyWarnings (diagnostics : Diagnostics) : Prop :=
  ∃ problems : List Diagnostic,
    (∀ problem ∈ problems, problem.isError = false) ∧ diagnostics = .ofList problems

/-- Warnings are added to the warnings, and they are no errors. -/
theorem Diagnostics.OnlyWarnings.merge
    {other : Diagnostics}
    (onlyWarnings : other.OnlyWarnings)
    (diagnostics : Diagnostics) :
    diagnostics.merge other = diagnostics.extend other.warnings ∧
      errorsOf other.warnings = [] := by
  obtain ⟨problems, noErrors, rfl⟩ := onlyWarnings
  have warnings_eq : (ofList problems).warnings = problems := by
    rw [ofList_eq, warningsOf, List.filter_eq_self]
    intro problem member
    simp [noErrors problem member]
  rw [warnings_eq, merge_ofList]
  exact ⟨rfl, errorsOf_eq_nil noErrors⟩

/-- What an event leaves in the diagnostics is never an error. -/
theorem Event.isError_of_warning?
    {event : Event}
    {problem : Diagnostic}
    (left : event.warning? = some problem) :
    problem.isError = false := by
  cases event with
  | message level text => simp [Event.warning?] at left
  | degradation code subject text =>
    simp only [Event.warning?, Option.some.injEq] at left
    rw [← left, Diagnostic.isError_warning]

namespace Program

/-- What generation gives for a federate when nothing else is generated. -/
def federateResult
    (program : Program)
    (environment : Environment)
    (baseName : String)
    (federate : Federate) : Except Failure FederateArtifacts :=
  (program.generateFederate environment federate baseName).run.result

/-- A federate that was generated reports only warnings. -/
theorem onlyWarnings_of_federateResult
    {program : Program}
    {environment : Environment}
    {baseName : String}
    {federate : Federate}
    {artifacts : FederateArtifacts}
    (generated : program.federateResult environment baseName federate = .ok artifacts) :
    artifacts.diagnostics.OnlyWarnings := by
  simp only [federateResult, generateFederate, Report.result_run_bind,
    Report.result_run_pure, Generation.result_log, Generation.result_withWarnings,
    Result.bind_eq_ok] at generated
  obtain ⟨_, _, ⟨files, warnings⟩, files_eq, artifacts_eq⟩ := generated
  obtain ⟨_, _, pair_eq⟩ := Result.map_eq_ok.mp files_eq
  simp only [Prod.mk.injEq] at pair_eq
  obtain ⟨_, rfl⟩ := pair_eq
  simp only [Except.ok.injEq] at artifacts_eq
  refine ⟨_, ?_, by rw [← artifacts_eq]⟩
  intro problem member
  obtain ⟨event, _, left⟩ := List.mem_filterMap.mp member
  exact Event.isError_of_warning? left

end Program

/-! ## What one federate leaves -/

/-- Whether a result of generation ends the whole compilation. -/
def endsCompilation : Except Failure FederateArtifacts -> Bool
  | .error (.fault (.unresolvedField ..)) => true
  | _ => false

/-- The fault of a federate as an error. -/
def faultReport? : Except Failure FederateArtifacts -> Option Diagnostic
  | .error (.fault fault) => some fault.diagnostic
  | _ => none

/-- What a federate adds to the diagnostics of a compilation. -/
def resultReports : Except Failure FederateArtifacts -> List Diagnostic
  | .ok artifacts => artifacts.diagnostics.warnings
  | .error (.fault fault) => [fault.diagnostic]
  | .error (.dangling _) => []

theorem endsCompilation_fault (fault : Fault) :
    endsCompilation (.error (.fault fault)) = fault.aborts := by
  cases fault <;> rfl

namespace FederateOutput

/-- What a compilation that goes on records of a federate: what was generated, or
the fault that suppresses it. -/
inductive Records (federate : Federate) :
    Except Failure FederateArtifacts -> FederateOutput -> Prop
  | generated (artifacts : FederateArtifacts) :
    Records federate (.ok artifacts) (.generated artifacts)
  | suppressed (fault : Fault) (goesOn : fault.aborts = false) :
    Records federate (.error (.fault fault))
      (.suppressed federate.name fault.diagnostic)

/-- Why a federate is suppressed, if it is. -/
def reason? : FederateOutput -> Option Diagnostic
  | generated _ => none
  | suppressed _ reason => some reason

/-- The reason that is recorded is the fault of the federate. -/
theorem Records.reason?_eq
    {federate : Federate}
    {result : Except Failure FederateArtifacts}
    {output : FederateOutput}
    (records : output.Records federate result) :
    output.reason? = faultReport? result := by
  cases records with
  | generated artifacts => rfl
  | suppressed fault goesOn => rfl

/-- A federate that does not end the compilation has something to record. -/
theorem exists_records
    (federate : Federate)
    {result : Except Failure FederateArtifacts}
    (defined : ∀ reference, result ≠ .error (.dangling reference))
    (goesOn : endsCompilation result = false) :
    ∃ output : FederateOutput, output.Records federate result := by
  cases result with
  | ok artifacts => exact ⟨_, .generated artifacts⟩
  | error failure =>
    cases failure with
    | dangling reference => exact absurd rfl (defined reference)
    | fault fault =>
      rw [endsCompilation_fault] at goesOn
      exact ⟨_, .suppressed fault goesOn⟩

end FederateOutput

/-- What federates leave for the diagnostics, given what generation gives for each
of them. -/
def federateReports
    (resultOf : Federate -> Except Failure FederateArtifacts)
    (federates : List Federate) : List Diagnostic :=
  federates.flatMap fun federate => resultReports (resultOf federate)

/-- The faults of federates in their order. -/
def federateFaults
    (resultOf : Federate -> Except Failure FederateArtifacts)
    (federates : List Federate) : List Diagnostic :=
  federates.filterMap fun federate => faultReport? (resultOf federate)

/-- What was recorded of federates one by one. -/
def RecordsAll
    (resultOf : Federate -> Except Failure FederateArtifacts)
    (federates : List Federate)
    (outputs : List FederateOutput) : Prop :=
  List.Forall₂ (fun federate output => output.Records federate (resultOf federate))
    federates outputs

/-- The reasons that are recorded are the faults of the federates. -/
theorem RecordsAll.filterMap_reason?
    {resultOf : Federate -> Except Failure FederateArtifacts}
    {federates : List Federate}
    {outputs : List FederateOutput}
    (recorded : RecordsAll resultOf federates outputs) :
    outputs.filterMap FederateOutput.reason? = federateFaults resultOf federates := by
  induction recorded with
  | nil => rfl
  | cons records _ inductionHypothesis =>
    rw [federateFaults] at inductionHypothesis ⊢
    simp only [List.filterMap_cons, records.reason?_eq, inductionHypothesis]

namespace Program

section

variable
  {program : Program}
  {environment : Environment}
  {baseName : String}

/-- The errors that a federate adds are its fault: a federate that was generated
adds none. -/
theorem errorsOf_resultReports (federate : Federate) :
    Diagnostics.errorsOf
        (resultReports (program.federateResult environment baseName federate)) =
      (faultReport? (program.federateResult environment baseName federate)).toList := by
  cases resultValue : program.federateResult environment baseName federate with
  | ok artifacts =>
    have onlyWarnings := onlyWarnings_of_federateResult resultValue
    exact (onlyWarnings.merge .empty).2
  | error failure =>
    cases failure with
    | fault fault => rfl
    | dangling reference => rfl

theorem errorsOf_federateReports (federates : List Federate) :
    Diagnostics.errorsOf
        (federateReports (program.federateResult environment baseName) federates) =
      federateFaults (program.federateResult environment baseName) federates := by
  induction federates with
  | nil => rfl
  | cons federate rest inductionHypothesis =>
    rw [federateReports] at inductionHypothesis ⊢
    rw [List.flatMap_cons, Diagnostics.errorsOf_append, errorsOf_resultReports,
      inductionHypothesis, federateFaults, federateFaults, List.filterMap_cons]
    cases faultReport? (program.federateResult environment baseName federate) <;> rfl

/-! ## One federate after the other -/

/-- What comes next depends on what generation gives for the first federate. -/
theorem compileFederates_cons
    (progress : CompileProgress)
    (federate : Federate)
    (rest : List Federate) :
    (program.compileFederates environment baseName progress
        (federate :: rest)).run.result =
      match program.federateResult environment baseName federate with
      | .ok artifacts =>
        (program.compileFederates environment baseName (progress.generated artifacts)
          rest).run.result
      | .error (.dangling reference) => .error reference
      | .error (.fault fault) =>
        if fault.aborts then
          .ok (.failed (some environment.settings)
            (progress.diagnostics.push fault.diagnostic))
        else
          (program.compileFederates environment baseName
            (progress.suppressed federate.name fault) rest).run.result := by
  rw [compileFederates, Report.result_run_bind, Report.result_run_lift, Result.ok_bind]
  cases resultValue : program.federateResult environment baseName federate with
  | ok artifacts =>
    rw [federateResult] at resultValue
    rw [resultValue]
  | error failure =>
    rw [federateResult] at resultValue
    rw [resultValue]
    cases failure with
    | dangling reference => rfl
    | fault fault =>
      cases aborts : fault.aborts with
      | true => simp [aborts, Except.map]
      | false => simp [aborts]

/-- A federate that is recorded leaves its reports, and the compilation goes on. -/
theorem compileFederates_cons_of_records
    {federate : Federate}
    {output : FederateOutput}
    (records : output.Records federate
      (program.federateResult environment baseName federate))
    (progress : CompileProgress)
    (rest : List Federate) :
    (program.compileFederates environment baseName progress
        (federate :: rest)).run.result =
      (program.compileFederates environment baseName
        ⟨progress.federates ++ [output],
          progress.diagnostics.extend
            (resultReports (program.federateResult environment baseName federate))⟩
        rest).run.result := by
  rw [compileFederates_cons]
  cases resultValue : program.federateResult environment baseName federate with
  | ok artifacts =>
    rw [resultValue] at records
    cases records
    have onlyWarnings := onlyWarnings_of_federateResult resultValue
    simp only [CompileProgress.generated, resultReports]
    rw [(onlyWarnings.merge progress.diagnostics).1]
  | error failure =>
    rw [resultValue] at records
    cases records with
    | suppressed fault goesOn =>
      simp only [goesOn, Bool.false_eq_true, if_false]
      rfl

/-- Federates that are recorded leave their reports, and the compilation goes on
with the federates after them. -/
theorem compileFederates_append_of_recordsAll
    {before : List Federate}
    {outputs : List FederateOutput}
    (recorded : RecordsAll (program.federateResult environment baseName) before outputs)
    (progress : CompileProgress)
    (rest : List Federate) :
    (program.compileFederates environment baseName progress
        (before ++ rest)).run.result =
      (program.compileFederates environment baseName
        ⟨progress.federates ++ outputs,
          progress.diagnostics.extend
            (federateReports (program.federateResult environment baseName) before)⟩
        rest).run.result := by
  induction recorded generalizing progress with
  | nil => simp [federateReports]
  | cons records _ inductionHypothesis =>
    rw [List.cons_append, compileFederates_cons_of_records records, inductionHypothesis]
    simp only [federateReports, List.flatMap_cons, Diagnostics.extend_append,
      List.append_assoc, List.cons_append, List.nil_append]

/-- A compilation whose federates are all recorded reaches its end. -/
theorem compileFederates_of_recordsAll
    {federates : List Federate}
    {outputs : List FederateOutput}
    (recorded : RecordsAll (program.federateResult environment baseName) federates outputs)
    (diagnostics : Diagnostics) :
    (program.compileFederates environment baseName ⟨[], diagnostics⟩
        federates).run.result =
      .ok (.finished environment.settings outputs
        (diagnostics.extend
          (federateReports (program.federateResult environment baseName) federates))) := by
  have sequence := compileFederates_append_of_recordsAll recorded ⟨[], diagnostics⟩ []
  rw [List.append_nil] at sequence
  rw [sequence]
  rfl

/-- A compilation is given up at the first fault that ends it. -/
theorem compileFederates_of_aborts
    {before : List Federate}
    {outputs : List FederateOutput}
    {federate : Federate}
    {fault : Fault}
    (recorded : RecordsAll (program.federateResult environment baseName) before outputs)
    (failed : program.federateResult environment baseName federate =
      .error (.fault fault))
    (aborts : fault.aborts = true)
    (diagnostics : Diagnostics)
    (after : List Federate) :
    (program.compileFederates environment baseName ⟨[], diagnostics⟩
        (before ++ federate :: after)).run.result =
      .ok (.failed (some environment.settings)
        (diagnostics.extend
          (federateReports (program.federateResult environment baseName) before ++
            [fault.diagnostic]))) := by
  rw [compileFederates_append_of_recordsAll recorded, compileFederates_cons, failed]
  simp only [aborts, if_true, Diagnostics.extend_append]
  rfl

end

end Program

/-! ## How far a compilation gets -/

/-- The federates up to the first one that ends the compilation. -/
def reachedFederates (resultOf : Federate -> Except Failure FederateArtifacts) :
    List Federate -> List Federate
  | [] => []
  | federate :: rest =>
    federate ::
      if endsCompilation (resultOf federate) then []
      else reachedFederates resultOf rest

/-- Federates that do not end the compilation are passed. -/
theorem reachedFederates_append
    {resultOf : Federate -> Except Failure FederateArtifacts}
    {before : List Federate}
    (goesOn : ∀ federate ∈ before, endsCompilation (resultOf federate) = false)
    (rest : List Federate) :
    reachedFederates resultOf (before ++ rest) =
      before ++ reachedFederates resultOf rest := by
  induction before with
  | nil => rfl
  | cons federate others inductionHypothesis =>
    have first := goesOn federate (List.mem_cons_self ..)
    have later := inductionHypothesis fun other member =>
      goesOn other (List.mem_cons_of_mem _ member)
    rw [List.cons_append, reachedFederates, first, if_neg Bool.false_ne_true, later]
    rfl

/-- Federates that do not end the compilation can all be recorded. -/
theorem exists_recordsAll
    {resultOf : Federate -> Except Failure FederateArtifacts}
    {federates : List Federate}
    (defined : ∀ federate ∈ federates, ∀ reference,
      resultOf federate ≠ .error (.dangling reference))
    (goesOn : ∀ federate ∈ federates, endsCompilation (resultOf federate) = false) :
    ∃ outputs, RecordsAll resultOf federates outputs := by
  induction federates with
  | nil => exact ⟨[], .nil⟩
  | cons federate rest inductionHypothesis =>
    obtain ⟨output, records⟩ := FederateOutput.exists_records federate
      (defined federate (List.mem_cons_self ..)) (goesOn federate (List.mem_cons_self ..))
    obtain ⟨outputs, recorded⟩ := inductionHypothesis
      (fun other member => defined other (List.mem_cons_of_mem _ member))
      (fun other member => goesOn other (List.mem_cons_of_mem _ member))
    exact ⟨output :: outputs, .cons records recorded⟩

/-- A compilation has a result unless a federate that it reaches has a dangling
reference. -/
theorem Program.exists_compileFederates
    {program : Program}
    {environment : Environment}
    {baseName : String}
    {federates : List Federate}
    (defined : ∀ federate ∈
        reachedFederates (program.federateResult environment baseName) federates,
      ∀ reference,
        program.federateResult environment baseName federate ≠
          .error (.dangling reference))
    (progress : CompileProgress) :
    ∃ result,
      (program.compileFederates environment baseName progress federates).run.result =
        .ok result := by
  induction federates generalizing progress with
  | nil => exact ⟨_, rfl⟩
  | cons federate rest inductionHypothesis =>
    have firstDefined := defined federate (List.mem_cons_self ..)
    cases ends : endsCompilation (program.federateResult environment baseName federate) with
    | false =>
      obtain ⟨output, records⟩ :=
        FederateOutput.exists_records federate firstDefined ends
      rw [compileFederates_cons_of_records records]
      apply inductionHypothesis
      intro other member
      apply defined
      rw [reachedFederates, ends]
      exact List.mem_cons_of_mem _ member
    | true =>
      rw [compileFederates_cons]
      cases resultValue : program.federateResult environment baseName federate with
      | ok artifacts => simp [resultValue, endsCompilation] at ends
      | error failure =>
        cases failure with
        | dangling reference => exact absurd resultValue (firstDefined reference)
        | fault fault =>
          rw [resultValue, endsCompilation_fault] at ends
          simp only [ends, if_true]
          exact ⟨_, rfl⟩

end ReactorGen
