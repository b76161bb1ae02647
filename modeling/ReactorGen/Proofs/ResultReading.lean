import ReactorGen.Proofs.ErrorScope
import ReactorGen.Proofs.JsonReading
import ReactorGen.Proofs.TokenRows

/-!
# Reading compile results

Whatever a compilation returns is found again in what is written for it.  The two parts
of a result that need not be found again are fit for it.  Which tokens are registered is
not written, but the rows of a federate tell it, because each token is registered together
with its row.  The numbers are positions among the modes of a reactor and counts of
problems, of which a federate has no more than the compilation.
-/

namespace ReactorGen

open JsonFormat

/-- Every reactor has modes that can be counted in a machine word. -/
def ReactorTree.CountsModes (tree : ReactorTree) : Prop :=
  ∀ node ∈ tree.instances, node.modes.length ≤ UInt64.size

namespace Program

variable
  {program : Program}
  {federate : Federate}

/-! ## Positions of modes -/

/-- A mode that a trigger is bound to stands among the modes of its owner. -/
theorem fits_of_bindMode
    (countsModes : program.tree.CountsModes)
    {mode? : Option ModeId}
    {trigger : String}
    {span : Option Span}
    {binding : ModeBinding}
    (bound : program.bindMode mode? trigger span = .ok binding) :
    binding.Fits := by
  cases mode? with
  | none =>
    rw [← Except.ok.inj bound]
    exact True.intro
  | some id =>
    cases index_eq : program.tree.modeIndex? id with
    | none => simp [bindMode, index_eq] at bound
    | some index =>
      simp only [bindMode, index_eq, Result.bind_eq_ok, Result.pure_eq_ok] at bound
      obtain ⟨_, _, owner, _, rfl⟩ := bound
      simp only [ReactorTree.modeIndex?, bind, Option.bind_eq_some_iff] at index_eq
      obtain ⟨_, _, node, node_eq, position_eq⟩ := index_eq
      obtain ⟨inside, _⟩ := List.idxOf?_eq_some_iff.mp position_eq
      exact Nat.lt_of_lt_of_le inside (countsModes node (List.mem_of_getElem? node_eq))

theorem fits_of_lowerAction
    (countsModes : program.tree.CountsModes)
    {owner path : String}
    {action : ActionInstance}
    {metadata : TriggerMetadata}
    (lowered : program.lowerAction owner path action = .ok metadata) :
    metadata.mode.Fits := by
  simp only [lowerAction, Result.bind_eq_ok, Result.pure_eq_ok] at lowered
  obtain ⟨binding, bound, rfl⟩ := lowered
  exact fits_of_bindMode countsModes bound

theorem fits_of_lowerTimer
    (countsModes : program.tree.CountsModes)
    {owner path : String}
    {timer : TimerInstance}
    {metadata : TriggerMetadata}
    (lowered : program.lowerTimer owner path timer = .ok metadata) :
    metadata.mode.Fits := by
  simp only [lowerTimer, Result.bind_eq_ok, Result.pure_eq_ok] at lowered
  obtain ⟨binding, bound, rfl⟩ := lowered
  exact fits_of_bindMode countsModes bound

/-- One more instance adds triggers with modes that have a position. -/
theorem fits_of_initializeInstance
    (countsModes : program.tree.CountsModes)
    {withSelfStruct : Bool}
    {done next : Initialization}
    {id : InstanceId}
    (fits : ∀ metadata ∈ done.triggers, metadata.mode.Fits)
    (initialized :
      program.initializeInstance federate withSelfStruct done id = .ok next) :
    ∀ metadata ∈ next.triggers, metadata.mode.Fits := by
  simp only [initializeInstance, Result.bind_eq_ok, Result.pure_eq_ok] at initialized
  obtain ⟨_, _, _, _, _, _, _, _, _, _, actions, actions_eq, timers, timers_eq, _, _, _, _,
    rfl⟩ := initialized
  intro metadata member
  simp only [List.mem_append] at member
  rcases member with (earlier | isAction) | isTimer
  case inl.inl => exact fits metadata earlier
  case inl.inr =>
    simp only [lowerActions, Result.bind_eq_ok] at actions_eq
    obtain ⟨_, _, _, _, _, _, lowered⟩ := actions_eq
    obtain ⟨action, _, metadata_eq⟩ := Result.exists_item_of_mapM lowered isAction
    exact fits_of_lowerAction countsModes metadata_eq
  case inr =>
    simp only [lowerTimers, Result.bind_eq_ok] at timers_eq
    obtain ⟨_, _, _, _, _, _, lowered⟩ := timers_eq
    obtain ⟨timer, _, metadata_eq⟩ := Result.exists_item_of_mapM lowered isTimer
    exact fits_of_lowerTimer countsModes metadata_eq

/-- Every trigger that a federate initializes has a mode with a position. -/
theorem fits_of_initialization
    (countsModes : program.tree.CountsModes)
    {withSelfStruct : Bool}
    {initialization : Initialization}
    (initialization_eq :
      program.initialization federate withSelfStruct = .ok initialization) :
    ∀ metadata ∈ initialization.triggers, metadata.mode.Fits := by
  rw [Program.initialization, Result.bind_eq_ok] at initialization_eq
  obtain ⟨instances, _, initialized⟩ := initialization_eq
  have nothing : ∀ metadata ∈ Initialization.empty.triggers, metadata.mode.Fits :=
    fun _ member => absurd member List.not_mem_nil
  exact Result.invariant_of_foldlM
    (fun fits next_eq => fits_of_initializeInstance countsModes fits next_eq) nothing
    initialized

end Program

/-! ## Problems of federates -/

/-- The problems of a run are counted in another run. -/
structure Diagnostics.CountedIn (diagnostics total : Diagnostics) : Prop where
  errors : diagnostics.totalErrors ≤ total.totalErrors
  warnings : diagnostics.totalWarnings ≤ total.totalWarnings

namespace Diagnostics.CountedIn

variable {diagnostics total : Diagnostics}

/-- They are still counted when problems are added. -/
theorem extend
    (counted : diagnostics.CountedIn total)
    (added : List Diagnostic) :
    diagnostics.CountedIn (total.extend added) := by
  rw [extend_eq]
  exact ⟨Nat.le_add_right_of_le counted.errors, Nat.le_add_right_of_le counted.warnings⟩

theorem countable
    (counted : diagnostics.CountedIn total)
    (countable : total.Countable) :
    diagnostics.Countable :=
  ⟨Nat.lt_of_le_of_lt counted.errors countable.errors,
    Nat.lt_of_le_of_lt counted.warnings countable.warnings⟩

end Diagnostics.CountedIn

/-- The problems of a run without errors are counted where they are added. -/
theorem Diagnostics.OnlyWarnings.countedIn
    {diagnostics : Diagnostics}
    (onlyWarnings : diagnostics.OnlyWarnings)
    (total : Diagnostics) :
    diagnostics.CountedIn (total.merge diagnostics) := by
  obtain ⟨problems, _, rfl⟩ := onlyWarnings
  rw [merge_ofList, extend_eq, ofList_eq]
  exact ⟨Nat.le_add_left _ _, Nat.le_add_left _ _⟩

/-- What was generated for a federate is fit to be stored, if the problems of the
compilation can be counted. -/
structure FederateArtifacts.FitsInto
    (generated : FederateArtifacts)
    (total : Diagnostics) : Prop where
  modes : ∀ metadata ∈ generated.triggers, metadata.mode.Fits
  tokens : generated.tokens.Consistent
  counted : generated.diagnostics.CountedIn total

/-- All that was generated so far is fit to be stored with the compilation. -/
def CompileProgress.Fits (progress : CompileProgress) : Prop :=
  ∀ output ∈ progress.federates, ∀ generated, output.artifacts? = some generated ->
    generated.FitsInto progress.diagnostics

namespace CompileProgress.Fits

variable {progress : CompileProgress}

/-- One more federate with more problems leaves the others fit to be stored. -/
theorem append
    (fits : progress.Fits)
    {output : FederateOutput}
    {added : List Diagnostic}
    (last : ∀ generated, output.artifacts? = some generated ->
      generated.FitsInto (progress.diagnostics.extend added)) :
    Fits ⟨progress.federates ++ [output], progress.diagnostics.extend added⟩ := by
  intro other member generated generated_eq
  rcases List.mem_append.mp member with earlier | isLast
  · obtain ⟨modes, tokens, counted⟩ := fits other earlier generated generated_eq
    exact ⟨modes, tokens, counted.extend added⟩
  · rw [List.mem_singleton] at isLast
    subst isLast
    exact last generated generated_eq

theorem generated
    (fits : progress.Fits)
    {artifacts : FederateArtifacts}
    (onlyWarnings : artifacts.diagnostics.OnlyWarnings)
    (last : artifacts.FitsInto (progress.diagnostics.merge artifacts.diagnostics)) :
    (progress.generated artifacts).Fits := by
  rw [CompileProgress.generated]
  rw [(onlyWarnings.merge progress.diagnostics).1] at last ⊢
  refine fits.append fun generated generated_eq => ?_
  rw [← Option.some.inj generated_eq]
  exact last

theorem suppressed
    (fits : progress.Fits)
    (federate : String)
    (fault : Fault) :
    (progress.suppressed federate fault).Fits := by
  change Fits ⟨progress.federates ++ [.suppressed federate fault.diagnostic],
    progress.diagnostics.extend [fault.diagnostic]⟩
  exact fits.append nofun

end CompileProgress.Fits

namespace Program

variable
  {program : Program}
  {environment : Environment}
  {baseName : String}

/-- What generation gives for a federate is fit to be stored with a compilation that it
is added to. -/
theorem fitsInto_of_federateResult
    (countsModes : program.tree.CountsModes)
    {federate : Federate}
    {artifacts : FederateArtifacts}
    (generated : program.federateResult environment baseName federate = .ok artifacts)
    (total : Diagnostics) :
    artifacts.FitsInto (total.merge artifacts.diagnostics) := by
  obtain ⟨files, files_eq, _, tokens_eq, triggers_eq⟩ :=
    exists_files_of_generateFederate generated
  obtain ⟨initialization_eq, _⟩ := initialization_of_federateFiles files_eq
  constructor
  case modes =>
    rw [triggers_eq]
    exact fits_of_initialization countsModes initialization_eq
  case tokens =>
    obtain ⟨_, _, _, registers, _⟩ := keepsApart_iff_of_initialization initialization_eq
    rw [tokens_eq]
    exact registers.consistent
  case counted => exact (onlyWarnings_of_federateResult generated).countedIn total

/-- Whatever federates still come, all that is generated is fit to be stored. -/
theorem fitsInto_of_compileFederates
    (countsModes : program.tree.CountsModes)
    {federates : List Federate}
    {progress : CompileProgress}
    {result : CompileResult}
    (fits : progress.Fits)
    (compiled : (program.compileFederates environment baseName progress
      federates).run.result = .ok result) :
    ∀ generated ∈ result.generated, generated.FitsInto result.diagnostics := by
  induction federates generalizing progress with
  | nil =>
    rw [← Except.ok.inj compiled]
    intro generated member
    obtain ⟨output, output_mem, generated_eq⟩ := List.mem_filterMap.mp member
    exact fits output output_mem generated generated_eq
  | cons federate rest inductionHypothesis =>
    rw [compileFederates_cons] at compiled
    split at compiled
    case h_1 artifacts artifacts_eq =>
      have last := fitsInto_of_federateResult countsModes artifacts_eq progress.diagnostics
      exact inductionHypothesis
        (fits.generated (onlyWarnings_of_federateResult artifacts_eq) last) compiled
    case h_2 => cases compiled
    case h_3 fault _ =>
      split at compiled
      case isTrue =>
        rw [← Except.ok.inj compiled]
        exact nofun
      case isFalse =>
        exact inductionHypothesis (fits.suppressed federate.name fault) compiled

variable
  {files : FileSystem}
  {properties : List (String × Element)}
  {options : CompileOptions}
  {result : CompileResult}

/-- All that a compilation generates is fit to be stored with its result. -/
theorem fitsInto_of_compile
    (countsModes : program.tree.CountsModes)
    (compiled : (program.compile files properties options).run.result = .ok result) :
    ∀ generated ∈ result.generated, generated.FitsInto result.diagnostics := by
  cases known : Target.ofName? program.target with
  | none =>
    rw [compile_of_unknown known] at compiled
    rw [← Except.ok.inj compiled]
    exact nofun
  | some target =>
    rw [compile_of_known known] at compiled
    cases isGenerated :
      (options.configured files target properties).settings.target.isGenerated with
    | false =>
      rw [compileConfigured_of_not_isGenerated isGenerated] at compiled
      rw [← Except.ok.inj compiled]
      exact nofun
    | true =>
      rw [compileConfigured_of_isGenerated isGenerated] at compiled
      have nothing : CompileProgress.Fits
          ⟨[], (options.configured files target properties).diagnostics⟩ :=
        fun _ member => absurd member List.not_mem_nil
      exact fitsInto_of_compileFederates countsModes nothing compiled

/-- Whatever a compilation returns is found again in the JSON value that is written for
it, where modes and problems can be counted in a machine word. -/
theorem compile_restored
    (countsModes : program.tree.CountsModes)
    (compiled : (program.compile files properties options).run.result = .ok result)
    (countable : result.diagnostics.Countable) :
    JsonFormat.read (JsonFormat.write result) = some result := by
  refine CompileResult.restored (fun generated member => ?_) countable .strict
  obtain ⟨modes, tokens, counted⟩ := fitsInto_of_compile countsModes compiled generated member
  exact ⟨modes, tokens, counted.countable countable⟩

end Program

/-! A program with a federate that is generated and one that is suppressed. -/

namespace TramLine

/-- A station with an action whose payload travels in a token and a timer in a mode. -/
def north : ReactorInstance :=
  { ReactorInstance.ofName "north" ⟨1⟩ (some ⟨0⟩) with
    actions := [(ActionInstance.ofName "arrival" .zero).withTokenPayload "int[]",
      (ActionInstance.ofName "signal" .zero).withMinSpacing ⟨5, .second⟩]
    timers := [⟨"clock", .zero, some ⟨1, .minute⟩, some ⟨0⟩⟩]
    modes := [⟨0⟩] }

/-- A station with an action in a mode that does not exist. -/
def south : ReactorInstance :=
  { ReactorInstance.ofName "south" ⟨1⟩ (some ⟨0⟩) with
    actions := [{ (ActionInstance.ofName "arrival" .zero).inMode ⟨1⟩ with
      span := some (.point 7 3) }] }

def program : Program where
  name := "Line"
  target := "Python"
  properties := []
  preambles := []
  classes := [{ ReactorClass.ofName "Line" with isMain := true, isFederated := true },
    { ReactorClass.ofName "Station" with
      actions := [⟨"arrival", .logical, some "int[]"⟩, ⟨"signal", .logical, none⟩]
      timers := ["clock"]
      modes := ["open"] }]
  tree := ⟨[{ ReactorInstance.ofName "Line" ⟨0⟩ none with children := [⟨1⟩, ⟨2⟩] },
    north, south], [⟨"open", ⟨1⟩⟩]⟩
  federates := [.ofInstances ⟨0⟩ "north" [⟨1⟩], .ofInstances ⟨1⟩ "south" [⟨2⟩]]
  connections := []

/-- A property that is not known, and files for a compiler that is not installed. -/
def properties : List (String × Element) :=
  [("bogus", .id "value"), ("protobufs", .id "parcel.proto")]

def options : CompileOptions := ⟨none, none, fun _ => none⟩

/-- Both stations are found again: the northern one with three triggers, a token and a
warning, the southern one with the place of its fault. -/
theorem program_restored :
    ∃ result,
      (program.compile .empty properties options).run.result = .ok result ∧
        result.federates.map (fun output => output.artifacts?.isSome) = [true, false] ∧
        result.generated.map (fun generated => (generated.triggers.map (·.mode),
            generated.tokens.registered, generated.diagnostics.warnings.length)) =
          [([.unbound, .unbound, .mode "Line_north_self" 0],
            ["&Line_north_self->_lf__arrival.token"], 1)] ∧
        (result.federates.filterMap FederateOutput.reason?).map (·.span) =
          [some (.point 7 3)] ∧
        JsonFormat.read (JsonFormat.write result) = some result := by
  obtain ⟨result, compiled, statuses, generated, reasons, errors, warnings⟩ : ∃ result,
      (program.compile .empty properties options).run.result = .ok result ∧
        result.federates.map (fun output => output.artifacts?.isSome) = [true, false] ∧
        result.generated.map (fun generated => (generated.triggers.map (·.mode),
            generated.tokens.registered, generated.diagnostics.warnings.length)) =
          [([.unbound, .unbound, .mode "Line_north_self" 0],
            ["&Line_north_self->_lf__arrival.token"], 1)] ∧
        (result.federates.filterMap FederateOutput.reason?).map (·.span) =
          [some (.point 7 3)] ∧
        result.diagnostics.totalErrors < UInt64.size ∧
        result.diagnostics.totalWarnings < UInt64.size := by
    refine ⟨_, rfl, rfl, ?_, rfl, ?_, ?_⟩
    · decide +kernel
    · decide +kernel
    · decide +kernel
  have countsModes : program.tree.CountsModes := by
    unfold ReactorTree.CountsModes
    decide
  refine ⟨result, compiled, statuses, generated, reasons, ?_⟩
  exact Program.compile_restored countsModes compiled ⟨errors, warnings⟩

end TramLine
end ReactorGen
