import Mathlib.Data.List.Nodup
import Mathlib.Data.List.Pairwise
import ReactorGen.Proofs.InitializationNames
import ReactorGen.Proofs.InitializationTexts

/-!
# Names that are kept apart

The native code of a federate has one self variable for each instance and one table
of tokens.  It keeps the instances and their tokens apart exactly when no two
instances collide and no two actions with tokens have the same reference.  Members of
a bank always collide, and so do instances whose names are joined alike.
-/

namespace ReactorGen

open TokenTable

/-! ## What is generated -/

namespace NativeSource

/-- The text of the native code ends with the table of tokens and the
initialization. -/
theorem exists_text_eq (source : NativeSource) :
    ∃ before, source.text = before ++ source.initialization.spelled := by
  rw [← Initialization.triggerSource_eq]
  let front : List String :=
    [Text.joinLines source.preamble] ++
    sectionOfLines source.serializerPreamble ++
    sectionOfLines (source.classes.flatMap (·.typeDefinitions)) ++
    source.classes.map (·.selfStruct.declaration) ++
    source.classes.flatMap (fun code => code.reactions.map ReactionCode.text) ++
    source.classes.map (·.selfStruct.constructorDefinition)
  have sections_eq : source.sections = front ++ [source.initialization.tokens.declaration,
      initializationFunction source.initialization.steps] := rfl
  have notEmpty : front ≠ [] := List.cons_ne_nil _ _
  refine ⟨"\n\n".intercalate front ++ "\n\n", ?_⟩
  rw [text, sections_eq,
    String.intercalate_append_of_ne_nil notEmpty (List.cons_ne_nil _ _),
    String.intercalate_cons_cons, String.intercalate_singleton,
    Initialization.triggerSource]
  simp only [String.append_assoc]

end NativeSource

/-- The native code of a federate has an initialization. -/
structure FederateArtifacts.Has
    (generated : FederateArtifacts)
    (initialization : Initialization) : Prop where
  tokens : generated.tokens = initialization.tokens
  source : ∃ artifact ∈ generated.artifacts, ∃ before,
    artifact.contents = before ++ initialization.spelled

namespace Program

variable
  {program : Program}
  {environment : Environment}
  {federate : Federate}

theorem initialization_of_federateFiles
    {topLevelName : String}
    {files : FederateFiles}
    (files_eq :
      (program.federateFiles environment federate topLevelName).run.result = .ok files) :
    program.initialization federate (decide (environment.settings.target = .python)) =
        .ok files.initialization ∧
      ∃ artifact ∈ files.artifacts, ∃ before,
        artifact.contents = before ++ files.initialization.spelled := by
  rw [federateFiles, Report.result_run_bind, Result.bind_eq_ok] at files_eq
  obtain ⟨classes, _, files_eq⟩ := files_eq
  by_cases interpreted : environment.settings.target = .python
  · rw [if_pos interpreted] at files_eq
    simp only [interpreterFiles, Report.result_run_bind, Report.result_run_pure,
      Generation.result_ofExcept, Result.bind_eq_ok] at files_eq
    obtain ⟨_, _, _, _, _, _, initialization, initialization_eq, _, _, files_eq⟩ := files_eq
    rw [decide_eq_true interpreted, ← Except.ok.inj files_eq]
    refine ⟨initialization_eq, _, List.mem_cons_self .., ?_⟩
    exact NativeSource.exists_text_eq _
  · rw [if_neg interpreted] at files_eq
    simp only [triggerFiles, Report.result_run_bind, Report.result_run_pure,
      Generation.result_ofExcept, Result.bind_eq_ok] at files_eq
    obtain ⟨initialization, initialization_eq, files_eq⟩ := files_eq
    rw [decide_eq_false interpreted, ← Except.ok.inj files_eq]
    refine ⟨initialization_eq, _, List.mem_cons_self .., "", ?_⟩
    rw [String.empty_append, ← Initialization.triggerSource_eq]
    rfl

@[simp] theorem target_federateSettings (program : Program) (settings : Settings) :
    (program.federateSettings settings).target = settings.target := by
  rw [federateSettings]
  split <;> rfl

/-- What is generated for a federate are its files, with the list of triggers. -/
theorem exists_files_of_generateFederate
    {baseName : String}
    {generated : FederateArtifacts}
    (generated_eq :
      (program.generateFederate environment federate baseName).run.result =
        .ok generated) :
    ∃ files,
      (program.federateFiles
          { environment with settings := program.federateSettings environment.settings }
          federate (program.topLevelName baseName federate)).run.result = .ok files ∧
        generated.artifacts =
          files.artifacts ++ [triggerList files.initialization.triggers] ∧
        generated.tokens = files.initialization.tokens ∧
        generated.triggers = files.initialization.triggers := by
  simp only [generateFederate, Report.result_run_bind, Report.result_run_pure,
    Generation.result_log, Generation.result_withWarnings, Result.bind_eq_ok]
    at generated_eq
  obtain ⟨_, _, ⟨files, warnings⟩, pair_eq, artifacts_eq⟩ := generated_eq
  obtain ⟨_, files_eq, equal⟩ := Result.map_eq_ok.mp pair_eq
  simp only [Prod.mk.injEq] at equal
  obtain ⟨rfl, _⟩ := equal
  rw [← Except.ok.inj artifacts_eq]
  exact ⟨_, files_eq, rfl, rfl, rfl⟩

theorem has_of_generateFederate
    {baseName : String}
    {generated : FederateArtifacts}
    (generated_eq :
      (program.generateFederate environment federate baseName).run.result =
        .ok generated) :
    ∃ initialization,
      program.initialization federate (decide (environment.settings.target = .python)) =
          .ok initialization ∧
        generated.Has initialization := by
  obtain ⟨files, files_eq, artifacts_eq, tokens_eq, _⟩ :=
    exists_files_of_generateFederate generated_eq
  obtain ⟨initialization_eq, artifact, member, ends⟩ :=
    initialization_of_federateFiles files_eq
  simp only [target_federateSettings] at initialization_eq
  refine ⟨_, initialization_eq, tokens_eq, artifact, ?_, ends⟩
  rw [artifacts_eq]
  exact List.mem_append_left _ member

end Program

/-! ## What is named -/

/-- What the native code of a federate has to name. -/
structure FederateNames where
  instances : List InstanceId
  /-- The self variables of the instances. -/
  owners : List String
  /-- The actions with tokens. -/
  sites : List TokenSite

/-- What the native code of a federate has to name, in the order of the tree. -/
def Program.federateNames (program : Program) (federate : Federate) :
    Except DanglingReference FederateNames := do
  let instances ← program.federateInstances federate
  let owners ← instances.mapM (Naming.selfVariable program.tree)
  let sites ← instances.mapM (program.tokenSites federate)
  return ⟨instances, owners, sites.flatten⟩

/-- Different instances have different self variables, and every action with a token
has its own statements and its own row. -/
structure Initialization.KeepsApart
    (initialization : Initialization)
    (names : FederateNames) : Prop where
  owners : names.owners.Nodup
  declared : initialization.declared.Nodup
  initializers : initialization.initializers = names.sites.map TokenSite.initializer
  entries :
    initialization.tokens.entries =
      names.sites.map fun site => .ofTrigger site.trigger
  rows : (initialization.tokens.entries.map TokenEntry.tokenRef).Nodup
  size : initialization.tokens.size = names.sites.length

/-- No two instances collide, and no two actions with tokens have the same
reference. -/
structure FederateNames.Apart (names : FederateNames) (tree : ReactorTree) : Prop where
  instances : names.instances.Pairwise fun first second => ¬tree.Collide first second
  sites : (names.sites.map TokenSite.trigger).Nodup

/-- Self variables differ exactly where instances do not collide. -/
theorem ReactorTree.nodup_iff_pairwise
    {tree : ReactorTree}
    {instances : List InstanceId}
    {owners : List String}
    (owners_eq : instances.mapM (Naming.selfVariable tree) = .ok owners) :
    owners.Nodup ↔
      instances.Pairwise fun first second => ¬tree.Collide first second := by
  rw [Result.mapM_eq_ok] at owners_eq
  induction owners_eq with
  | nil => simp
  | @cons id owner ids owners owner_eq rest_eq inductionHypothesis =>
    rw [← Result.mapM_eq_ok] at rest_eq
    have first : owner ∉ owners ↔ ∀ other ∈ ids, ¬tree.Collide id other := by
      constructor
      · intro fresh other member alike
        obtain ⟨otherOwner, otherMember, other_eq⟩ :=
          Result.exists_mem_of_mapM rest_eq member
        rw [(collide_iff owner_eq other_eq).mp alike] at fresh
        exact fresh otherMember
      · intro apart member
        obtain ⟨other, otherMember, other_eq⟩ := Result.exists_item_of_mapM rest_eq member
        exact apart other otherMember ((collide_iff owner_eq other_eq).mpr rfl)
    rw [List.nodup_cons, List.pairwise_cons, inductionHypothesis, first]

namespace Program

variable
  {program : Program}
  {environment : Environment}
  {federate : Federate}

/-- An initialization keeps instances and tokens apart exactly when their names are
apart; whatever the names are, every reference is registered once. -/
theorem keepsApart_iff_of_initialization
    {withSelfStruct : Bool}
    {initialization : Initialization}
    (initialization_eq :
      program.initialization federate withSelfStruct = .ok initialization) :
    ∃ names,
      program.federateNames federate = .ok names ∧
        initialization.declared = (if withSelfStruct then names.owners else []) ∧
        Registers names.sites initialization.initializers initialization.tokens ∧
        (initialization.KeepsApart names ↔ names.Apart program.tree) := by
  rw [Program.initialization, Result.bind_eq_ok] at initialization_eq
  obtain ⟨instances, instances_eq, initialized⟩ := initialization_eq
  rw [Result.liftM_eq_ok] at instances_eq
  obtain ⟨owners, added, owners_eq, added_eq, declared, registers⟩ :=
    initialization_adds initialized registers_empty
  rw [Initialization.declared_empty, List.nil_append] at declared
  rw [List.nil_append] at registers
  refine ⟨⟨instances, owners, added.flatten⟩, ?_, declared, registers, ?_⟩
  · rw [federateNames, instances_eq, Result.ok_bind, owners_eq, Result.ok_bind, added_eq]
    rfl
  constructor
  · intro keeps
    constructor
    case instances => exact (ReactorTree.nodup_iff_pairwise owners_eq).mp keeps.owners
    case sites => exact registers.size_eq_length_iff.mp keeps.size
  · intro apart
    have distinct := (ReactorTree.nodup_iff_pairwise owners_eq).mpr apart.instances
    have made := registers.made_eq apart.sites
    have entries : initialization.tokens.entries =
        added.flatten.map fun site => TokenEntry.ofTrigger site.trigger := by
      have entries := registers.entries
      rw [made, List.map_map] at entries
      exact entries
    constructor
    case owners => exact distinct
    case declared =>
      rw [declared]
      split
      · exact distinct
      · exact List.nodup_nil
    case initializers => exact made
    case entries => exact entries
    case rows =>
      rw [entries]
      exact TokenEntry.nodup_rows apart.sites
    case size => exact registers.size_eq_length_iff.mpr apart.sites

/-- What was generated keeps instances and tokens apart exactly when their names are
apart; whatever the names are, every reference is registered once. -/
theorem generateFederate_keepsApart_iff
    {baseName : String}
    {generated : FederateArtifacts}
    (generated_eq :
      (program.generateFederate environment federate baseName).run.result =
        .ok generated) :
    ∃ names initialization,
      program.federateNames federate = .ok names ∧
        generated.Has initialization ∧
        initialization.declared =
          (if environment.settings.target = .python then names.owners else []) ∧
        Registers names.sites initialization.initializers initialization.tokens ∧
        (initialization.KeepsApart names ↔ names.Apart program.tree) := by
  obtain ⟨initialization, initialization_eq, has⟩ := has_of_generateFederate generated_eq
  obtain ⟨names, names_eq, declared, registers, keepsApart⟩ :=
    keepsApart_iff_of_initialization initialization_eq
  simp only [decide_eq_true_eq] at declared
  exact ⟨names, initialization, names_eq, has, declared, registers, keepsApart⟩

end Program

/-! ## Crowded names -/

/-- Siblings differ in their names or in their positions inside a bank, and the
actions of an instance in their names. -/
structure ReactorTree.Distinguishes (tree : ReactorTree) : Prop where
  siblings : ∀ node ∈ tree.instances,
    (node.children.map fun child =>
      (tree.instances[child.index]?).map fun sibling =>
        (sibling.name, sibling.bankIndex)).Nodup
  actions : ∀ node ∈ tree.instances, (node.actions.map (·.name)).Nodup

namespace Workshop

/-- An action whose payload travels in a token. -/
def delivery : ActionInstance :=
  (ActionInstance.ofName "delivery" .zero).withTokenPayload "int[]"

/-- A worker with the action. -/
def worker
    (name : String)
    (bankIndex : UInt64)
    (parent : Nat)
    (children : List InstanceId) : ReactorInstance :=
  { ReactorInstance.ofName name ⟨1⟩ (some ⟨parent⟩) with
    children := children
    actions := [delivery]
    bankIndex := bankIndex }

/-- A workshop with workers. -/
def program (children : List InstanceId) (workers : List ReactorInstance) : Program where
  name := "Workshop"
  target := "Python"
  properties := []
  preambles := []
  classes := [{ ReactorClass.ofName "Workshop" with isMain := true },
    { ReactorClass.ofName "Worker" with
      actions := [⟨"delivery", .logical, some "int[]"⟩] }]
  tree := ⟨{ ReactorInstance.ofName "Workshop" ⟨0⟩ none with children := children } ::
    workers, []⟩
  federates := [.singleton]
  connections := []

def environment : Environment := ⟨.ofTarget .python, fun _ => none, none⟩

/-- Two workers whose names are apart. -/
def quiet : Program :=
  program [⟨1⟩, ⟨2⟩] [worker "first" 0 0 [], worker "second" 0 0 []]

/-- Both workers of the quiet workshop are kept apart. -/
theorem quiet_keepsApart :
    ∃ generated names initialization,
      (quiet.generateFederate environment .singleton "Workshop").run.result =
          .ok generated ∧
        generated.Has initialization ∧
        quiet.federateNames .singleton = .ok names ∧
        names.sites.length = 2 ∧
        initialization.KeepsApart names := by
  obtain ⟨generated, generated_eq⟩ : ∃ generated,
      (quiet.generateFederate environment .singleton "Workshop").run.result =
        .ok generated := ⟨_, rfl⟩
  obtain ⟨names, initialization, names_eq, has, _, _, keepsApart⟩ :=
    Program.generateFederate_keepsApart_iff generated_eq
  obtain ⟨known, known_eq, owners_eq, apart, sites, count⟩ : ∃ known,
      quiet.federateNames .singleton = .ok known ∧
        known.instances.mapM (Naming.selfVariable quiet.tree) = .ok known.owners ∧
        known.owners.Nodup ∧ (known.sites.map TokenSite.trigger).Nodup ∧
        known.sites.length = 2 := by
    refine ⟨_, rfl, rfl, ?_, ?_, rfl⟩
    · decide +kernel
    · decide +kernel
  obtain rfl : known = names := Except.ok.inj (known_eq.symm.trans names_eq)
  refine ⟨generated, known, initialization, generated_eq, has, known_eq, count, ?_⟩
  exact keepsApart.mpr ⟨(ReactorTree.nodup_iff_pairwise owners_eq).mp apart, sites⟩

/-- A bank of two workers, and two workers whose names are joined alike. -/
def crowded : Program :=
  program [⟨1⟩, ⟨2⟩, ⟨3⟩, ⟨5⟩] [worker "m" 0 0 [], worker "m" 1 0 [],
    worker "a" 0 0 [⟨4⟩], worker "b" 0 3 [], worker "a_b" 0 0 []]

/-- The crowded workshop loses two of its five tokens, although its tree
distinguishes all instances and all actions. -/
theorem crowded_losesTokens :
    crowded.tree.Distinguishes ∧
      ∃ generated names,
        (crowded.generateFederate environment .singleton "Workshop").run.result =
            .ok generated ∧
          crowded.federateNames .singleton = .ok names ∧
          ¬names.owners.Nodup ∧
          names.sites.length = 5 ∧
          generated.tokens.size = 3 := by
  refine ⟨⟨by decide, by decide⟩, _, _, rfl, rfl, ?_, rfl, ?_⟩
  · decide +kernel
  · decide +kernel

end Workshop
end ReactorGen
