import ReactorGen.Proofs.NamesApart
import ReactorGen.Proofs.ResultReading
import ReactorGen.Proofs.TriggerSites

/-!
# The triggers of a federate

The triggers of a federate are those of its instances in the order of the tree: of each
instance the actions that the federate generates and then the timers, as they are
declared.  What a trigger becomes is described here without reference to how it is
computed, and the two places where triggers appear, the list and the initialization,
are shown to hold the same ones in the same order.  Only a mode that its owner does not
list stops the triggers of an instance, and the first one that does is reported.
-/

namespace ReactorGen

/-! ## Modes -/

/-- What a trigger is bound to in a tree. -/
inductive ReactorTree.Binds (tree : ReactorTree) : Option ModeId -> ModeBinding -> Prop
  | unbound : Binds tree none .unbound
  /-- The mode stands at the index among the modes of its owner, and not before it. -/
  | mode
      {id : ModeId}
      {mode : ModeInstance}
      {owner : String}
      {ownerNode : ReactorInstance}
      {index : Nat}
      (mode_eq : tree.mode id = .ok mode)
      (owner_eq : Naming.selfVariable tree mode.owner = .ok owner)
      (ownerNode_eq : tree.node mode.owner = .ok ownerNode)
      (listed : ownerNode.modes[index]? = some id)
      (first : ∀ earlier < index, ownerNode.modes[earlier]? ≠ some id) :
      Binds tree (some id) (.mode owner index)

/-- A mode that does not exist or that its owner does not list. -/
inductive ReactorTree.Unlisted (tree : ReactorTree) (id : ModeId) : Prop
  | unknown (outside : tree.modes.length ≤ id.index)
  | foreign
      {mode : ModeInstance}
      (mode_eq : tree.mode id = .ok mode)
      (notListed : ∀ ownerNode, tree.node mode.owner = .ok ownerNode ->
        id ∉ ownerNode.modes)

namespace ReactorTree

variable {tree : ReactorTree}

/-- The position of a mode is its first one among the modes of its owner. -/
theorem modeIndex?_eq_some_iff
    {id : ModeId}
    {index : Nat} :
    tree.modeIndex? id = some index ↔
      ∃ mode ownerNode, tree.mode id = .ok mode ∧ tree.node mode.owner = .ok ownerNode ∧
        ownerNode.modes[index]? = some id ∧
          ∀ earlier < index, ownerNode.modes[earlier]? ≠ some id := by
  have position_iff : ∀ modes : List ModeId, modes.idxOf? id = some index ↔
      modes[index]? = some id ∧ ∀ earlier < index, modes[earlier]? ≠ some id := by
    intro modes
    rw [List.idxOf?_eq_some_iff]
    constructor
    · rintro ⟨inside, here, first⟩
      refine ⟨List.getElem?_eq_some_iff.mpr ⟨inside, here⟩, ?_⟩
      intro earlier before again
      exact first earlier before (List.getElem?_eq_some_iff.mp again).2
    · rintro ⟨here, first⟩
      obtain ⟨inside, here⟩ := List.getElem?_eq_some_iff.mp here
      refine ⟨inside, here, ?_⟩
      intro earlier before again
      exact first earlier before (List.getElem?_eq_some_iff.mpr ⟨by omega, again⟩)
  simp only [modeIndex?, bind, Option.bind_eq_some_iff, position_iff, mode, node,
    Result.orDangling_eq_ok, exists_and_left]

theorem unlisted_iff {id : ModeId} : tree.Unlisted id ↔ tree.modeIndex? id = none := by
  constructor
  · intro unlisted
    rw [Option.eq_none_iff_forall_ne_some]
    intro index index_eq
    obtain ⟨mode, ownerNode, mode_eq, owner_eq, listed, _⟩ := modeIndex?_eq_some_iff.mp index_eq
    cases unlisted with
    | unknown outside =>
      have absent : tree.modes[id.index]? = none := List.getElem?_eq_none outside
      rw [Result.orDangling_eq_ok.mp mode_eq] at absent
      exact absurd absent (Option.some_ne_none mode)
    | foreign other_eq notListed =>
      obtain rfl := Except.ok.inj (mode_eq.symm.trans other_eq)
      exact notListed ownerNode owner_eq (List.mem_of_getElem? listed)
  · intro absent
    cases found : tree.modes[id.index]? with
    | none => exact .unknown (List.getElem?_eq_none_iff.mp found)
    | some mode =>
      refine .foreign (Result.orDangling_eq_ok.mpr found) ?_
      intro ownerNode owner_eq listed
      have owner_at := node_eq_ok.mp owner_eq
      simp only [modeIndex?, found, bind, Option.bind_some, owner_at,
        List.idxOf?_eq_none_iff] at absent
      exact absent listed

/-- Whether a mode is asked for that is not listed. -/
def Misses (tree : ReactorTree) (mode? : Option ModeId) : Prop :=
  ∃ mode, mode? = some mode ∧ tree.Unlisted mode

end ReactorTree

theorem TriggerSite.isUnresolved_iff
    {tree : ReactorTree}
    {site : TriggerSite} :
    site.isUnresolved tree = true ↔ tree.Misses site.mode := by
  rw [isUnresolved, Option.any_eq_true, ReactorTree.Misses]
  simp only [Option.isNone_iff_eq_none, ReactorTree.unlisted_iff]

/-- A trigger is bound to what its mode stands for, or to nothing without a mode. -/
theorem Program.binds_of_bindMode
    {program : Program}
    {mode? : Option ModeId}
    {trigger : String}
    {span : Option Span}
    {binding : ModeBinding}
    (bound : program.bindMode mode? trigger span = .ok binding) :
    program.tree.Binds mode? binding := by
  cases mode? with
  | none =>
    rw [← Except.ok.inj bound]
    exact .unbound
  | some id =>
    cases index_eq : program.tree.modeIndex? id with
    | none => simp [bindMode, index_eq] at bound
    | some index =>
      simp only [bindMode, index_eq, Result.bind_eq_ok, Result.liftM_eq_ok,
        Result.pure_eq_ok] at bound
      obtain ⟨mode, mode_eq, owner, owner_eq, rfl⟩ := bound
      obtain ⟨same, ownerNode, same_eq, ownerNode_eq, listed, first⟩ :=
        ReactorTree.modeIndex?_eq_some_iff.mp index_eq
      obtain rfl := Except.ok.inj (mode_eq.symm.trans same_eq)
      exact .mode mode_eq owner_eq ownerNode_eq listed first

/-! ## Triggers -/

/-- What an action becomes in the self struct `owner` of the instance at `path`. -/
def ActionInstance.BecomesTrigger
    (action : ActionInstance)
    (tree : ReactorTree)
    (owner path : String)
    (metadata : TriggerMetadata) : Prop :=
  ∃ binding, tree.Binds action.mode binding ∧
    metadata = {
      kind := .action
      name := action.name
      fullName := path ++ "." ++ action.name
      trigger := Naming.trigger owner action.name
      offset := action.minDelay
      period := match action.minSpacing with
        | none => .undefined
        | some spacing => .spacing spacing
      mode := binding
      isToken := action.isToken
    }

/-- What a timer becomes in the self struct `owner` of the instance at `path`. -/
def TimerInstance.BecomesTrigger
    (timer : TimerInstance)
    (tree : ReactorTree)
    (owner path : String)
    (metadata : TriggerMetadata) : Prop :=
  ∃ binding, tree.Binds timer.mode binding ∧
    metadata = {
      kind := .timer
      name := timer.name
      fullName := path ++ "." ++ timer.name
      trigger := Naming.trigger owner timer.name
      offset := timer.offset
      period := .spacing (timer.period.getD .zero)
      mode := binding
      isToken := false
    }

namespace Federate

/-- Whether an instance belongs to the federate. -/
def holdsInstance (federate : Federate) (tree : ReactorTree) (id : InstanceId) : Bool :=
  Result.holds (federate.containsInstance tree id)

/-- The actions of an instance that the federate generates. -/
def actionsOf
    (federate : Federate)
    (tree : ReactorTree)
    (id : InstanceId)
    (node : ReactorInstance) : List ActionInstance :=
  node.actions.filter fun action =>
    !action.isShutdown && Result.holds (federate.containsAction tree id action.name)

/-- The timers of an instance that the federate generates. -/
def timersOf
    (federate : Federate)
    (tree : ReactorTree)
    (id : InstanceId)
    (node : ReactorInstance) : List TimerInstance :=
  if federate.holdsInstance tree id then node.timers else []

end Federate

namespace Program

variable
  {program : Program}
  {federate : Federate}
  {id : InstanceId}
  {node : ReactorInstance}

theorem becomesTrigger_of_lowerAction
    {owner path : String}
    {action : ActionInstance}
    {metadata : TriggerMetadata}
    (lowered : program.lowerAction owner path action = .ok metadata) :
    action.BecomesTrigger program.tree owner path metadata := by
  simp only [lowerAction, Result.bind_eq_ok, Result.pure_eq_ok] at lowered
  obtain ⟨binding, bound, rfl⟩ := lowered
  refine ⟨binding, binds_of_bindMode bound, ?_⟩
  cases action.minSpacing <;> rfl

theorem becomesTrigger_of_lowerTimer
    {owner path : String}
    {timer : TimerInstance}
    {metadata : TriggerMetadata}
    (lowered : program.lowerTimer owner path timer = .ok metadata) :
    timer.BecomesTrigger program.tree owner path metadata := by
  simp only [lowerTimer, Result.bind_eq_ok, Result.pure_eq_ok] at lowered
  obtain ⟨binding, bound, rfl⟩ := lowered
  exact ⟨binding, binds_of_bindMode bound, rfl⟩

section Instance

variable
  (ordered : program.tree.Ordered)
  (node_eq : program.tree.node id = .ok node)

include ordered node_eq

theorem federateActions_eq_actionsOf (federate : Federate) :
    program.federateActions federate id = .ok (federate.actionsOf program.tree id node) := by
  rw [federateActions, node_eq, Result.ok_bind, Result.filterM_eq_ok]
  refine ⟨fun action _ => federate.exists_containsAction ordered node_eq action.name, ?_⟩
  rw [List.filter_filter]
  simp only [Federate.actionsOf, Bool.and_comm]

theorem federateTimers_eq_timersOf (federate : Federate) :
    program.federateTimers federate id = .ok (federate.timersOf program.tree id node) := by
  obtain ⟨answer, answer_eq⟩ := federate.exists_containsInstance ordered node_eq
  rw [federateTimers_eq node_eq answer_eq, Federate.timersOf, Federate.holdsInstance,
    answer_eq, Result.holds_ok]

end Instance

end Program

/-! ## Faults -/

/-- A computation that fails if one of the items is bad, and then with the fault of the
first of them. -/
structure FailsAtFirst
    (bad : α -> Prop)
    (fault : α -> Fault)
    (items : List α)
    (result : Except Failure β) : Prop where
  fails_iff : (∃ failure, result = .error failure) ↔ ∃ item ∈ items, bad item
  reports : ∀ {before after : List α} {item : α}, items = before ++ item :: after ->
    (∀ earlier ∈ before, ¬ bad earlier) -> bad item ->
      result = .error (.fault (fault item))

/-- What fails like the first unresolved site fails like the first item whose site is
unresolved. -/
theorem BindsModes.failsAtFirst
    {tree : ReactorTree}
    {siteOf : α -> TriggerSite}
    {items : List α}
    {result : Except Failure β}
    (binds : BindsModes tree (items.map siteOf) result) :
    FailsAtFirst (fun item => tree.Misses (siteOf item).mode)
      (fun item => .unresolvedMode (siteOf item).name (siteOf item).span) items result := by
  constructor
  case fails_iff =>
    cases found : (items.map siteOf).find? (·.isUnresolved tree) with
    | none =>
      obtain ⟨value, rfl⟩ := binds.bound found
      refine iff_of_false (fun ⟨_, failed⟩ => absurd failed nofun) ?_
      rintro ⟨item, member, misses⟩
      exact List.find?_eq_none.mp found _ (List.mem_map_of_mem member)
        (TriggerSite.isUnresolved_iff.mpr misses)
    | some site =>
      refine iff_of_true ⟨_, binds.unresolved site found⟩ ?_
      obtain ⟨item, member, rfl⟩ := List.mem_map.mp (List.mem_of_find?_eq_some found)
      have unresolved := List.find?_some found
      exact ⟨item, member, TriggerSite.isUnresolved_iff.mp unresolved⟩
  case reports =>
    intro before after item items_eq good misses
    have resolved : (before.map siteOf).find? (·.isUnresolved tree) = none := by
      rw [List.find?_eq_none]
      intro site member
      obtain ⟨earlier, isEarlier, rfl⟩ := List.mem_map.mp member
      rw [TriggerSite.isUnresolved_iff]
      exact good earlier isEarlier
    apply binds.unresolved
    rw [items_eq, List.map_append, List.find?_append, resolved, Option.none_or, List.map_cons]
    exact List.find?_cons_of_pos (TriggerSite.isUnresolved_iff.mpr misses)

/-- The triggers of an instance are lowered unless one of them misses its mode. -/
theorem Program.exists_failsAtFirst
    {program : Program}
    (ordered : program.tree.Ordered)
    (federate : Federate)
    {id : InstanceId}
    {node : ReactorInstance}
    (node_eq : program.tree.node id = .ok node) :
    ∃ path, program.tree.fullName id = .ok path ∧
      FailsAtFirst (fun action => program.tree.Misses action.mode)
        (fun action => .unresolvedMode (path ++ "." ++ action.name) action.span)
        (federate.actionsOf program.tree id node) (program.lowerActions federate id) ∧
      FailsAtFirst (fun timer => program.tree.Misses timer.mode)
        (fun timer => .unresolvedMode (path ++ "." ++ timer.name) none)
        (federate.timersOf program.tree id node) (program.lowerTimers federate id) := by
  obtain ⟨path, owner, path_eq, owner_eq⟩ := ordered.exists_names node_eq
  refine ⟨path, path_eq, ?_, ?_⟩
  · rw [lowerActions, owner_eq, path_eq, federateActions_eq_actionsOf ordered node_eq]
    exact (BindsModes.mapM (bindsModes_lowerAction ordered owner path) _).failsAtFirst
  · rw [lowerTimers, owner_eq, path_eq, federateTimers_eq_timersOf ordered node_eq]
    exact (BindsModes.mapM (bindsModes_lowerTimer ordered owner path) _).failsAtFirst

/-! ## Two outputs -/

/-- The trigger whose offset, period and mode a step sets. -/
def InitStep.trigger? : InitStep -> Option TriggerMetadata
  | setTrigger metadata => some metadata
  | _ => none

/-- The triggers that an initialization sets, in the order of its steps. -/
def Initialization.assigned (initialization : Initialization) : List TriggerMetadata :=
  initialization.steps.filterMap InitStep.trigger?

namespace Program

variable
  {program : Program}
  {federate : Federate}
  {withSelfStruct : Bool}

/-- An instance adds its actions and then its timers to both outputs. -/
theorem initializeInstance_sets
    {done next : Initialization}
    {id : InstanceId}
    (initialized :
      program.initializeInstance federate withSelfStruct done id = .ok next) :
    ∃ actions timers,
      program.lowerActions federate id = .ok actions ∧
        program.lowerTimers federate id = .ok timers ∧
        next.triggers = done.triggers ++ (actions ++ timers) ∧
        next.assigned = done.assigned ++ (actions ++ timers) := by
  simp only [initializeInstance, Result.bind_eq_ok, Result.liftM_eq_ok, Result.pure_eq_ok]
    at initialized
  obtain ⟨node, _, reactorClass, _, owner, _, path, _, list, _, actions, actions_eq, timers,
    timers_eq, ⟨made, tokens⟩, _, links, _, rfl⟩ := initialized
  refine ⟨actions, timers, actions_eq, timers_eq, List.append_assoc .., ?_⟩
  have announced : [InitStep.announce path reactorClass.name].filterMap InitStep.trigger? = [] :=
    rfl
  have structs : (if withSelfStruct = true then
      selfStructSteps node reactorClass owner list else []).filterMap InitStep.trigger? = [] := by
    split
    · exact filterMap_selfStructSteps _ (fun _ _ _ => rfl) node reactorClass owner list
    · rfl
  have set : ((actions ++ timers).map InitStep.setTrigger).filterMap InitStep.trigger? =
      actions ++ timers := by
    rw [List.filterMap_map]
    exact List.filterMap_some
  have tokens : (made.map InitStep.makeToken).filterMap InitStep.trigger? = [] :=
    filterMap_map_eq_nil (fun _ => rfl) made
  have linked : (if withSelfStruct = true then
      links.map InitStep.linkMethod else []).filterMap InitStep.trigger? = [] := by
    split
    · exact filterMap_map_eq_nil (fun _ => rfl) links
    · rfl
  simp only [Initialization.assigned, List.filterMap_append, announced, structs, set, tokens,
    linked, List.append_nil]

/-- Instances add their triggers to both outputs one after the other. -/
theorem initialization_sets
    {instances : List InstanceId}
    {done final : Initialization}
    (initialized :
      instances.foldlM (program.initializeInstance federate withSelfStruct) done =
        .ok final) :
    ∃ groups,
      List.Forall₂ (fun id group => ∃ actions timers,
          program.lowerActions federate id = .ok actions ∧
            program.lowerTimers federate id = .ok timers ∧ group = actions ++ timers)
        instances groups ∧
        final.triggers = done.triggers ++ groups.flatten ∧
        final.assigned = done.assigned ++ groups.flatten := by
  induction instances generalizing done with
  | nil =>
    rw [List.foldlM_nil, Result.pure_eq_ok] at initialized
    subst initialized
    exact ⟨[], .nil, (List.append_nil _).symm, (List.append_nil _).symm⟩
  | cons id rest inductionHypothesis =>
    rw [List.foldlM_cons, Result.bind_eq_ok] at initialized
    obtain ⟨next, next_eq, rest_eq⟩ := initialized
    obtain ⟨actions, timers, actions_eq, timers_eq, triggers_eq, assigned_eq⟩ :=
      initializeInstance_sets next_eq
    obtain ⟨groups, lowered, finalTriggers, finalAssigned⟩ := inductionHypothesis rest_eq
    refine ⟨(actions ++ timers) :: groups,
      .cons ⟨actions, timers, actions_eq, timers_eq, rfl⟩ lowered, ?_, ?_⟩
    · rw [finalTriggers, triggers_eq, List.flatten_cons, List.append_assoc]
    · rw [finalAssigned, assigned_eq, List.flatten_cons, List.append_assoc]

end Program

/-! ## Triggers of a federate -/

/-- The triggers of an instance: its actions that the federate generates, then its
timers. -/
def Program.InstanceTriggers
    (program : Program)
    (federate : Federate)
    (id : InstanceId)
    (triggers : List TriggerMetadata) : Prop :=
  ∃ node owner path actions timers,
    program.tree.node id = .ok node ∧
    Naming.selfVariable program.tree id = .ok owner ∧
    program.tree.fullName id = .ok path ∧
    List.Forall₂ (fun action => action.BecomesTrigger program.tree owner path)
      (federate.actionsOf program.tree id node) actions ∧
    List.Forall₂ (fun timer => timer.BecomesTrigger program.tree owner path)
      node.timers timers ∧
    triggers = actions ++ timers

/-- What the initialization writes for a trigger: a comment that names it, and then its
offset, its period and its mode, with something to assign where one of them is missing. -/
def TriggerMetadata.assignments (metadata : TriggerMetadata) : List String :=
  let kind := match metadata.kind with
    | .action => "action"
    | .timer => "timer"
  let period := match metadata.period with
    | .spacing time => time.expression
    | .undefined => "-1"
  let mode := match metadata.mode with
    | .mode owner index => "&" ++ owner ++ "->_lf__modes[" ++ toString index ++ "]"
    | .unbound => "NULL"
  [
    "// Initializing " ++ kind ++ " " ++ metadata.fullName,
    metadata.trigger ++ ".offset = " ++ metadata.offset.expression ++ ";",
    metadata.trigger ++ ".period = " ++ period ++ ";",
    metadata.trigger ++ ".mode = " ++ mode ++ ";"
  ]

theorem TriggerMetadata.initializer_eq (metadata : TriggerMetadata) :
    metadata.initializer = metadata.assignments := by
  obtain ⟨kind, name, fullName, trigger, offset, period, mode, isToken⟩ := metadata
  cases kind <;> cases period <;> cases mode <;> rfl

/-- The triggers of a federate, in both outputs. -/
structure Program.FederateTriggers
    (program : Program)
    (federate : Federate)
    (generated : FederateArtifacts) : Prop where
  /-- The instances of the federate come in the order of the tree. -/
  triggers : ∃ listing groups,
    program.tree.preorder = .ok listing ∧
    List.Forall₂ (program.InstanceTriggers federate)
      (listing.filter (federate.holdsInstance program.tree)) groups ∧
    generated.triggers = groups.flatten
  /-- The initialization of the native code sets exactly these triggers. -/
  initialization : ∃ initialization, generated.Has initialization ∧
    initialization.assigned = generated.triggers ∧
    (initialization.steps.filter (·.trigger?.isSome)).flatMap InitStep.statements =
      generated.triggers.flatMap TriggerMetadata.assignments
  list : triggerList generated.triggers ∈ generated.artifacts

/-- The steps that set a trigger write its name and assign what it has. -/
theorem flatMap_statements_of_trigger? (steps : List InitStep) :
    (steps.filter (·.trigger?.isSome)).flatMap InitStep.statements =
      (steps.filterMap InitStep.trigger?).flatMap TriggerMetadata.assignments := by
  induction steps with
  | nil => rfl
  | cons step rest inductionHypothesis =>
    cases step with
    | setTrigger metadata =>
      rw [List.filter_cons_of_pos rfl, List.flatMap_cons, inductionHypothesis]
      exact congrArg (· ++ _) metadata.initializer_eq
    | _ => exact inductionHypothesis

namespace Program

variable
  {program : Program}
  {federate : Federate}

theorem instanceTriggers_of_lowered
    (ordered : program.tree.Ordered)
    {id : InstanceId}
    {node : ReactorInstance}
    (node_eq : program.tree.node id = .ok node)
    (contained : federate.holdsInstance program.tree id = true)
    {actions timers : List TriggerMetadata}
    (actions_eq : program.lowerActions federate id = .ok actions)
    (timers_eq : program.lowerTimers federate id = .ok timers) :
    program.InstanceTriggers federate id (actions ++ timers) := by
  obtain ⟨path, owner, path_eq, owner_eq⟩ := ordered.exists_names node_eq
  rw [lowerActions, owner_eq, path_eq, federateActions_eq_actionsOf ordered node_eq]
    at actions_eq
  rw [lowerTimers, owner_eq, path_eq, federateTimers_eq_timersOf ordered node_eq,
    Federate.timersOf, if_pos contained] at timers_eq
  refine ⟨node, owner, path, actions, timers, node_eq, owner_eq, path_eq, ?_, ?_, rfl⟩
  · exact (Result.mapM_eq_ok.mp actions_eq).imp fun _ _ => becomesTrigger_of_lowerAction
  · exact (Result.mapM_eq_ok.mp timers_eq).imp fun _ _ => becomesTrigger_of_lowerTimer

/-- Initialization lowers the instances of a federate in the order of the tree. -/
theorem exists_groups_of_initialization
    (ordered : program.tree.Ordered)
    {withSelfStruct : Bool}
    {initialization : Initialization}
    (initialized : program.initialization federate withSelfStruct = .ok initialization) :
    ∃ listing groups,
      program.tree.preorder = .ok listing ∧
      List.Forall₂ (program.InstanceTriggers federate)
        (listing.filter (federate.holdsInstance program.tree)) groups ∧
      initialization.triggers = groups.flatten ∧
      initialization.assigned = groups.flatten := by
  rw [Program.initialization, Result.bind_eq_ok] at initialized
  obtain ⟨instances, instances_eq, initialized⟩ := initialized
  obtain ⟨known, known_eq, nodes⟩ := exists_federateInstances ordered federate
  rw [Result.liftM_eq_ok] at instances_eq
  obtain rfl := Except.ok.inj (known_eq.symm.trans instances_eq)
  rw [federateInstances, Result.bind_eq_ok] at instances_eq
  obtain ⟨listing, listing_eq, selected⟩ := instances_eq
  obtain ⟨_, instances_eq⟩ := Result.filterM_eq_ok.mp selected
  obtain ⟨groups, lowered, triggers_eq, assigned_eq⟩ := initialization_sets initialized
  refine ⟨listing, groups, listing_eq, ?_, triggers_eq, assigned_eq⟩
  change List.Forall₂ _ (listing.filter fun id =>
    Result.holds (federate.containsInstance program.tree id)) groups
  rw [← instances_eq]
  refine ((List.forall₂_and_left _ _).mpr ⟨nodes, lowered⟩).imp ?_
  rintro id group ⟨⟨contained, node, node_eq⟩, actions, timers, actions_eq, timers_eq, rfl⟩
  have holds : federate.holdsInstance program.tree id = true := by
    rw [Federate.holdsInstance, contained, Result.holds_ok]
  exact instanceTriggers_of_lowered ordered node_eq holds actions_eq timers_eq

/-- What is generated for a federate has the triggers of its instances, in the list and
in the initialization.  The triggers of an instance are lowered unless one of them asks
for a mode that is not listed, and then the first such trigger is reported. -/
theorem generateFederate_lowersTriggers
    (grown : program.tree.Grown) :
    (∀ {environment : Environment} {federate : Federate} {baseName : String}
        {generated : FederateArtifacts},
      (program.generateFederate environment federate baseName).run.result =
          .ok generated ->
        program.FederateTriggers federate generated) ∧
    ∀ (federate : Federate) {id : InstanceId} {node : ReactorInstance},
      program.tree.node id = .ok node ->
        ∃ path, program.tree.fullName id = .ok path ∧
          FailsAtFirst (fun action => program.tree.Misses action.mode)
            (fun action => .unresolvedMode (path ++ "." ++ action.name) action.span)
            (federate.actionsOf program.tree id node) (program.lowerActions federate id) ∧
          FailsAtFirst (fun timer => program.tree.Misses timer.mode)
            (fun timer => .unresolvedMode (path ++ "." ++ timer.name) none)
            (federate.timersOf program.tree id node)
            (program.lowerTimers federate id) := by
  refine ⟨?_, fun federate _ _ => exists_failsAtFirst grown.ordered federate⟩
  intro environment federate baseName generated generated_eq
  obtain ⟨files, files_eq, artifacts_eq, tokens_eq, triggers_eq⟩ :=
    exists_files_of_generateFederate generated_eq
  obtain ⟨initialization_eq, artifact, member, ends⟩ :=
    initialization_of_federateFiles files_eq
  obtain ⟨listing, groups, listing_eq, lowered, lowered_eq, assigned_eq⟩ :=
    exists_groups_of_initialization grown.ordered initialization_eq
  have agree : files.initialization.assigned = generated.triggers := by
    rw [assigned_eq, triggers_eq, lowered_eq]
  constructor
  case triggers => exact ⟨listing, groups, listing_eq, lowered, triggers_eq.trans lowered_eq⟩
  case initialization =>
    have has : generated.Has files.initialization := by
      refine ⟨tokens_eq, artifact, ?_, ends⟩
      rw [artifacts_eq]
      exact List.mem_append_left _ member
    refine ⟨files.initialization, has, agree, ?_⟩
    rw [flatMap_statements_of_trigger?, ← agree]
    rfl
  case list =>
    rw [artifacts_eq, triggers_eq]
    exact List.mem_append_right _ (List.mem_singleton_self _)

end Program

namespace TramLine

def northern : Federate := .ofInstances ⟨0⟩ "north" [⟨1⟩]

def southern : Federate := .ofInstances ⟨1⟩ "south" [⟨2⟩]

/-- The action of the southern station. -/
def arrival : ActionInstance :=
  { (ActionInstance.ofName "arrival" .zero).inMode ⟨1⟩ with span := some (.point 7 3) }

/-- The line is built step by step, and its stations are equipped afterwards. -/
theorem grown : program.tree.Grown := by
  have line := ReactorTree.Grown.ofRoot "Line" ⟨0⟩
  have withNorth := line.step
    (@ReactorTree.Step.addChild _ ⟨0⟩ _ _ "north" ⟨1⟩ (by decide) rfl)
  have withSouth := withNorth.step
    (@ReactorTree.Step.addChild _ ⟨0⟩ _ _ "south" ⟨1⟩ (by decide) rfl)
  have opened := withSouth.step (@ReactorTree.Step.addMode _ ⟨1⟩ _ _ "open" rfl)
  have northEquipped := opened.step
    (@ReactorTree.Step.refurnish _ ⟨1⟩ _ north rfl rfl rfl)
  exact northEquipped.step (@ReactorTree.Step.refurnish _ ⟨2⟩ _ south rfl rfl rfl)

/-- The northern station has its two actions and its timer in the mode; the southern one
reports its action, whose mode does not exist. -/
theorem stations_lowered :
    program.tree.Grown ∧
      ∃ generated,
        (program.generateFederate ⟨.ofTarget .python, fun _ => none, none⟩ northern
          "Line").run.result = .ok generated ∧
        program.FederateTriggers northern generated ∧
        generated.triggers.map (fun trigger => (trigger.fullName, trigger.mode)) =
          [("Line.north.arrival", .unbound), ("Line.north.signal", .unbound),
            ("Line.north.clock", .mode "Line_north_self" 0)] ∧
        program.lowerActions southern ⟨2⟩ =
          .error (.fault (.unresolvedMode "Line.south.arrival" (some (.point 7 3)))) := by
  obtain ⟨lowers, reports⟩ := Program.generateFederate_lowersTriggers grown
  obtain ⟨generated, generated_eq, triggers_eq⟩ : ∃ generated,
      (program.generateFederate ⟨.ofTarget .python, fun _ => none, none⟩ northern
        "Line").run.result = .ok generated ∧
      generated.triggers.map (fun trigger => (trigger.fullName, trigger.mode)) =
        [("Line.north.arrival", .unbound), ("Line.north.signal", .unbound),
          ("Line.north.clock", .mode "Line_north_self" 0)] := by
    refine ⟨_, rfl, ?_⟩
    decide +kernel
  refine ⟨grown, generated, generated_eq, lowers generated_eq, triggers_eq, ?_⟩
  have south_eq : program.tree.node ⟨2⟩ = .ok south := rfl
  obtain ⟨path, path_eq, actions, _⟩ := reports southern south_eq
  have path_known : program.tree.fullName ⟨2⟩ = .ok "Line.south" := rfl
  obtain rfl := Except.ok.inj (path_known.symm.trans path_eq)
  have selected : southern.actionsOf program.tree ⟨2⟩ south = [] ++ arrival :: [] := rfl
  have misses : program.tree.Misses arrival.mode := ⟨⟨1⟩, rfl, .unknown (by decide)⟩
  rw [actions.reports selected (List.forall_mem_nil _) misses]
  decide +kernel

end TramLine
end ReactorGen
