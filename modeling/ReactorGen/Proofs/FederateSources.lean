import ReactorGen.Proofs.ClassAgreement

/-!
# The sources of a federate

The native source and the module of a federate are written from the same classes and
the same instances.  The initialization in the native source is a sequence of blocks,
one for each instance, and each block is known from its instance.
-/

namespace ReactorGen

/-! ## Blocks of the initialization -/

/-- What the initialization says about one instance. -/
structure InitializationBlock where
  node : ReactorInstance
  reactorClass : ReactorClass
  /-- The variable that holds the self struct. -/
  owner : String
  path : String
  /-- The list that holds the bank. -/
  list : String
  actions : List TriggerMetadata
  timers : List TriggerMetadata
  made : List TokenInitializer
  links : List MethodLink

/-- The steps of a block. -/
def InitializationBlock.steps (block : InitializationBlock) : List InitStep :=
  [.announce block.path block.reactorClass.name] ++
  selfStructSteps block.node block.reactorClass block.owner block.list ++
  (block.actions ++ block.timers).map .setTrigger ++
  block.made.map .makeToken ++
  block.links.map .linkMethod

/-- The block of an instance. -/
structure Program.HasBlock
    (program : Program)
    (federate : Federate)
    (id : InstanceId)
    (block : InitializationBlock) : Prop where
  node : program.tree.node id = .ok block.node
  reactorClass : program.classAt block.node.reactorClass = .ok block.reactorClass
  owner : Naming.selfVariable program.tree id = .ok block.owner
  path : program.tree.fullName id = .ok block.path
  list : Naming.instanceList program.tree id = .ok block.list
  actions : program.lowerActions federate id = .ok block.actions
  timers : program.lowerTimers federate id = .ok block.timers
  links : program.methodLinks id = .ok block.links
  /-- Tokens are made for actions of the instance only. -/
  made : ∃ actions, program.federateActions federate id = .ok actions ∧
    ∀ initializer ∈ block.made, ∃ action ∈ actions,
      initializer = (TokenSite.mk block.owner action).initializer

/-- What a block consists of. -/
theorem InitializationBlock.mem_steps
    {block : InitializationBlock}
    {step : InitStep} :
    step ∈ block.steps ↔
      step = .announce block.path block.reactorClass.name ∨
        step = .make block.owner block.reactorClass.name ∨
        step = .nameInstance block.owner block.list ∨
        (∃ parameter ∈ block.reactorClass.parameters, ∃ value,
          Text.integer? (block.node.parameterValue parameter) = some value ∧
            step = .setParameter block.owner parameter.name value) ∨
        (∃ metadata ∈ block.actions ++ block.timers, step = .setTrigger metadata) ∨
        (∃ initializer ∈ block.made, step = .makeToken initializer) ∨
        ∃ link ∈ block.links, step = .linkMethod link := by
  have parameter (parameter : ParameterDecl) :
      (Text.integer? (block.node.parameterValue parameter)).map (fun value =>
          InitStep.setParameter block.owner parameter.name value) = some step ↔
        ∃ value, Text.integer? (block.node.parameterValue parameter) = some value ∧
          step = .setParameter block.owner parameter.name value := by
    rw [Option.map_eq_some_iff]
    simp only [eq_comm]
  simp only [steps, selfStructSteps, List.mem_append, List.mem_cons, List.not_mem_nil,
    or_false, List.mem_filterMap, List.mem_map, parameter, or_assoc, eq_comm (b := step)]

/-! ## Links -/

/-- The links of a reaction store its methods. -/
theorem mem_reactionLinks
    {owner : String}
    {bankIndex : UInt64}
    {index : Nat}
    {reaction : Reaction}
    {link : MethodLink} :
    link ∈ reactionLinks owner bankIndex index reaction ↔
      link = ⟨owner, Naming.reactionCallable index, bankIndex,
        Naming.reactionMethod index⟩ ∨
      reaction.deadline.isSome = true ∧
        link = ⟨owner, Naming.deadlineCallable index, bankIndex,
          Naming.deadlineMethod index⟩ := by
  cases late : reaction.deadline with
  | none => simp [reactionLinks, late]
  | some deadline => simp [reactionLinks, late]

namespace Program

variable
  {program : Program}
  {federate : Federate}

/-- An instance of a native class has no links. -/
theorem HasBlock.links_eq_nil
    {id : InstanceId}
    {block : InitializationBlock}
    (hasBlock : program.HasBlock federate id block)
    (native : program.classIsNative block.reactorClass = true) :
    block.links = [] := by
  have links_eq := hasBlock.links
  rw [methodLinks, hasBlock.node, Result.ok_bind, hasBlock.reactorClass, Result.ok_bind,
    if_pos native] at links_eq
  exact (Result.pure_eq_ok.mp links_eq).symm

/-- Any other instance has the links of all reactions of its class. -/
theorem HasBlock.mem_links
    {id : InstanceId}
    {block : InitializationBlock}
    (hasBlock : program.HasBlock federate id block)
    (notNative : program.classIsNative block.reactorClass = false)
    {link : MethodLink} :
    link ∈ block.links ↔
      ∃ (index : Nat) (reaction : Reaction),
        block.reactorClass.reactions[index]? = some reaction ∧
          link ∈ reactionLinks block.owner block.node.bankIndex index reaction := by
  have links_eq := hasBlock.links
  rw [methodLinks, hasBlock.node, Result.ok_bind, hasBlock.reactorClass, Result.ok_bind,
    if_neg (ne_true_of_eq_false notNative), hasBlock.owner, Result.ok_bind,
    Result.pure_eq_ok] at links_eq
  rw [← links_eq, List.mem_flatMap, Prod.exists]
  constructor
  · rintro ⟨reaction, index, member, inLinks⟩
    exact ⟨index, reaction, List.mem_zipIdx_iff_getElem?.mp member, inLinks⟩
  · rintro ⟨index, reaction, found, inLinks⟩
    exact ⟨reaction, index, List.mem_zipIdx_iff_getElem?.mpr found, inLinks⟩

/-! ## One block for each instance -/

theorem mem_foldl_initializeToken
    {owner : String}
    {actions : List ActionInstance}
    {made : List TokenInitializer × TokenTable}
    {initializer : TokenInitializer}
    (member : initializer ∈ (actions.foldl (initializeToken owner) made).1) :
    initializer ∈ made.1 ∨
      ∃ action ∈ actions, initializer = (TokenSite.mk owner action).initializer := by
  induction actions generalizing made with
  | nil => exact .inl member
  | cons first rest inductionHypothesis =>
    rw [List.foldl_cons] at member
    rcases inductionHypothesis member with inStep | ⟨action, inRest, rfl⟩
    · simp only [initializeToken] at inStep
      split at inStep
      · rcases List.mem_append.mp inStep with before | new
        · exact .inl before
        · exact .inr ⟨first, List.mem_cons_self .., List.mem_singleton.mp new⟩
      · exact .inl inStep
    · exact .inr ⟨action, List.mem_cons_of_mem _ inRest, rfl⟩

/-- The initialization of an instance adds its block. -/
theorem exists_block_of_initializeInstance
    {done next : Initialization}
    {id : InstanceId}
    (initialized : program.initializeInstance federate true done id = .ok next) :
    ∃ block, program.HasBlock federate id block ∧ next.steps = done.steps ++ block.steps := by
  simp only [initializeInstance, Result.bind_eq_ok, Result.liftM_eq_ok, Result.pure_eq_ok]
    at initialized
  obtain ⟨node, node_eq, reactorClass, class_eq, owner, owner_eq, path, path_eq, list,
    list_eq, actions, actions_eq, timers, timers_eq, ⟨made, tokens⟩, made_eq, links,
    links_eq, rfl⟩ := initialized
  refine ⟨⟨node, reactorClass, owner, path, list, actions, timers, made, links⟩, ?_, ?_⟩
  · constructor
    case node => exact node_eq
    case reactorClass =>
      rw [classOf, node_eq] at class_eq
      exact class_eq
    case owner => exact owner_eq
    case path => exact path_eq
    case list => exact list_eq
    case actions => exact actions_eq
    case timers => exact timers_eq
    case links => exact links_eq
    case made =>
      simp only [initializeTokens, owner_eq, Result.ok_bind, Result.bind_eq_ok,
        Result.pure_eq_ok] at made_eq
      obtain ⟨contained, contained_eq, folded⟩ := made_eq
      refine ⟨contained, contained_eq, ?_⟩
      intro initializer member
      have inFold : initializer ∈ ((contained.filter (·.isToken)).foldl
          (initializeToken owner) ([], done.tokens)).1 := by
        rw [folded]
        exact member
      rcases mem_foldl_initializeToken inFold with impossible | ⟨action, inActions, made_eq⟩
      · exact absurd impossible List.not_mem_nil
      · exact ⟨action, (List.mem_filter.mp inActions).1, made_eq⟩
  · simp only [InitializationBlock.steps, if_true, List.append_assoc]

/-- The initialization of instances adds their blocks, one after the other. -/
theorem exists_blocks_of_foldlM
    {instances : List InstanceId}
    {done final : Initialization}
    (initialized :
      instances.foldlM (program.initializeInstance federate true) done = .ok final) :
    ∃ blocks,
      List.Forall₂ (program.HasBlock federate) instances blocks ∧
        final.steps = done.steps ++ blocks.flatMap InitializationBlock.steps := by
  induction instances generalizing done with
  | nil =>
    rw [List.foldlM_nil, Result.pure_eq_ok] at initialized
    subst initialized
    exact ⟨[], .nil, (List.append_nil _).symm⟩
  | cons id rest inductionHypothesis =>
    rw [List.foldlM_cons, Result.bind_eq_ok] at initialized
    obtain ⟨next, next_eq, rest_eq⟩ := initialized
    obtain ⟨block, hasBlock, step_eq⟩ := exists_block_of_initializeInstance next_eq
    obtain ⟨blocks, hasBlocks, steps_eq⟩ := inductionHypothesis rest_eq
    refine ⟨block :: blocks, .cons hasBlock hasBlocks, ?_⟩
    rw [steps_eq, step_eq, List.flatMap_cons, List.append_assoc]

/-! ## Sources -/

/-- The native source and the module of a federate, with the instances and the blocks
that both are written from. -/
structure HasSources
    (program : Program)
    (settings : Settings)
    (federate : Federate)
    (source : NativeSource)
    (module : PythonModule)
    (instances : List InstanceId)
    (blocks : List InitializationBlock) : Prop where
  listing : program.federateInstances federate = .ok instances
  /-- Every instance has its block, and both sources have its class. -/
  initialized : List.Forall₂ (fun id block =>
    program.HasBlock federate id block ∧
      (∃ code ∈ source.classes,
        program.classCode settings federate block.node.reactorClass = .ok code) ∧
      ∃ pythonClass ∈ module.classes,
        program.pythonClass block.node.reactorClass = .ok pythonClass)
    instances blocks
  steps : source.initialization.steps = blocks.flatMap InitializationBlock.steps
  objects : program.pythonInstances federate = .ok module.instances

/-- The class of an instance of a federate is among the classes of the federate. -/
theorem mem_federateClasses
    {classes : List ClassId}
    (classes_eq : program.federateClasses federate = .ok classes)
    {instances : List InstanceId}
    (instances_eq : program.federateInstances federate = .ok instances)
    {id : InstanceId}
    (contained : id ∈ instances)
    {node : ReactorInstance}
    (node_eq : program.tree.node id = .ok node) :
    node.reactorClass ∈ classes := by
  rw [federateInstances, Result.bind_eq_ok] at instances_eq
  obtain ⟨listing, listing_eq, selected⟩ := instances_eq
  obtain ⟨tested, rfl⟩ := Result.filterM_eq_ok.mp selected
  obtain ⟨listed, isContained⟩ := List.mem_filter.mp contained
  obtain ⟨answer, answer_eq⟩ := tested id listed
  rw [answer_eq, Result.holds_ok] at isContained
  subst isContained
  rw [federateClasses, listing_eq, Result.liftM_ok, Result.ok_bind, Result.bind_eq_ok]
    at classes_eq
  obtain ⟨used, used_eq, classes_eq⟩ := classes_eq
  obtain ⟨found, isUsed, found_eq⟩ := Result.exists_mem_of_mapM used_eq listed
  rw [usedClass?, answer_eq, Result.liftM_ok, Result.ok_bind, if_pos rfl, node_eq,
    Result.liftM_ok, Result.ok_bind] at found_eq
  split at found_eq
  case isTrue inTable =>
    rw [Result.pure_eq_ok] at found_eq
    subst found_eq
    rw [← Result.pure_eq_ok.mp classes_eq, List.mem_filter, List.contains_iff_mem]
    refine ⟨?_, isUsed⟩
    rw [List.mem_map]
    exact ⟨node.reactorClass.index, List.mem_range.mpr inTable, rfl⟩
  case isFalse =>
    obtain ⟨_, _, thrown⟩ := Result.bind_eq_ok.mp found_eq
    exact absurd thrown (by simp [throw, throwThe, MonadExceptOf.throw])

variable {environment : Environment}

/-- Both sources of a federate are among its artifacts. -/
theorem exists_sources_of_generateFederate
    {baseName : String}
    {generated : FederateArtifacts}
    (interpreted : environment.settings.target = .python)
    (generated_eq :
      (program.generateFederate environment federate baseName).run.result =
        .ok generated) :
    ∃ (source : NativeSource) (module : PythonModule) (instances : List InstanceId)
        (blocks : List InitializationBlock),
      .ofContents (program.topLevelName baseName federate ++ ".c") source.text ∈
          generated.artifacts ∧
        .ofContents (program.topLevelName baseName federate ++ ".py") module.text ∈
          generated.artifacts ∧
        program.HasSources (program.federateSettings environment.settings) federate source
          module instances blocks := by
  obtain ⟨files, files_eq, artifacts_eq, _⟩ :=
    exists_files_of_generateFederate generated_eq
  rw [federateFiles, Report.result_run_bind, Result.bind_eq_ok] at files_eq
  obtain ⟨classes, classes_eq, files_eq⟩ := files_eq
  rw [if_pos ((program.target_federateSettings _).trans interpreted)] at files_eq
  simp only [interpreterFiles, Report.result_run_bind, Report.result_run_pure,
    Generation.result_ofExcept, Result.bind_eq_ok, Result.liftM_eq_ok] at files_eq
  obtain ⟨support, _, codes, codes_eq, preamble, _, initialization, initialization_eq,
    module, module_eq, files_eq⟩ := files_eq
  rw [Report.result_run_mapM] at codes_eq
  simp only [pythonModule, Result.bind_eq_ok, Result.pure_eq_ok] at module_eq
  obtain ⟨pythonClasses, pythonClasses_eq, objects, objects_eq, rfl⟩ := module_eq
  rw [Program.initialization, Result.bind_eq_ok] at initialization_eq
  obtain ⟨instances, instances_eq, initialized⟩ := initialization_eq
  rw [Result.liftM_eq_ok] at instances_eq
  obtain ⟨blocks, hasBlocks, steps_eq⟩ := exists_blocks_of_foldlM initialized
  have isUsed : ∀ id ∈ instances, ∀ node, program.tree.node id = .ok node ->
      node.reactorClass ∈ classes := by
    intro id contained node node_eq
    exact mem_federateClasses classes_eq instances_eq contained node_eq
  rw [← Except.ok.inj files_eq] at artifacts_eq
  rw [artifacts_eq]
  refine ⟨_, _, instances, blocks, List.mem_append_left _ (List.mem_cons_self ..),
    List.mem_append_left _ (List.mem_cons_of_mem _ (List.mem_cons_self ..)), ?_⟩
  constructor
  case listing => exact instances_eq
  case initialized =>
    refine ((List.forall₂_and_left _ _).mpr ⟨isUsed, hasBlocks⟩).imp ?_
    rintro id block ⟨usesClass, hasBlock⟩
    have isClass := usesClass block.node hasBlock.node
    obtain ⟨code, inSource, code_eq⟩ := Result.exists_mem_of_mapM codes_eq isClass
    refine ⟨hasBlock, ⟨code, inSource, (classAgrees_of_collectClass code_eq).1⟩, ?_⟩
    exact Result.exists_mem_of_mapM pythonClasses_eq isClass
  case steps => exact steps_eq
  case objects => exact objects_eq

end Program
end ReactorGen
