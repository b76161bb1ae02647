import ReactorGen.Proofs.FederateSources
import ReactorGen.Proofs.InstanceLists
import ReactorGen.Proofs.ReactionArguments

/-!
# What the native code looks up

The native code finds an instance of the interpreter by the name of a list, a position
in it, and the names of methods.  The module is written on its own, and yet it has all
of them: the list is declared once and is long enough, the position holds an instance of
the class, and the class has the methods.  Instances whose reactions are native are not
looked up, and the module does not make them.
-/

namespace ReactorGen

/-- The classes come first in a module, then the declarations of all lists, and then their
assignments. -/
structure PythonModule.LaysOut (module : PythonModule) : Prop where
  classesFirst : Text.InOrder
    ((module.classes.map fun pythonClass => Draft.onLines 0 pythonClass.text) ++
      [Draft.onLines 0 module.instances.text])
    module.text
  listsFirst : module.instances.text =
    String.join (module.instances.lists.map fun (list, length) =>
      Draft.onLines 0 (list ++ " = [None] * " ++ toString length)) ++
    String.join (module.instances.instantiations.map Instantiation.assignment)

theorem PythonModule.laysOut (module : PythonModule) : module.LaysOut :=
  ⟨module.inOrder_text, module.instances.text_eq⟩

/-! ## Instances -/

/-- The statement that makes the instance of a block. -/
def InitializationBlock.instantiation (block : InitializationBlock) : Instantiation where
  path := block.path
  reactorName := block.reactorClass.name
  list := block.list
  bankIndex := block.node.bankIndex
  keywords :=
    (PythonClass.attributeOf "bank_index", toString block.node.bankIndex) ::
      block.reactorClass.parameters.map fun parameter =>
        (PythonClass.attributeOf (pythonName parameter.name),
          block.node.parameterValue parameter)

/-- The statements of a block. -/
def InitializationBlock.statements (block : InitializationBlock) : List String :=
  block.steps.flatMap InitStep.singleStatements

theorem InitializationBlock.mem_statements
    {block : InitializationBlock}
    {step : InitStep}
    (member : step ∈ block.steps)
    {statement : String}
    (written : step.singleStatements = [statement]) :
    statement ∈ block.statements := by
  refine List.mem_flatMap.mpr ⟨step, member, ?_⟩
  rw [written]
  exact List.mem_singleton_self _

/-- The statement that stores in the struct of an instance under which name the
interpreter finds it. -/
def nameStatement (owner list : String) : String :=
  owner ++ "->_lf_name = \"" ++ list ++ "\";"

/-- The statement that looks up a method of the instance at a place in a list. -/
def linkStatement (owner : String) (bankIndex : UInt64) (method : String) : String :=
  owner ++ "->_lf_py_" ++ method ++ " = get_python_function(\"__main__\", " ++ owner ++
    "->_lf_name, " ++ toString bankIndex ++ ", \"" ++ method ++ "\");"

theorem singleStatements_nameInstance (owner list : String) :
    (InitStep.nameInstance owner list).singleStatements = [nameStatement owner list] := by
  have named : "->" ++ ("_lf_name" ++ " = \"") = "->_lf_name = \"" := by decide
  have text_eq : owner ++ "->" ++ "_lf_name" ++ " = \"" ++ list ++ "\";" =
      nameStatement owner list := by
    rw [nameStatement, ← named]
    simp only [String.append_assoc]
  exact congrArg (fun text => [text]) text_eq

theorem singleStatements_linkMethod (owner : String) (bankIndex : UInt64) (method : String) :
    (InitStep.linkMethod ⟨owner, "_lf_py_" ++ method, bankIndex, method⟩).singleStatements =
      [linkStatement owner bankIndex method] := by
  have stored : "->" ++ "_lf_py_" = "->_lf_py_" := by decide
  have named : "->" ++ ("_lf_name" ++ ", ") = "->_lf_name, " := by decide
  have text_eq : owner ++ "->" ++ ("_lf_py_" ++ method) ++
      " = get_python_function(\"__main__\", " ++ owner ++ "->" ++ "_lf_name" ++ ", " ++
        toString bankIndex ++ ", \"" ++ method ++ "\");" =
      linkStatement owner bankIndex method := by
    rw [linkStatement, ← stored, ← named]
    simp only [String.append_assoc]
  exact congrArg (fun text => [text]) text_eq

/-- Everything that the native code looks up for an instance is in the module. -/
structure PythonModule.Serves
    (module : PythonModule)
    (block : InitializationBlock)
    (pythonClass : PythonClass) : Prop where
  /-- The struct of the instance holds the name of its list. -/
  named : nameStatement block.owner block.list ∈ block.statements
  namedOnce : ∀ owner list, .nameInstance owner list ∈ block.steps ->
    owner = block.owner ∧ list = block.list
  declared : module.instances.Declares block.list block.node.bankIndex
  /-- The place in the list gets an instance of the class. -/
  assigned : block.instantiation ∈ module.instances.instantiations
  emitted : pythonClass ∈ module.classes
  className : Text.InOrder [Draft.onLines 0 ("class _" ++ block.reactorClass.name ++ ":")]
    pythonClass.text
  /-- All reactions are linked. -/
  complete : ∀ index reaction, block.reactorClass.reactions[index]? = some reaction ->
    linkStatement block.owner block.node.bankIndex (Naming.reactionMethod index) ∈
        block.statements ∧
      (reaction.deadline.isSome = true ->
        linkStatement block.owner block.node.bankIndex (Naming.deadlineMethod index) ∈
          block.statements)
  /-- A method that is linked is there. -/
  linked : ∀ link, .linkMethod link ∈ block.steps ->
    (InitStep.linkMethod link).singleStatements =
        [linkStatement block.owner block.node.bankIndex link.method] ∧
      ∃ method, method.name = link.method ∧ pythonClass.HasMethod method

namespace Program

variable
  {program : Program}
  {federate : Federate}
  {id : InstanceId}
  {block : InitializationBlock}

theorem HasBlock.instantiation_eq
    (hasBlock : program.HasBlock federate id block) :
    program.instantiation id = .ok block.instantiation := by
  rw [instantiation, hasBlock.node, Result.ok_bind, hasBlock.reactorClass, Result.ok_bind,
    hasBlock.path, Result.ok_bind, hasBlock.list, Result.ok_bind]
  rfl

/-- The instances whose reactions are not native are made, each as its block says. -/
theorem mapM_instantiation
    {instances : List InstanceId}
    {blocks : List InitializationBlock}
    (initialized : List.Forall₂ (program.HasBlock federate) instances blocks)
    (interpreted : InstanceId -> Bool)
    (decides : ∀ id block, program.HasBlock federate id block ->
      interpreted id = !program.classIsNative block.reactorClass) :
    (instances.filter interpreted).mapM program.instantiation =
      .ok ((blocks.filter fun block => !program.classIsNative block.reactorClass).map
        InitializationBlock.instantiation) := by
  induction initialized with
  | nil => rfl
  | cons hasBlock _ inductionHypothesis =>
    rw [List.filter_cons, List.filter_cons, decides _ _ hasBlock]
    split
    · rw [List.mapM_cons, hasBlock.instantiation_eq, inductionHypothesis]
      rfl
    · exact inductionHypothesis

/-- The module makes the instances whose reactions are not native, and no others. -/
theorem HasSources.instantiations_eq
    {settings : Settings}
    {source : NativeSource}
    {module : PythonModule}
    {instances : List InstanceId}
    {blocks : List InitializationBlock}
    (sources : program.HasSources settings federate source module instances blocks) :
    module.instances.instantiations =
      (blocks.filter fun block => !program.classIsNative block.reactorClass).map
        InitializationBlock.instantiation := by
  obtain ⟨contained, interpreted, contained_eq, interpreted_eq, instantiations_eq, _⟩ :=
    pythonInstances_eq_ok.mp sources.objects
  obtain rfl := Except.ok.inj (sources.listing.symm.trans contained_eq)
  obtain ⟨_, rfl⟩ := Result.filterM_eq_ok.mp interpreted_eq
  have initialized := sources.initialized.imp fun _ _ has => has.1
  have made := mapM_instantiation initialized fun id =>
    Result.holds (program.isInterpreted id)
  refine Except.ok.inj (instantiations_eq.symm.trans (made ?_))
  intro id block hasBlock
  rw [isInterpreted, hasBlock.node, Result.ok_bind, isNative, hasBlock.reactorClass]
  rfl

/-- Whatever is looked up for an instance that the interpreter runs is in the module. -/
theorem HasBlock.serves
    (hasBlock : program.HasBlock federate id block)
    (notNative : program.classIsNative block.reactorClass = false)
    {module : PythonModule}
    (made : block.instantiation ∈ module.instances.instantiations)
    (hasPlace : block.node.bankIndex + 1 ≠ 0)
    {pythonClass : PythonClass}
    (emitted : pythonClass ∈ module.classes)
    (class_eq : program.pythonClass block.node.reactorClass = .ok pythonClass) :
    module.Serves block pythonClass := by
  rw [Program.pythonClass, hasBlock.reactorClass, Result.ok_bind, notNative,
    Result.pure_eq_ok] at class_eq
  subst class_eq
  constructor
  case named =>
    exact InitializationBlock.mem_statements (InitializationBlock.mem_steps.mpr (by simp))
      (singleStatements_nameInstance block.owner block.list)
  case namedOnce =>
    intro owner list isStep
    simpa [InitializationBlock.mem_steps] using isStep
  case declared => exact Instances.declares_of_mem made hasPlace
  case assigned => exact made
  case emitted => exact emitted
  case className =>
    have named := (PythonClass.inOrder_text (.ofReactorClass block.reactorClass false)).sublist
      (List.singleton_sublist.mpr (List.mem_cons_self ..))
    rwa [PythonClass.opening_eq] at named
  case complete =>
    intro index reaction reaction_eq
    have isStep {link : MethodLink}
        (inLinks : link ∈ reactionLinks block.owner block.node.bankIndex index reaction) :
        .linkMethod link ∈ block.steps := by
      refine InitializationBlock.mem_steps.mpr (.inr (.inr (.inr (.inr (.inr (.inr ?_))))))
      exact ⟨link,
        (hasBlock.mem_links notNative).mpr ⟨index, reaction, reaction_eq, inLinks⟩, rfl⟩
    constructor
    · exact InitializationBlock.mem_statements (isStep (mem_reactionLinks.mpr (.inl rfl)))
        (singleStatements_linkMethod _ _ _)
    · intro late
      exact InitializationBlock.mem_statements
        (isStep (mem_reactionLinks.mpr (.inr ⟨late, rfl⟩))) (singleStatements_linkMethod _ _ _)
  case linked =>
    intro link isStep
    have isLink : link ∈ block.links := by
      simpa [InitializationBlock.mem_steps] using isStep
    obtain ⟨index, reaction, reaction_eq, inLinks⟩ := (hasBlock.mem_links notNative).mp isLink
    rcases mem_reactionLinks.mp inLinks with rfl | ⟨late, rfl⟩
    · exact ⟨singleStatements_linkMethod _ _ _, _, rfl,
        PythonClass.hasMethod_bodyMethod reaction_eq⟩
    · obtain ⟨deadline, deadline_eq⟩ := Option.isSome_iff_exists.mp late
      exact ⟨singleStatements_linkMethod _ _ _, _, rfl,
        PythonClass.hasMethod_handlerMethod reaction_eq deadline_eq⟩

/-- Whatever the native code of a federate looks up for an instance is in the module:
the list, the place in it, an instance of the class there, and the methods of the class.
Instances whose reactions are native are neither linked nor made. -/
theorem generateFederate_servesInstances
    {environment : Environment}
    {baseName : String}
    {generated : FederateArtifacts}
    (interpreted : environment.settings.target = .python)
    (generated_eq :
      (program.generateFederate environment federate baseName).run.result =
        .ok generated) :
    ∃ (source : NativeSource) (module : PythonModule) (instances : List InstanceId)
        (blocks : List InitializationBlock),
      .ofContents (program.topLevelName baseName federate ++ ".c") source.text ∈
          generated.artifacts ∧
        .ofContents (program.topLevelName baseName federate ++ ".py") module.text ∈
          generated.artifacts ∧
        program.federateInstances federate = .ok instances ∧
        source.initialization.steps = blocks.flatMap InitializationBlock.steps ∧
        (∃ before, source.text = before ++ source.initialization.spelled) ∧
        module.LaysOut ∧
        module.instances.instantiations =
          (blocks.filter fun block => !program.classIsNative block.reactorClass).map
            InitializationBlock.instantiation ∧
        List.Forall₂ (fun id block =>
          program.HasBlock federate id block ∧
            (program.classIsNative block.reactorClass = true ->
              ∀ link, .linkMethod link ∉ block.steps) ∧
            (program.classIsNative block.reactorClass = false ->
              ∃ pythonClass,
                program.pythonClass block.node.reactorClass = .ok pythonClass ∧
                module.Serves block pythonClass))
          instances blocks := by
  obtain ⟨source, module, instances, blocks, isNative, isModule, sources⟩ :=
    exists_sources_of_generateFederate interpreted generated_eq
  have made := sources.instantiations_eq
  refine ⟨source, module, instances, blocks, isNative, isModule, sources.listing,
    sources.steps, source.exists_text_eq, module.laysOut, made, ?_⟩
  -- A block is known to be among the blocks where the instances are related to them.
  refine ((List.forall₂_and_left _ _).mpr
    ⟨fun block member => member, sources.initialized.flip⟩).flip.imp ?_
  rintro id block ⟨member, hasBlock, _, pythonClass, emitted, class_eq⟩
  refine ⟨hasBlock, ?_, ?_⟩
  · intro native link isStep
    have isLink : link ∈ block.links := by
      simpa [InitializationBlock.mem_steps] using isStep
    rw [hasBlock.links_eq_nil native] at isLink
    exact absurd isLink List.not_mem_nil
  · intro notNative
    have isMade : block.instantiation ∈ module.instances.instantiations := by
      rw [made]
      apply List.mem_map_of_mem
      rw [List.mem_filter, notNative]
      exact ⟨member, rfl⟩
    obtain ⟨_, _, _, _, _, placed⟩ := pythonInstances_eq_ok.mp sources.objects
    exact ⟨pythonClass, class_eq,
      hasBlock.serves notNative isMade (placed _ isMade) emitted class_eq⟩

end Program

namespace Convoy

/-- The module of the leading federate serves the truck; the reactions of the main
reactor are native. -/
theorem leader_servesInstances :
    program.classIsNative mainClass = true ∧
    program.classIsNative truckClass = false ∧
    ∃ (generated : FederateArtifacts) (module : PythonModule)
        (blocks : List InitializationBlock),
      (program.generateFederate Workshop.environment leader "Convoy").run.result =
          .ok generated ∧
        .ofContents "Convoy_leader.py" module.text ∈ generated.artifacts ∧
        List.Forall₂ (fun id block =>
          program.HasBlock leader id block ∧
            (program.classIsNative block.reactorClass = true ->
              ∀ link, .linkMethod link ∉ block.steps) ∧
            (program.classIsNative block.reactorClass = false ->
              ∃ pythonClass,
                program.pythonClass block.node.reactorClass = .ok pythonClass ∧
                module.Serves block pythonClass))
          [⟨0⟩, ⟨1⟩] blocks := by
  refine ⟨by decide +kernel, by decide +kernel, ?_⟩
  obtain ⟨generated, generated_eq⟩ : ∃ generated,
      (program.generateFederate Workshop.environment leader "Convoy").run.result =
        .ok generated := ⟨_, rfl⟩
  obtain ⟨_, module, instances, blocks, _, isModule, instances_eq, _, _, _, _, serves⟩ :=
    Program.generateFederate_servesInstances rfl generated_eq
  obtain rfl : [⟨0⟩, ⟨1⟩] = instances := Except.ok.inj instances_eq
  exact ⟨generated, module, blocks, generated_eq, isModule, serves⟩

end Convoy
end ReactorGen
