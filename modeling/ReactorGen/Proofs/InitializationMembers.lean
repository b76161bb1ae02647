import ReactorGen.Proofs.FederateSources
import ReactorGen.Proofs.InitializationTexts

/-!
# Members that the initialization reaches

A struct is laid out once for a class in a federate, and the initialization is written
for each instance, from what the instance itself has.  Where classes declare what their
instances have, the two fit: whatever the initialization reaches through the struct of
an instance is a member of the struct of its class.
-/

namespace ReactorGen

open Text

/-! ## What is reached -/

/-- A part of a statement. -/
inductive StatementPart
  | plain (text : String)
  /-- A member of a self struct that the statement reads or writes. -/
  | member (expression : String)

namespace StatementPart

/-- The spelling of a part. -/
def text : StatementPart -> String
  | plain text => text
  | member expression => expression

/-- The member, if the part is one. -/
def member? : StatementPart -> Option String
  | plain _ => none
  | member expression => some expression

end StatementPart

namespace InitStep

/-- The statements of a step in their parts.  The mode that a trigger is given is
plain, since it may be one of another instance. -/
def parts : InitStep -> List (List StatementPart)
  | announce path className =>
    [[.plain ("// ***** Start initializing " ++ path ++ " of class " ++ className)]]
  | make selfVariable className =>
    [[.plain (Naming.selfType className ++ "* " ++ selfVariable ++ " = " ++
      Naming.constructor className ++ "();")]]
  | nameInstance selfVariable list =>
    [[.member (selfVariable ++ "->" ++ Member.instanceName.name),
      .plain (" = \"" ++ list ++ "\";")]]
  | setParameter selfVariable name value =>
    [[.member (selfVariable ++ "->" ++ name), .plain (" = " ++ toString value.toInt ++ ";")]]
  | setTrigger metadata => [
    [.plain ("// Initializing " ++ metadata.kind.name ++ " " ++ metadata.fullName)],
    [.member metadata.trigger, .plain (".offset = " ++ metadata.offset.expression ++ ";")],
    [.member metadata.trigger, .plain (".period = " ++ metadata.period.expression ++ ";")],
    [.member metadata.trigger, .plain (".mode = " ++ metadata.mode.expression ++ ";")]]
  | makeToken initializer => [[
    .member initializer.trigger,
    .plain (".token = _lf_create_token(" ++ initializer.payloadSize ++ ");\n"),
    .member initializer.trigger,
    .plain (".status = absent;\n" ++ TokenInitializer.row ++ ".token = &"),
    .member initializer.trigger,
    .plain (".token;\n" ++ TokenInitializer.row ++ ".status = &"),
    .member initializer.trigger,
    .plain (".status;\n" ++
      "_lf_tokens_with_ref_count[_lf_tokens_with_ref_count_count++]" ++
      ".reset_is_present = true;")]]
  | linkMethod link => [[
    .member (link.selfVariable ++ "->" ++ link.callable),
    .plain " = get_python_function(\"__main__\", ",
    .member (link.selfVariable ++ "->" ++ Member.instanceName.name),
    .plain (", " ++ toString link.bankIndex ++ ", \"" ++ link.method ++ "\");")]]

/-- The members of self structs that a step reads or writes. -/
def reached (step : InitStep) : List String :=
  step.parts.flatten.filterMap StatementPart.member?

@[simp] theorem mem_reached_setTrigger
    {metadata : TriggerMetadata}
    {expression : String} :
    expression ∈ (setTrigger metadata).reached ↔ expression = metadata.trigger := by
  simp [reached, parts, StatementPart.member?, eq_comm]

@[simp] theorem mem_reached_makeToken
    {initializer : TokenInitializer}
    {expression : String} :
    expression ∈ (makeToken initializer).reached ↔ expression = initializer.trigger := by
  simp [reached, parts, StatementPart.member?, eq_comm]

/-- The parts of a step make up its statements. -/
theorem statements_eq_parts (step : InitStep) :
    step.statements = step.parts.map fun parts =>
      String.join (parts.map StatementPart.text) := by
  cases step with
  | announce path className => simp [statements, parts, StatementPart.text]
  | make selfVariable className => simp [statements, parts, StatementPart.text]
  | nameInstance selfVariable list =>
    simp [statements, parts, StatementPart.text, String.append_assoc]
  | setParameter selfVariable name value =>
    simp [statements, parts, StatementPart.text, String.append_assoc]
  | setTrigger metadata =>
    simp [statements, parts, StatementPart.text, TriggerMetadata.initializer,
      String.append_assoc]
  | makeToken initializer =>
    simp [statements, parts, StatementPart.text, TokenInitializer.text,
      TokenInitializer.statements, joinLines, String.append_assoc]
  | linkMethod link =>
    simp [statements, parts, StatementPart.text, MethodLink.text, String.append_assoc]

end InitStep

theorem Naming.trigger_eq (owner name : String) :
    Naming.trigger owner name = owner ++ "->" ++ (Member.trigger name).name := by
  have arrow : "->_lf__" = "->" ++ "_lf__" := by decide
  rw [Naming.trigger, Member.name, arrow]
  simp only [String.append_assoc]

/-- Classes that declare what their instances have. -/
structure Program.DeclaresInstances (program : Program) : Prop where
  /-- No other instance has the class of the root. -/
  root : ∀ {id : InstanceId} {node rootNode : ReactorInstance},
    program.tree.node id = .ok node ->
    program.tree.node ReactorTree.root = .ok rootNode ->
    node.reactorClass = rootNode.reactorClass -> id = ReactorTree.root
  actions : ∀ {id : InstanceId} {node : ReactorInstance} {reactorClass : ReactorClass},
    program.tree.node id = .ok node ->
    program.classAt node.reactorClass = .ok reactorClass ->
    ∀ action ∈ node.actions, action.isShutdown = false ->
      action.name ∈ reactorClass.actions.map (·.name)
  timers : ∀ {id : InstanceId} {node : ReactorInstance} {reactorClass : ReactorClass},
    program.tree.node id = .ok node ->
    program.classAt node.reactorClass = .ok reactorClass ->
    ∀ timer ∈ node.timers, timer.name ∈ reactorClass.timers
  modes : ∀ {id : InstanceId} {node : ReactorInstance} {reactorClass : ReactorClass},
    program.tree.node id = .ok node ->
    program.classAt node.reactorClass = .ok reactorClass ->
    node.modes.length = reactorClass.modes.length

namespace Program

/-- Whether a trigger that is bound to a mode of its own instance is given a mode inside
the array of the struct. -/
def WithinModes
    (program : Program)
    (id : InstanceId)
    (owner : String)
    (layout : SelfStruct)
    (mode? : Option ModeId)
    (binding : ModeBinding) : Prop :=
  ∀ mode ∈ mode?, ∀ entry, program.tree.mode mode = .ok entry -> entry.owner = id ->
    ∃ index count,
      binding = .mode owner index ∧ .modes count ∈ layout.members ∧ index < count

/-- The initialization of an instance fits the struct of its class. -/
structure Fits
    (program : Program)
    (federate : Federate)
    (id : InstanceId)
    (block : InitializationBlock)
    (layout : SelfStruct) : Prop where
  /-- The struct is made by the constructor of the class. -/
  makes : ∀ owner className, .make owner className ∈ block.steps ↔
    owner = block.owner ∧ className = layout.className
  /-- Nothing else is reached by the statements than these members. -/
  spelled : ∀ step ∈ block.steps, step.statements = step.parts.map fun parts =>
    String.join (parts.map StatementPart.text)
  members : ∀ step ∈ block.steps, ∀ expression ∈ step.reached,
    ∃ member ∈ layout.members, expression = block.owner ++ "->" ++ member.name
  actionModes : ∃ actions, program.federateActions federate id = .ok actions ∧
    List.Forall₂ (fun action metadata =>
      program.WithinModes id block.owner layout action.mode metadata.mode)
      actions block.actions
  timerModes : ∃ timers, program.federateTimers federate id = .ok timers ∧
    List.Forall₂ (fun timer metadata =>
      program.WithinModes id block.owner layout timer.mode metadata.mode)
      timers block.timers

end Program

/-- The type of a struct, which declares every member, and the constructor that makes it
stand before the initialization. -/
structure NativeSource.DefinesFirst (source : NativeSource) (layout : SelfStruct) : Prop where
  sections : ∃ before between after, source.sections =
    before ++ layout.structText ::
      (between ++ layout.constructorText ::
        (after ++ [initializationFunction source.initialization.steps]))
  text : InOrder
    [layout.structText, layout.constructorText, source.initialization.functionText]
    source.text

theorem NativeSource.definesFirst
    {source : NativeSource}
    {code : ClassCode}
    (member : code ∈ source.classes) :
    source.DefinesFirst code.selfStruct := by
  obtain ⟨earlier, later, classes_eq⟩ := List.append_of_mem member
  let front : List String := [Text.joinLines source.preamble] ++
    sectionOfLines source.serializerPreamble ++
    sectionOfLines (source.classes.flatMap (·.typeDefinitions))
  let functions : List String :=
    source.classes.flatMap fun code => code.reactions.map ReactionCode.text
  let before := front ++ earlier.map (·.selfStruct.structText)
  let between := later.map (·.selfStruct.structText) ++ functions ++
    earlier.map (·.selfStruct.constructorText)
  let after := later.map (·.selfStruct.constructorText) ++
    [source.initialization.tokens.declaration]
  have sections_eq : source.sections =
      before ++ code.selfStruct.structText ::
        (between ++ code.selfStruct.constructorText ::
          (after ++ [initializationFunction source.initialization.steps])) := by
    have inFull : source.sections =
        front ++ source.classes.map (·.selfStruct.structText) ++ functions ++
          source.classes.map (·.selfStruct.constructorText) ++
          [source.initialization.tokens.declaration,
            initializationFunction source.initialization.steps] := source.sections_eq
    rw [inFull]
    simp only [before, between, after, classes_eq, List.map_append, List.map_cons,
      List.append_assoc, List.cons_append, List.nil_append]
  refine ⟨⟨before, between, after, sections_eq⟩, ?_⟩
  have inOrder := source.inOrder_sections
  rw [sections_eq, Initialization.initializationFunction_eq] at inOrder
  apply inOrder.sublist
  refine .trans (.cons_cons _ ?_) (List.sublist_append_right ..)
  refine .trans (.cons_cons _ ?_) (List.sublist_append_right ..)
  exact List.sublist_append_right ..

/-! ## Members of a struct -/

/-- A struct has what its class declares, whatever the federate generates. -/
structure SelfStruct.Provides (layout : SelfStruct) (reactorClass : ReactorClass) : Prop where
  className : layout.className = reactorClass.name
  instanceName : .instanceName ∈ layout.members
  parameter : ∀ parameter ∈ reactorClass.parameters,
    .parameter parameter.name ∈ layout.members
  timer : ∀ timer ∈ reactorClass.timers, .trigger timer ∈ layout.members
  modes : reactorClass.modes ≠ [] -> .modes reactorClass.modes.length ∈ layout.members

namespace Program

variable
  {program : Program}
  {federate : Federate}

theorem selfStruct_of_classCode
    {settings : Settings}
    {id : ClassId}
    {code : ClassCode}
    (code_eq : program.classCode settings federate id = .ok code) :
    program.selfStruct federate id = .ok code.selfStruct := by
  simp only [classCode, Result.bind_eq_ok, Result.liftM_eq_ok, Result.pure_eq_ok] at code_eq
  obtain ⟨definitions, _, layout, layout_eq, reactions, _, rfl⟩ := code_eq
  exact layout_eq

theorem provides_of_selfStruct
    {id : ClassId}
    {reactorClass : ReactorClass}
    (class_eq : program.classAt id = .ok reactorClass)
    {layout : SelfStruct}
    (layout_eq : program.selfStruct federate id = .ok layout) :
    layout.Provides reactorClass := by
  simp only [selfStruct, class_eq, Result.ok_bind, Result.bind_eq_ok, Result.pure_eq_ok]
    at layout_eq
  obtain ⟨actions, _, positions, _, containers, _, rfl⟩ := layout_eq
  constructor
  case className => rfl
  case instanceName => simp
  case parameter =>
    intro parameter member
    have listed : Member.parameter parameter.name ∈
        reactorClass.parameters.map fun parameter => Member.parameter parameter.name :=
      List.mem_map_of_mem member
    simp only [List.mem_append]
    tauto
  case timer =>
    intro timer member
    have listed : Member.trigger timer ∈ reactorClass.timers.map .trigger :=
      List.mem_map_of_mem member
    simp only [List.mem_append]
    tauto
  case modes =>
    intro some
    have listed : Member.modes reactorClass.modes.length ∈
        if reactorClass.modes.isEmpty then []
        else [Member.modes reactorClass.modes.length] := by
      rw [if_neg (by simpa using some)]
      exact List.mem_singleton_self _
    simp only [List.mem_append]
    tauto

section Instance

variable
  {id : InstanceId}
  {node : ReactorInstance}
  (node_eq : program.tree.node id = .ok node)

include node_eq

/-- The actions that a federate generates of an instance. -/
theorem mem_federateActions
    {actions : List ActionInstance}
    (actions_eq : program.federateActions federate id = .ok actions)
    {action : ActionInstance} :
    action ∈ actions ↔
      action ∈ node.actions ∧ action.isShutdown = false ∧
        federate.containsAction program.tree id action.name = .ok true := by
  rw [federateActions, node_eq, Result.ok_bind, Result.filterM_eq_ok] at actions_eq
  obtain ⟨tested, rfl⟩ := actions_eq
  rw [List.mem_filter, List.mem_filter, Bool.not_eq_true', and_assoc]
  refine and_congr_right fun listed => and_congr_right fun notShutdown => ?_
  obtain ⟨answer, answer_eq⟩ := tested action
    (List.mem_filter.mpr ⟨listed, by rw [notShutdown]; rfl⟩)
  rw [answer_eq, Result.holds_ok, Except.ok.injEq]

variable
  (declares : program.DeclaresInstances)
  {reactorClass : ReactorClass}
  (class_eq : program.classAt node.reactorClass = .ok reactorClass)

include declares

/-- A class has the actions that an instance has: where the class is divided, it is the
class of the root, and no other instance has it. -/
theorem classContainsAction_of_containsAction
    {name : String}
    (contained : federate.containsAction program.tree id name = .ok true)
    {answer : Bool}
    (answer_eq : program.classContainsAction federate node.reactorClass name = .ok answer) :
    answer = true := by
  rw [classContainsAction, Result.bind_eq_ok] at answer_eq
  obtain ⟨rootClass, rootClass_eq, answer_eq⟩ := answer_eq
  split at answer_eq
  case isTrue isRootClass =>
    rw [Program.rootClass, Result.bind_eq_ok] at rootClass_eq
    obtain ⟨rootNode, root_eq, class_of⟩ := rootClass_eq
    have sameClass : node.reactorClass = rootNode.reactorClass := by
      rw [← isRootClass, ← Result.pure_eq_ok.mp class_of]
    rw [← declares.root node_eq root_eq sameClass, contained] at answer_eq
    exact (Except.ok.inj answer_eq).symm
  case isFalse => exact (Result.pure_eq_ok.mp answer_eq).symm

include class_eq

/-- The struct of a class has the actions that the federate generates of an instance,
although the two are chosen in different ways. -/
theorem mem_classActions
    {actions : List ActionInstance}
    (actions_eq : program.federateActions federate id = .ok actions)
    {declared : List ActionDecl}
    (declared_eq : program.classActions federate node.reactorClass = .ok declared)
    {action : ActionInstance}
    (member : action ∈ actions) :
    ∃ declaration ∈ declared, declaration.name = action.name := by
  obtain ⟨listed, notShutdown, contained⟩ := (mem_federateActions node_eq actions_eq).mp member
  obtain ⟨declaration, isDeclared, name_eq⟩ :=
    List.mem_map.mp (declares.actions node_eq class_eq action listed notShutdown)
  rw [classActions, class_eq, Result.ok_bind, Result.filterM_eq_ok] at declared_eq
  obtain ⟨decided, rfl⟩ := declared_eq
  obtain ⟨answer, answer_eq⟩ := decided declaration isDeclared
  refine ⟨declaration, List.mem_filter.mpr ⟨isDeclared, ?_⟩, name_eq⟩
  rw [answer_eq, Result.holds_ok]
  rw [name_eq] at answer_eq
  exact classContainsAction_of_containsAction node_eq declares contained answer_eq

theorem mem_classTimers
    {timers : List TimerInstance}
    (timers_eq : program.federateTimers federate id = .ok timers)
    {timer : TimerInstance}
    (member : timer ∈ timers) :
    timer.name ∈ reactorClass.timers := by
  rw [federateTimers, Result.bind_eq_ok] at timers_eq
  obtain ⟨contained, _, timers_eq⟩ := timers_eq
  split at timers_eq
  · rw [node_eq, Result.ok_bind, Result.pure_eq_ok] at timers_eq
    subst timers_eq
    exact declares.timers node_eq class_eq timer member
  · rw [Result.pure_eq_ok] at timers_eq
    subst timers_eq
    exact absurd member List.not_mem_nil

/-- A mode of an instance is given as a place inside the array of its struct. -/
theorem withinModes_of_bindMode
    {owner : String}
    (owner_eq : Naming.selfVariable program.tree id = .ok owner)
    {layout : SelfStruct}
    (provides : layout.Provides reactorClass)
    {mode? : Option ModeId}
    {trigger : String}
    {span : Option Span}
    {binding : ModeBinding}
    (bound : program.bindMode mode? trigger span = .ok binding) :
    program.WithinModes id owner layout mode? binding := by
  rintro mode isMode entry entry_eq rfl
  rw [Option.mem_def] at isMode
  subst isMode
  cases index_eq : program.tree.modeIndex? mode with
  | none => simp [bindMode, index_eq] at bound
  | some index =>
    simp only [bindMode, index_eq, entry_eq, Result.liftM_ok, Result.ok_bind, owner_eq,
      Result.pure_eq_ok] at bound
    have found := Result.orDangling_eq_ok.mp entry_eq
    have owned := Result.orDangling_eq_ok.mp node_eq
    simp only [ReactorTree.modeIndex?, found, owned, bind, Option.bind_some] at index_eq
    have inside : index < node.modes.length := by
      rw [List.idxOf?, List.findIdx?_eq_some_iff_getElem] at index_eq
      exact index_eq.1
    rw [declares.modes node_eq class_eq] at inside
    have notEmpty : reactorClass.modes ≠ [] := List.ne_nil_of_length_pos (by omega)
    exact ⟨index, _, bound.symm, provides.modes notEmpty, inside⟩

end Instance

/-! ## One instance -/

/-- What is lowered of a trigger of an instance. -/
def LowersTo
    (program : Program)
    (owner name : String)
    (mode? : Option ModeId)
    (metadata : TriggerMetadata) : Prop :=
  metadata.trigger = Naming.trigger owner name ∧
    ∃ trigger span, program.bindMode mode? trigger span = .ok metadata.mode

namespace HasBlock

variable
  {id : InstanceId}
  {block : InitializationBlock}
  (hasBlock : program.HasBlock federate id block)

include hasBlock

theorem exists_actions :
    ∃ actions, program.federateActions federate id = .ok actions ∧
      List.Forall₂ (fun action metadata =>
        program.LowersTo block.owner action.name action.mode metadata)
        actions block.actions := by
  have lowered := hasBlock.actions
  rw [lowerActions, hasBlock.owner, Result.liftM_ok, Result.ok_bind, hasBlock.path,
    Result.liftM_ok, Result.ok_bind, Result.bind_eq_ok] at lowered
  obtain ⟨actions, actions_eq, lowered⟩ := lowered
  refine ⟨actions, Result.liftM_eq_ok.mp actions_eq, ?_⟩
  refine (Result.mapM_eq_ok.mp lowered).imp ?_
  intro action metadata metadata_eq
  obtain ⟨mode, mode_eq, lowered_eq⟩ := Result.bind_eq_ok.mp metadata_eq
  rw [← Result.pure_eq_ok.mp lowered_eq]
  exact ⟨rfl, _, _, mode_eq⟩

theorem exists_timers :
    ∃ timers, program.federateTimers federate id = .ok timers ∧
      List.Forall₂ (fun timer metadata =>
        program.LowersTo block.owner timer.name timer.mode metadata)
        timers block.timers := by
  have lowered := hasBlock.timers
  rw [lowerTimers, hasBlock.owner, Result.liftM_ok, Result.ok_bind, hasBlock.path,
    Result.liftM_ok, Result.ok_bind, Result.bind_eq_ok] at lowered
  obtain ⟨timers, timers_eq, lowered⟩ := lowered
  refine ⟨timers, Result.liftM_eq_ok.mp timers_eq, ?_⟩
  refine (Result.mapM_eq_ok.mp lowered).imp ?_
  intro timer metadata metadata_eq
  obtain ⟨mode, mode_eq, lowered_eq⟩ := Result.bind_eq_ok.mp metadata_eq
  rw [← Result.pure_eq_ok.mp lowered_eq]
  exact ⟨rfl, _, _, mode_eq⟩

/-- Every trigger that the initialization of an instance names is a member of the
struct. -/
theorem exists_trigger
    (declares : program.DeclaresInstances)
    {layout : SelfStruct}
    (layout_eq : program.selfStruct federate block.node.reactorClass = .ok layout)
    {actions : List ActionInstance}
    (actions_eq : program.federateActions federate id = .ok actions)
    {action : ActionInstance}
    (member : action ∈ actions) :
    ∃ found ∈ layout.members,
      Naming.trigger block.owner action.name = block.owner ++ "->" ++ found.name := by
  obtain ⟨parts, hasParts, laidOut⟩ := exists_parts layout_eq
  obtain ⟨declaration, isDeclared, name_eq⟩ := mem_classActions hasBlock.node declares
    hasBlock.reactorClass actions_eq hasParts.actions member
  rw [Naming.trigger_eq, ← name_eq]
  exact ⟨_, laidOut.trigger_mem declaration isDeclared, rfl⟩

theorem exists_timerTrigger
    (declares : program.DeclaresInstances)
    {layout : SelfStruct}
    (provides : layout.Provides block.reactorClass)
    {timers : List TimerInstance}
    (timers_eq : program.federateTimers federate id = .ok timers)
    {timer : TimerInstance}
    (member : timer ∈ timers) :
    ∃ found ∈ layout.members,
      Naming.trigger block.owner timer.name = block.owner ++ "->" ++ found.name := by
  rw [Naming.trigger_eq]
  exact ⟨_, provides.timer _ (mem_classTimers hasBlock.node declares hasBlock.reactorClass
    timers_eq member), rfl⟩

/-- Methods are stored in members of the struct. -/
theorem exists_callable
    {layout : SelfStruct}
    (layout_eq : program.selfStruct federate block.node.reactorClass = .ok layout)
    {link : MethodLink}
    (member : link ∈ block.links) :
    link.selfVariable = block.owner ∧ .callable link.callable ∈ layout.members := by
  obtain ⟨parts, hasParts, laidOut⟩ := exists_parts layout_eq
  have class_eq : block.reactorClass = parts.reactorClass :=
    Except.ok.inj (hasBlock.reactorClass.symm.trans hasParts.reactorClass)
  cases native : program.classIsNative block.reactorClass with
  | true =>
    rw [hasBlock.links_eq_nil native] at member
    exact absurd member List.not_mem_nil
  | false =>
    obtain ⟨index, reaction, reaction_eq, inLinks⟩ := (hasBlock.mem_links native).mp member
    rw [class_eq] at reaction_eq
    rcases mem_reactionLinks.mp inLinks with rfl | ⟨late, rfl⟩
    · refine ⟨rfl, laidOut.callable_mem index reaction reaction_eq _ ?_⟩
      exact List.mem_cons_self ..
    · refine ⟨rfl, laidOut.callable_mem index reaction reaction_eq _ ?_⟩
      rw [ReactorClass.callableMembers, if_pos late]
      exact List.mem_cons_of_mem _ (List.mem_cons_self ..)

/-- The initialization of an instance fits the struct that its class has in the
federate. -/
theorem fits
    (declares : program.DeclaresInstances)
    {layout : SelfStruct}
    (layout_eq : program.selfStruct federate block.node.reactorClass = .ok layout) :
    program.Fits federate id block layout := by
  have provides := provides_of_selfStruct hasBlock.reactorClass layout_eq
  obtain ⟨actions, actions_eq, loweredActions⟩ := hasBlock.exists_actions
  obtain ⟨timers, timers_eq, loweredTimers⟩ := hasBlock.exists_timers
  constructor
  case makes =>
    intro owner className
    rw [provides.className]
    simp [InitializationBlock.mem_steps]
  case spelled => exact fun step _ => step.statements_eq_parts
  case members =>
    intro step member expression isReached
    rcases InitializationBlock.mem_steps.mp member with rfl | rfl | rfl |
      ⟨parameter, isParameter, value, _, rfl⟩ | ⟨metadata, isTrigger, rfl⟩ |
      ⟨initializer, isMade, rfl⟩ | ⟨link, isLink, rfl⟩
    · exact absurd isReached List.not_mem_nil
    · exact absurd isReached List.not_mem_nil
    · rw [List.mem_singleton.mp isReached]
      exact ⟨_, provides.instanceName, rfl⟩
    · rw [List.mem_singleton.mp isReached]
      exact ⟨_, provides.parameter parameter isParameter, rfl⟩
    · rw [InitStep.mem_reached_setTrigger.mp isReached]
      rcases List.mem_append.mp isTrigger with isAction | isTimer
      · obtain ⟨action, inActions, trigger_eq, _⟩ :=
          Result.exists_item_of_forall₂ loweredActions isAction
        rw [trigger_eq]
        exact hasBlock.exists_trigger declares layout_eq actions_eq inActions
      · obtain ⟨timer, inTimers, trigger_eq, _⟩ :=
          Result.exists_item_of_forall₂ loweredTimers isTimer
        rw [trigger_eq]
        exact hasBlock.exists_timerTrigger declares provides timers_eq inTimers
    · rw [InitStep.mem_reached_makeToken.mp isReached]
      obtain ⟨generated, generated_eq, made⟩ := hasBlock.made
      obtain ⟨action, inActions, rfl⟩ := made initializer isMade
      exact hasBlock.exists_trigger declares layout_eq generated_eq inActions
    · obtain ⟨owner_eq, isCallable⟩ := hasBlock.exists_callable layout_eq isLink
      rcases List.mem_pair.mp isReached with rfl | rfl
      · rw [owner_eq]
        exact ⟨_, isCallable, rfl⟩
      · rw [owner_eq]
        exact ⟨_, provides.instanceName, rfl⟩
  case actionModes =>
    refine ⟨actions, actions_eq, loweredActions.imp ?_⟩
    rintro action metadata ⟨_, trigger, span, bound⟩
    exact withinModes_of_bindMode hasBlock.node declares hasBlock.reactorClass hasBlock.owner
      provides bound
  case timerModes =>
    refine ⟨timers, timers_eq, loweredTimers.imp ?_⟩
    rintro timer metadata ⟨_, trigger, span, bound⟩
    exact withinModes_of_bindMode hasBlock.node declares hasBlock.reactorClass hasBlock.owner
      provides bound

end HasBlock

/-! ## The initialization of a federate -/

/-- The initialization of a federate reaches members only that are declared, for every
instance in the struct of its class, and the struct and its constructor stand before the
initialization. -/
theorem generateFederate_fitsStructs
    {environment : Environment}
    {baseName : String}
    {generated : FederateArtifacts}
    (declares : program.DeclaresInstances)
    (interpreted : environment.settings.target = .python)
    (generated_eq :
      (program.generateFederate environment federate baseName).run.result =
        .ok generated) :
    ∃ (source : NativeSource) (instances : List InstanceId)
        (blocks : List InitializationBlock),
      .ofContents (program.topLevelName baseName federate ++ ".c") source.text ∈
          generated.artifacts ∧
        program.federateInstances federate = .ok instances ∧
        source.initialization.steps = blocks.flatMap InitializationBlock.steps ∧
        List.Forall₂ (fun id block =>
          program.HasBlock federate id block ∧
            ∃ layout,
              program.selfStruct federate block.node.reactorClass = .ok layout ∧
              source.DefinesFirst layout ∧
              program.Fits federate id block layout)
          instances blocks := by
  obtain ⟨source, module, instances, blocks, isArtifact, _, sources⟩ :=
    exists_sources_of_generateFederate interpreted generated_eq
  refine ⟨source, instances, blocks, isArtifact, sources.listing, sources.steps, ?_⟩
  refine sources.initialized.imp ?_
  rintro id block ⟨hasBlock, ⟨code, inSource, code_eq⟩, _⟩
  have layout_eq := selfStruct_of_classCode code_eq
  exact ⟨hasBlock, code.selfStruct, layout_eq, NativeSource.definesFirst inSource,
    hasBlock.fits declares layout_eq⟩

end Program

/-! ## A wheel with a mode -/

namespace Mill

/-- A class with everything that the initialization reaches. -/
def wheelClass : ReactorClass :=
  { ReactorClass.ofName "Wheel" with
    parameters := [⟨"teeth", "12"⟩]
    actions := [⟨"grind", .logical, some "int[]"⟩]
    timers := ["turn"]
    reactions := [Convoy.guarded "grind"]
    modes := ["fast"] }

/-- The action and the timer of the wheel are bound to its mode. -/
def wheel : ReactorInstance :=
  { ReactorInstance.ofName "wheel" ⟨1⟩ (some ⟨0⟩) with
    actions := [((ActionInstance.ofName "grind" .zero).withTokenPayload "int[]").inMode ⟨0⟩]
    timers := [⟨"turn", .zero, none, some ⟨0⟩⟩]
    modes := [⟨0⟩] }

def mill : ReactorInstance :=
  { ReactorInstance.ofName "Mill" ⟨0⟩ none with children := [⟨1⟩] }

def program : Program where
  name := "Mill"
  target := "Python"
  properties := []
  preambles := []
  classes := [{ ReactorClass.ofName "Mill" with isMain := true }, wheelClass]
  tree := ⟨[mill, wheel], [⟨"fast", ⟨1⟩⟩]⟩
  federates := [.singleton]
  connections := []

theorem instance_eq
    {id : InstanceId}
    {node : ReactorInstance}
    (node_eq : program.tree.node id = .ok node) :
    id = ReactorTree.root ∧ node = mill ∨ id = ⟨1⟩ ∧ node = wheel := by
  obtain ⟨_ | _ | index⟩ := id
  · exact .inl ⟨rfl, (Except.ok.inj node_eq).symm⟩
  · exact .inr ⟨rfl, (Except.ok.inj node_eq).symm⟩
  · exact absurd node_eq (by simp [program, ReactorTree.node])

theorem program_declaresInstances : program.DeclaresInstances := by
  constructor
  case root =>
    intro id node rootNode node_eq root_eq sameClass
    obtain rfl := Except.ok.inj root_eq
    rcases instance_eq node_eq with ⟨rfl, rfl⟩ | ⟨rfl, rfl⟩
    · rfl
    · exact absurd sameClass (by decide)
  case actions =>
    intro id node reactorClass node_eq class_eq
    rcases instance_eq node_eq with ⟨rfl, rfl⟩ | ⟨rfl, rfl⟩
    · obtain rfl := Except.ok.inj class_eq
      decide
    · obtain rfl := Except.ok.inj class_eq
      decide
  case timers =>
    intro id node reactorClass node_eq class_eq
    rcases instance_eq node_eq with ⟨rfl, rfl⟩ | ⟨rfl, rfl⟩
    · obtain rfl := Except.ok.inj class_eq
      decide
    · obtain rfl := Except.ok.inj class_eq
      decide
  case modes =>
    intro id node reactorClass node_eq class_eq
    rcases instance_eq node_eq with ⟨rfl, rfl⟩ | ⟨rfl, rfl⟩
    · obtain rfl := Except.ok.inj class_eq
      rfl
    · obtain rfl := Except.ok.inj class_eq
      rfl

/-- The initialization of the mill fits the structs of both classes. -/
theorem program_fitsStructs :
    ∃ (generated : FederateArtifacts) (source : NativeSource)
        (blocks : List InitializationBlock),
      (program.generateFederate Workshop.environment .singleton "Mill").run.result =
          .ok generated ∧
        .ofContents "Mill.c" source.text ∈ generated.artifacts ∧
        source.initialization.steps = blocks.flatMap InitializationBlock.steps ∧
        List.Forall₂ (fun id block =>
          program.HasBlock .singleton id block ∧
            ∃ layout,
              program.selfStruct .singleton block.node.reactorClass = .ok layout ∧
              source.DefinesFirst layout ∧
              program.Fits .singleton id block layout)
          [⟨0⟩, ⟨1⟩] blocks := by
  obtain ⟨generated, generated_eq⟩ : ∃ generated,
      (program.generateFederate Workshop.environment .singleton "Mill").run.result =
        .ok generated := ⟨_, rfl⟩
  obtain ⟨source, instances, blocks, isArtifact, instances_eq, steps_eq, fits⟩ :=
    Program.generateFederate_fitsStructs program_declaresInstances rfl generated_eq
  obtain rfl : [⟨0⟩, ⟨1⟩] = instances := Except.ok.inj instances_eq
  exact ⟨generated, source, blocks, generated_eq, isArtifact, steps_eq, fits⟩

end Mill
end ReactorGen
