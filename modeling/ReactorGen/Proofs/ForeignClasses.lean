import ReactorGen.Proofs.OtherClasses

/-!
# Classes of other federates

A federate is generated from the classes of its own instances.  If an instance of another
federate has a class that is not in the table, then any other class that the federate does
not use either would do as well: what is generated, and every line of the log, stay the
same.  The exception is the look-up of contained reactors, which goes through the
instances of all federates.  If it comes across such an instance, the reference
dangles.
-/

namespace ReactorGen

/-! ## Computations that agree -/

/-- What comes after a failure does not matter. -/
theorem Result.bind_congr
    {result : Except ε α}
    {first second : α -> Except ε β}
    (same : ∀ value, result = .ok value -> first value = second value) :
    result >>= first = result >>= second := by
  cases result with
  | error failure => rfl
  | ok value => exact same value rfl

/-- A selection depends on its test at the items only. -/
theorem Result.filterM_congr [Monad m] [LawfulMonad m]
    {first second : α -> m Bool}
    {items : List α}
    (same : ∀ item ∈ items, first item = second item) :
    items.filterM first = items.filterM second := by
  have aux : ∀ kept, items.filterAuxM first kept = items.filterAuxM second kept := by
    induction items with
    | nil => exact fun _ => rfl
    | cons head rest inductionHypothesis =>
      intro kept
      rw [List.filterAuxM, List.filterAuxM, same head (List.mem_cons_self ..)]
      congr 1
      funext answer
      exact inductionHypothesis (fun item member => same item (List.mem_cons_of_mem _ member)) _
  rw [List.filterM, List.filterM, aux]

/-- A run through a list depends on its step at the items only. -/
theorem Result.foldlM_congr [Monad m] [LawfulMonad m]
    {first second : β -> α -> m β}
    {items : List α}
    (same : ∀ item ∈ items, ∀ state, first state item = second state item)
    (start : β) :
    items.foldlM first start = items.foldlM second start := by
  induction items generalizing start with
  | nil => rfl
  | cons head rest inductionHypothesis =>
    rw [List.foldlM_cons, List.foldlM_cons, same head (List.mem_cons_self ..)]
    congr 1
    funext state
    exact inductionHypothesis
      (fun item member => same item (List.mem_cons_of_mem _ member)) state

/-- A generation that does the same as another one, unless that one meets a dangling
reference. -/
def Generation.Follows (first second : Generation α) : Prop :=
  Dangles second.run.result ∨ first = second

namespace Generation.Follows

theorem refl (generation : Generation α) : Follows generation generation := .inr rfl

theorem bind_congr
    {generation : Generation α}
    {first second : α -> Generation β}
    (same : ∀ value, generation.run.result = .ok value -> first value = second value) :
    generation >>= first = generation >>= second := by
  apply ExceptT.ext
  rw [ExceptT.run_bind, ExceptT.run_bind]
  cases result_eq : generation.run.result with
  | error failure => exact Report.ext (by simp [result_eq]) (by simp [result_eq])
  | ok value =>
    have same := same value result_eq
    exact Report.ext (by simp [result_eq, same]) (by simp [result_eq, same])

theorem bind
    {first second : Generation α}
    {firstNext secondNext : α -> Generation β}
    (follows : Follows first second)
    (nextFollows : ∀ value, second.run.result = .ok value ->
      Follows (firstNext value) (secondNext value)) :
    Follows (first >>= firstNext) (second >>= secondNext) := by
  rcases follows with dangles | rfl
  · left
    rw [Report.result_run_bind]
    exact Dangles.bind_iff.mpr (.inl dangles)
  · by_cases dangles : Dangles (first >>= secondNext).run.result
    · exact .inl dangles
    · refine .inr (bind_congr fun value value_eq => ?_)
      refine (nextFollows value value_eq).resolve_left fun nextDangles => dangles ?_
      rw [Report.result_run_bind]
      exact Dangles.bind_iff.mpr (.inr ⟨value, value_eq, nextDangles⟩)

theorem ofExcept
    {first second : Except Failure α}
    (follows : Dangles second ∨ first = second) :
    Follows (.ofExcept first) (.ofExcept second) :=
  follows.imp id fun same => by rw [same]

theorem mapM
    {first second : α -> Generation β}
    {items : List α}
    (follows : ∀ item ∈ items, Follows (first item) (second item)) :
    Follows (items.mapM first) (items.mapM second) := by
  induction items with
  | nil => exact refl _
  | cons head rest inductionHypothesis =>
    rw [List.mapM_cons, List.mapM_cons]
    refine (follows head (List.mem_cons_self ..)).bind fun value _ => ?_
    refine .bind (inductionHypothesis fun item member => ?_) fun _ _ => refl _
    exact follows item (List.mem_cons_of_mem _ member)

theorem withWarnings
    {first second : Generation α}
    (follows : Follows first second) :
    Follows first.withWarnings second.withWarnings := by
  rcases follows with dangles | rfl
  · left
    rw [result_withWarnings, Dangles.map_iff]
    exact dangles
  · exact refl _

end Generation.Follows

/-! ## Changed classes -/

namespace Program

/-- Other classes for instances that a federate does not hold: where an instance gets
another class, its own is not in the table, and the new one is no class of the
federate. -/
structure ChangesForeign
    (program : Program)
    (federate : Federate)
    (classes : InstanceId -> ClassId) : Prop where
  foreign : ∀ {id node}, program.tree.node id = .ok node ->
    classes id ≠ node.reactorClass ->
    federate.containsInstance program.tree id = .ok false
  unknown : ∀ {id node}, program.tree.node id = .ok node ->
    classes id ≠ node.reactorClass ->
    program.classes.length ≤ node.reactorClass.index
  unused : ∀ {id node}, program.tree.node id = .ok node ->
    classes id ≠ node.reactorClass ->
    ∀ other otherNode, federate.containsInstance program.tree other = .ok true ->
      program.tree.node other = .ok otherNode ->
      otherNode.reactorClass ≠ classes id

namespace ChangesForeign

variable
  {program : Program}
  {federate : Federate}
  {classes : InstanceId -> ClassId}
  (changes : program.ChangesForeign federate classes)

include changes

/-- The instances of the federate stay as they are. -/
theorem node_eq
    {id : InstanceId}
    (contained : federate.containsInstance program.tree id = .ok true) :
    (program.tree.reclassify classes).node id = program.tree.node id := by
  cases found : program.tree.node id with
  | error reference => rw [ReactorTree.node_reclassify, found, Except.map]
  | ok node =>
    refine ReactorTree.node_reclassify_of_eq _ _ found ?_
    by_contra other
    exact absurd (contained.symm.trans (changes.foreign found other)) (by simp)

theorem federateClasses_eq :
    (program.reclassify classes).federateClasses federate =
      program.federateClasses federate := by
  have usedClass?_eq : (program.reclassify classes).usedClass? federate =
      program.usedClass? federate := by
    funext id
    simp only [usedClass?, reclassify, Federate.containsInstance_reclassify,
      ReactorTree.fullName_reclassify]
    cases contained : federate.containsInstance program.tree id with
    | error reference => rfl
    | ok answer =>
      cases answer with
      | false => rfl
      | true => rw [changes.node_eq contained]
  simp only [federateClasses, usedClass?_eq]
  simp only [reclassify, ReactorTree.preorder_reclassify]

/-! ## Instances -/

theorem initializeInstance_eq
    {id : InstanceId}
    (contained : federate.containsInstance program.tree id = .ok true)
    (withSelfStruct : Bool)
    (done : Initialization) :
    (program.reclassify classes).initializeInstance federate withSelfStruct done id =
      program.initializeInstance federate withSelfStruct done id := by
  have tree_eq : (program.reclassify classes).tree = program.tree.reclassify classes := rfl
  have links_eq : (program.reclassify classes).methodLinks id = program.methodLinks id := by
    simp only [methodLinks, tree_eq, changes.node_eq contained, classAt_reclassify,
      ReactorTree.selfVariable_reclassify]
    rfl
  simp only [initializeInstance, classOf, lowerActions_reclassify, lowerTimers_reclassify,
    initializeTokens_reclassify, links_eq, tree_eq, changes.node_eq contained,
    classAt_reclassify, ReactorTree.selfVariable_reclassify,
    ReactorTree.fullName_reclassify, ReactorTree.instanceList_reclassify]

theorem initialization_eq
    (ordered : program.tree.Ordered)
    (withSelfStruct : Bool) :
    (program.reclassify classes).initialization federate withSelfStruct =
      program.initialization federate withSelfStruct := by
  obtain ⟨instances, instances_eq, held⟩ := exists_federateInstances ordered federate
  rw [initialization, initialization, federateInstances_reclassify, instances_eq,
    Result.liftM_ok, Result.ok_bind, Result.ok_bind]
  refine Result.foldlM_congr (fun id member done => ?_) _
  exact changes.initializeInstance_eq (held id member).1 withSelfStruct done

theorem pythonInstances_eq (ordered : program.tree.Ordered) :
    (program.reclassify classes).pythonInstances federate =
      program.pythonInstances federate := by
  obtain ⟨instances, instances_eq, held⟩ := exists_federateInstances ordered federate
  have tree_eq : (program.reclassify classes).tree = program.tree.reclassify classes := rfl
  have isNative_eq : (program.reclassify classes).isNative = program.isNative := rfl
  have selected : instances.filterM (program.reclassify classes).isInterpreted =
      instances.filterM program.isInterpreted := by
    refine Result.filterM_congr fun id member => ?_
    rw [isInterpreted, isInterpreted, tree_eq, isNative_eq, changes.node_eq (held id member).1]
  rw [pythonInstances, pythonInstances, federateInstances_reclassify, instances_eq,
    Result.ok_bind, Result.ok_bind, selected]
  refine Result.bind_congr fun interpreted interpreted_eq => ?_
  obtain ⟨_, rfl⟩ := Result.filterM_eq_ok.mp interpreted_eq
  rw [Result.mapM_congr fun id member => ?_]
  have contained := (held id (List.mem_filter.mp member).1).1
  simp only [instantiation, tree_eq, changes.node_eq contained, classAt_reclassify,
    ReactorTree.fullName_reclassify, ReactorTree.instanceList_reclassify]

/-! ## Classes -/

theorem rootClass_eq (ordered : program.tree.Ordered) :
    (program.reclassify classes).rootClass = program.rootClass := by
  rw [rootClass, rootClass]
  exact congrArg (· >>= _) (changes.node_eq (federate.containsInstance_root ordered))

theorem classActions_eq (ordered : program.tree.Ordered) (id : ClassId) :
    (program.reclassify classes).classActions federate id =
      program.classActions federate id := by
  simp only [classActions, classContainsAction, classAt_reclassify,
    changes.rootClass_eq ordered]
  simp only [reclassify, Federate.containsAction_reclassify]

theorem classReactions_eq (ordered : program.tree.Ordered) (id : ClassId) :
    (program.reclassify classes).classReactions federate id =
      program.classReactions federate id := by
  simp only [classReactions, classAt_reclassify, changes.rootClass_eq ordered]
  simp only [reclassify, Federate.containsReaction_reclassify]

theorem typeDefinitions_eq (ordered : program.tree.Ordered) (id : ClassId) :
    (program.reclassify classes).typeDefinitions federate id =
      program.typeDefinitions federate id := by
  simp only [typeDefinitions, classAt_reclassify, changes.classActions_eq ordered]

theorem reactionCode_eq
    (ordered : program.tree.Ordered)
    (settings : Settings)
    (id : ClassId)
    (layout : SelfStruct) :
    (program.reclassify classes).reactionCode settings federate id layout =
      program.reactionCode settings federate id layout := by
  rw [reactionCode, reactionCode, changes.classReactions_eq ordered]
  rfl

/-! ## Contained reactors -/

/-- No instance of a class of the federate gets another class, and none joins them. -/
theorem exists_filter_eq
    {id : ClassId}
    (inRange : id.index < program.classes.length)
    {user : InstanceId}
    {userNode : ReactorInstance}
    (contained : federate.containsInstance program.tree user = .ok true)
    (user_eq : program.tree.node user = .ok userNode)
    (uses : userNode.reactorClass = id)
    {listing : List InstanceId}
    {nodes : List ReactorInstance}
    (nodes_eq : List.Forall₂ (fun id node => program.tree.node id = .ok node)
      listing nodes) :
    ∃ others, listing.mapM (program.tree.reclassify classes).node = .ok others ∧
      others.filter (·.reactorClass = id) = nodes.filter (·.reactorClass = id) := by
  induction nodes_eq with
  | nil => exact ⟨[], rfl, rfl⟩
  | @cons head node _ _ head_eq _ inductionHypothesis =>
    obtain ⟨others, others_eq, same⟩ := inductionHypothesis
    refine ⟨node.withClass (classes head) :: others, ?_, ?_⟩
    · rw [List.mapM_cons, ReactorTree.node_reclassify, head_eq, others_eq]
      rfl
    · by_cases unchanged : classes head = node.reactorClass
      · rw [unchanged]
        exact (List.filter_cons ..).trans (by rw [same, List.filter_cons]; rfl)
      · have isNew : (node.withClass (classes head)).reactorClass ≠ id := by
          rw [← uses]
          exact (changes.unused head_eq unchanged user userNode contained user_eq).symm
        have isOld : node.reactorClass ≠ id := by
          rintro rfl
          exact absurd inRange (Nat.not_lt.mpr (changes.unknown head_eq unchanged))
        rw [List.filter_cons_of_neg (by simpa using isNew),
          List.filter_cons_of_neg (by simpa using isOld), same]

/-- The first child of a name stays as it is unless its class is unknown. -/
theorem exists_find?_eq
    (name : String)
    {listing : List InstanceId}
    {nodes : List ReactorInstance}
    (nodes_eq : List.Forall₂ (fun id node => program.tree.node id = .ok node)
      listing nodes) :
    ∃ others, listing.mapM (program.tree.reclassify classes).node = .ok others ∧
      (others.find? (·.name == name) = nodes.find? (·.name == name) ∨
        ∃ child, nodes.find? (·.name == name) = some child ∧
          program.classes.length ≤ child.reactorClass.index) := by
  induction nodes_eq with
  | nil => exact ⟨[], rfl, .inl rfl⟩
  | @cons head node _ _ head_eq _ inductionHypothesis =>
    obtain ⟨others, others_eq, found⟩ := inductionHypothesis
    refine ⟨node.withClass (classes head) :: others, ?_, ?_⟩
    · rw [List.mapM_cons, ReactorTree.node_reclassify, head_eq, others_eq]
      rfl
    · have sameName : (node.withClass (classes head)).name = node.name := rfl
      rw [List.find?_cons, List.find?_cons, sameName]
      cases named : node.name == name with
      | false => exact found
      | true =>
        by_cases unchanged : classes head = node.reactorClass
        · rw [unchanged]
          exact .inl rfl
        · exact .inr ⟨node, rfl, changes.unknown head_eq unchanged⟩

variable
  {used : List ClassId}
  (used_eq : program.federateClasses federate = .ok used)
  {id : ClassId}
  (isUsed : id ∈ used)

include used_eq isUsed

/-- A contained reactor that is found stays as it is. -/
theorem containedClass?_eq_ok
    {container : String}
    {found : Option ReactorClass}
    (found_eq : program.containedClass? id container = .ok found) :
    (program.reclassify classes).containedClass? id container = .ok found := by
  have inRange := inRange_of_federateClasses used_eq isUsed
  obtain ⟨user, userNode, contained, user_eq, uses⟩ :=
    exists_user_of_federateClasses used_eq isUsed
  have preorder_eq : (program.reclassify classes).tree.preorder = program.tree.preorder :=
    ReactorTree.preorder_reclassify ..
  simp only [containedClass?, Result.bind_eq_ok] at found_eq
  obtain ⟨listing, listing_eq, nodes, nodes_eq, children, children_eq, found_eq⟩ := found_eq
  obtain ⟨others, others_eq, sameOwners⟩ := changes.exists_filter_eq inRange contained
    user_eq uses (Result.mapM_eq_ok.mp nodes_eq)
  obtain ⟨otherChildren, otherChildren_eq, sameChild⟩ :=
    changes.exists_find?_eq container (Result.mapM_eq_ok.mp children_eq)
  rw [containedClass?, preorder_eq, listing_eq, Result.ok_bind]
  rw [show (program.reclassify classes).tree.node =
    (program.tree.reclassify classes).node from rfl]
  rw [others_eq, Result.ok_bind, sameOwners]
  dsimp only
  rw [otherChildren_eq, Result.ok_bind]
  rcases sameChild with same | ⟨child, child_eq, outOfRange⟩
  · rw [same]
    exact found_eq
  · rw [child_eq] at found_eq
    obtain ⟨reactorClass, class_eq, _⟩ := Result.map_eq_ok.mp found_eq
    exact absurd (exists_classAt_iff.mp ⟨reactorClass, class_eq⟩)
      (Nat.not_lt.mpr outOfRange)

theorem resolveContainers_eq_ok
    {usedContainers : List UsedContainer}
    {containers : List (UsedContainer × ReactorClass)}
    (containers_eq : program.resolveContainers id usedContainers = .ok containers) :
    (program.reclassify classes).resolveContainers id usedContainers = .ok containers := by
  rw [← containers_eq, resolveContainers, resolveContainers]
  rw [Result.mapM_congr fun container member => ?_]
  obtain ⟨found, found_eq, _⟩ :=
    exists_containedClass?_of_resolveContainers containers_eq member
  rw [found_eq, changes.containedClass?_eq_ok used_eq isUsed found_eq]

variable (ordered : program.tree.Ordered)

include ordered

theorem selfStruct_eq_ok
    {layout : SelfStruct}
    (layout_eq : program.selfStruct federate id = .ok layout) :
    (program.reclassify classes).selfStruct federate id = .ok layout := by
  simp only [selfStruct, Result.bind_eq_ok, Result.pure_eq_ok] at layout_eq
  obtain ⟨reactorClass, class_eq, actions, actions_eq, positions, positions_eq, containers,
    containers_eq, rfl⟩ := layout_eq
  rw [selfStruct, classAt_reclassify, class_eq, Result.ok_bind,
    changes.classActions_eq ordered, actions_eq, Result.ok_bind,
    changes.classReactions_eq ordered, positions_eq, Result.ok_bind]
  dsimp only
  rw [changes.resolveContainers_eq_ok used_eq isUsed containers_eq]
  rfl

/-- The code of a class of the federate stays the same unless a reference dangles. -/
theorem classCode_follows (settings : Settings) :
    Dangles (program.classCode settings federate id) ∨
      (program.reclassify classes).classCode settings federate id =
        program.classCode settings federate id := by
  obtain ⟨reactorClass, class_eq⟩ :=
    exists_classAt_iff.mpr (inRange_of_federateClasses used_eq isUsed)
  obtain ⟨definitions, definitions_eq⟩ := exists_typeDefinitions ordered federate class_eq
  rw [classCode, classCode, changes.typeDefinitions_eq ordered, definitions_eq,
    Result.liftM_ok, Result.ok_bind, Result.ok_bind]
  cases layout_eq : program.selfStruct federate id with
  | error reference =>
    obtain ⟨unknown, rfl⟩ := exists_unknown_of_selfStruct ordered class_eq layout_eq
    exact .inl ⟨.reactorClass unknown, DanglingReference.noConfusion, rfl⟩
  | ok layout =>
    right
    rw [changes.selfStruct_eq_ok used_eq isUsed ordered layout_eq, Result.liftM_ok,
      Result.ok_bind, Result.ok_bind, changes.reactionCode_eq ordered]

omit isUsed

open Generation

/-- The files of the interpreter stay the same unless a reference dangles. -/
theorem interpreterFiles_follows
    (environment : Environment)
    (topLevelName : String) :
    Follows
      ((program.reclassify classes).interpreterFiles environment federate topLevelName used)
      (program.interpreterFiles environment federate topLevelName used) := by
  have collects : ∀ id ∈ used, Follows
      ((program.reclassify classes).collectClass environment.settings federate id)
      (program.collectClass environment.settings federate id) := by
    intro id isUsed
    refine (Follows.refl _).bind fun reactorClass _ => (Follows.refl _).bind fun _ _ => ?_
    exact .ofExcept (changes.classCode_follows used_eq isUsed ordered _)
  have module_eq : (program.reclassify classes).pythonModule federate =
      program.pythonModule federate := by
    funext used topLevelName preamble
    rw [pythonModule, pythonModule, changes.pythonInstances_eq ordered]
    rfl
  rw [interpreterFiles, interpreterFiles, changes.initialization_eq ordered, module_eq]
  refine (Follows.refl _).bind fun support _ => ?_
  exact (Follows.mapM collects).bind fun code _ => .refl _

omit used_eq

theorem federateFiles_follows
    (environment : Environment)
    (topLevelName : String) :
    Follows
      ((program.reclassify classes).federateFiles environment federate topLevelName)
      (program.federateFiles environment federate topLevelName) := by
  rw [federateFiles, federateFiles, changes.federateClasses_eq]
  refine (Follows.refl _).bind fun used used_eq => ?_
  split
  case isTrue => exact changes.interpreterFiles_follows used_eq ordered _ _
  case isFalse =>
    rw [triggerFiles, triggerFiles, changes.initialization_eq ordered]
    exact .refl _

/-- What is generated for a federate, and every line of the log, stay the same under
other classes for foreign instances of unknown classes, unless a reference dangles. -/
theorem generateFederate_follows
    (environment : Environment)
    (baseName : String) :
    Follows
      ((program.reclassify classes).generateFederate environment federate baseName)
      (program.generateFederate environment federate baseName) :=
  (Follows.refl _).bind fun _ _ =>
    .bind (.withWarnings (changes.federateFiles_follows ordered _ _)) fun _ _ => .refl _

end ChangesForeign
end Program
end ReactorGen
