import ReactorGen.Proofs.FederateDivision
import ReactorGen.Proofs.FederateSources
import ReactorGen.Proofs.SerializerAgreement
import ReactorGen.Proofs.VariableResolution

/-!
# The stages of generation

Generation looks up the classes of the instances of a federate, then the serializers of
its connections, then lays out its classes, and initializes its instances last.  In a
tree that is built from its root, the look-ups of instances always succeed; so each stage
either succeeds or reports a fault of its own.  The one look-up that nothing checks
beforehand is that of the class of a contained reactor, which may belong to another
federate.
-/

namespace ReactorGen

/-! ## Dangling references -/

/-- Whether a computation meets a reference to an entry that does not exist. -/
def Dangles (result : Except Failure α) : Prop :=
  ∃ reference, reference ≠ .place ∧ result = .error (.dangling reference)

namespace Dangles

theorem not_ok (value : α) : ¬ Dangles (.ok value : Except Failure α) := nofun

theorem not_fault (fault : Fault) : ¬ Dangles (.error (.fault fault) : Except Failure α) :=
  nofun

theorem not_place : ¬ Dangles (.error (.dangling .place) : Except Failure α) := by
  rintro ⟨reference, notPlace, missing⟩
  cases missing
  exact notPlace rfl

theorem bind_iff
    {first : Except Failure α}
    {next : α -> Except Failure β} :
    Dangles (first >>= next) ↔
      Dangles first ∨ ∃ value, first = .ok value ∧ Dangles (next value) := by
  simp only [Dangles, Result.bind_eq_error]
  constructor
  · rintro ⟨reference, notPlace, fails | ⟨value, value_eq, fails⟩⟩
    · exact .inl ⟨reference, notPlace, fails⟩
    · exact .inr ⟨value, value_eq, reference, notPlace, fails⟩
  · rintro (⟨reference, notPlace, fails⟩ | ⟨value, value_eq, reference, notPlace, fails⟩)
    · exact ⟨reference, notPlace, .inl fails⟩
    · exact ⟨reference, notPlace, .inr ⟨value, value_eq, fails⟩⟩

/-- A sequence meets no dangling reference if none of its parts does. -/
theorem not_bind
    {first : Except Failure α}
    {next : α -> Except Failure β}
    (firstSound : ¬ Dangles first)
    (nextSound : ∀ value, first = .ok value -> ¬ Dangles (next value)) :
    ¬ Dangles (first >>= next) := by
  rw [bind_iff]
  rintro (dangles | ⟨value, value_eq, dangles⟩)
  · exact firstSound dangles
  · exact nextSound value value_eq dangles

theorem liftM_iff {found : Except DanglingReference α} :
    Dangles (liftM found : Except Failure α) ↔
      ∃ reference, reference ≠ .place ∧ found = .error reference := by
  cases found with
  | ok value => simp [Dangles, liftM, monadLift, MonadLift.monadLift]
  | error reference => simp [Dangles, liftM, monadLift, MonadLift.monadLift]

theorem not_liftM
    {found : Except DanglingReference α}
    {value : α}
    (found_eq : found = .ok value) :
    ¬ Dangles (liftM found : Except Failure α) := by
  rw [found_eq]
  exact not_ok value

/-- A traversal meets a dangling reference at the first item where it fails. -/
theorem mapM_iff
    {step : α -> Except Failure β}
    {items : List α} :
    Dangles (items.mapM step) ↔
      ∃ before item after, items = before ++ item :: after ∧
        (∀ earlier ∈ before, ∃ value, step earlier = .ok value) ∧ Dangles (step item) := by
  simp only [Dangles, Result.mapM_eq_error]
  constructor
  · rintro ⟨reference, notPlace, before, item, after, items_eq, succeed, fails⟩
    exact ⟨before, item, after, items_eq, succeed, reference, notPlace, fails⟩
  · rintro ⟨before, item, after, items_eq, succeed, reference, notPlace, fails⟩
    exact ⟨reference, notPlace, before, item, after, items_eq, succeed, fails⟩

theorem not_mapM
    {step : α -> Except Failure β}
    {items : List α}
    (sound : ∀ item ∈ items, ¬ Dangles (step item)) :
    ¬ Dangles (items.mapM step) := by
  rw [mapM_iff]
  rintro ⟨before, item, after, rfl, _, dangles⟩
  exact sound item (List.mem_append_right _ (List.mem_cons_self ..)) dangles

theorem map_iff
    {result : Except Failure α}
    {function : α -> β} :
    Dangles (result.map function) ↔ Dangles result := by
  cases result with
  | ok value => exact iff_of_false (not_ok _) (not_ok _)
  | error failure => simp [Dangles, Except.map]

end Dangles

/-! ## Instances -/

theorem ReactorTree.listingWithin_succ_eq_ok
    {tree : ReactorTree}
    {bound : Nat}
    {id : InstanceId}
    {listing : List InstanceId} :
    tree.listingWithin (bound + 1) id = .ok listing ↔
      ∃ node, tree.node id = .ok node ∧
        ∃ below, node.children.mapM (tree.listingWithin bound) = .ok below ∧
          id :: below.flatten = listing := by
  simp only [listingWithin, Result.bind_eq_ok, Result.pure_eq_ok]

namespace ReactorTree.Ordered

variable
  {tree : ReactorTree}
  {id : InstanceId}
  {node : ReactorInstance}

/-- The children of an instance are there, and they stand behind it. -/
theorem exists_child_node
    (ordered : tree.Ordered)
    (node_eq : tree.node id = .ok node)
    {child : InstanceId}
    (member : child ∈ node.children) :
    ∃ childNode, tree.node child = .ok childNode ∧ id.index < child.index := by
  obtain ⟨childNode, child_eq, parent_eq⟩ := (ordered.children node_eq child).mp member
  exact ⟨childNode, child_eq, ordered.lt_of_parent child_eq parent_eq⟩

/-- The listing below an instance ends, since children stand behind their parents. -/
theorem exists_listingWithin
    (ordered : tree.Ordered)
    {bound : Nat}
    (node_eq : tree.node id = .ok node)
    (enough : tree.size < bound + id.index) :
    ∃ listing, tree.listingWithin bound id = .ok listing ∧
      ∀ other ∈ listing, ∃ otherNode, tree.node other = .ok otherNode := by
  induction bound generalizing id node with
  | zero =>
    have inside := lt_size_of_node node_eq
    omega
  | succ bound inductionHypothesis =>
    have listed : ∀ child ∈ node.children, ∃ listing,
        tree.listingWithin bound child = .ok listing ∧
          ∀ other ∈ listing, ∃ otherNode, tree.node other = .ok otherNode := by
      intro child member
      obtain ⟨childNode, child_eq, behind⟩ := ordered.exists_child_node node_eq member
      exact inductionHypothesis child_eq (by omega)
    obtain ⟨below, below_eq⟩ := Result.exists_mapM fun child member =>
      (listed child member).imp fun _ both => both.1
    refine ⟨id :: below.flatten, listingWithin_succ_eq_ok.mpr ⟨node, node_eq, below,
      below_eq, rfl⟩, ?_⟩
    intro other member
    rcases List.mem_cons.mp member with rfl | inBelow
    · exact ⟨node, node_eq⟩
    · obtain ⟨part, isPart, inPart⟩ := List.mem_flatten.mp inBelow
      obtain ⟨child, isChild, part_eq⟩ := Result.exists_item_of_mapM below_eq isPart
      obtain ⟨listing, listing_eq, nodes⟩ := listed child isChild
      obtain rfl := Except.ok.inj (part_eq.symm.trans listing_eq)
      exact nodes other inPart

/-- The instances of a tree can be listed. -/
theorem exists_preorder (ordered : tree.Ordered) :
    ∃ listing, tree.preorder = .ok listing ∧
      ∀ id ∈ listing, ∃ node, tree.node id = .ok node := by
  obtain ⟨node, node_eq, _⟩ := ordered.root
  exact ordered.exists_listingWithin node_eq (Nat.lt_succ_self _)

end ReactorTree.Ordered

namespace Federate

variable
  {tree : ReactorTree}
  {id : InstanceId}
  {node : ReactorInstance}

/-- Whether an instance belongs to a federate can be told. -/
theorem exists_containsInstance
    (federate : Federate)
    (ordered : tree.Ordered)
    (node_eq : tree.node id = .ok node) :
    ∃ answer, federate.containsInstance tree id = .ok answer := by
  by_cases isRoot : id = ReactorTree.root
  · rw [isRoot]
    exact ⟨true, federate.containsInstance_root ordered⟩
  · obtain ⟨top, top_eq, _⟩ := ordered.exists_topLevelAncestor? node_eq isRoot
    cases separate : federate.isSingleton with
    | true => exact ⟨true, by rw [containsInstance, separate]; rfl⟩
    | false => exact ⟨_, containsInstance_of_topLevelAncestor? separate top_eq⟩

theorem exists_containsAction
    (federate : Federate)
    (ordered : tree.Ordered)
    (node_eq : tree.node id = .ok node)
    (name : String) :
    ∃ answer, federate.containsAction tree id name = .ok answer := by
  rw [containsAction]
  split
  case isTrue => exact ⟨true, rfl⟩
  case isFalse =>
    rw [node_eq, Result.ok_bind]
    split
    case isTrue => exact ⟨_, rfl⟩
    case isFalse => exact federate.exists_containsInstance ordered node_eq

theorem exists_containsReaction
    (federate : Federate)
    (ordered : tree.Ordered)
    (node_eq : tree.node id = .ok node)
    (index : Nat) :
    ∃ answer, federate.containsReaction tree id index = .ok answer := by
  rw [containsReaction]
  split
  case isTrue => exact ⟨true, rfl⟩
  case isFalse =>
    rw [node_eq, Result.ok_bind]
    split
    case isTrue => exact ⟨_, rfl⟩
    case isFalse => exact federate.exists_containsInstance ordered node_eq

end Federate

namespace Program

section Instances

variable
  {program : Program}
  {federate : Federate}
  (ordered : program.tree.Ordered)

include ordered

/-- The instances of a federate can be listed. -/
theorem exists_federateInstances (federate : Federate) :
    ∃ instances, program.federateInstances federate = .ok instances ∧
      ∀ id ∈ instances, federate.containsInstance program.tree id = .ok true ∧
        ∃ node, program.tree.node id = .ok node := by
  obtain ⟨listing, listing_eq, nodes⟩ := ordered.exists_preorder
  have decided : ∀ id ∈ listing, ∃ answer,
      federate.containsInstance program.tree id = .ok answer := by
    intro id member
    obtain ⟨node, node_eq⟩ := nodes id member
    exact federate.exists_containsInstance ordered node_eq
  refine ⟨listing.filter fun id => Result.holds (federate.containsInstance program.tree id),
    ?_, ?_⟩
  · rw [federateInstances, listing_eq, Result.ok_bind, Result.filterM_eq_ok]
    exact ⟨decided, rfl⟩
  · intro id member
    obtain ⟨listed, contained⟩ := List.mem_filter.mp member
    obtain ⟨answer, answer_eq⟩ := decided id listed
    rw [answer_eq, Result.holds_ok] at contained
    rw [answer_eq, contained]
    exact ⟨rfl, nodes id listed⟩

theorem exists_federateActions
    (federate : Federate)
    {id : InstanceId}
    {node : ReactorInstance}
    (node_eq : program.tree.node id = .ok node) :
    ∃ actions, program.federateActions federate id = .ok actions := by
  refine ⟨(node.actions.filter fun action => !action.isShutdown).filter fun action =>
    Result.holds (federate.containsAction program.tree id action.name), ?_⟩
  rw [federateActions, node_eq, Result.ok_bind, Result.filterM_eq_ok]
  exact ⟨fun action _ => federate.exists_containsAction ordered node_eq action.name, rfl⟩

theorem exists_federateTimers
    (federate : Federate)
    {id : InstanceId}
    {node : ReactorInstance}
    (node_eq : program.tree.node id = .ok node) :
    ∃ timers, program.federateTimers federate id = .ok timers := by
  obtain ⟨answer, answer_eq⟩ := federate.exists_containsInstance ordered node_eq
  exact ⟨_, federateTimers_eq node_eq answer_eq⟩

end Instances

/-! ## The classes of a federate -/

/-- An instance of a federate whose class is not in the table. -/
structure HasUnknownClass
    (program : Program)
    (federate : Federate)
    (id : InstanceId) : Prop where
  contained : federate.containsInstance program.tree id = .ok true
  unknown : ∃ node, program.tree.node id = .ok node ∧
    program.classes.length ≤ node.reactorClass.index

variable
  {program : Program}
  {federate : Federate}

/-- A class has an entry exactly if its id is in range. -/
theorem exists_classAt_iff {id : ClassId} :
    (∃ reactorClass, program.classAt id = .ok reactorClass) ↔
      id.index < program.classes.length := by
  simp only [classAt, Result.orDangling_eq_ok]
  constructor
  · rintro ⟨reactorClass, class_eq⟩
    exact (List.getElem?_eq_some_iff.mp class_eq).1
  · intro inRange
    exact ⟨_, List.getElem?_eq_getElem inRange⟩

theorem usedClass?_of_hasUnknownClass
    (ordered : program.tree.Ordered)
    {id : InstanceId}
    (malformed : program.HasUnknownClass federate id) :
    ∃ path, program.tree.fullName id = .ok path ∧
      program.usedClass? federate id = .error (.fault (.unknownReactorClass path)) := by
  obtain ⟨contained, node, node_eq, outOfRange⟩ := malformed
  obtain ⟨path, _, path_eq, _⟩ := ordered.exists_names node_eq
  refine ⟨path, path_eq, ?_⟩
  rw [usedClass?, contained, Result.liftM_ok, Result.ok_bind, if_pos rfl, node_eq,
    Result.liftM_ok, Result.ok_bind, if_neg (Nat.not_lt.mpr outOfRange), path_eq]
  rfl

theorem exists_usedClass?
    (ordered : program.tree.Ordered)
    {id : InstanceId}
    {node : ReactorInstance}
    (node_eq : program.tree.node id = .ok node)
    (known : ¬ program.HasUnknownClass federate id) :
    ∃ used, program.usedClass? federate id = .ok used := by
  obtain ⟨answer, answer_eq⟩ := federate.exists_containsInstance ordered node_eq
  rw [usedClass?, answer_eq, Result.liftM_ok, Result.ok_bind]
  cases answer with
  | false => exact ⟨none, rfl⟩
  | true =>
    have inRange : node.reactorClass.index < program.classes.length :=
      Nat.lt_of_not_le fun outOfRange => known ⟨answer_eq, node, node_eq, outOfRange⟩
    rw [if_pos rfl, node_eq, Result.liftM_ok, Result.ok_bind, if_pos inRange]
    exact ⟨_, rfl⟩

/-- The first instance of a federate whose class is unknown is reported. -/
theorem federateClasses_of_unknown
    (ordered : program.tree.Ordered)
    {before after : List InstanceId}
    {id : InstanceId}
    (listing_eq : program.tree.preorder = .ok (before ++ id :: after))
    (first : ∀ earlier ∈ before, ¬ program.HasUnknownClass federate earlier)
    (malformed : program.HasUnknownClass federate id) :
    ∃ path, program.tree.fullName id = .ok path ∧
      program.federateClasses federate =
        .error (.fault (.unknownReactorClass path)) := by
  obtain ⟨listing, same_eq, nodes⟩ := ordered.exists_preorder
  obtain rfl := Except.ok.inj (same_eq.symm.trans listing_eq)
  obtain ⟨path, path_eq, used_eq⟩ := usedClass?_of_hasUnknownClass ordered malformed
  refine ⟨path, path_eq, ?_⟩
  rw [federateClasses, listing_eq, Result.liftM_ok, Result.ok_bind]
  refine Result.bind_eq_error.mpr (.inl (Result.mapM_eq_error.mpr
    ⟨before, id, after, rfl, ?_, used_eq⟩))
  intro earlier member
  obtain ⟨node, node_eq⟩ := nodes earlier (List.mem_append_left _ member)
  exact exists_usedClass? ordered node_eq (first earlier member)

/-- The classes of a federate are in the table. -/
theorem inRange_of_federateClasses
    {classes : List ClassId}
    (classes_eq : program.federateClasses federate = .ok classes)
    {id : ClassId}
    (used : id ∈ classes) :
    id.index < program.classes.length := by
  simp only [federateClasses, Result.bind_eq_ok, Result.pure_eq_ok] at classes_eq
  obtain ⟨_, _, _, _, rfl⟩ := classes_eq
  obtain ⟨index, inRange, rfl⟩ := List.mem_map.mp (List.mem_filter.mp used).1
  exact List.mem_range.mp inRange

/-- Every class of a federate is the class of one of its instances. -/
theorem exists_user_of_federateClasses
    {classes : List ClassId}
    (classes_eq : program.federateClasses federate = .ok classes)
    {id : ClassId}
    (used : id ∈ classes) :
    ∃ user node, federate.containsInstance program.tree user = .ok true ∧
      program.tree.node user = .ok node ∧ node.reactorClass = id := by
  simp only [federateClasses, Result.bind_eq_ok, Result.pure_eq_ok] at classes_eq
  obtain ⟨_, _, found, found_eq, rfl⟩ := classes_eq
  have isFound := List.contains_iff_mem.mp (List.mem_filter.mp used).2
  obtain ⟨user, _, user_eq⟩ := Result.exists_item_of_mapM found_eq isFound
  simp only [usedClass?, Result.bind_eq_ok, Result.liftM_eq_ok] at user_eq
  obtain ⟨answer, contained, user_eq⟩ := user_eq
  cases answer with
  | false => exact absurd (Result.pure_eq_ok.mp user_eq) (by simp)
  | true =>
    obtain ⟨node, node_eq, user_eq⟩ := Result.bind_eq_ok.mp user_eq
    split at user_eq
    case isTrue =>
      exact ⟨user, node, contained, Result.liftM_eq_ok.mp node_eq,
        Option.some.inj (Result.pure_eq_ok.mp user_eq)⟩
    case isFalse =>
      obtain ⟨_, _, thrown⟩ := Result.bind_eq_ok.mp user_eq
      exact absurd thrown (by simp [throw, throwThe, MonadExceptOf.throw])

/-- The instances of a federate are of known classes by the time its classes are
listed. -/
theorem exists_knownInstances
    (ordered : program.tree.Ordered)
    {classes : List ClassId}
    (classes_eq : program.federateClasses federate = .ok classes) :
    ∃ instances, program.federateInstances federate = .ok instances ∧
      ∀ id ∈ instances, ∃ node reactorClass, program.tree.node id = .ok node ∧
        program.classAt node.reactorClass = .ok reactorClass := by
  obtain ⟨instances, instances_eq, nodes⟩ := exists_federateInstances ordered federate
  refine ⟨instances, instances_eq, fun id contained => ?_⟩
  obtain ⟨_, node, node_eq⟩ := nodes id contained
  have used := mem_federateClasses classes_eq instances_eq contained node_eq
  obtain ⟨reactorClass, class_eq⟩ :=
    exists_classAt_iff.mpr (inRange_of_federateClasses classes_eq used)
  exact ⟨node, reactorClass, node_eq, class_eq⟩

theorem not_dangles_federateClasses (ordered : program.tree.Ordered) :
    ¬ Dangles (program.federateClasses federate) := by
  obtain ⟨listing, listing_eq, nodes⟩ := ordered.exists_preorder
  rw [federateClasses]
  refine Dangles.not_bind (Dangles.not_liftM listing_eq) fun _ same_eq => ?_
  obtain rfl := Except.ok.inj (listing_eq.symm.trans (Result.liftM_eq_ok.mp same_eq))
  refine Dangles.not_bind (Dangles.not_mapM fun id member => ?_) fun _ _ =>
    Dangles.not_ok _
  obtain ⟨node, node_eq⟩ := nodes id member
  by_cases malformed : program.HasUnknownClass federate id
  · obtain ⟨path, _, used_eq⟩ := usedClass?_of_hasUnknownClass ordered malformed
    rw [used_eq]
    exact Dangles.not_fault _
  · obtain ⟨used, used_eq⟩ := exists_usedClass? ordered node_eq malformed
    rw [used_eq]
    exact Dangles.not_ok _

/-! ## The serializers of a federate -/

theorem not_dangles_resolveSerializer
    {settings : Settings}
    {connection : NetworkConnection}
    {sender receiver : Federate}
    (senderKnown : program.federateAt connection.sendingFederate = .ok sender)
    (receiverKnown : program.federateAt connection.receivingFederate = .ok receiver) :
    ¬ Dangles (program.resolveSerializer settings connection) := by
  rintro ⟨reference, _, fails⟩
  obtain ⟨_, _, _, _, _, isFault⟩ :=
    (resolveSerializer_eq_error senderKnown receiverKnown).mp fails
  exact absurd isFault (by simp)

theorem not_dangles_enableSerializers
    {environment : Environment}
    (knowsEnds : program.KnowsEnds federate) :
    ¬ Dangles (program.enableSerializers environment federate).run.result := by
  rintro ⟨reference, _, fails⟩
  rw [enableSerializers_eq_error, enabledSerializers_eq_error knowsEnds] at fails
  obtain ⟨_, _, _, _, _, _, _, _, _, _, _, isFault⟩ := fails
  exact absurd isFault (by simp)

/-! ## The code of a class -/

/-- The first child called `container` of the instances of a class. -/
def firstChild?
    (program : Program)
    (id : ClassId)
    (container : String) : Except DanglingReference (Option ReactorInstance) := do
  let owners ← program.instancesOf id
  let children ← (owners.flatMap (·.children)).mapM program.tree.node
  return children.find? (·.name == container)

/-- What comes after the first child comes after the steps that find it. -/
theorem firstChild?_bind
    (id : ClassId)
    (container : String)
    (next : Option ReactorInstance -> Except DanglingReference α) :
    (program.firstChild? id container >>= next) = (do
      let listing ← program.tree.preorder
      let nodes ← listing.mapM program.tree.node
      let owners := nodes.filter (·.reactorClass = id)
      let children ← (owners.flatMap (·.children)).mapM program.tree.node
      next (children.find? (·.name == container))) := by
  simp only [firstChild?, instancesOf, bind_assoc, pure_bind]

/-- A contained reactor has the class of the first child of its name. -/
theorem containedClass?_eq (id : ClassId) (container : String) :
    program.containedClass? id container = (do
      match ← program.firstChild? id container with
      | none => return none
      | some child => some <$> program.classAt child.reactorClass) := by
  rw [firstChild?_bind]
  rfl

/-- The variables of the reactions of a class that a federate generates. -/
def classReferences
    (program : Program)
    (federate : Federate)
    (id : ClassId) : Except DanglingReference (List VarRef) := do
  let reactorClass ← program.classAt id
  let positions ← program.classReactions federate id
  return (reactorClass.reactionsAt positions).flatMap fun entry => entry.2.variables

/-- Whether a reaction refers to a contained reactor whose class is not in the table. -/
def MeetsStray
    (program : Program)
    (federate : Federate)
    (id : ClassId) : Prop :=
  ∃ references ref container child,
    program.classReferences federate id = .ok references ∧
    ref ∈ references ∧
    ref.container = some container ∧
    program.firstChild? id container = .ok (some child) ∧
    program.classes.length ≤ child.reactorClass.index

/-- The containers of a class are found if their classes are. -/
theorem exists_resolveContainers_iff
    {id : ClassId}
    {used : List UsedContainer} :
    (∃ containers, program.resolveContainers id used = .ok containers) ↔
      ∀ container ∈ used, ∃ found,
        program.containedClass? id container.name = .ok found := by
  constructor
  · rintro ⟨containers, containers_eq⟩ container member
    obtain ⟨found, found_eq, _⟩ :=
      exists_containedClass?_of_resolveContainers containers_eq member
    exact ⟨found, found_eq⟩
  · intro found
    obtain ⟨resolved, resolved_eq⟩ : ∃ resolved, (used.mapM fun container => do
        let child ← program.containedClass? id container.name
        return child.map fun child => (container, child)) = .ok resolved := by
      refine Result.exists_mapM fun container member => ?_
      obtain ⟨child, child_eq⟩ := found container member
      rw [child_eq]
      exact ⟨_, rfl⟩
    rw [resolveContainers, resolved_eq]
    exact ⟨_, rfl⟩

section ClassCode

variable
  (ordered : program.tree.Ordered)
  {id : ClassId}
  {reactorClass : ReactorClass}

include ordered

theorem exists_instancesOf (id : ClassId) :
    ∃ owners, program.instancesOf id = .ok owners ∧
      ∀ owner ∈ owners, ∃ ownerId, program.tree.node ownerId = .ok owner := by
  obtain ⟨listing, listing_eq, nodes⟩ := ordered.exists_preorder
  obtain ⟨found, found_eq⟩ := Result.exists_mapM nodes
  refine ⟨found.filter (·.reactorClass = id), ?_, ?_⟩
  · rw [instancesOf, listing_eq, Result.ok_bind, found_eq]
    rfl
  · intro owner member
    obtain ⟨ownerId, _, owner_eq⟩ :=
      Result.exists_item_of_mapM found_eq (List.mem_filter.mp member).1
    exact ⟨ownerId, owner_eq⟩

theorem exists_firstChild? (id : ClassId) (container : String) :
    ∃ child?, program.firstChild? id container = .ok child? := by
  obtain ⟨owners, owners_eq, nodes⟩ := exists_instancesOf ordered id
  obtain ⟨children, children_eq⟩ : ∃ children,
      (owners.flatMap (·.children)).mapM program.tree.node = .ok children := by
    refine Result.exists_mapM fun child member => ?_
    obtain ⟨owner, isOwner, isChild⟩ := List.mem_flatMap.mp member
    obtain ⟨ownerId, owner_eq⟩ := nodes owner isOwner
    obtain ⟨childNode, child_eq, _⟩ := ordered.exists_child_node owner_eq isChild
    exact ⟨childNode, child_eq⟩
  rw [firstChild?, owners_eq, Result.ok_bind, children_eq]
  exact ⟨_, rfl⟩

/-- The class of a contained reactor is found unless it is not in the table. -/
theorem exists_containedClass?_iff {container : String} :
    (∃ found, program.containedClass? id container = .ok found) ↔
      ∀ child, program.firstChild? id container = .ok (some child) ->
        child.reactorClass.index < program.classes.length := by
  obtain ⟨child?, child_eq⟩ := exists_firstChild? ordered id container
  rw [containedClass?_eq, child_eq, Result.ok_bind]
  cases child? with
  | none =>
    refine iff_of_true ⟨none, rfl⟩ fun child found => ?_
    exact absurd (Except.ok.inj found) (by simp)
  | some child =>
    simp only [Except.ok.injEq, Option.some.injEq, forall_eq']
    constructor
    · rintro ⟨found, found_eq⟩
      obtain ⟨reactorClass, class_eq, _⟩ := Result.map_eq_ok.mp found_eq
      exact exists_classAt_iff.mp ⟨reactorClass, class_eq⟩
    · intro inRange
      obtain ⟨reactorClass, class_eq⟩ := exists_classAt_iff.mpr inRange
      exact ⟨some reactorClass, Result.map_eq_ok.mpr ⟨reactorClass, class_eq, rfl⟩⟩

theorem exists_classActions
    (federate : Federate)
    (class_eq : program.classAt id = .ok reactorClass) :
    ∃ actions, program.classActions federate id = .ok actions := by
  obtain ⟨root, root_eq, _⟩ := ordered.root
  refine ⟨reactorClass.actions.filter fun action =>
    Result.holds (program.classContainsAction federate id action.name), ?_⟩
  rw [classActions, class_eq, Result.ok_bind, Result.filterM_eq_ok]
  refine ⟨fun action _ => ?_, rfl⟩
  rw [classContainsAction, rootClass, root_eq, Result.ok_bind, pure_bind]
  split
  case isTrue => exact federate.exists_containsAction ordered root_eq action.name
  case isFalse => exact ⟨true, rfl⟩

theorem exists_classReactions
    (federate : Federate)
    (class_eq : program.classAt id = .ok reactorClass) :
    ∃ positions, program.classReactions federate id = .ok positions := by
  obtain ⟨root, root_eq, _⟩ := ordered.root
  rw [classReactions, rootClass, root_eq, Result.ok_bind, pure_bind, class_eq,
    Result.ok_bind]
  refine ⟨_, Result.filterM_eq_ok.mpr ⟨fun index _ => ?_, rfl⟩⟩
  split
  case isTrue => exact federate.exists_containsReaction ordered root_eq index
  case isFalse => exact ⟨true, rfl⟩

theorem exists_typeDefinitions
    (federate : Federate)
    (class_eq : program.classAt id = .ok reactorClass) :
    ∃ definitions, program.typeDefinitions federate id = .ok definitions := by
  obtain ⟨actions, actions_eq⟩ := exists_classActions ordered federate class_eq
  rw [typeDefinitions, class_eq, Result.ok_bind, actions_eq]
  exact ⟨_, rfl⟩

/-- The containers that reactions refer to are found unless the class of one of them is
unknown. -/
theorem exists_usedContainers_iff
    {references : List VarRef}
    (references_eq : program.classReferences federate id = .ok references) :
    (∃ containers,
      program.resolveContainers id (usedContainers references) = .ok containers) ↔
        ¬ program.MeetsStray federate id := by
  simp only [exists_resolveContainers_iff, exists_containedClass?_iff ordered]
  constructor
  · rintro inRange ⟨given, ref, container, child, given_eq, member, container_eq, child_eq,
      outOfRange⟩
    obtain rfl := Except.ok.inj (references_eq.symm.trans given_eq)
    obtain ⟨_, name⟩ := ref
    obtain rfl : _ = some container := container_eq
    obtain ⟨used, isUsed, rfl, _⟩ := exists_usedContainer member
    exact Nat.not_lt.mpr outOfRange (inRange used isUsed child child_eq)
  · intro known used isUsed child child_eq
    obtain ⟨container, isContainer, rfl⟩ := List.mem_map.mp isUsed
    rw [List.mem_eraseDups, List.mem_filterMap] at isContainer
    obtain ⟨ref, member, container_eq⟩ := isContainer
    refine Nat.lt_of_not_le fun outOfRange => known ?_
    exact ⟨references, ref, container, child, references_eq, member, container_eq,
      child_eq, outOfRange⟩

/-- A self struct is laid out unless a reaction refers to a contained reactor of an
unknown class. -/
theorem exists_selfStruct_iff
    (class_eq : program.classAt id = .ok reactorClass) :
    (∃ layout, program.selfStruct federate id = .ok layout) ↔
      ¬ program.MeetsStray federate id := by
  obtain ⟨actions, actions_eq⟩ := exists_classActions ordered federate class_eq
  obtain ⟨positions, positions_eq⟩ := exists_classReactions ordered federate class_eq
  have references_eq : program.classReferences federate id =
      .ok ((reactorClass.reactionsAt positions).flatMap fun entry => entry.2.variables) := by
    rw [classReferences, class_eq, Result.ok_bind, positions_eq]
    rfl
  rw [← exists_usedContainers_iff ordered references_eq, selfStruct, class_eq,
    Result.ok_bind, actions_eq, Result.ok_bind, positions_eq, Result.ok_bind]
  constructor
  · rintro ⟨layout, layout_eq⟩
    obtain ⟨containers, containers_eq, _⟩ := Result.bind_eq_ok.mp layout_eq
    exact ⟨containers, containers_eq⟩
  · rintro ⟨containers, containers_eq⟩
    exact ⟨_, Result.bind_eq_ok.mpr ⟨containers, containers_eq, rfl⟩⟩

/-- What keeps a self struct from being laid out is a class that is not in the table. -/
theorem exists_unknown_of_selfStruct
    (class_eq : program.classAt id = .ok reactorClass)
    {reference : DanglingReference}
    (missing : program.selfStruct federate id = .error reference) :
    ∃ unknown, reference = .reactorClass unknown := by
  obtain ⟨actions, actions_eq⟩ := exists_classActions ordered federate class_eq
  obtain ⟨positions, positions_eq⟩ := exists_classReactions ordered federate class_eq
  rw [selfStruct, class_eq, Result.ok_bind, actions_eq, Result.ok_bind, positions_eq,
    Result.ok_bind, Result.bind_eq_error] at missing
  rcases missing with missing | ⟨_, _, laidOut⟩
  case inr => cases laidOut
  rw [resolveContainers, Result.bind_eq_error] at missing
  rcases missing with missing | ⟨_, _, resolved⟩
  case inr => cases resolved
  obtain ⟨_, container, _, _, _, missing⟩ := Result.mapM_eq_error.mp missing
  rw [Result.bind_eq_error] at missing
  rcases missing with missing | ⟨_, _, found⟩
  case inr => cases found
  obtain ⟨child?, child_eq⟩ := exists_firstChild? ordered id container.name
  rw [containedClass?_eq, child_eq, Result.ok_bind] at missing
  cases child? with
  | none => cases missing
  | some child =>
    have absent : some <$> program.classAt child.reactorClass = .error reference := missing
    cases known : program.classes[child.reactorClass.index]? with
    | none =>
      rw [classAt, known] at absent
      exact ⟨child.reactorClass, (Except.error.inj absent).symm⟩
    | some reactorClass =>
      rw [classAt, known] at absent
      cases absent

end ClassCode

/-! ## The reactions of a class -/

section Reactions

variable
  {settings : Settings}
  {id : ClassId}
  {reactorClass : ReactorClass}

theorem not_dangles_senderBody
    {connection : NetworkConnection}
    {sender receiver : Federate}
    (senderKnown : program.federateAt connection.sendingFederate = .ok sender)
    (receiverKnown : program.federateAt connection.receivingFederate = .ok receiver) :
    ¬ Dangles (program.senderBody settings connection) :=
  Dangles.not_bind (not_dangles_resolveSerializer senderKnown receiverKnown) fun _ _ =>
    Dangles.not_bind
      (Dangles.not_liftM (routeComment_eq senderKnown receiverKnown "Sending")) fun _ _ =>
        Dangles.not_ok _

theorem not_dangles_receiverBody
    {connection : NetworkConnection}
    {sender receiver : Federate}
    (senderKnown : program.federateAt connection.sendingFederate = .ok sender)
    (receiverKnown : program.federateAt connection.receivingFederate = .ok receiver) :
    ¬ Dangles (program.receiverBody settings connection) :=
  Dangles.not_bind (not_dangles_resolveSerializer senderKnown receiverKnown) fun _ _ =>
    Dangles.not_bind
      (Dangles.not_liftM (routeComment_eq senderKnown receiverKnown "Receiving")) fun _ _ =>
        Dangles.not_ok _

variable (knowsEnds : program.KnowsEnds federate)

include knowsEnds

theorem not_dangles_federatedBody (reaction : Reaction) :
    ¬ Dangles (program.federatedBody settings federate reaction) := by
  unfold federatedBody
  split
  case isTrue => exact Dangles.not_ok _
  case isFalse =>
    split
    case h_1 connection sent_eq =>
      have sent := List.find?_some sent_eq
      obtain ⟨sender, receiver, senderKnown, receiverKnown⟩ :=
        knowsEnds connection (List.mem_of_find?_eq_some sent_eq) (by
          simp only [Bool.and_eq_true, decide_eq_true_eq] at sent
          simp [NetworkConnection.concerns, sent.1])
      exact not_dangles_senderBody senderKnown receiverKnown
    case h_2 =>
      split
      case h_1 connection received_eq =>
        have received := List.find?_some received_eq
        obtain ⟨sender, receiver, senderKnown, receiverKnown⟩ :=
          knowsEnds connection (List.mem_of_find?_eq_some received_eq) (by
            simp only [Bool.and_eq_true, decide_eq_true_eq] at received
            simp [NetworkConnection.concerns, received.1])
        exact not_dangles_receiverBody senderKnown receiverKnown
      case h_2 => exact Dangles.not_ok _

/-- A reaction fails with faults only. -/
theorem not_dangles_reactionCodeAt
    {index : Nat}
    {reaction : Reaction}
    (reaction_eq : reactorClass.reactions[index]? = some reaction)
    (layout : SelfStruct) :
    ¬ Dangles (program.reactionCodeAt settings federate reactorClass layout index) := by
  have found := ReactorClass.reaction_eq_ok.mpr reaction_eq
  cases resolved : layout.resolve reactorClass index reaction with
  | error fault =>
    rw [reactionCodeAt_of_unresolved reaction_eq resolved]
    exact Dangles.not_fault _
  | ok bindings =>
    rw [reactionCodeAt]
    split
    case isTrue =>
      rw [nativeReaction, found, Result.ok_bind, resolved]
      dsimp only
      split
      case isTrue => exact Dangles.not_ok _
      case isFalse =>
        refine Dangles.not_bind ?_ fun _ _ => Dangles.not_ok _
        exact not_dangles_federatedBody knowsEnds reaction
    case isFalse =>
      rw [interpreterShim, found, Result.ok_bind, resolved]
      exact Dangles.not_ok _

theorem not_dangles_reactionCode
    (ordered : program.tree.Ordered)
    (class_eq : program.classAt id = .ok reactorClass)
    (layout : SelfStruct) :
    ¬ Dangles (program.reactionCode settings federate id layout) := by
  obtain ⟨positions, positions_eq⟩ := exists_classReactions ordered federate class_eq
  rw [reactionCode, class_eq, Result.liftM_ok, Result.ok_bind, positions_eq,
    Result.liftM_ok, Result.ok_bind]
  refine Dangles.not_mapM fun index member => ?_
  obtain ⟨_, inClass⟩ := classReactions_spec class_eq positions_eq
  obtain ⟨reaction, reaction_eq⟩ := inClass index member
  exact not_dangles_reactionCodeAt knowsEnds reaction_eq layout

/-- The code of a class meets a dangling reference exactly if a reaction refers to a
contained reactor of an unknown class. -/
theorem dangles_classCode_iff
    (ordered : program.tree.Ordered)
    (class_eq : program.classAt id = .ok reactorClass) :
    Dangles (program.classCode settings federate id) ↔
      program.MeetsStray federate id := by
  obtain ⟨definitions, definitions_eq⟩ := exists_typeDefinitions ordered federate class_eq
  rw [classCode, definitions_eq, Result.liftM_ok, Result.ok_bind, Dangles.bind_iff,
    Dangles.liftM_iff]
  constructor
  · rintro (⟨reference, _, missing⟩ | ⟨layout, _, dangles⟩)
    · by_contra known
      obtain ⟨layout, layout_eq⟩ := (exists_selfStruct_iff ordered class_eq).mpr known
      cases missing.symm.trans layout_eq
    · refine absurd dangles (Dangles.not_bind ?_ fun _ _ => Dangles.not_ok _)
      exact not_dangles_reactionCode knowsEnds ordered class_eq layout
  · intro meets
    cases layout_eq : program.selfStruct federate id with
    | error reference =>
      obtain ⟨unknown, rfl⟩ := exists_unknown_of_selfStruct ordered class_eq layout_eq
      exact .inl ⟨.reactorClass unknown, DanglingReference.noConfusion, rfl⟩
    | ok layout =>
      exact absurd meets ((exists_selfStruct_iff ordered class_eq).mp ⟨layout, layout_eq⟩)

end Reactions

end Program
end ReactorGen
