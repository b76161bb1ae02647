import Mathlib.Data.List.Basic
import ReactorGen.Proofs.TreeListing

/-!
# The history of a tree

A tree is built by adding instances below others and modes to instances.  All of its
tables can be read off this history: the children of an instance are the instances that
were added below it, the modes of an instance are those that were added to it, both in
the order of the additions.  So every link of the tree goes both ways, and a mode keeps
its position whatever is added later.
-/

namespace ReactorGen

/-- What is added to a tree in one step. -/
inductive TreeAddition
  | child (parent : InstanceId) (name : String) (reactorClass : ClassId)
  | mode (owner : InstanceId) (name : String)
deriving DecidableEq, Repr

namespace TreeAddition

/-- The instance below which or to which something is added. -/
def target : TreeAddition -> InstanceId
  | child parent _ _ => parent
  | mode owner _ => owner

/-- Whether a mode is added to the given instance. -/
def isModeOf (owner : InstanceId) : TreeAddition -> Bool
  | child _ _ _ => false
  | mode other _ => other == owner

def instance? : TreeAddition -> Option ReactorInstance
  | child parent name reactorClass => some (.ofName name reactorClass (some parent))
  | mode _ _ => none

def isChild (addition : TreeAddition) : Bool :=
  addition.instance?.isSome

def mode? : TreeAddition -> Option ModeInstance
  | child _ _ _ => none
  | mode owner name => some ⟨name, owner⟩

/-- The tree after the addition. -/
def apply (tree : ReactorTree) : TreeAddition -> Except DanglingReference ReactorTree
  | child parent name reactorClass => (tree.addChild parent name reactorClass).map Prod.snd
  | mode owner name => (tree.addMode owner name).map Prod.snd

/-- Whether every addition is to an instance that is there by then, if there are `size`
instances before the first one. -/
def TargetsExist (size : Nat) : List TreeAddition -> Prop
  | [] => True
  | addition :: rest =>
    addition.target.index < size ∧ TargetsExist (size + addition.isChild.toNat) rest

instance decidableTargetsExist (size : Nat) :
    (additions : List TreeAddition) -> Decidable (TargetsExist size additions)
  | [] => .isTrue trivial
  | addition :: rest =>
    have := decidableTargetsExist (size + addition.isChild.toNat) rest
    inferInstanceAs (Decidable (_ ∧ _))

end TreeAddition

open TreeAddition

/-- How a tree came about. -/
structure TreeHistory where
  rootName : String
  rootClass : ClassId
  additions : List TreeAddition
deriving DecidableEq, Repr

namespace TreeHistory

/-- The tree that is built by the additions one after the other. -/
def build (history : TreeHistory) : Except DanglingReference ReactorTree :=
  history.additions.foldlM TreeAddition.apply
    (.ofRoot history.rootName history.rootClass)

/-- The history with one more addition. -/
def add (history : TreeHistory) (addition : TreeAddition) : TreeHistory :=
  { history with additions := history.additions ++ [addition] }

/-- The instances as they are added. -/
def instances (history : TreeHistory) : List ReactorInstance :=
  .ofName history.rootName history.rootClass none ::
    history.additions.filterMap TreeAddition.instance?

def modes (history : TreeHistory) : List ModeInstance :=
  history.additions.filterMap TreeAddition.mode?

/-- The instances that were added below an instance, in order. -/
def childrenOf (history : TreeHistory) (id : InstanceId) : List InstanceId :=
  (history.instances.findIdxs (·.parent == some id)).map InstanceId.mk

/-- The modes that were added to an instance, in order. -/
def modesOf (history : TreeHistory) (id : InstanceId) : List ModeId :=
  (history.modes.findIdxs (·.owner == id)).map ModeId.mk

/-- An instance with everything that is added to it. -/
def furnished
    (history : TreeHistory)
    (id : InstanceId)
    (node : ReactorInstance) : ReactorInstance :=
  { node with children := history.childrenOf id, modes := history.modesOf id }

/-- The tree that is read off the history. -/
def tree (history : TreeHistory) : ReactorTree where
  instances := history.instances.mapIdx fun index => history.furnished ⟨index⟩
  modes := history.modes

variable {history : TreeHistory}

/-! ## One addition -/

theorem size_tree (history : TreeHistory) : history.tree.size = history.instances.length :=
  List.length_mapIdx

theorem getElem?_tree (history : TreeHistory) (index : Nat) :
    history.tree.instances[index]? =
      history.instances[index]?.map (history.furnished ⟨index⟩) :=
  List.getElem?_mapIdx

theorem index_eq_iff {id : InstanceId} {index : Nat} : id = ⟨index⟩ ↔ id.index = index := by
  cases id
  rw [InstanceId.mk.injEq]

section Child

variable
  (history : TreeHistory)
  (parent : InstanceId)
  (name : String)
  (reactorClass : ClassId)

theorem instances_add_child :
    (history.add (.child parent name reactorClass)).instances =
      history.instances ++ [.ofName name reactorClass (some parent)] := by
  rw [instances, add, List.filterMap_append]
  rfl

theorem modes_add_child :
    (history.add (.child parent name reactorClass)).modes = history.modes := by
  rw [modes, add, List.filterMap_append]
  exact List.append_nil _

theorem childrenOf_add_child (id : InstanceId) :
    (history.add (.child parent name reactorClass)).childrenOf id =
      history.childrenOf id ++ if parent = id then [⟨history.instances.length⟩] else [] := by
  rw [childrenOf, instances_add_child, List.findIdxs_append, List.map_append, childrenOf,
    List.findIdxs_singleton, Nat.zero_add]
  simp only [ReactorInstance.ofName, beq_iff_eq, Option.some.injEq]
  split <;> rfl

theorem modesOf_add_child (id : InstanceId) :
    (history.add (.child parent name reactorClass)).modesOf id = history.modesOf id := by
  rw [modesOf, modes_add_child, modesOf]

theorem furnished_add_child (index : Nat) (node : ReactorInstance) :
    (history.add (.child parent name reactorClass)).furnished ⟨index⟩ node =
      if parent.index = index then
        { history.furnished ⟨index⟩ node with
          children := history.childrenOf ⟨index⟩ ++ [⟨history.instances.length⟩] }
      else history.furnished ⟨index⟩ node := by
  rw [furnished, childrenOf_add_child, modesOf_add_child, furnished]
  simp only [index_eq_iff]
  split
  · rfl
  · rw [List.append_nil]

end Child

section Mode

variable
  (history : TreeHistory)
  (owner : InstanceId)
  (name : String)

theorem modes_add_mode :
    (history.add (.mode owner name)).modes = history.modes ++ [⟨name, owner⟩] := by
  rw [modes, add, List.filterMap_append]
  rfl

theorem instances_add_mode :
    (history.add (.mode owner name)).instances = history.instances := by
  rw [instances, add, List.filterMap_append]
  exact congrArg (List.cons _) (List.append_nil _)

theorem childrenOf_add_mode (id : InstanceId) :
    (history.add (.mode owner name)).childrenOf id = history.childrenOf id := by
  rw [childrenOf, instances_add_mode, childrenOf]

theorem modesOf_add_mode (id : InstanceId) :
    (history.add (.mode owner name)).modesOf id =
      history.modesOf id ++ if owner = id then [⟨history.modes.length⟩] else [] := by
  rw [modesOf, modes_add_mode, List.findIdxs_append, List.map_append, modesOf,
    List.findIdxs_singleton, Nat.zero_add]
  simp only [beq_iff_eq]
  split <;> rfl

theorem furnished_add_mode (index : Nat) (node : ReactorInstance) :
    (history.add (.mode owner name)).furnished ⟨index⟩ node =
      if owner.index = index then
        { history.furnished ⟨index⟩ node with
          modes := history.modesOf ⟨index⟩ ++ [⟨history.modes.length⟩] }
      else history.furnished ⟨index⟩ node := by
  rw [furnished, childrenOf_add_mode, modesOf_add_mode, furnished]
  simp only [index_eq_iff]
  split
  · rfl
  · rw [List.append_nil]

end Mode

/-- A change in one position looks at every position. -/
theorem modify_eq_mapIdx (items : List α) (position : Nat) (change : α -> α) :
    items.modify position change =
      items.mapIdx fun index item => if position = index then change item else item := by
  apply List.ext_getElem?
  intro index
  rw [List.getElem?_modify, List.getElem?_mapIdx]
  rfl

/-- A history in which nothing is added to instances that are not there. -/
structure Sound (history : TreeHistory) : Prop where
  parents : ∀ node ∈ history.instances, ∀ {parent : InstanceId},
    node.parent = some parent -> parent.index < history.instances.length
  owners : ∀ mode ∈ history.modes, mode.owner.index < history.instances.length
  grown : history.tree.Grown

theorem Sound.childrenOf_eq_nil
    (sound : history.Sound)
    {id : InstanceId}
    (outside : history.instances.length ≤ id.index) :
    history.childrenOf id = [] := by
  rw [childrenOf, List.map_eq_nil_iff, List.findIdxs_eq_nil_iff]
  intro node member
  rw [beq_eq_false_iff_ne]
  intro parent_eq
  exact absurd (sound.parents node member parent_eq) (Nat.not_lt.mpr outside)

theorem Sound.modesOf_eq_nil
    (sound : history.Sound)
    {id : InstanceId}
    (outside : history.instances.length ≤ id.index) :
    history.modesOf id = [] := by
  rw [modesOf, List.map_eq_nil_iff, List.findIdxs_eq_nil_iff]
  intro mode member
  rw [beq_eq_false_iff_ne]
  rintro rfl
  exact absurd (sound.owners mode member) (Nat.not_lt.mpr outside)

theorem Sound.furnished_new
    (sound : history.Sound)
    (name : String)
    (reactorClass : ClassId)
    (parent : Option InstanceId) :
    history.furnished ⟨history.instances.length⟩ (.ofName name reactorClass parent) =
      .ofName name reactorClass parent := by
  have children : history.childrenOf ⟨history.instances.length⟩ = [] :=
    sound.childrenOf_eq_nil (Nat.le_refl _)
  have modes : history.modesOf ⟨history.instances.length⟩ = [] :=
    sound.modesOf_eq_nil (Nat.le_refl _)
  rw [furnished, children, modes]
  rfl

/-- An instance is entered behind all others and into the children of its parent. -/
theorem Sound.addChild_tree
    (sound : history.Sound)
    {parent : InstanceId}
    (known : parent.index < history.instances.length)
    (name : String)
    (reactorClass : ClassId) :
    history.tree.addChild parent name reactorClass =
      .ok (⟨history.instances.length⟩,
        (history.add (.child parent name reactorClass)).tree) := by
  have size := history.size_tree
  rw [ReactorTree.size] at size
  have inside : parent.index < (history.tree.instances ++
      [ReactorInstance.ofName name reactorClass (some parent)]).length := by
    rw [List.length_append, size]
    exact Nat.lt_add_right _ known
  have instances_eq : (history.tree.instances ++
        [ReactorInstance.ofName name reactorClass (some parent)]).modify parent.index
          (fun node => { node with children := node.children ++ [⟨history.instances.length⟩] }) =
      (history.add (.child parent name reactorClass)).tree.instances := by
    rw [modify_eq_mapIdx, List.mapIdx_concat, size, tree, tree, instances_add_child,
      List.mapIdx_concat, List.mapIdx_mapIdx]
    simp only [furnished_add_child, if_neg (Nat.ne_of_lt known), sound.furnished_new,
      List.append_left_inj]
    refine List.mapIdx_eq_mapIdx_iff.mpr fun index _ => ?_
    rw [furnished_add_child]
    rfl
  rw [ReactorTree.addChild, if_pos inside, ReactorTree.size, size, instances_eq]
  exact congrArg (fun modes => Except.ok (_, ReactorTree.mk _ modes))
    (history.modes_add_child parent name reactorClass).symm

/-- A mode is entered behind all others and into the modes of its owner. -/
theorem addMode_tree
    (history : TreeHistory)
    {owner : InstanceId}
    (known : owner.index < history.instances.length)
    (name : String) :
    history.tree.addMode owner name =
      .ok (⟨history.modes.length⟩, (history.add (.mode owner name)).tree) := by
  have instances_eq : history.tree.instances.modify owner.index
        (fun node => { node with modes := node.modes ++ [⟨history.modes.length⟩] }) =
      (history.add (.mode owner name)).tree.instances := by
    rw [modify_eq_mapIdx, tree, tree, instances_add_mode, List.mapIdx_mapIdx]
    refine List.mapIdx_eq_mapIdx_iff.mpr fun index _ => ?_
    rw [furnished_add_mode]
    rfl
  rw [ReactorTree.addMode, if_pos (Nat.lt_of_lt_of_eq known history.size_tree.symm)]
  change Except.ok (_, ReactorTree.mk (List.modify _ _ _) (history.modes ++ [⟨name, owner⟩])) = _
  rw [← modes_add_mode]
  exact congrArg (fun instances => Except.ok (_, ReactorTree.mk instances _)) instances_eq

/-! ## All additions -/

/-- The history with more additions. -/
def followedBy (history : TreeHistory) (later : List TreeAddition) : TreeHistory :=
  { history with additions := history.additions ++ later }

theorem sound_start (rootName : String) (rootClass : ClassId) :
    (⟨rootName, rootClass, []⟩ : TreeHistory).Sound where
  parents node member parent parent_eq := by
    rw [List.mem_singleton.mp member] at parent_eq
    exact absurd parent_eq.symm (Option.some_ne_none parent)
  owners mode member := absurd member List.not_mem_nil
  grown := .ofRoot rootName rootClass

/-- What is added to an instance that is there is one more addition of the history. -/
theorem Sound.apply_tree
    (sound : history.Sound)
    {addition : TreeAddition}
    (known : addition.target.index < history.instances.length) :
    addition.apply history.tree = .ok (history.add addition).tree := by
  cases addition with
  | child parent name reactorClass =>
    change parent.index < _ at known
    rw [TreeAddition.apply, sound.addChild_tree known name reactorClass]
    rfl
  | mode owner name =>
    change owner.index < _ at known
    rw [TreeAddition.apply, history.addMode_tree known name]
    rfl

theorem Sound.add
    (sound : history.Sound)
    {addition : TreeAddition}
    (known : addition.target.index < history.instances.length) :
    (history.add addition).Sound := by
  cases addition with
  | child parent name reactorClass =>
    have longer : history.instances.length <
        (history.add (.child parent name reactorClass)).instances.length := by
      rw [instances_add_child, List.length_append]
      exact Nat.lt_succ_self _
    constructor
    case parents =>
      intro node member above above_eq
      rw [instances_add_child, List.mem_append, List.mem_singleton] at member
      rcases member with old | rfl
      · exact Nat.lt_trans (sound.parents node old above_eq) longer
      · rw [← Option.some.inj above_eq]
        exact Nat.lt_trans known longer
    case owners =>
      intro mode member
      rw [modes_add_child] at member
      exact Nat.lt_trans (sound.owners mode member) longer
    case grown =>
      have inside := Nat.lt_of_lt_of_eq known history.size_tree.symm
      exact sound.grown.step
        (.addChild name reactorClass inside (sound.addChild_tree known name reactorClass))
  | mode owner name =>
    constructor
    case parents =>
      rw [instances_add_mode]
      exact sound.parents
    case owners =>
      intro mode member
      rw [modes_add_mode, List.mem_append, List.mem_singleton] at member
      rw [instances_add_mode]
      rcases member with old | rfl
      · exact sound.owners mode old
      · exact known
    case grown => exact sound.grown.step (.addMode name (history.addMode_tree known name))

theorem length_instances_add (history : TreeHistory) (addition : TreeAddition) :
    (history.add addition).instances.length =
      history.instances.length + addition.isChild.toNat := by
  cases addition with
  | child parent name reactorClass =>
    rw [instances_add_child, List.length_append]
    rfl
  | mode owner name =>
    rw [instances_add_mode]
    rfl

theorem Sound.foldlM_apply
    (sound : history.Sound)
    {later : List TreeAddition}
    (exist : TargetsExist history.instances.length later) :
    (history.followedBy later).Sound ∧
      later.foldlM TreeAddition.apply history.tree = .ok (history.followedBy later).tree := by
  -- On what is yet to be added, for every history that is sound by then.
  induction later generalizing history with
  | nil =>
    rw [followedBy, List.append_nil]
    exact ⟨sound, rfl⟩
  | cons addition rest inductionHypothesis =>
    obtain ⟨known, restExist⟩ := exist
    rw [← history.length_instances_add] at restExist
    obtain ⟨restSound, rest_eq⟩ := inductionHypothesis (sound.add known) restExist
    have same : (history.add addition).followedBy rest =
        history.followedBy (addition :: rest) := by
      rw [followedBy, TreeHistory.add, followedBy, List.append_assoc]
      rfl
    rw [same] at restSound rest_eq
    refine ⟨restSound, ?_⟩
    rw [List.foldlM_cons, sound.apply_tree known]
    exact rest_eq

/-- The tree that is built is the tree that is read off the history. -/
theorem build_eq
    (history : TreeHistory)
    (exist : TargetsExist 1 history.additions) :
    history.Sound ∧ history.build = .ok history.tree :=
  (sound_start history.rootName history.rootClass).foldlM_apply exist

/-! ## Links -/

theorem node_tree_eq_ok
    {id : InstanceId}
    {node : ReactorInstance} :
    history.tree.node id = .ok node ↔
      ∃ added, history.instances[id.index]? = some added ∧
        history.furnished id added = node := by
  rw [ReactorTree.node_eq_ok, getElem?_tree, Option.map_eq_some_iff]

theorem mode_tree_eq_ok
    {id : ModeId}
    {mode : ModeInstance} :
    history.tree.mode id = .ok mode ↔ history.modes[id.index]? = some mode :=
  Result.orDangling_eq_ok

theorem siblingsAscend_tree (history : TreeHistory) : history.tree.SiblingsAscend := by
  intro id node node_eq
  obtain ⟨added, _, rfl⟩ := node_tree_eq_ok.mp node_eq
  rw [furnished, childrenOf, List.pairwise_map]
  exact List.pairwise_findIdxs

/-- A mode is listed by the instance to which it was added and by no other one. -/
theorem count_modesOf
    {id : ModeId}
    {mode : ModeInstance}
    (mode_eq : history.modes[id.index]? = some mode)
    (other : InstanceId) :
    (history.modesOf other).count id = if other = mode.owner then 1 else 0 := by
  have nodup : (history.modesOf other).Nodup :=
    List.nodup_findIdxs.map fun _ _ => ModeId.mk.inj
  have listed_iff : id ∈ history.modesOf other ↔ other = mode.owner := by
    obtain ⟨inside, rfl⟩ := List.getElem?_eq_some_iff.mp mode_eq
    rw [modesOf, List.mem_map]
    constructor
    · rintro ⟨index, member, rfl⟩
      rw [List.mem_findIdxs_iff_pos_getElem inside, beq_iff_eq] at member
      exact member.symm
    · rintro rfl
      refine ⟨id.index, ?_, rfl⟩
      rw [List.mem_findIdxs_iff_pos_getElem inside]
      exact beq_self_eq_true _
  rw [nodup.count]
  simp only [listed_iff]

end TreeHistory

/-- A tree in which the links between instances go both ways, and those between instances
and modes. -/
structure ReactorTree.Linked (tree : ReactorTree) : Prop where
  children : ∀ {id : InstanceId} {node : ReactorInstance}, tree.node id = .ok node ->
    id ≠ root -> ∃ parent parentNode, node.parent = some parent ∧
      tree.node parent = .ok parentNode ∧
        ∀ {other : InstanceId} {otherNode : ReactorInstance},
          tree.node other = .ok otherNode ->
            otherNode.children.count id = if other = parent then 1 else 0
  modes : ∀ {id : ModeId} {mode : ModeInstance}, tree.mode id = .ok mode ->
    ∃ ownerNode, tree.node mode.owner = .ok ownerNode ∧
      ∀ {other : InstanceId} {otherNode : ReactorInstance},
        tree.node other = .ok otherNode ->
          otherNode.modes.count id = if other = mode.owner then 1 else 0

namespace TreeHistory

variable {history : TreeHistory}

theorem Sound.linked (sound : history.Sound) : history.tree.Linked := by
  have ordered := sound.grown.ordered
  constructor
  case children =>
    intro id node node_eq notRoot
    obtain ⟨parent, parent_eq, earlier⟩ := ordered.parent node_eq notRoot
    obtain ⟨parentNode, parentNode_eq⟩ := ReactorTree.exists_node_of_lt
      (Nat.lt_trans earlier (ReactorTree.lt_size_of_node node_eq))
    refine ⟨parent, parentNode, parent_eq, parentNode_eq, ?_⟩
    intro other otherNode other_eq
    rw [ordered.count_children history.siblingsAscend_tree node_eq other_eq, parent_eq]
    simp only [Option.some.injEq, eq_comm]
  case modes =>
    intro id mode mode_eq
    rw [mode_tree_eq_ok] at mode_eq
    have known := sound.owners mode (List.mem_of_getElem? mode_eq)
    obtain ⟨ownerNode, owner_eq⟩ := ReactorTree.exists_node_of_lt
      (Nat.lt_of_lt_of_eq known history.size_tree.symm)
    refine ⟨ownerNode, owner_eq, ?_⟩
    intro other otherNode other_eq
    obtain ⟨added, _, rfl⟩ := node_tree_eq_ok.mp other_eq
    exact count_modesOf mode_eq other

/-! ## Positions -/

theorem idxOf?_append_cons
    [BEq α]
    [LawfulBEq α]
    {before after : List α}
    {item : α}
    (fresh : item ∉ before) :
    (before ++ item :: after).idxOf? item = some before.length := by
  have notBefore : before.findIdx? (· == item) = none := by
    rw [List.findIdx?_eq_none_iff]
    intro other member
    exact beq_false_of_ne (ne_of_mem_of_not_mem member fresh)
  rw [List.idxOf?, List.findIdx?_append, notBefore, Option.none_or, List.findIdx?_cons,
    if_pos (beq_self_eq_true item), Option.map_some, Nat.zero_add]

/-- In front of a mode stand the modes that were added to its owner before it. -/
theorem idxOf?_modesOf
    {before after : List ModeInstance}
    {mode : ModeInstance}
    (modes_eq : history.modes = before ++ mode :: after) :
    (history.modesOf mode.owner).idxOf? ⟨before.length⟩ =
      some (before.countP (·.owner == mode.owner)) := by
  have listed : history.modesOf mode.owner =
      (before.findIdxs (·.owner == mode.owner)).map ModeId.mk ++ ⟨before.length⟩ ::
        (after.findIdxs (·.owner == mode.owner) (before.length + 1)).map ModeId.mk := by
    rw [modesOf, modes_eq, List.findIdxs_append, List.findIdxs_cons, Nat.zero_add,
      if_pos (beq_self_eq_true _), List.map_append, List.map_cons]
  have fresh : ⟨before.length⟩ ∉
      (before.findIdxs (·.owner == mode.owner)).map ModeId.mk := by
    intro member
    obtain ⟨index, inside, same⟩ := List.mem_map.mp member
    rw [ModeId.mk.injEq] at same
    have small := List.lt_add_of_mem_findIdxs index inside
    omega
  rw [listed, idxOf?_append_cons fresh, List.length_map, List.length_findIdxs]

/-- A mode keeps the position at which it was added. -/
theorem Sound.modeIndex?_tree
    (sound : history.Sound)
    {before after : List ModeInstance}
    {mode : ModeInstance}
    (modes_eq : history.modes = before ++ mode :: after) :
    history.tree.mode ⟨before.length⟩ = .ok mode ∧
      history.tree.modeIndex? ⟨before.length⟩ =
        some (before.countP (·.owner == mode.owner)) := by
  have mode_eq : history.modes[before.length]? = some mode := by
    rw [modes_eq, List.getElem?_append_right (Nat.le_refl _), Nat.sub_self]
    rfl
  have known := sound.owners mode (List.mem_of_getElem? mode_eq)
  obtain ⟨ownerNode, owner_eq⟩ := ReactorTree.exists_node_of_lt
    (Nat.lt_of_lt_of_eq known history.size_tree.symm)
  refine ⟨mode_tree_eq_ok.mpr mode_eq, ?_⟩
  have modeAt : history.tree.modes[before.length]? = some mode := mode_eq
  rw [ReactorTree.modeIndex?, modeAt, Option.bind_eq_bind, Option.bind_some,
    ReactorTree.node_eq_ok.mp owner_eq, Option.bind_eq_bind, Option.bind_some]
  obtain ⟨added, _, rfl⟩ := node_tree_eq_ok.mp owner_eq
  exact idxOf?_modesOf modes_eq

/-- An instance keeps what it was added with. -/
theorem node_tree_of_added
    {before after : List ReactorInstance}
    {added : ReactorInstance}
    (instances_eq : history.instances = before ++ added :: after) :
    history.tree.node ⟨before.length⟩ = .ok (history.furnished ⟨before.length⟩ added) := by
  refine node_tree_eq_ok.mpr ⟨added, ?_, rfl⟩
  rw [instances_eq, List.getElem?_append_right (Nat.le_refl _), Nat.sub_self]
  rfl

end TreeHistory

/-- The tree keeps what was added to it, whatever was added later. -/
structure ReactorTree.Keeps (tree : ReactorTree) (history : TreeHistory) : Prop where
  child : ∀ {before after : List TreeAddition} {parent : InstanceId} {name : String}
      {reactorClass : ClassId},
    history.additions = before ++ .child parent name reactorClass :: after ->
      ∃ earlier id next node,
        TreeHistory.build { history with additions := before } = .ok earlier ∧
          earlier.addChild parent name reactorClass = .ok (id, next) ∧
          tree.node id = .ok node ∧ node.name = name ∧
          node.reactorClass = reactorClass ∧ node.parent = some parent
  mode : ∀ {before after : List TreeAddition} {owner : InstanceId} {name : String},
    history.additions = before ++ .mode owner name :: after ->
      ∃ earlier id next,
        TreeHistory.build { history with additions := before } = .ok earlier ∧
          earlier.addMode owner name = .ok (id, next) ∧
          tree.mode id = .ok ⟨name, owner⟩ ∧
          tree.modeIndex? id = some (before.countP (·.isModeOf owner))
  /-- Children and modes stand in the order in which they were added. -/
  tables : ∀ {id : InstanceId} {node : ReactorInstance}, tree.node id = .ok node ->
    node.children = history.childrenOf id ∧ node.modes = history.modesOf id

namespace TreeHistory

variable {history : TreeHistory}

theorem targetsExist_append
    {size : Nat}
    {before after : List TreeAddition}
    (exist : TargetsExist size (before ++ after)) :
    TargetsExist size before ∧ TargetsExist (size + before.countP isChild) after := by
  induction before generalizing size with
  | nil => exact ⟨trivial, exist⟩
  | cons addition rest inductionHypothesis =>
    obtain ⟨known, restExist⟩ := exist
    obtain ⟨restBefore, afterExist⟩ := inductionHypothesis restExist
    refine ⟨⟨known, restBefore⟩, ?_⟩
    rw [List.countP_cons, Nat.add_comm (rest.countP _), ← Nat.add_assoc]
    cases addition <;> exact afterExist

theorem length_instances (history : TreeHistory) :
    history.instances.length = 1 + history.additions.countP isChild := by
  rw [instances, List.length_cons, List.length_filterMap_eq_countP, Nat.add_comm]
  rfl

/-- The history before one of its additions is sound, and the addition is to an instance
that is there. -/
theorem sound_before
    (rootName : String)
    (rootClass : ClassId)
    {before after : List TreeAddition}
    {addition : TreeAddition}
    (exist : TargetsExist 1 (before ++ addition :: after)) :
    ∃ earlier : TreeHistory, earlier = ⟨rootName, rootClass, before⟩ ∧ earlier.Sound ∧
      earlier.build = .ok earlier.tree ∧
        addition.target.index < earlier.instances.length := by
  obtain ⟨beforeExist, known, _⟩ := targetsExist_append exist
  refine ⟨_, rfl, ?_⟩
  obtain ⟨sound, build_eq⟩ := build_eq ⟨rootName, rootClass, before⟩ beforeExist
  refine ⟨sound, build_eq, ?_⟩
  rw [length_instances]
  exact known

theorem countP_modes (history : TreeHistory) (owner : InstanceId) :
    history.modes.countP (·.owner == owner) = history.additions.countP (·.isModeOf owner) := by
  rw [modes, List.countP_filterMap]
  refine List.countP_congr fun addition _ => ?_
  cases addition <;> rfl

theorem keeps_tree
    (exist : TargetsExist 1 history.additions) :
    history.tree.Keeps history := by
  obtain ⟨sound, _⟩ := history.build_eq exist
  constructor
  case child =>
    intro before after parent name reactorClass additions_eq
    rw [additions_eq] at exist
    obtain ⟨earlier, earlier_eq, earlierSound, built, known⟩ :=
      sound_before history.rootName history.rootClass exist
    have instances_eq : history.instances =
        earlier.instances ++ .ofName name reactorClass (some parent) ::
          after.filterMap TreeAddition.instance? := by
      rw [instances, additions_eq, List.filterMap_append, earlier_eq, instances]
      rfl
    rw [← earlier_eq]
    exact ⟨_, _, _, _, built, earlierSound.addChild_tree known name reactorClass,
      node_tree_of_added instances_eq, rfl, rfl, rfl⟩
  case mode =>
    intro before after owner name additions_eq
    rw [additions_eq] at exist
    obtain ⟨earlier, earlier_eq, _, built, known⟩ :=
      sound_before history.rootName history.rootClass exist
    have modes_eq : history.modes =
        earlier.modes ++ ⟨name, owner⟩ :: after.filterMap TreeAddition.mode? := by
      rw [modes, additions_eq, List.filterMap_append, earlier_eq, modes]
      rfl
    obtain ⟨mode_eq, index_eq⟩ := sound.modeIndex?_tree modes_eq
    rw [countP_modes] at index_eq
    rw [← earlier_eq]
    refine ⟨_, _, _, built, earlier.addMode_tree known name, mode_eq, ?_⟩
    rw [index_eq, earlier_eq]
  case tables =>
    intro id node node_eq
    obtain ⟨added, _, rfl⟩ := node_tree_eq_ok.mp node_eq
    exact ⟨rfl, rfl⟩

/-- A tree to which nothing is added where there is no instance is built.  Its listing is
found by recursion and by a walk with a stack; it has every instance once, in front of
what lives under it.  Every instance is listed by its parent only, every mode by its owner
only, in the position in which it was added. -/
theorem exists_build
    (history : TreeHistory)
    (exist : TargetsExist 1 history.additions) :
    ∃ tree listing, history.build = .ok tree ∧
      tree.ListedBy listing ∧
      (∀ rounds, ∃ walk, tree.walkAfter rounds = .ok walk ∧
        walk.visited = listing.take rounds ∧ (walk.waiting = [] ↔ tree.size ≤ rounds)) ∧
      tree.Linked ∧
      tree.Keeps history := by
  obtain ⟨sound, built⟩ := history.build_eq exist
  have ordered := sound.grown.ordered
  have ascend := history.siblingsAscend_tree
  exact ⟨_, _, built, ordered.listedBy ascend, ordered.exists_walkAfter ascend,
    sound.linked, keeps_tree exist⟩

end TreeHistory

/-! A tree with two modes of one instance, between which others are added. -/

namespace Shipyard

def history : TreeHistory where
  rootName := "Yard"
  rootClass := ⟨0⟩
  additions := [
    .child ⟨0⟩ "dock" ⟨1⟩,
    .mode ⟨1⟩ "Flooded",
    .child ⟨0⟩ "slip" ⟨1⟩,
    .mode ⟨0⟩ "Open",
    .child ⟨1⟩ "crane" ⟨2⟩,
    .mode ⟨1⟩ "Dry",
    .child ⟨2⟩ "winch" ⟨2⟩
  ]

/-- The crane was added after the slip but is listed before it, and the mode that was
added last is the second one of the dock. -/
theorem history_built :
    TreeAddition.TargetsExist 1 history.additions ∧
      ∃ tree : ReactorTree, history.build = .ok tree ∧
        tree.ListedBy [⟨0⟩, ⟨1⟩, ⟨3⟩, ⟨2⟩, ⟨4⟩] ∧
        tree.Linked ∧
        tree.Keeps history ∧
        tree.modeIndex? ⟨2⟩ = some 1 := by
  have exist : TreeAddition.TargetsExist 1 history.additions := by decide
  obtain ⟨tree, listing, built, listed, _, linked, keeps⟩ := history.exists_build exist
  obtain rfl : history.tree = tree := Except.ok.inj built
  have listing_eq : listing = [⟨0⟩, ⟨1⟩, ⟨3⟩, ⟨2⟩, ⟨4⟩] :=
    Except.ok.inj (listed.preorder.symm.trans rfl)
  rw [listing_eq] at listed
  exact ⟨exist, _, built, listed, linked, keeps, rfl⟩

end Shipyard
end ReactorGen
