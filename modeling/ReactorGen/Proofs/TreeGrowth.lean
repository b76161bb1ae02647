import ReactorGen.Proofs.SelfVariables

/-!
# How trees grow

A tree starts with its root.  Instances are added below instances that are there,
modes are added to instances, and an instance may get other contents as long as it
keeps its place.  However a tree is grown, every instance but the root stands behind
its parent in the table, and the children of an instance are those that name it as
their parent.  So the path from an instance to the root ends, and it passes exactly
one child of the root.
-/

namespace ReactorGen
namespace ReactorTree

/-! ## Steps -/

/-- The tree with other contents of an instance. -/
def refurnish
    (tree : ReactorTree)
    (id : InstanceId)
    (node : ReactorInstance) : ReactorTree :=
  { tree with instances := tree.instances.set id.index node }

/-- One step of building a tree. -/
inductive Step (tree : ReactorTree) : ReactorTree -> Prop
  /-- Add an instance below one that is there; an instance has no id before it is
  added. -/
  | addChild
      {parent id : InstanceId}
      {next : ReactorTree}
      (name : String)
      (reactorClass : ClassId)
      (known : parent.index < tree.size)
      (added : tree.addChild parent name reactorClass = .ok (id, next)) :
      Step tree next
  /-- Add a mode to an instance. -/
  | addMode
      {owner : InstanceId}
      {id : ModeId}
      {next : ReactorTree}
      (name : String)
      (added : tree.addMode owner name = .ok (id, next)) :
      Step tree next
  /-- Give an instance other contents in the same place. -/
  | refurnish
      {id : InstanceId}
      {node changed : ReactorInstance}
      (node_eq : tree.node id = .ok node)
      (sameParent : changed.parent = node.parent)
      (sameChildren : changed.children = node.children) :
      Step tree (tree.refurnish id changed)

/-- A tree that is built step by step from its root. -/
inductive Grown : ReactorTree -> Prop
  | ofRoot (name : String) (reactorClass : ClassId) : Grown (ofRoot name reactorClass)
  | step {tree next : ReactorTree} (grown : Grown tree) (step : Step tree next) :
      Grown next

/-- A tree in which parents come first. -/
structure Ordered (tree : ReactorTree) : Prop where
  root : ∃ node, tree.node root = .ok node ∧ node.parent = none
  parent : ∀ {id : InstanceId} {node : ReactorInstance}, tree.node id = .ok node ->
    id ≠ ReactorTree.root ->
    ∃ parent, node.parent = some parent ∧ parent.index < id.index
  /-- The children of an instance are those that name it as their parent. -/
  children : ∀ {id : InstanceId} {node : ReactorInstance}, tree.node id = .ok node ->
    ∀ child, child ∈ node.children ↔
      ∃ childNode, tree.node child = .ok childNode ∧ childNode.parent = some id

/-! ## What one step does -/

theorem node_eq_ok
    {tree : ReactorTree}
    {id : InstanceId}
    {node : ReactorInstance} :
    tree.node id = .ok node ↔ tree.instances[id.index]? = some node :=
  Result.orDangling_eq_ok

theorem lt_size_of_node
    {tree : ReactorTree}
    {id : InstanceId}
    {node : ReactorInstance}
    (node_eq : tree.node id = .ok node) :
    id.index < tree.size :=
  (List.getElem?_eq_some_iff.mp (node_eq_ok.mp node_eq)).1

/-- Where an instance stands in its tree. -/
def place (node : ReactorInstance) : Option InstanceId × List InstanceId :=
  (node.parent, node.children)

/-- Two trees with the same instances in the same places. -/
def SamePlaces (first second : ReactorTree) : Prop :=
  ∀ index : Nat, (first.instances[index]?).map place = (second.instances[index]?).map place

theorem SamePlaces.symm
    {first second : ReactorTree}
    (same : first.SamePlaces second) :
    second.SamePlaces first :=
  fun index => (same index).symm

theorem SamePlaces.exists_node
    {first second : ReactorTree}
    (same : first.SamePlaces second)
    {id : InstanceId}
    {node : ReactorInstance}
    (node_eq : first.node id = .ok node) :
    ∃ other, second.node id = .ok other ∧ other.parent = node.parent ∧
      other.children = node.children := by
  have places := same id.index
  rw [node_eq_ok.mp node_eq, Option.map_some] at places
  obtain ⟨other, other_eq, place_eq⟩ := Option.map_eq_some_iff.mp places.symm
  obtain ⟨parent_eq, children_eq⟩ := Prod.mk.inj place_eq
  exact ⟨other, node_eq_ok.mpr other_eq, parent_eq, children_eq⟩

/-- The order of a tree depends on the places of its instances only. -/
theorem Ordered.of_samePlaces
    {tree next : ReactorTree}
    (ordered : tree.Ordered)
    (same : tree.SamePlaces next) :
    next.Ordered := by
  constructor
  case root =>
    obtain ⟨node, node_eq, isRoot⟩ := ordered.root
    obtain ⟨other, other_eq, parent_eq, _⟩ := same.exists_node node_eq
    exact ⟨other, other_eq, parent_eq.trans isRoot⟩
  case parent =>
    intro id node node_eq notRoot
    obtain ⟨before, before_eq, parent_eq, _⟩ := same.symm.exists_node node_eq
    rw [← parent_eq]
    exact ordered.parent before_eq notRoot
  case children =>
    intro id node node_eq child
    obtain ⟨before, before_eq, _, children_eq⟩ := same.symm.exists_node node_eq
    rw [← children_eq, ordered.children before_eq]
    constructor
    · rintro ⟨childNode, child_eq, isParent⟩
      obtain ⟨other, other_eq, parent_eq, _⟩ := same.exists_node child_eq
      exact ⟨other, other_eq, parent_eq.trans isParent⟩
    · rintro ⟨childNode, child_eq, isParent⟩
      obtain ⟨other, other_eq, parent_eq, _⟩ := same.symm.exists_node child_eq
      exact ⟨other, other_eq, parent_eq.trans isParent⟩

variable {tree next : ReactorTree}

theorem samePlaces_of_addMode
    {owner : InstanceId}
    {id : ModeId}
    {name : String}
    (added : tree.addMode owner name = .ok (id, next)) :
    tree.SamePlaces next := by
  rw [addMode] at added
  split at added
  case isFalse => exact absurd added (by simp)
  case isTrue =>
    obtain ⟨rfl, rfl⟩ := Prod.mk.inj (Except.ok.inj added)
    intro index
    rw [List.getElem?_modify]
    cases tree.instances[index]? with
    | none => rfl
    | some node =>
      simp only [Option.map_some, Option.map_eq_map, Option.some.injEq]
      split <;> rfl

theorem samePlaces_refurnish
    {id : InstanceId}
    {node changed : ReactorInstance}
    (node_eq : tree.node id = .ok node)
    (sameParent : changed.parent = node.parent)
    (sameChildren : changed.children = node.children) :
    tree.SamePlaces (tree.refurnish id changed) := by
  intro index
  rw [refurnish, List.getElem?_set]
  split
  case isFalse => rfl
  case isTrue here =>
    subst here
    have inside : id.index < tree.instances.length := lt_size_of_node node_eq
    rw [if_pos inside, node_eq_ok.mp node_eq, Option.map_some, Option.map_some, place,
      place, sameParent, sameChildren]

/-- A tree with one more instance below `parent`, of which nothing else changes. -/
structure Added
    (tree next : ReactorTree)
    (parent id : InstanceId)
    (child : ReactorInstance) : Prop where
  known : parent.index < tree.size
  last : id.index = tree.size
  isChild : child.parent = some parent ∧ child.children = []
  new : next.node id = .ok child
  old : ∀ {other : InstanceId}, other ≠ id -> ∀ {node : ReactorInstance},
    next.node other = .ok node ↔
      ∃ before, tree.node other = .ok before ∧
        node = if other = parent then
          { before with children := before.children ++ [id] } else before

theorem added_of_addChild
    {parent id : InstanceId}
    {name : String}
    {reactorClass : ClassId}
    (known : parent.index < tree.size)
    (added : tree.addChild parent name reactorClass = .ok (id, next)) :
    tree.Added next parent id (.ofName name reactorClass (some parent)) := by
  simp only [addChild] at added
  split at added
  case isFalse => exact absurd added (by simp)
  case isTrue =>
    obtain ⟨rfl, rfl⟩ := Prod.mk.inj (Except.ok.inj added)
    have notNew : parent.index ≠ tree.instances.length := Nat.ne_of_lt known
    refine ⟨known, rfl, ⟨rfl, rfl⟩, ?_, ?_⟩
    · simp only [node_eq_ok, size, List.getElem?_modify, List.getElem?_concat_length,
        Option.map_eq_map, Option.map_some, if_neg notNew]
    · intro other different node
      have notLast : other.index ≠ tree.instances.length := by
        intro equal
        exact different (congrArg InstanceId.mk equal)
      have sameIndex : parent.index = other.index ↔ other = parent := by
        cases other
        cases parent
        rw [InstanceId.mk.injEq]
        exact eq_comm
      have old : (tree.instances ++ [ReactorInstance.ofName name reactorClass
          (some parent)])[other.index]? = tree.instances[other.index]? := by
        rcases Nat.lt_or_gt_of_ne notLast with inside | outside
        · exact List.getElem?_append_left inside
        · have beyond : (tree.instances ++ [ReactorInstance.ofName name reactorClass
              (some parent)]).length ≤ other.index := by
            rw [List.length_append, List.length_singleton]
            omega
          rw [List.getElem?_eq_none beyond, List.getElem?_eq_none (Nat.le_of_lt outside)]
      simp only [node_eq_ok, List.getElem?_modify, old, Option.map_eq_map,
        Option.map_eq_some_iff, sameIndex, size, eq_comm (a := node)]

/-- Every parent stands before its children. -/
theorem Ordered.lt_of_parent
    (ordered : tree.Ordered)
    {id parent : InstanceId}
    {node : ReactorInstance}
    (node_eq : tree.node id = .ok node)
    (parent_eq : node.parent = some parent) :
    parent.index < id.index := by
  have notRoot : id ≠ ReactorTree.root := by
    rintro rfl
    obtain ⟨rootNode, root_eq, noParent⟩ := ordered.root
    obtain rfl := Except.ok.inj (root_eq.symm.trans node_eq)
    exact Option.some_ne_none parent (parent_eq.symm.trans noParent)
  obtain ⟨above, above_eq, earlier⟩ := ordered.parent node_eq notRoot
  obtain rfl := Option.some.inj (parent_eq.symm.trans above_eq)
  exact earlier

namespace Added

variable
  {parent id other : InstanceId}
  {child node : ReactorInstance}
  (added : tree.Added next parent id child)

include added

/-- The new instance was not there before. -/
theorem ne_of_node (node_eq : tree.node other = .ok node) : other ≠ id := by
  rintro rfl
  have inside := lt_size_of_node node_eq
  have last := added.last
  omega

/-- The other instances keep their parents. -/
theorem exists_old_iff
    (isOld : other ≠ id)
    (above : InstanceId) :
    (∃ node, next.node other = .ok node ∧ node.parent = some above) ↔
      ∃ node, tree.node other = .ok node ∧ node.parent = some above := by
  simp only [added.old isOld]
  constructor
  · rintro ⟨_, ⟨before, before_eq, rfl⟩, isParent⟩
    refine ⟨before, before_eq, ?_⟩
    split at isParent <;> exact isParent
  · rintro ⟨before, before_eq, isParent⟩
    refine ⟨_, ⟨before, before_eq, rfl⟩, ?_⟩
    split <;> exact isParent

/-- The new instance is a child of its parent, and no other relation is new. -/
theorem exists_child_iff (above : InstanceId) :
    (∃ node, next.node other = .ok node ∧ node.parent = some above) ↔
      (other = id ∧ above = parent) ∨
        ∃ node, tree.node other = .ok node ∧ node.parent = some above := by
  by_cases isNew : other = id
  · subst isNew
    have notOld : ¬∃ node, tree.node other = .ok node ∧ node.parent = some above :=
      fun ⟨_, node_eq, _⟩ => added.ne_of_node node_eq rfl
    simp [added.new, added.isChild.1, notOld, eq_comm (a := above)]
  · simp only [added.exists_old_iff isNew, isNew, false_and, false_or]

/-- The new instance has no children yet. -/
theorem not_exists_child
    (ordered : tree.Ordered) :
    ¬∃ node, tree.node other = .ok node ∧ node.parent = some id := by
  rintro ⟨node, node_eq, parent_eq⟩
  have inside := lt_size_of_node node_eq
  have earlier := ordered.lt_of_parent node_eq parent_eq
  have last := added.last
  omega

theorem ordered (ordered : tree.Ordered) : next.Ordered := by
  constructor
  case root =>
    obtain ⟨node, node_eq, isRoot⟩ := ordered.root
    refine ⟨_, (added.old (added.ne_of_node node_eq)).mpr ⟨node, node_eq, rfl⟩, ?_⟩
    split <;> exact isRoot
  case parent =>
    intro other node node_eq notRoot
    by_cases isNew : other = id
    · subst isNew
      obtain rfl := Except.ok.inj (added.new.symm.trans node_eq)
      refine ⟨parent, added.isChild.1, ?_⟩
      rw [added.last]
      exact added.known
    · obtain ⟨before, before_eq, rfl⟩ := (added.old isNew).mp node_eq
      obtain ⟨above, above_eq, earlier⟩ := ordered.parent before_eq notRoot
      refine ⟨above, ?_, earlier⟩
      split <;> exact above_eq
  case children =>
    intro other node node_eq child
    rw [added.exists_child_iff]
    by_cases isNew : other = id
    · subst isNew
      obtain rfl := Except.ok.inj (added.new.symm.trans node_eq)
      have notParent : other ≠ parent := by
        rintro rfl
        exact Nat.ne_of_lt added.known added.last
      simp [added.isChild.2, notParent, added.not_exists_child ordered]
    · obtain ⟨before, before_eq, rfl⟩ := (added.old isNew).mp node_eq
      rw [← ordered.children before_eq]
      by_cases isParent : other = parent
      · simp [isParent, or_comm]
      · simp [isParent]

end Added

/-- Every step keeps parents in front of their children. -/
theorem Ordered.step
    (ordered : tree.Ordered)
    (step : tree.Step next) :
    next.Ordered := by
  cases step with
  | addChild name reactorClass known added =>
    exact (added_of_addChild known added).ordered ordered
  | addMode name added => exact ordered.of_samePlaces (samePlaces_of_addMode added)
  | refurnish node_eq sameParent sameChildren =>
    exact ordered.of_samePlaces (samePlaces_refurnish node_eq sameParent sameChildren)

theorem ordered_ofRoot (name : String) (reactorClass : ClassId) :
    (ofRoot name reactorClass).Ordered := by
  have only : ∀ {id : InstanceId} {node : ReactorInstance},
      (ofRoot name reactorClass).node id = .ok node ->
        id = ReactorTree.root ∧ node = .ofName name reactorClass none := by
    intro id node node_eq
    have first := lt_size_of_node node_eq
    obtain ⟨index⟩ := id
    obtain rfl : index = 0 := Nat.lt_one_iff.mp first
    exact ⟨rfl, (Except.ok.inj node_eq).symm⟩
  constructor
  case root => exact ⟨_, rfl, rfl⟩
  case parent =>
    intro id node node_eq notRoot
    exact absurd (only node_eq).1 notRoot
  case children =>
    intro id node node_eq child
    obtain ⟨rfl, rfl⟩ := only node_eq
    constructor
    · intro member
      exact absurd member List.not_mem_nil
    · rintro ⟨childNode, child_eq, isParent⟩
      obtain ⟨_, rfl⟩ := only child_eq
      exact absurd isParent (by simp [ReactorInstance.ofName])

/-- In a tree that is built step by step, parents come first. -/
theorem Grown.ordered
    (grown : tree.Grown) :
    tree.Ordered := by
  induction grown with
  | ofRoot name reactorClass => exact ordered_ofRoot name reactorClass
  | step _ step inductionHypothesis => exact inductionHypothesis.step step

/-! ## The way to the root -/

/-- Whether an instance is another one or lives below it. -/
inductive LivesUnder (tree : ReactorTree) (top : InstanceId) : InstanceId -> Prop
  | itself : LivesUnder tree top top
  | child
      {id parent : InstanceId}
      {node : ReactorInstance}
      (node_eq : tree.node id = .ok node)
      (parent_eq : node.parent = some parent)
      (above : LivesUnder tree top parent) :
      LivesUnder tree top id

/-- A child of the root. -/
def IsTopLevel (tree : ReactorTree) (top : InstanceId) : Prop :=
  ∃ node, tree.node top = .ok node ∧ node.parent = some root

/-- The ancestry of an instance is that of its parent behind the instance. -/
theorem ancestryWithin_of_parent
    {id parent : InstanceId}
    {node : ReactorInstance}
    (node_eq : tree.node id = .ok node)
    (parent_eq : node.parent = some parent)
    (bound : Nat) :
    tree.ancestryWithin (bound + 1) id =
      (tree.ancestryWithin bound parent).map fun rest => (id, node) :: rest := by
  rw [ancestryWithin, node_eq, Result.ok_bind]
  simp only [parent_eq]
  cases tree.ancestryWithin bound parent with
  | error reference => rfl
  | ok rest => rfl

namespace Ordered

variable
  {id : InstanceId}
  {node : ReactorInstance}

theorem ancestryWithin_root
    (ordered : tree.Ordered)
    (bound : Nat) :
    ∃ node, tree.ancestryWithin (bound + 1) ReactorTree.root =
      .ok [(ReactorTree.root, node)] := by
  obtain ⟨node, node_eq, isRoot⟩ := ordered.root
  refine ⟨node, ?_⟩
  rw [ancestryWithin, node_eq, Result.ok_bind]
  simp only [isRoot]
  rfl

/-- The way from an instance to the root passes a child of the root just before it
ends. -/
theorem exists_ancestryWithin
    (ordered : tree.Ordered)
    {bound : Nat}
    (node_eq : tree.node id = .ok node)
    (notRoot : id ≠ ReactorTree.root)
    (enough : id.index < bound) :
    ∃ before top topNode rootNode,
      tree.ancestryWithin bound id =
          .ok (before ++ [(top, topNode), (ReactorTree.root, rootNode)]) ∧
        tree.IsTopLevel top ∧ tree.LivesUnder top id := by
  induction bound generalizing id node with
  | zero => exact absurd enough (Nat.not_lt_zero _)
  | succ bound inductionHypothesis =>
    obtain ⟨parent, parent_eq, earlier⟩ := ordered.parent node_eq notRoot
    have parentBound : parent.index < bound := by omega
    rw [ancestryWithin_of_parent node_eq parent_eq]
    by_cases parentIsRoot : parent = ReactorTree.root
    · subst parentIsRoot
      obtain ⟨bound, rfl⟩ := Nat.exists_eq_add_one_of_ne_zero (Nat.ne_zero_of_lt parentBound)
      obtain ⟨rootNode, root_eq⟩ := ordered.ancestryWithin_root bound
      refine ⟨[], id, node, rootNode, ?_, ⟨node, node_eq, parent_eq⟩, .itself⟩
      rw [root_eq]
      rfl
    · obtain ⟨parentNode, parentNode_eq⟩ : ∃ parentNode, tree.node parent = .ok parentNode := by
        have inside : parent.index < tree.instances.length :=
          Nat.lt_trans earlier (lt_size_of_node node_eq)
        exact ⟨_, node_eq_ok.mpr (List.getElem?_eq_getElem inside)⟩
      obtain ⟨before, top, topNode, rootNode, found, isTop, under⟩ :=
        inductionHypothesis parentNode_eq parentIsRoot parentBound
      refine ⟨(id, node) :: before, top, topNode, rootNode, ?_, isTop,
        .child node_eq parent_eq under⟩
      rw [found]
      rfl

theorem topLevelAncestor?_root
    (ordered : tree.Ordered) :
    tree.topLevelAncestor? ReactorTree.root = .ok none := by
  obtain ⟨node, root_eq⟩ := ordered.ancestryWithin_root tree.size
  rw [topLevelAncestor?, ancestry, root_eq, Result.ok_bind]
  rfl

/-- Every instance but the root lives below a child of the root. -/
theorem exists_topLevelAncestor?
    (ordered : tree.Ordered)
    (node_eq : tree.node id = .ok node)
    (notRoot : id ≠ ReactorTree.root) :
    ∃ top, tree.topLevelAncestor? id = .ok (some top) ∧
      tree.IsTopLevel top ∧ tree.LivesUnder top id := by
  have enough : id.index < tree.size + 1 :=
    Nat.lt_succ_of_lt (lt_size_of_node node_eq)
  obtain ⟨before, top, topNode, rootNode, found, isTop, under⟩ :=
    ordered.exists_ancestryWithin node_eq notRoot enough
  refine ⟨top, ?_, isTop, under⟩
  rw [topLevelAncestor?, ancestry, found, Result.ok_bind, List.reverse_append]
  rfl

/-- Every instance has a path. -/
theorem exists_ancestry
    (ordered : tree.Ordered)
    (node_eq : tree.node id = .ok node) :
    ∃ ancestry, tree.ancestry id = .ok ancestry := by
  by_cases isRoot : id = ReactorTree.root
  · obtain ⟨rootNode, root_eq⟩ := ordered.ancestryWithin_root tree.size
    rw [isRoot]
    exact ⟨_, root_eq⟩
  · have enough : id.index < tree.size + 1 :=
      Nat.lt_succ_of_lt (lt_size_of_node node_eq)
    obtain ⟨before, top, topNode, rootNode, found, _⟩ :=
      ordered.exists_ancestryWithin node_eq isRoot enough
    exact ⟨_, found⟩

/-- Every instance has a full name and a self variable. -/
theorem exists_names
    (ordered : tree.Ordered)
    (node_eq : tree.node id = .ok node) :
    ∃ path owner, tree.fullName id = .ok path ∧
      Naming.selfVariable tree id = .ok owner := by
  obtain ⟨ancestry, ancestry_eq⟩ := ordered.exists_ancestry node_eq
  obtain ⟨path, path_eq⟩ : ∃ path, tree.fullName id = .ok path := by
    rw [fullName, ancestry_eq]
    exact ⟨_, rfl⟩
  refine ⟨path, Text.underscored path ++ "_self", path_eq, ?_⟩
  rw [Naming.selfVariable, Naming.flatPath, path_eq]
  rfl

end Ordered
end ReactorTree
end ReactorGen
