import Mathlib.Data.List.Induction
import Mathlib.Data.List.Nodup
import ReactorGen.Proofs.GenerationStages

/-!
# Listings of a tree

In a tree that is built from its root, children stand behind their parents and behind
the siblings that were added before them.  So the listing of an instance is the instance
and the listings of its children in their order, without any bound on the depth: it has
everything that lives under the instance once, and every instance before what lives
under it.  A walk that keeps the instances it has yet to visit on a stack visits them in
the order of this listing.
-/

namespace ReactorGen
namespace ReactorTree

/-- An instance and everything below it, in the order in which it is listed. -/
def subtree (tree : ReactorTree) (id : InstanceId) : List InstanceId :=
  match tree.listingWithin (tree.size + 1) id with
  | .ok listing => listing
  | .error _ => []

/-- The children of every instance stand in the order of their ids. -/
def SiblingsAscend (tree : ReactorTree) : Prop :=
  ∀ (id : InstanceId) (node : ReactorInstance), tree.node id = .ok node ->
    node.children.Pairwise fun first second => first.index < second.index

/-- A listing of a tree, each instance in front of what lives under it. -/
structure ListedBy (tree : ReactorTree) (listing : List InstanceId) : Prop where
  preorder : tree.preorder = .ok listing
  /-- The listing of an instance is the instance, then the listings of its children. -/
  recursive : listing = tree.subtree root ∧
    ∀ {id : InstanceId} {node : ReactorInstance}, tree.node id = .ok node ->
      tree.subtree id = id :: node.children.flatMap tree.subtree
  head : listing.head? = some root
  once : ∀ id : InstanceId, listing.count id = if id.index < tree.size then 1 else 0
  parentsFirst : ∀ {top other : InstanceId}, other.index < tree.size ->
    tree.LivesUnder top other -> top ≠ other -> listing.idxOf top < listing.idxOf other
  /-- What lives under an instance is listed in one piece. -/
  contiguous : ∀ {id : InstanceId}, id.index < tree.size ->
    tree.subtree id <:+: listing ∧
      ∀ other, other ∈ tree.subtree id ↔ tree.LivesUnder id other

/-- A walk through a tree: the instances that were visited, and the stack of those that
wait to be visited, the next one last. -/
structure Walk where
  visited : List InstanceId
  waiting : List InstanceId
deriving DecidableEq, Repr

/-- A walk before its first round. -/
def Walk.start : Walk := ⟨[], [root]⟩

/-- One round of a walk: visit the next instance and put its children on the stack, the
first one on top.  A walk that has nothing to visit has ended. -/
def Walk.next (walk : Walk) (tree : ReactorTree) : Except DanglingReference Walk :=
  match walk.waiting.getLast? with
  | none => .ok walk
  | some id => do
    let node ← tree.node id
    return ⟨walk.visited ++ [id], walk.waiting.dropLast ++ node.children.reverse⟩

/-- The walk through a tree after some rounds. -/
def walkAfter (tree : ReactorTree) : Nat -> Except DanglingReference Walk
  | 0 => .ok .start
  | rounds + 1 => do (← tree.walkAfter rounds).next tree

variable
  {tree : ReactorTree}
  {id : InstanceId}
  {node : ReactorInstance}

theorem exists_node_of_lt
    (inside : id.index < tree.size) :
    ∃ node, tree.node id = .ok node :=
  ⟨_, node_eq_ok.mpr (List.getElem?_eq_getElem inside)⟩

/-! ## The listing without its bound -/

/-- A listing that ends within a bound ends in the same way within a larger one. -/
theorem listingWithin_of_le
    {bound larger : Nat}
    (le : bound ≤ larger)
    {listing : List InstanceId}
    (listed : tree.listingWithin bound id = .ok listing) :
    tree.listingWithin larger id = .ok listing := by
  induction bound generalizing id listing larger with
  | zero => exact absurd listed (by simp [listingWithin])
  | succ bound inductionHypothesis =>
    obtain ⟨larger, rfl⟩ := Nat.exists_eq_add_one_of_ne_zero (Nat.ne_zero_of_lt le)
    obtain ⟨node, node_eq, below, below_eq, rfl⟩ := listingWithin_succ_eq_ok.mp listed
    refine listingWithin_succ_eq_ok.mpr ⟨node, node_eq, below, ?_, rfl⟩
    rw [Result.mapM_eq_ok] at below_eq ⊢
    exact below_eq.imp fun _ _ part_eq =>
      inductionHypothesis (Nat.le_of_succ_le_succ le) part_eq

namespace Ordered

/-- What holds of an instance if it holds of its children holds of all instances. -/
theorem descend
    (ordered : tree.Ordered)
    (motive : InstanceId -> Prop)
    (step : ∀ {id : InstanceId} {node : ReactorInstance}, tree.node id = .ok node ->
      (∀ child ∈ node.children, motive child) -> motive id)
    (node_eq : tree.node id = .ok node) :
    motive id := by
  -- The number of instances behind the instance goes down.
  generalize behind_eq : tree.size - id.index = behind
  induction behind using Nat.strongRecOn generalizing id node with
  | ind behind inductionHypothesis =>
    apply step node_eq
    intro child member
    obtain ⟨childNode, child_eq, behind_child⟩ := ordered.exists_child_node node_eq member
    have inside := lt_size_of_node child_eq
    exact inductionHypothesis _ (by omega) child_eq rfl

theorem listingWithin_eq
    (ordered : tree.Ordered)
    {bound : Nat}
    (node_eq : tree.node id = .ok node)
    (enough : tree.size < bound + id.index) :
    tree.listingWithin bound id = .ok (tree.subtree id) := by
  obtain ⟨listing, listed, _⟩ := ordered.exists_listingWithin node_eq enough
  have always : tree.size < tree.size + 1 + id.index := by omega
  obtain ⟨whole, whole_eq, _⟩ := ordered.exists_listingWithin node_eq always
  have same : listing = whole := by
    rcases Nat.le_total bound (tree.size + 1) with le | le
    · exact Except.ok.inj ((listingWithin_of_le le listed).symm.trans whole_eq)
    · exact Except.ok.inj (listed.symm.trans (listingWithin_of_le le whole_eq))
  rw [subtree, whole_eq, listed, same]

/-- The listing of an instance is the instance, then the listings of its children. -/
theorem subtree_eq
    (ordered : tree.Ordered)
    (node_eq : tree.node id = .ok node) :
    tree.subtree id = id :: node.children.flatMap tree.subtree := by
  have below_eq : node.children.mapM (tree.listingWithin tree.size) =
      .ok (node.children.map tree.subtree) := by
    rw [Result.mapM_eq_ok, List.forall₂_map_right_iff, List.forall₂_same]
    intro child member
    obtain ⟨childNode, child_eq, behind⟩ := ordered.exists_child_node node_eq member
    exact ordered.listingWithin_eq child_eq (by omega)
  rw [List.flatMap_def, subtree,
    listingWithin_succ_eq_ok.mpr ⟨node, node_eq, _, below_eq, rfl⟩]

/-- The instances of a tree can be listed, and the bound does not matter. -/
theorem preorder_eq (ordered : tree.Ordered) :
    tree.preorder = .ok (tree.subtree ReactorTree.root) := by
  obtain ⟨node, node_eq, _⟩ := ordered.root
  exact ordered.listingWithin_eq node_eq (Nat.lt_succ_self _)

end Ordered

/-! ## What lives under an instance -/

namespace LivesUnder

variable {top other third : InstanceId}

theorem trans
    (upper : tree.LivesUnder top other)
    (lower : tree.LivesUnder other third) :
    tree.LivesUnder top third := by
  induction lower with
  | itself => exact upper
  | child node_eq parent_eq _ inductionHypothesis =>
    exact .child node_eq parent_eq inductionHypothesis

/-- Of two instances under which a third one lives, one lives under the other. -/
theorem linear
    (first : tree.LivesUnder top third)
    (second : tree.LivesUnder other third) :
    tree.LivesUnder top other ∨ tree.LivesUnder other top := by
  induction first with
  | itself => exact .inr second
  | child node_eq parent_eq above inductionHypothesis =>
    cases second with
    | itself => exact .inl (.child node_eq parent_eq above)
    | child otherNode_eq otherParent_eq otherAbove =>
      obtain rfl := Except.ok.inj (node_eq.symm.trans otherNode_eq)
      obtain rfl := Option.some.inj (parent_eq.symm.trans otherParent_eq)
      exact inductionHypothesis otherAbove

end LivesUnder

namespace Ordered

variable {top other : InstanceId}

theorem le_of_livesUnder
    (ordered : tree.Ordered)
    (under : tree.LivesUnder top other) :
    top.index ≤ other.index := by
  induction under with
  | itself => exact Nat.le_refl _
  | child node_eq parent_eq _ inductionHypothesis =>
    exact Nat.le_trans inductionHypothesis
      (Nat.le_of_lt (ordered.lt_of_parent node_eq parent_eq))

/-- Nothing lives under two children of one instance. -/
theorem eq_of_livesUnder
    (ordered : tree.Ordered)
    (node_eq : tree.node id = .ok node)
    {first second : InstanceId}
    (firstChild : first ∈ node.children)
    (secondChild : second ∈ node.children)
    (underFirst : tree.LivesUnder first other)
    (underSecond : tree.LivesUnder second other) :
    first = second := by
  -- If one of them lived under the other, their parent would as well.
  have apart : ∀ {left right : InstanceId}, left ∈ node.children ->
      right ∈ node.children -> tree.LivesUnder left right -> left = right := by
    intro left right leftChild rightChild under
    cases under with
    | itself => rfl
    | child right_eq parent_eq above =>
      obtain ⟨rightNode, right_eq', isParent⟩ := (ordered.children node_eq right).mp rightChild
      obtain rfl := Except.ok.inj (right_eq.symm.trans right_eq')
      obtain rfl := Option.some.inj (parent_eq.symm.trans isParent)
      obtain ⟨_, _, behind⟩ := ordered.exists_child_node node_eq leftChild
      exact absurd (ordered.le_of_livesUnder above) (Nat.not_le.mpr behind)
  rcases underFirst.linear underSecond with under | under
  · exact apart firstChild secondChild under
  · exact (apart secondChild firstChild under).symm

theorem livesUnder_of_child
    (ordered : tree.Ordered)
    (node_eq : tree.node id = .ok node)
    {child : InstanceId}
    (member : child ∈ node.children) :
    tree.LivesUnder id child := by
  obtain ⟨childNode, child_eq, parent_eq⟩ := (ordered.children node_eq child).mp member
  exact .child child_eq parent_eq .itself

theorem livesUnder_of_mem_subtree
    (ordered : tree.Ordered)
    (node_eq : tree.node id = .ok node) :
    ∀ other ∈ tree.subtree id, tree.LivesUnder id other := by
  refine ordered.descend (fun id => ∀ other ∈ tree.subtree id, tree.LivesUnder id other)
    ?_ node_eq
  intro id node node_eq inductionHypothesis other member
  rw [ordered.subtree_eq node_eq, List.mem_cons, List.mem_flatMap] at member
  rcases member with rfl | ⟨child, isChild, inChild⟩
  · exact .itself
  · exact (ordered.livesUnder_of_child node_eq isChild).trans
      (inductionHypothesis child isChild other inChild)

/-- What is listed below an instance is listed in one piece wherever the instance is
listed. -/
theorem subtree_infix
    (ordered : tree.Ordered)
    (node_eq : tree.node id = .ok node) :
    ∀ other ∈ tree.subtree id, tree.subtree other <:+: tree.subtree id := by
  refine ordered.descend
    (fun id => ∀ other ∈ tree.subtree id, tree.subtree other <:+: tree.subtree id) ?_ node_eq
  intro id node node_eq inductionHypothesis other member
  have unfolded := ordered.subtree_eq node_eq
  rw [unfolded, List.mem_cons, List.mem_flatMap] at member
  rcases member with rfl | ⟨child, isChild, inChild⟩
  · exact List.infix_rfl
  · have inPart := inductionHypothesis child isChild other inChild
    obtain ⟨before, after, children_eq⟩ := List.append_of_mem isChild
    have part : tree.subtree child <:+: node.children.flatMap tree.subtree := by
      rw [children_eq, List.flatMap_append, List.flatMap_cons, ← List.append_assoc]
      exact List.infix_append _ _ _
    rw [unfolded]
    exact (inPart.trans part).trans (List.suffix_cons _ _).isInfix

/-- Everything that lives under an instance is listed below it. -/
theorem mem_subtree_iff
    (ordered : tree.Ordered)
    (node_eq : tree.node id = .ok node) :
    other ∈ tree.subtree id ↔ tree.LivesUnder id other := by
  refine ⟨ordered.livesUnder_of_mem_subtree node_eq other, ?_⟩
  intro under
  induction under with
  | itself =>
    rw [ordered.subtree_eq node_eq]
    exact List.mem_cons_self ..
  | @child other parent otherNode other_eq parent_eq _ inductionHypothesis =>
    have parentInside : parent.index < tree.size :=
      Nat.lt_trans (ordered.lt_of_parent other_eq parent_eq) (lt_size_of_node other_eq)
    obtain ⟨parentNode, parentNode_eq⟩ := exists_node_of_lt parentInside
    have isChild : other ∈ parentNode.children :=
      (ordered.children parentNode_eq other).mpr ⟨otherNode, other_eq, parent_eq⟩
    have listed : other ∈ tree.subtree parent := by
      rw [ordered.subtree_eq parentNode_eq]
      refine List.mem_cons_of_mem _ (List.mem_flatMap.mpr ⟨other, isChild, ?_⟩)
      rw [ordered.subtree_eq other_eq]
      exact List.mem_cons_self ..
    exact (ordered.subtree_infix node_eq parent inductionHypothesis).subset listed

/-- Every instance lives under the root. -/
theorem livesUnder_root
    (ordered : tree.Ordered)
    (inside : id.index < tree.size) :
    tree.LivesUnder ReactorTree.root id := by
  obtain ⟨index⟩ := id
  induction index using Nat.strongRecOn with
  | ind index inductionHypothesis =>
    by_cases isRoot : (⟨index⟩ : InstanceId) = ReactorTree.root
    · rw [isRoot]
      exact .itself
    · obtain ⟨node, node_eq⟩ := exists_node_of_lt inside
      obtain ⟨parent, parent_eq, earlier⟩ := ordered.parent node_eq isRoot
      exact .child node_eq parent_eq
        (inductionHypothesis parent.index earlier (Nat.lt_trans earlier inside))

/-- No instance of a listing lives under a later one. -/
theorem pairwise_subtree
    (ordered : tree.Ordered)
    (ascend : tree.SiblingsAscend)
    (node_eq : tree.node id = .ok node) :
    (tree.subtree id).Pairwise fun earlier later => ¬ tree.LivesUnder later earlier := by
  refine ordered.descend (fun id => (tree.subtree id).Pairwise
    fun earlier later => ¬ tree.LivesUnder later earlier) ?_ node_eq
  intro id node node_eq inductionHypothesis
  have underChild : ∀ child ∈ node.children, ∀ other ∈ tree.subtree child,
      tree.LivesUnder child other := by
    intro child isChild
    obtain ⟨childNode, child_eq, _⟩ := ordered.exists_child_node node_eq isChild
    exact ordered.livesUnder_of_mem_subtree child_eq
  rw [ordered.subtree_eq node_eq, List.pairwise_cons, List.pairwise_flatMap]
  refine ⟨?_, inductionHypothesis, ?_⟩
  · intro later listed under
    obtain ⟨child, isChild, inChild⟩ := List.mem_flatMap.mp listed
    obtain ⟨_, _, behind⟩ := ordered.exists_child_node node_eq isChild
    have above := (underChild child isChild later inChild).trans under
    exact absurd (ordered.le_of_livesUnder above) (Nat.not_le.mpr behind)
  · refine (ascend id node node_eq).imp_of_mem ?_
    intro first second firstChild secondChild ascends earlier inFirst later inSecond under
    have same := ordered.eq_of_livesUnder node_eq firstChild secondChild
      (underChild first firstChild earlier inFirst)
      ((underChild second secondChild later inSecond).trans under)
    rw [same] at ascends
    exact Nat.lt_irrefl _ ascends

theorem mem_subtree_root_iff
    (ordered : tree.Ordered) :
    id ∈ tree.subtree ReactorTree.root ↔ id.index < tree.size := by
  obtain ⟨rootNode, root_eq, _⟩ := ordered.root
  rw [ordered.mem_subtree_iff root_eq]
  refine ⟨fun under => ?_, ordered.livesUnder_root⟩
  cases under with
  | itself => exact lt_size_of_node root_eq
  | child node_eq _ _ => exact lt_size_of_node node_eq

theorem nodup_subtree_root
    (ordered : tree.Ordered)
    (ascend : tree.SiblingsAscend) :
    (tree.subtree ReactorTree.root).Nodup := by
  obtain ⟨rootNode, root_eq, _⟩ := ordered.root
  refine (ordered.pairwise_subtree ascend root_eq).imp ?_
  rintro earlier later apart rfl
  exact apart .itself

/-- Every instance is listed once. -/
theorem count_subtree_root
    (ordered : tree.Ordered)
    (ascend : tree.SiblingsAscend)
    (id : InstanceId) :
    (tree.subtree ReactorTree.root).count id = if id.index < tree.size then 1 else 0 := by
  rw [(ordered.nodup_subtree_root ascend).count]
  simp only [ordered.mem_subtree_root_iff]

/-- Every instance is listed before what lives under it. -/
theorem idxOf_lt_of_livesUnder
    (ordered : tree.Ordered)
    (ascend : tree.SiblingsAscend)
    (inside : other.index < tree.size)
    (under : tree.LivesUnder top other)
    (different : top ≠ other) :
    (tree.subtree ReactorTree.root).idxOf top < (tree.subtree ReactorTree.root).idxOf other := by
  obtain ⟨rootNode, root_eq, _⟩ := ordered.root
  have listed : ∀ {id : InstanceId}, id.index < tree.size ->
      (tree.subtree ReactorTree.root).idxOf id < (tree.subtree ReactorTree.root).length := by
    intro id inside
    exact List.idxOf_lt_length_of_mem
      ((ordered.mem_subtree_iff root_eq).mpr (ordered.livesUnder_root inside))
  have topListed := listed (Nat.lt_of_le_of_lt (ordered.le_of_livesUnder under) inside)
  rcases Nat.lt_trichotomy ((tree.subtree ReactorTree.root).idxOf top)
    ((tree.subtree ReactorTree.root).idxOf other) with before | same | behind
  · exact before
  · have top_eq := List.getElem_idxOf topListed
    simp only [same, List.getElem_idxOf] at top_eq
    exact absurd top_eq.symm different
  · have apart := List.pairwise_iff_getElem.mp (ordered.pairwise_subtree ascend root_eq)
      _ _ (listed inside) topListed behind
    rw [List.getElem_idxOf, List.getElem_idxOf] at apart
    exact absurd under apart

theorem length_subtree_root
    (ordered : tree.Ordered)
    (ascend : tree.SiblingsAscend) :
    (tree.subtree ReactorTree.root).length = tree.size := by
  have all : ((List.range tree.size).map InstanceId.mk).Nodup :=
    List.nodup_range.map fun _ _ => InstanceId.mk.inj
  have permuted : (tree.subtree ReactorTree.root).Perm
      ((List.range tree.size).map InstanceId.mk) := by
    rw [List.perm_ext_iff_of_nodup (ordered.nodup_subtree_root ascend) all]
    intro id
    rw [ordered.mem_subtree_root_iff, List.mem_map]
    constructor
    · exact fun inside => ⟨id.index, List.mem_range.mpr inside, rfl⟩
    · rintro ⟨index, member, rfl⟩
      exact List.mem_range.mp member
  rw [permuted.length_eq, List.length_map, List.length_range]

theorem listedBy
    (ordered : tree.Ordered)
    (ascend : tree.SiblingsAscend) :
    tree.ListedBy (tree.subtree ReactorTree.root) := by
  obtain ⟨rootNode, root_eq, _⟩ := ordered.root
  constructor
  case preorder => exact ordered.preorder_eq
  case recursive => exact ⟨rfl, ordered.subtree_eq⟩
  case head =>
    rw [ordered.subtree_eq root_eq]
    rfl
  case once => exact ordered.count_subtree_root ascend
  case parentsFirst => exact ordered.idxOf_lt_of_livesUnder ascend
  case contiguous =>
    intro id inside
    obtain ⟨node, node_eq⟩ := exists_node_of_lt inside
    exact ⟨ordered.subtree_infix root_eq id (ordered.mem_subtree_root_iff.mpr inside),
      fun _ => ordered.mem_subtree_iff node_eq⟩

/-- An instance is a child of its parent and of no other instance. -/
theorem count_children
    (ordered : tree.Ordered)
    (ascend : tree.SiblingsAscend)
    {otherNode : ReactorInstance}
    (node_eq : tree.node id = .ok node)
    (other_eq : tree.node other = .ok otherNode) :
    otherNode.children.count id = if node.parent = some other then 1 else 0 := by
  have nodup : otherNode.children.Nodup := by
    refine (ascend other otherNode other_eq).imp ?_
    rintro first second ascends rfl
    exact Nat.lt_irrefl _ ascends
  have child_iff : id ∈ otherNode.children ↔ node.parent = some other := by
    rw [ordered.children other_eq, node_eq]
    simp
  rw [nodup.count]
  simp only [child_iff]

end Ordered

/-! ## The walk -/

/-- A walk that has visited as many instances of the listing as it has taken rounds, and
that has the rest of the listing before it. -/
structure Walk.Follows
    (walk : Walk)
    (tree : ReactorTree)
    (rounds : Nat) : Prop where
  split : walk.visited ++ walk.waiting.reverse.flatMap tree.subtree = tree.subtree root
  length : walk.visited.length = min rounds (tree.subtree root).length
  known : ∀ id ∈ walk.waiting, ∃ node, tree.node id = .ok node

namespace Walk.Follows

variable
  {walk : Walk}
  {rounds : Nat}

theorem start (ordered : tree.Ordered) : Walk.start.Follows tree 0 := by
  obtain ⟨node, root_eq, _⟩ := ordered.root
  constructor
  case split => exact List.append_nil _
  case length => exact (Nat.zero_min _).symm
  case known =>
    intro id member
    rw [List.mem_singleton.mp member]
    exact ⟨node, root_eq⟩

/-- What is listed for the stack does not change when its top is visited. -/
theorem listing_stack
    (ordered : tree.Ordered)
    (node_eq : tree.node id = .ok node)
    (below : List InstanceId) :
    (below ++ [id]).reverse.flatMap tree.subtree =
      id :: (below ++ node.children.reverse).reverse.flatMap tree.subtree := by
  rw [List.reverse_concat, List.flatMap_cons, ordered.subtree_eq node_eq,
    List.reverse_append, List.reverse_reverse, List.flatMap_append]
  rfl

theorem next
    (ordered : tree.Ordered)
    (follows : walk.Follows tree rounds) :
    ∃ later, walk.next tree = .ok later ∧ later.Follows tree (rounds + 1) := by
  obtain ⟨visited, waiting⟩ := walk
  obtain ⟨split, length, known⟩ := follows
  dsimp only at split length known
  cases waiting using List.reverseRecOn with
  | nil =>
    have whole : visited = tree.subtree root := (List.append_nil _).symm.trans split
    refine ⟨⟨visited, []⟩, rfl, split, ?_, known⟩
    dsimp only
    rw [whole] at length ⊢
    omega
  | append_singleton below id =>
    obtain ⟨node, node_eq⟩ := known id (List.mem_append_right _ (List.mem_singleton_self _))
    rw [listing_stack ordered node_eq] at split
    refine ⟨⟨visited ++ [id], below ++ node.children.reverse⟩, ?_, ?_, ?_, ?_⟩
    · rw [Walk.next, List.getLast?_concat, List.dropLast_concat]
      dsimp only
      rw [node_eq]
      rfl
    · rw [List.append_assoc]
      exact split
    · have remaining := congrArg List.length split
      rw [List.length_append, List.length_cons] at remaining
      rw [List.length_append, List.length_singleton]
      omega
    · intro other member
      rcases List.mem_append.mp member with isBelow | isChild
      · exact known other (List.mem_append_left _ isBelow)
      · obtain ⟨childNode, child_eq, _⟩ :=
          ordered.exists_child_node node_eq (List.mem_reverse.mp isChild)
        exact ⟨childNode, child_eq⟩

/-- The walk ends when everything is visited. -/
theorem waiting_eq_nil_iff
    (ordered : tree.Ordered)
    (follows : walk.Follows tree rounds) :
    walk.waiting = [] ↔ (tree.subtree root).length ≤ rounds := by
  have length := follows.length
  constructor
  · intro ended
    have whole := follows.split
    rw [ended, List.reverse_nil, List.flatMap_nil, List.append_nil] at whole
    rw [whole] at length
    omega
  · intro enough
    have nothing := congrArg List.length follows.split
    rw [List.length_append, length, Nat.min_eq_right enough] at nothing
    have empty : walk.waiting.reverse.flatMap tree.subtree = [] :=
      List.eq_nil_of_length_eq_zero (by omega)
    rw [List.flatMap_eq_nil_iff] at empty
    refine List.eq_nil_iff_forall_not_mem.mpr fun id member => ?_
    obtain ⟨node, node_eq⟩ := follows.known id member
    have listed := ordered.subtree_eq node_eq
    rw [empty id (List.mem_reverse.mpr member)] at listed
    exact List.cons_ne_nil _ _ listed.symm

theorem visited_eq
    (follows : walk.Follows tree rounds) :
    walk.visited = (tree.subtree root).take rounds := by
  have isPrefix : walk.visited <+: tree.subtree root := ⟨_, follows.split⟩
  rw [List.prefix_iff_eq_take.mp isPrefix, follows.length, ← List.take_take,
    List.take_length]

end Walk.Follows

/-- However many rounds a walk takes, it follows the listing. -/
theorem Ordered.follows_walkAfter
    (ordered : tree.Ordered)
    (rounds : Nat) :
    ∃ walk, tree.walkAfter rounds = .ok walk ∧ walk.Follows tree rounds := by
  induction rounds with
  | zero => exact ⟨.start, rfl, .start ordered⟩
  | succ rounds inductionHypothesis =>
    obtain ⟨walk, walk_eq, follows⟩ := inductionHypothesis
    obtain ⟨later, later_eq, laterFollows⟩ := follows.next ordered
    refine ⟨later, ?_, laterFollows⟩
    rw [walkAfter, walk_eq, Result.ok_bind, later_eq]

/-- A walk visits one instance in each round, in the order of the listing, and ends when
it has visited all of them. -/
theorem Ordered.exists_walkAfter
    (ordered : tree.Ordered)
    (ascend : tree.SiblingsAscend)
    (rounds : Nat) :
    ∃ walk, tree.walkAfter rounds = .ok walk ∧
      walk.visited = (tree.subtree ReactorTree.root).take rounds ∧
      (walk.waiting = [] ↔ tree.size ≤ rounds) := by
  obtain ⟨walk, walk_eq, follows⟩ := ordered.follows_walkAfter rounds
  refine ⟨walk, walk_eq, follows.visited_eq, ?_⟩
  rw [follows.waiting_eq_nil_iff ordered, ordered.length_subtree_root ascend]

end ReactorTree
end ReactorGen
