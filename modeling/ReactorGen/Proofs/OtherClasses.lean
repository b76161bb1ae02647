import ReactorGen.Proofs.TriggerSites

/-!
# Trees with other classes

Paths, listings, modes and federates do not look at the classes of instances.  Here an
arbitrary class is given to every instance of a tree, and everything that is read off the
tree without a look at classes is shown to stay the same.
-/

namespace ReactorGen

/-- What follows a result that is changed by a function follows the result with that
function in front. -/
theorem Result.map_bind
    (result : Except ε α)
    (function : α -> β)
    (next : β -> Except ε γ) :
    (result.map function >>= next) = result >>= fun value => next (function value) := by
  cases result with
  | error failure => rfl
  | ok value => rfl

theorem Result.map_eq_bind
    (result : Except ε α)
    (function : α -> β) :
    result.map function = result >>= fun value => .ok (function value) := by
  cases result with
  | error failure => rfl
  | ok value => rfl

/-- The instance with another class. -/
def ReactorInstance.withClass
    (node : ReactorInstance)
    (reactorClass : ClassId) : ReactorInstance :=
  { node with reactorClass := reactorClass }

/-- The tree with the given classes of its instances. -/
def ReactorTree.reclassify
    (tree : ReactorTree)
    (classes : InstanceId -> ClassId) : ReactorTree :=
  { tree with
    instances := tree.instances.mapIdx fun index node => node.withClass (classes ⟨index⟩) }

/-- The program with the given classes of its instances. -/
def Program.reclassify
    (program : Program)
    (classes : InstanceId -> ClassId) : Program :=
  { program with tree := program.tree.reclassify classes }

namespace ReactorTree

variable
  (tree : ReactorTree)
  (classes : InstanceId -> ClassId)

@[simp] theorem size_reclassify : (tree.reclassify classes).size = tree.size := by
  simp [reclassify, size]

@[simp] theorem mode_reclassify (id : ModeId) :
    (tree.reclassify classes).mode id = tree.mode id := rfl

/-- An instance of the new tree is the old one with its new class. -/
theorem node_reclassify (id : InstanceId) :
    (tree.reclassify classes).node id =
      (tree.node id).map fun node => node.withClass (classes id) := by
  rw [node, node, reclassify, List.getElem?_mapIdx]
  cases tree.instances[id.index]? with
  | none => rfl
  | some node => rfl

theorem node_reclassify_of_eq
    {id : InstanceId}
    {node : ReactorInstance}
    (node_eq : tree.node id = .ok node)
    (same : classes id = node.reactorClass) :
    (tree.reclassify classes).node id = .ok node := by
  rw [node_reclassify, node_eq, Except.map, same]
  rfl

@[simp] theorem modeIndex?_reclassify (id : ModeId) :
    (tree.reclassify classes).modeIndex? id = tree.modeIndex? id := by
  simp only [modeIndex?, reclassify, List.getElem?_mapIdx]
  cases tree.modes[id.index]? with
  | none => rfl
  | some mode =>
    cases owner_eq : tree.instances[mode.owner.index]? with
    | none => simp [owner_eq]
    | some owner =>
      simp only [owner_eq, Option.bind_eq_bind, Option.bind_some, Option.map_some]
      rfl

theorem ancestryWithin_reclassify (bound : Nat) (id : InstanceId) :
    (tree.reclassify classes).ancestryWithin bound id =
      (tree.ancestryWithin bound id).map
        (List.map fun entry => (entry.1, entry.2.withClass (classes entry.1))) := by
  induction bound generalizing id with
  | zero => rfl
  | succ bound inductionHypothesis =>
    rw [ancestryWithin, ancestryWithin, node_reclassify, Result.map_bind]
    cases tree.node id with
    | error reference => rfl
    | ok node =>
      have parent_eq : (node.withClass (classes id)).parent = node.parent := rfl
      rw [Result.ok_bind, Result.ok_bind, parent_eq]
      cases node.parent with
      | none => rfl
      | some parent =>
        dsimp only
        rw [inductionHypothesis, Result.map_bind]
        cases tree.ancestryWithin bound parent with
        | error reference => rfl
        | ok above => rfl

@[simp] theorem fullName_reclassify (id : InstanceId) :
    (tree.reclassify classes).fullName id = tree.fullName id := by
  rw [fullName, fullName, ancestry, ancestry, size_reclassify, ancestryWithin_reclassify,
    Result.map_bind]
  simp only [← List.map_reverse, List.map_map]
  rfl

@[simp] theorem topLevelAncestor?_reclassify (id : InstanceId) :
    (tree.reclassify classes).topLevelAncestor? id = tree.topLevelAncestor? id := by
  rw [topLevelAncestor?, topLevelAncestor?, ancestry, ancestry, size_reclassify,
    ancestryWithin_reclassify, Result.map_bind]
  simp only [← List.map_reverse, List.getElem?_map, Option.map_map]
  rfl

@[simp] theorem listingWithin_reclassify (bound : Nat) :
    (tree.reclassify classes).listingWithin bound = tree.listingWithin bound := by
  induction bound with
  | zero => rfl
  | succ bound inductionHypothesis =>
    funext id
    rw [listingWithin, listingWithin, node_reclassify, Result.map_bind, inductionHypothesis]
    rfl

@[simp] theorem preorder_reclassify :
    (tree.reclassify classes).preorder = tree.preorder := by
  rw [preorder, preorder, size_reclassify, listingWithin_reclassify]

@[simp] theorem selfVariable_reclassify (id : InstanceId) :
    Naming.selfVariable (tree.reclassify classes) id = Naming.selfVariable tree id := by
  simp only [Naming.selfVariable, Naming.flatPath, fullName_reclassify]

@[simp] theorem instanceList_reclassify (id : InstanceId) :
    Naming.instanceList (tree.reclassify classes) id = Naming.instanceList tree id := by
  simp only [Naming.instanceList, Naming.flatPath, fullName_reclassify]

end ReactorTree

namespace Federate

variable
  (federate : Federate)
  (tree : ReactorTree)
  (classes : InstanceId -> ClassId)

@[simp] theorem containsInstance_reclassify :
    federate.containsInstance (tree.reclassify classes) =
      federate.containsInstance tree := by
  funext id
  simp only [containsInstance, ReactorTree.topLevelAncestor?_reclassify]

@[simp] theorem containsAction_reclassify (owner : InstanceId) (name : String) :
    federate.containsAction (tree.reclassify classes) owner name =
      federate.containsAction tree owner name := by
  simp only [containsAction, ReactorTree.node_reclassify, Result.map_bind,
    containsInstance_reclassify, ReactorInstance.withClass]

@[simp] theorem containsReaction_reclassify (owner : InstanceId) (index : Nat) :
    federate.containsReaction (tree.reclassify classes) owner index =
      federate.containsReaction tree owner index := by
  simp only [containsReaction, ReactorTree.node_reclassify, Result.map_bind,
    containsInstance_reclassify, ReactorInstance.withClass]

end Federate

namespace Program

variable
  (program : Program)
  (federate : Federate)
  (classes : InstanceId -> ClassId)

@[simp] theorem classAt_reclassify :
    (program.reclassify classes).classAt = program.classAt := rfl

@[simp] theorem federateInstances_reclassify :
    (program.reclassify classes).federateInstances federate =
      program.federateInstances federate := by
  simp only [federateInstances, reclassify, ReactorTree.preorder_reclassify,
    Federate.containsInstance_reclassify]

@[simp] theorem bindMode_reclassify :
    (program.reclassify classes).bindMode = program.bindMode := by
  funext mode trigger span
  simp only [bindMode, reclassify, ReactorTree.modeIndex?_reclassify,
    ReactorTree.mode_reclassify, ReactorTree.selfVariable_reclassify]

@[simp] theorem federateActions_reclassify (id : InstanceId) :
    (program.reclassify classes).federateActions federate id =
      program.federateActions federate id := by
  simp only [federateActions, reclassify, ReactorTree.node_reclassify, Result.map_bind,
    Federate.containsAction_reclassify, ReactorInstance.withClass]

@[simp] theorem federateTimers_reclassify (id : InstanceId) :
    (program.reclassify classes).federateTimers federate id =
      program.federateTimers federate id := by
  simp only [federateTimers, reclassify, ReactorTree.node_reclassify, Result.map_bind,
    Federate.containsInstance_reclassify, ReactorInstance.withClass]

@[simp] theorem lowerActions_reclassify (id : InstanceId) :
    (program.reclassify classes).lowerActions federate id =
      program.lowerActions federate id := by
  have lowerAction_eq : (program.reclassify classes).lowerAction = program.lowerAction := by
    funext owner path action
    simp only [lowerAction, bindMode_reclassify]
  simp only [lowerActions, lowerAction_eq, federateActions_reclassify]
  simp only [reclassify, ReactorTree.selfVariable_reclassify,
    ReactorTree.fullName_reclassify]

@[simp] theorem lowerTimers_reclassify (id : InstanceId) :
    (program.reclassify classes).lowerTimers federate id =
      program.lowerTimers federate id := by
  have lowerTimer_eq : (program.reclassify classes).lowerTimer = program.lowerTimer := by
    funext owner path timer
    simp only [lowerTimer, bindMode_reclassify]
  simp only [lowerTimers, lowerTimer_eq, federateTimers_reclassify]
  simp only [reclassify, ReactorTree.selfVariable_reclassify,
    ReactorTree.fullName_reclassify]

@[simp] theorem initializeTokens_reclassify (table : TokenTable) (id : InstanceId) :
    (program.reclassify classes).initializeTokens federate table id =
      program.initializeTokens federate table id := by
  simp only [initializeTokens, federateActions_reclassify]
  simp only [reclassify, ReactorTree.selfVariable_reclassify]

end Program
end ReactorGen
