import ReactorGen.Proofs.TreeGrowth
import ReactorGen.Trigger

/-!
# How federates divide a program

Federates that share the children of the root among them divide the whole tree.  An
instance below the root belongs to the one federate that lists the child of the root
on its way up, and this federate alone lowers its actions and its timers.  The root
belongs to all of them; each lowers the actions of the root that it names as its
network actions, and all timers of the root.
-/

namespace ReactorGen

/-- Federates that share the children of the root among them. -/
structure Divides (federates : List Federate) (tree : ReactorTree) : Prop where
  /-- None of them stands for the whole program. -/
  separate : ∀ federate ∈ federates, federate.isSingleton = false
  disjoint : federates.Pairwise fun first second =>
    first.instances.Disjoint second.instances
  covers : ∀ {rootNode : ReactorInstance}, tree.node ReactorTree.root = .ok rootNode ->
    ∀ id, id ∈ rootNode.children ↔ ∃ federate ∈ federates, id ∈ federate.instances

/-! ## Which instances a federate contains -/

namespace Federate

variable
  {federate : Federate}
  {tree : ReactorTree}
  {id : InstanceId}
  {node : ReactorInstance}

/-- Every federate contains the root. -/
theorem containsInstance_root
    (federate : Federate)
    (ordered : tree.Ordered) :
    federate.containsInstance tree ReactorTree.root = .ok true := by
  unfold containsInstance
  split
  · rfl
  · rw [ordered.topLevelAncestor?_root]
    rfl

theorem containsInstance_of_topLevelAncestor?
    (separate : federate.isSingleton = false)
    {top : InstanceId}
    (top_eq : tree.topLevelAncestor? id = .ok (some top)) :
    federate.containsInstance tree id = .ok (federate.instances.contains top) := by
  rw [containsInstance, separate, if_neg Bool.false_ne_true, top_eq]
  rfl

/-- The actions of an instance below the root go with the instance. -/
theorem containsAction_of_parent
    (separate : federate.isSingleton = false)
    (node_eq : tree.node id = .ok node)
    {parent : InstanceId}
    (parent_eq : node.parent = some parent)
    (name : String) :
    federate.containsAction tree id name = federate.containsInstance tree id := by
  rw [containsAction, separate, if_neg Bool.false_ne_true, node_eq, Result.ok_bind,
    parent_eq]
  rfl

/-- The actions of the root are divided by their names. -/
theorem containsAction_of_root
    (separate : federate.isSingleton = false)
    (node_eq : tree.node id = .ok node)
    (isRoot : node.parent = none)
    (name : String) :
    federate.containsAction tree id name = .ok (federate.networkActions.contains name) := by
  rw [containsAction, separate, if_neg Bool.false_ne_true, node_eq, Result.ok_bind, isRoot]
  rfl

end Federate

namespace Divides

variable
  {federates : List Federate}
  {tree : ReactorTree}
  {top : InstanceId}

/-- One federate lists a child of the root, and no other does. -/
theorem exists_home
    (divides : Divides federates tree)
    (ordered : tree.Ordered)
    (isTop : tree.IsTopLevel top) :
    ∃ before home after, federates = before ++ home :: after ∧ top ∈ home.instances ∧
      ∀ other ∈ before ++ after, top ∉ other.instances := by
  obtain ⟨rootNode, root_eq, _⟩ := ordered.root
  have isChild : top ∈ rootNode.children := (ordered.children root_eq top).mpr isTop
  obtain ⟨home, isFederate, isListed⟩ := (divides.covers root_eq top).mp isChild
  obtain ⟨before, after, rfl⟩ := List.append_of_mem isFederate
  refine ⟨before, home, after, rfl, isListed, ?_⟩
  have disjoint := divides.disjoint
  rw [List.pairwise_append, List.pairwise_cons] at disjoint
  obtain ⟨_, ⟨fromHome, _⟩, toHome⟩ := disjoint
  intro other isOther isListedTwice
  rcases List.mem_append.mp isOther with earlier | later
  · exact toHome other earlier home (List.mem_cons_self ..) isListedTwice isListed
  · exact fromHome other later isListed isListedTwice

end Divides

/-! ## What a federate lowers -/

/-- Whether the mode that a trigger is bound to, if any, is listed by its owner. -/
def ReactorTree.Lists (tree : ReactorTree) (mode? : Option ModeId) : Prop :=
  ∀ mode ∈ mode?, (tree.modeIndex? mode).isSome

/-- One piece of metadata for every item, or the fault of an item that is bound to a
mode its owner does not list. -/
structure LowersAll
    (tree : ReactorTree)
    (step : α -> Except Failure TriggerMetadata)
    (modeOf : α -> Option ModeId)
    (items : List α)
    (result : Except Failure (List TriggerMetadata)) : Prop where
  lowered : (∀ item ∈ items, tree.Lists (modeOf item)) ->
    ∃ lowered, result = .ok lowered ∧
      List.Forall₂ (fun item metadata => step item = .ok metadata) items lowered
  unlisted : (∃ item ∈ items, ¬tree.Lists (modeOf item)) ->
    ∃ trigger span, result = .error (.fault (.unresolvedMode trigger span))

theorem lowersAll_mapM
    {tree : ReactorTree}
    {step : α -> Except Failure TriggerMetadata}
    {modeOf : α -> Option ModeId}
    (lowers : ∀ item, tree.Lists (modeOf item) -> ∃ metadata, step item = .ok metadata)
    (faults : ∀ item, ¬tree.Lists (modeOf item) ->
      ∃ trigger span, step item = .error (.fault (.unresolvedMode trigger span)))
    (items : List α) :
    LowersAll tree step modeOf items (items.mapM step) := by
  constructor
  case lowered =>
    intro listed
    obtain ⟨lowered, lowered_eq⟩ := Result.exists_mapM fun item member =>
      lowers item (listed item member)
    exact ⟨lowered, lowered_eq, Result.mapM_eq_ok.mp lowered_eq⟩
  case unlisted =>
    intro unlisted
    induction items with
    | nil =>
      obtain ⟨item, member, _⟩ := unlisted
      exact absurd member List.not_mem_nil
    | cons first rest inductionHypothesis =>
      by_cases listed : tree.Lists (modeOf first)
      · obtain ⟨metadata, first_eq⟩ := lowers first listed
        have later : ∃ item ∈ rest, ¬tree.Lists (modeOf item) := by
          obtain ⟨item, member, isUnlisted⟩ := unlisted
          rcases List.mem_cons.mp member with rfl | inRest
          · exact absurd listed isUnlisted
          · exact ⟨item, inRest, isUnlisted⟩
        obtain ⟨trigger, span, rest_eq⟩ := inductionHypothesis later
        refine ⟨trigger, span, ?_⟩
        rw [List.mapM_cons, first_eq, Result.ok_bind, rest_eq]
        rfl
      · obtain ⟨trigger, span, first_eq⟩ := faults first listed
        refine ⟨trigger, span, ?_⟩
        rw [List.mapM_cons, first_eq]
        rfl

namespace Program

variable
  {program : Program}
  {federate : Federate}
  {id : InstanceId}
  {node : ReactorInstance}

/-- A trigger is bound to every mode that is listed. -/
theorem exists_bindMode
    (ordered : program.tree.Ordered)
    {mode? : Option ModeId}
    (listed : program.tree.Lists mode?)
    (trigger : String)
    (span : Option Span) :
    ∃ binding, program.bindMode mode? trigger span = .ok binding := by
  cases mode? with
  | none => exact ⟨.unbound, rfl⟩
  | some mode =>
    obtain ⟨index, index_eq⟩ := Option.isSome_iff_exists.mp (listed mode rfl)
    have found := index_eq
    simp only [ReactorTree.modeIndex?, bind, Option.bind_eq_some_iff] at found
    obtain ⟨entry, entry_eq, ownerNode, owner_eq, _⟩ := found
    obtain ⟨path, owner, _, variable_eq⟩ :=
      ordered.exists_names (ReactorTree.node_eq_ok.mpr owner_eq)
    have mode_eq : program.tree.mode mode = .ok entry :=
      Result.orDangling_eq_ok.mpr entry_eq
    refine ⟨.mode owner index, ?_⟩
    simp only [bindMode, index_eq, mode_eq, Result.liftM_ok, Result.ok_bind, variable_eq]
    rfl

theorem bindMode_of_not_lists
    {mode? : Option ModeId}
    (unlisted : ¬program.tree.Lists mode?)
    (trigger : String)
    (span : Option Span) :
    program.bindMode mode? trigger span =
      .error (.fault (.unresolvedMode trigger span)) := by
  cases mode? with
  | none => exact absurd (by simp [ReactorTree.Lists]) unlisted
  | some mode =>
    cases index_eq : program.tree.modeIndex? mode with
    | none => simp only [bindMode, index_eq]
    | some index =>
      refine absurd ?_ unlisted
      rintro listed ⟨⟩
      rw [index_eq]
      rfl

/-- What is lowered of actions is one piece of metadata for each. -/
theorem lowersAll_lowerAction
    (ordered : program.tree.Ordered)
    (owner path : String)
    (actions : List ActionInstance) :
    LowersAll program.tree (program.lowerAction owner path) (·.mode) actions
      (actions.mapM (program.lowerAction owner path)) := by
  apply lowersAll_mapM
  case lowers =>
    intro action listed
    obtain ⟨binding, binding_eq⟩ :=
      exists_bindMode ordered listed (path ++ "." ++ action.name) action.span
    rw [lowerAction, binding_eq]
    exact ⟨_, rfl⟩
  case faults =>
    intro action unlisted
    refine ⟨path ++ "." ++ action.name, action.span, ?_⟩
    rw [lowerAction, bindMode_of_not_lists unlisted]
    rfl

/-- What is lowered of timers is one piece of metadata for each. -/
theorem lowersAll_lowerTimer
    (ordered : program.tree.Ordered)
    (owner path : String)
    (timers : List TimerInstance) :
    LowersAll program.tree (program.lowerTimer owner path) (·.mode) timers
      (timers.mapM (program.lowerTimer owner path)) := by
  apply lowersAll_mapM
  case lowers =>
    intro timer listed
    obtain ⟨binding, binding_eq⟩ :=
      exists_bindMode ordered listed (path ++ "." ++ timer.name) none
    rw [lowerTimer, binding_eq]
    exact ⟨_, rfl⟩
  case faults =>
    intro timer unlisted
    refine ⟨path ++ "." ++ timer.name, none, ?_⟩
    rw [lowerTimer, bindMode_of_not_lists unlisted]
    rfl

theorem federateActions_eq
    (node_eq : program.tree.node id = .ok node)
    (test : String -> Bool)
    (decided : ∀ name, federate.containsAction program.tree id name = .ok (test name)) :
    program.federateActions federate id =
      .ok ((node.actions.filter fun action => !action.isShutdown).filter fun action =>
        test action.name) := by
  rw [federateActions, node_eq, Result.ok_bind, Result.filterM_eq_ok]
  constructor
  · intro action _
    exact ⟨_, decided action.name⟩
  · simp only [decided, Result.holds_ok]

theorem federateTimers_eq
    (node_eq : program.tree.node id = .ok node)
    {contained : Bool}
    (decided : federate.containsInstance program.tree id = .ok contained) :
    program.federateTimers federate id = .ok (if contained then node.timers else []) := by
  rw [federateTimers, decided, Result.ok_bind]
  cases contained with
  | false => rfl
  | true =>
    rw [if_pos rfl, node_eq]
    rfl

/-- What a federate lowers of an instance: exactly these actions and these timers, in
this order. -/
def Lowers
    (program : Program)
    (federate : Federate)
    (id : InstanceId)
    (actions : List ActionInstance)
    (timers : List TimerInstance) : Prop :=
  ∃ owner path,
    Naming.selfVariable program.tree id = .ok owner ∧
    program.tree.fullName id = .ok path ∧
    LowersAll program.tree (program.lowerAction owner path) (·.mode) actions
      (program.lowerActions federate id) ∧
    LowersAll program.tree (program.lowerTimer owner path) (·.mode) timers
      (program.lowerTimers federate id)

/-- A federate lowers the actions and the timers that belong to it. -/
theorem lowers_of_federateActions
    (ordered : program.tree.Ordered)
    (node_eq : program.tree.node id = .ok node)
    {actions : List ActionInstance}
    {timers : List TimerInstance}
    (actions_eq : program.federateActions federate id = .ok actions)
    (timers_eq : program.federateTimers federate id = .ok timers) :
    program.Lowers federate id actions timers := by
  obtain ⟨path, owner, path_eq, owner_eq⟩ := ordered.exists_names node_eq
  refine ⟨owner, path, owner_eq, path_eq, ?_, ?_⟩
  · have lowered := lowersAll_lowerAction ordered owner path actions
    simp only [lowerActions, owner_eq, path_eq, actions_eq, Result.liftM_ok, Result.ok_bind]
    exact lowered
  · have lowered := lowersAll_lowerTimer ordered owner path timers
    simp only [lowerTimers, owner_eq, path_eq, timers_eq, Result.liftM_ok, Result.ok_bind]
    exact lowered

/-- A federate that has nothing to lower of an instance lowers nothing. -/
theorem Lowers.eq_nil
    (lowers : program.Lowers federate id [] []) :
    program.lowerActions federate id = .ok [] ∧ program.lowerTimers federate id = .ok [] := by
  obtain ⟨owner, path, _, _, actions, timers⟩ := lowers
  obtain ⟨_, actions_eq, noActions⟩ := actions.lowered (by simp)
  obtain ⟨_, timers_eq, noTimers⟩ := timers.lowered (by simp)
  cases noActions
  cases noTimers
  exact ⟨actions_eq, timers_eq⟩

/-! ## The division -/

section Division

variable (ordered : program.tree.Ordered)

include ordered

section BelowRoot

variable
  (separate : federate.isSingleton = false)
  (node_eq : program.tree.node id = .ok node)
  (notRoot : id ≠ ReactorTree.root)
  {top : InstanceId}
  (top_eq : program.tree.topLevelAncestor? id = .ok (some top))

include separate node_eq notRoot top_eq

/-- A federate lowers of an instance below the root everything or nothing. -/
theorem lowers_of_topLevelAncestor? :
    program.Lowers federate id
      ((node.actions.filter fun action => !action.isShutdown).filter fun _ =>
        federate.instances.contains top)
      (if federate.instances.contains top then node.timers else []) := by
  obtain ⟨parent, parent_eq, _⟩ := ordered.parent node_eq notRoot
  have decided := Federate.containsInstance_of_topLevelAncestor? separate top_eq
  refine lowers_of_federateActions ordered node_eq ?_ (federateTimers_eq node_eq decided)
  apply federateActions_eq node_eq fun _ => federate.instances.contains top
  intro name
  rw [Federate.containsAction_of_parent separate node_eq parent_eq, decided]

/-- The federate that lists the child of the root lowers everything. -/
theorem lowers_of_mem
    (isListed : top ∈ federate.instances) :
    federate.containsInstance program.tree id = .ok true ∧
      program.Lowers federate id (node.actions.filter fun action => !action.isShutdown)
        node.timers := by
  have contained := Federate.containsInstance_of_topLevelAncestor? separate top_eq
  have lowered := lowers_of_topLevelAncestor? ordered separate node_eq notRoot top_eq
  rw [List.contains_iff_mem.mpr isListed] at contained lowered
  rw [List.filter_true, if_pos rfl] at lowered
  exact ⟨contained, lowered⟩

/-- Any other federate lowers nothing. -/
theorem lowers_nothing_of_not_mem
    (notListed : top ∉ federate.instances) :
    federate.containsInstance program.tree id = .ok false ∧
      program.lowerActions federate id = .ok [] ∧
      program.lowerTimers federate id = .ok [] := by
  have lacks : federate.instances.contains top = false := by
    rw [← Bool.not_eq_true, List.contains_iff_mem]
    exact notListed
  have missing := Federate.containsInstance_of_topLevelAncestor? separate top_eq
  have lowered := lowers_of_topLevelAncestor? ordered separate node_eq notRoot top_eq
  rw [lacks] at missing lowered
  rw [List.filter_false, if_neg Bool.false_ne_true] at lowered
  exact ⟨missing, lowered.eq_nil⟩

end BelowRoot

/-- A federate lowers of the root the actions that it names, and all timers. -/
theorem lowers_root
    (separate : federate.isSingleton = false)
    (node_eq : program.tree.node ReactorTree.root = .ok node)
    (isRoot : node.parent = none) :
    program.Lowers federate ReactorTree.root
      ((node.actions.filter fun action => !action.isShutdown).filter fun action =>
        federate.networkActions.contains action.name)
      node.timers := by
  refine lowers_of_federateActions ordered node_eq ?_ ?_
  · exact federateActions_eq node_eq federate.networkActions.contains
      (Federate.containsAction_of_root separate node_eq isRoot)
  · exact federateTimers_eq node_eq (federate.containsInstance_root ordered)

end Division

/-- Federates that share the children of the root among them neither lose nor
duplicate an instance.  Below the root, an instance belongs to the one federate that
lists the child of the root on its way up, and is lowered there and nowhere else.  The
root belongs to all federates, and each lowers the actions that it names. -/
theorem divided_among_federates
    (grown : program.tree.Grown)
    {federates : List Federate}
    (divides : Divides federates program.tree) :
    (∀ {id : InstanceId} {node : ReactorInstance}, program.tree.node id = .ok node ->
      id ≠ ReactorTree.root ->
        ∃ before home after top,
          federates = before ++ home :: after ∧
          program.tree.IsTopLevel top ∧
          program.tree.LivesUnder top id ∧
          top ∈ home.instances ∧
          home.containsInstance program.tree id = .ok true ∧
          program.Lowers home id (node.actions.filter fun action => !action.isShutdown)
            node.timers ∧
          ∀ other ∈ before ++ after,
            top ∉ other.instances ∧
            other.containsInstance program.tree id = .ok false ∧
            program.lowerActions other id = .ok [] ∧
            program.lowerTimers other id = .ok []) ∧
      ∃ rootNode, program.tree.node ReactorTree.root = .ok rootNode ∧
        ∀ federate ∈ federates,
          federate.containsInstance program.tree ReactorTree.root = .ok true ∧
          program.Lowers federate ReactorTree.root
            ((rootNode.actions.filter fun action => !action.isShutdown).filter fun action =>
              federate.networkActions.contains action.name)
            rootNode.timers := by
  have ordered := grown.ordered
  constructor
  · intro id node node_eq notRoot
    obtain ⟨top, top_eq, isTop, under⟩ := ordered.exists_topLevelAncestor? node_eq notRoot
    obtain ⟨before, home, after, rfl, isListed, unlisted⟩ := divides.exists_home ordered isTop
    have isHome : home ∈ before ++ home :: after := by
      rw [List.mem_append, List.mem_cons]
      exact .inr (.inl rfl)
    obtain ⟨contained, lowered⟩ :=
      lowers_of_mem ordered (divides.separate home isHome) node_eq notRoot top_eq isListed
    refine ⟨before, home, after, top, rfl, isTop, under, isListed, contained, lowered, ?_⟩
    intro other isOther
    have isFederate : other ∈ before ++ home :: after := by
      rcases List.mem_append.mp isOther with earlier | later
      · exact List.mem_append_left _ earlier
      · exact List.mem_append_right _ (List.mem_cons_of_mem _ later)
    have notListed := unlisted other isOther
    exact ⟨notListed, lowers_nothing_of_not_mem ordered (divides.separate other isFederate)
      node_eq notRoot top_eq notListed⟩
  · obtain ⟨rootNode, root_eq, isRoot⟩ := ordered.root
    refine ⟨rootNode, root_eq, ?_⟩
    intro federate member
    have separate := divides.separate federate member
    exact ⟨federate.containsInstance_root ordered, lowers_root ordered separate root_eq isRoot⟩

end Program

namespace Harbour

/-- An action of the main reactor that one of the federates receives. -/
def signal : ActionInstance := .ofName "signal" .zero

/-- An action of the crane that is bound to its mode. -/
def lift : ActionInstance := (ActionInstance.ofName "lift" .zero).inMode ⟨0⟩

def shift : TimerInstance := ⟨"shift", .zero, none, none⟩

/-- A harbour with two piers and a crane on the first of them. -/
def tree : ReactorTree where
  instances := [
    { ReactorInstance.ofName "Harbour" ⟨0⟩ none with
      children := [⟨1⟩, ⟨2⟩]
      actions := [signal] },
    { ReactorInstance.ofName "north" ⟨1⟩ (some ⟨0⟩) with children := [⟨3⟩] },
    ReactorInstance.ofName "south" ⟨1⟩ (some ⟨0⟩),
    { ReactorInstance.ofName "crane" ⟨2⟩ (some ⟨1⟩) with
      actions := [lift]
      timers := [shift]
      modes := [⟨0⟩] }]
  modes := [⟨"busy", ⟨3⟩⟩]

/-- The harbour is built step by step. -/
theorem grown : tree.Grown := by
  have harbour := ReactorTree.Grown.ofRoot "Harbour" ⟨0⟩
  have north := harbour.step
    (@ReactorTree.Step.addChild _ ⟨0⟩ _ _ "north" ⟨1⟩ (by decide) rfl)
  have south := north.step
    (@ReactorTree.Step.addChild _ ⟨0⟩ _ _ "south" ⟨1⟩ (by decide) rfl)
  have crane := south.step
    (@ReactorTree.Step.addChild _ ⟨1⟩ _ _ "crane" ⟨2⟩ (by decide) rfl)
  have busy := crane.step (@ReactorTree.Step.addMode _ ⟨3⟩ _ _ "busy" rfl)
  have equipped := busy.step (@ReactorTree.Step.refurnish _ ⟨3⟩ _
    { ReactorInstance.ofName "crane" ⟨2⟩ (some ⟨1⟩) with
      actions := [lift]
      timers := [shift]
      modes := [⟨0⟩] } rfl rfl rfl)
  exact equipped.step (@ReactorTree.Step.refurnish _ ⟨0⟩ _
    { ReactorInstance.ofName "Harbour" ⟨0⟩ none with
      children := [⟨1⟩, ⟨2⟩]
      actions := [signal] } rfl rfl rfl)

def northern : Federate := .ofInstances ⟨0⟩ "north" [⟨1⟩]

def southern : Federate :=
  { Federate.ofInstances ⟨1⟩ "south" [⟨2⟩] with networkActions := ["signal"] }

theorem divides : Divides [northern, southern] tree := by
  constructor
  case separate => decide
  case disjoint =>
    rw [List.pairwise_pair]
    simp [northern, southern, Federate.ofInstances]
  case covers =>
    intro rootNode root_eq id
    obtain rfl := Except.ok.inj root_eq
    simp [northern, southern, Federate.ofInstances]

def program : Program where
  name := "Harbour"
  target := "Python"
  properties := []
  preambles := []
  classes := []
  tree := tree
  federates := [northern, southern]
  connections := []

/-- One federate lowers what the crane declares, and the southern one lowers the action
of the main reactor. -/
theorem program_divided :
    (∃ before home after top,
      [northern, southern] = before ++ home :: after ∧
        tree.LivesUnder top ⟨3⟩ ∧
        top ∈ home.instances ∧
        program.Lowers home ⟨3⟩ [lift] [shift] ∧
        ∀ other ∈ before ++ after,
          program.lowerActions other ⟨3⟩ = .ok [] ∧
          program.lowerTimers other ⟨3⟩ = .ok []) ∧
      program.Lowers northern ReactorTree.root [] [] ∧
      program.Lowers southern ReactorTree.root [signal] [] := by
  obtain ⟨below, rootNode, root_eq, atRoot⟩ :=
    @Program.divided_among_federates program grown _ divides
  obtain rfl := Except.ok.inj root_eq
  refine ⟨?_, (atRoot northern (by decide)).2, (atRoot southern (by decide)).2⟩
  obtain ⟨before, home, after, top, federates_eq, _, under, isListed, _, lowered, nowhere⟩ :=
    @below ⟨3⟩ _ rfl (by decide)
  refine ⟨before, home, after, top, federates_eq, under, isListed, lowered, ?_⟩
  intro other isOther
  exact (nowhere other isOther).2.2

end Harbour
end ReactorGen
