import ReactorGen.Proofs.GenerationStages

/-!
# Trigger sites

Initialization goes through the actions and the timers of a federate and binds each of
them to its mode.  It stops at the first trigger whose mode its owner does not list, and
nothing else stops it once the classes of the instances are known.
-/

namespace ReactorGen

/-- A trigger with the mode that it asks for. -/
structure TriggerSite where
  /-- The path of the trigger. -/
  name : String
  mode : Option ModeId
  span : Option Span
deriving DecidableEq, Repr

namespace TriggerSite

/-- The site of an action of the instance with the given path. -/
def ofAction (path : String) (action : ActionInstance) : TriggerSite :=
  ⟨path ++ "." ++ action.name, action.mode, action.span⟩

/-- The site of a timer of the instance with the given path. -/
def ofTimer (path : String) (timer : TimerInstance) : TriggerSite :=
  ⟨path ++ "." ++ timer.name, timer.mode, none⟩

/-- Whether the mode of a trigger is not among the modes of its owner. -/
def isUnresolved (tree : ReactorTree) (site : TriggerSite) : Bool :=
  site.mode.any fun mode => (tree.modeIndex? mode).isNone

theorem not_isUnresolved_iff
    {tree : ReactorTree}
    {site : TriggerSite} :
    site.isUnresolved tree = false ↔ tree.Lists site.mode := by
  cases mode_eq : site.mode with
  | none => simp [isUnresolved, ReactorTree.Lists, mode_eq]
  | some mode => simp [isUnresolved, ReactorTree.Lists, mode_eq, Option.isSome_iff_ne_none]

end TriggerSite

/-- A computation that fails like the first unresolved site, and only there. -/
structure BindsModes
    (tree : ReactorTree)
    (sites : List TriggerSite)
    (result : Except Failure α) : Prop where
  bound : sites.find? (·.isUnresolved tree) = none -> ∃ value, result = .ok value
  unresolved : ∀ site, sites.find? (·.isUnresolved tree) = some site ->
    result = .error (.fault (.unresolvedMode site.name site.span))

namespace BindsModes

variable {tree : ReactorTree}

theorem ok (value : α) : BindsModes tree [] (.ok value : Except Failure α) :=
  ⟨fun _ => ⟨value, rfl⟩, nofun⟩

/-- In a sequence, the sites of the first part come first. -/
theorem bind
    {first : Except Failure α}
    {next : α -> Except Failure β}
    {firstSites nextSites : List TriggerSite}
    (firstBinds : BindsModes tree firstSites first)
    (nextBinds : ∀ value, first = .ok value -> BindsModes tree nextSites (next value)) :
    BindsModes tree (firstSites ++ nextSites) (first >>= next) := by
  cases found : firstSites.find? (·.isUnresolved tree) with
  | some site =>
    have fails := firstBinds.unresolved site found
    constructor
    case bound => simp [List.find?_append, found]
    case unresolved =>
      intro other isFirst
      rw [List.find?_append, found, Option.some_or, Option.some.injEq] at isFirst
      rw [← isFirst, fails]
      rfl
  | none =>
    obtain ⟨value, value_eq⟩ := firstBinds.bound found
    have later := nextBinds value value_eq
    rw [value_eq, Result.ok_bind]
    constructor
    case bound =>
      intro resolved
      rw [List.find?_append, found, Option.none_or] at resolved
      exact later.bound resolved
    case unresolved =>
      intro site isFirst
      rw [List.find?_append, found, Option.none_or] at isFirst
      exact later.unresolved site isFirst

/-- A last step that never fails adds no sites. -/
theorem map
    {first : Except Failure α}
    {sites : List TriggerSite}
    (binds : BindsModes tree sites first)
    (next : α -> β) :
    BindsModes tree sites (first >>= fun value => .ok (next value)) := by
  rw [← List.append_nil sites]
  exact binds.bind fun value _ => ok (next value)

theorem mapM
    {step : α -> Except Failure β}
    {siteOf : α -> TriggerSite}
    (binds : ∀ item, BindsModes tree [siteOf item] (step item))
    (items : List α) :
    BindsModes tree (items.map siteOf) (items.mapM step) := by
  induction items with
  | nil => exact ok []
  | cons first rest inductionHypothesis =>
    rw [List.mapM_cons, List.map_cons, ← List.singleton_append]
    exact (binds first).bind fun value _ => inductionHypothesis.map (value :: ·)

theorem foldlM
    {step : β -> α -> Except Failure β}
    {items : List α}
    {siteLists : List (List TriggerSite)}
    (binds : List.Forall₂ (fun item sites => ∀ state, BindsModes tree sites (step state item))
      items siteLists)
    (start : β) :
    BindsModes tree siteLists.flatten (items.foldlM step start) := by
  induction binds generalizing start with
  | nil => exact ok start
  | cons first _ inductionHypothesis =>
    rw [List.foldlM_cons, List.flatten_cons]
    exact (first start).bind fun state _ => inductionHypothesis state

end BindsModes

namespace Program

/-- The triggers that a federate initializes for an instance, the actions before the
timers. -/
def instanceSites
    (program : Program)
    (federate : Federate)
    (id : InstanceId) : Except DanglingReference (List TriggerSite) := do
  let path ← program.tree.fullName id
  let actions ← program.federateActions federate id
  let timers ← program.federateTimers federate id
  return actions.map (.ofAction path) ++ timers.map (.ofTimer path)

/-- The triggers that a federate initializes, in the order of the tree. -/
def triggerSites
    (program : Program)
    (federate : Federate) : Except DanglingReference (List TriggerSite) := do
  let instances ← program.federateInstances federate
  let sites ← instances.mapM (program.instanceSites federate)
  return sites.flatten

variable
  {program : Program}
  {federate : Federate}
  {id : InstanceId}
  {node : ReactorInstance}
  (ordered : program.tree.Ordered)

include ordered

theorem bindsModes_bindMode (site : TriggerSite) :
    BindsModes program.tree [site] (program.bindMode site.mode site.name site.span) := by
  constructor
  case bound =>
    intro resolved
    have listed := TriggerSite.not_isUnresolved_iff.mp
      (Bool.eq_false_iff.mpr (by simpa using resolved))
    exact exists_bindMode ordered listed site.name site.span
  case unresolved =>
    intro other isFirst
    obtain ⟨member, unresolved⟩ :=
      And.intro (List.mem_of_find?_eq_some isFirst) (List.find?_some isFirst)
    obtain rfl := List.mem_singleton.mp member
    refine bindMode_of_not_lists (fun listed => ?_) other.name other.span
    rw [TriggerSite.not_isUnresolved_iff.mpr listed] at unresolved
    exact Bool.false_ne_true unresolved

theorem bindsModes_lowerAction (owner path : String) (action : ActionInstance) :
    BindsModes program.tree [.ofAction path action]
      (program.lowerAction owner path action) :=
  (bindsModes_bindMode ordered (.ofAction path action)).map _

theorem bindsModes_lowerTimer (owner path : String) (timer : TimerInstance) :
    BindsModes program.tree [.ofTimer path timer]
      (program.lowerTimer owner path timer) :=
  (bindsModes_bindMode ordered (.ofTimer path timer)).map _

theorem exists_instanceSites
    (federate : Federate)
    (node_eq : program.tree.node id = .ok node) :
    ∃ sites, program.instanceSites federate id = .ok sites := by
  obtain ⟨path, _, path_eq, _⟩ := ordered.exists_names node_eq
  obtain ⟨actions, actions_eq⟩ := exists_federateActions ordered federate node_eq
  obtain ⟨timers, timers_eq⟩ := exists_federateTimers ordered federate node_eq
  rw [instanceSites, path_eq, Result.ok_bind, actions_eq, Result.ok_bind, timers_eq]
  exact ⟨_, rfl⟩

/-- The methods of an instance of a known class can be stored. -/
theorem exists_methodLinks
    (node_eq : program.tree.node id = .ok node)
    {reactorClass : ReactorClass}
    (class_eq : program.classAt node.reactorClass = .ok reactorClass) :
    ∃ links, program.methodLinks id = .ok links := by
  obtain ⟨_, owner, _, owner_eq⟩ := ordered.exists_names node_eq
  rw [methodLinks, node_eq, Result.ok_bind, class_eq, Result.ok_bind]
  split
  case isTrue => exact ⟨_, rfl⟩
  case isFalse =>
    rw [owner_eq]
    exact ⟨_, rfl⟩

/-- Only an unresolved mode stops the initialization of an instance of a known
class. -/
theorem bindsModes_initializeInstance
    (node_eq : program.tree.node id = .ok node)
    {reactorClass : ReactorClass}
    (class_eq : program.classAt node.reactorClass = .ok reactorClass)
    {sites : List TriggerSite}
    (sites_eq : program.instanceSites federate id = .ok sites)
    (withSelfStruct : Bool)
    (done : Initialization) :
    BindsModes program.tree sites
      (program.initializeInstance federate withSelfStruct done id) := by
  obtain ⟨ancestry, ancestry_eq⟩ := ordered.exists_ancestry node_eq
  obtain ⟨path, owner, path_eq, owner_eq⟩ := ordered.exists_names node_eq
  have list_eq : Naming.instanceList program.tree id =
      .ok (Text.underscored path ++ "_lf") := by
    rw [Naming.instanceList, Naming.flatPath, path_eq]
    rfl
  obtain ⟨actions, actions_eq⟩ := exists_federateActions ordered federate node_eq
  obtain ⟨timers, timers_eq⟩ := exists_federateTimers ordered federate node_eq
  obtain ⟨links, links_eq⟩ := exists_methodLinks ordered node_eq class_eq
  rw [instanceSites, path_eq, Result.ok_bind, actions_eq, Result.ok_bind, timers_eq,
    Result.ok_bind, Result.pure_eq_ok] at sites_eq
  rw [← sites_eq]
  have lowersActions : BindsModes program.tree (actions.map (.ofAction path))
      (program.lowerActions federate id) := by
    rw [lowerActions, owner_eq, Result.liftM_ok, Result.ok_bind, path_eq, Result.liftM_ok,
      Result.ok_bind, actions_eq]
    exact BindsModes.mapM (bindsModes_lowerAction ordered owner path) actions
  have lowersTimers : BindsModes program.tree (timers.map (.ofTimer path))
      (program.lowerTimers federate id) := by
    rw [lowerTimers, owner_eq, Result.liftM_ok, Result.ok_bind, path_eq, Result.liftM_ok,
      Result.ok_bind, timers_eq]
    exact BindsModes.mapM (bindsModes_lowerTimer ordered owner path) timers
  simp only [initializeInstance, classOf, node_eq, class_eq, owner_eq, path_eq, list_eq,
    links_eq, initializeTokens, actions_eq, Result.liftM_ok, Result.ok_bind]
  exact lowersActions.bind fun _ _ => lowersTimers.map _

/-- Initialization stops at the first trigger with an unresolved mode, and only
there. -/
theorem bindsModes_initialization
    {classes : List ClassId}
    (classes_eq : program.federateClasses federate = .ok classes)
    {sites : List TriggerSite}
    (sites_eq : program.triggerSites federate = .ok sites)
    (withSelfStruct : Bool) :
    BindsModes program.tree sites (program.initialization federate withSelfStruct) := by
  obtain ⟨instances, instances_eq, known⟩ := exists_knownInstances ordered classes_eq
  rw [triggerSites, instances_eq, Result.ok_bind] at sites_eq
  obtain ⟨siteLists, siteLists_eq, sites_eq⟩ := Result.bind_eq_ok.mp sites_eq
  rw [← Result.pure_eq_ok.mp sites_eq, initialization, instances_eq, Result.liftM_ok,
    Result.ok_bind]
  rw [Result.mapM_eq_ok] at siteLists_eq
  refine BindsModes.foldlM (((List.forall₂_and_left _ _).mpr ⟨known, siteLists_eq⟩).imp ?_) _
  rintro id sites ⟨⟨node, reactorClass, node_eq, class_eq⟩, sites_eq⟩ done
  exact bindsModes_initializeInstance ordered node_eq class_eq sites_eq withSelfStruct done

/-- The triggers of a federate can be listed. -/
theorem exists_triggerSites (federate : Federate) :
    ∃ sites, program.triggerSites federate = .ok sites := by
  obtain ⟨instances, instances_eq, nodes⟩ := exists_federateInstances ordered federate
  obtain ⟨siteLists, siteLists_eq⟩ : ∃ siteLists,
      instances.mapM (program.instanceSites federate) = .ok siteLists := by
    refine Result.exists_mapM fun id member => ?_
    obtain ⟨_, node, node_eq⟩ := nodes id member
    exact exists_instanceSites ordered federate node_eq
  rw [triggerSites, instances_eq, Result.ok_bind, siteLists_eq]
  exact ⟨_, rfl⟩

end Program
end ReactorGen
