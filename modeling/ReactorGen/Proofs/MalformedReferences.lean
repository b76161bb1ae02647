import ReactorGen.Proofs.Degradations
import ReactorGen.Proofs.ForeignClasses
import ReactorGen.Proofs.InstanceLists

/-!
# Malformed references

A program may refer to classes, modes and reactions that are not there.  A reaction of
the main reactor that does not exist is ignored.  An instance of an unknown class and a
trigger of an unknown mode are reported as faults of the federate that holds them.  An
unknown class in another federate does not matter, with one exception: a contained
reactor is looked up among the instances of all federates, and if the first of its name
has an unknown class, the generation of the federate that refers to it breaks off with a
dangling reference.
-/

namespace ReactorGen

/-! ## Reactions of the main reactor -/

/-- The federate with other reactions of the main reactor. -/
def Federate.withReactions (federate : Federate) (reactions : List Nat) : Federate :=
  { federate with networkReactions := reactions }

namespace Program

/-- Whether a list has the same reactions of the main reactor as a federate, apart from
numbers that are none of its reactions. -/
def ListsSameReactions
    (program : Program)
    (federate : Federate)
    (reactions : List Nat) : Prop :=
  ∀ reactorClass, program.classOf ReactorTree.root = .ok reactorClass ->
    ∀ index < reactorClass.reactions.length,
      index ∈ reactions ↔ index ∈ federate.networkReactions

namespace ListsSameReactions

variable
  {program : Program}
  {federate : Federate}
  {reactions : List Nat}
  (same : program.ListsSameReactions federate reactions)

include same

theorem classReactions_eq (id : ClassId) :
    program.classReactions (federate.withReactions reactions) id =
      program.classReactions federate id := by
  rw [classReactions, classReactions]
  refine Result.bind_congr fun root root_eq => Result.bind_congr fun reactorClass class_eq =>
    Result.filterM_congr fun index member => ?_
  by_cases isRoot : root = id
  · subst isRoot
    rw [if_pos rfl, if_pos rfl]
    have main_eq : program.classOf ReactorTree.root = .ok reactorClass := by
      obtain ⟨node, node_eq, root_eq⟩ := Result.bind_eq_ok.mp root_eq
      rw [classOf, node_eq, Result.ok_bind, Result.pure_eq_ok.mp root_eq, class_eq]
    have listed := same reactorClass main_eq index (List.mem_range.mp member)
    have contains_eq :
        reactions.contains index = federate.networkReactions.contains index := by
      rw [Bool.eq_iff_iff, List.contains_iff_mem, List.contains_iff_mem]
      exact listed
    unfold Federate.containsReaction
    rw [show (federate.withReactions reactions).networkReactions = reactions from rfl,
      contains_eq]
    rfl
  · rw [if_neg isRoot, if_neg isRoot]

theorem classCode_eq (settings : Settings) :
    program.classCode settings (federate.withReactions reactions) =
      program.classCode settings federate := by
  funext id
  have selfStruct_eq : program.selfStruct (federate.withReactions reactions) id =
      program.selfStruct federate id := by
    rw [selfStruct, selfStruct, same.classReactions_eq]
    rfl
  have reactionCode_eq :
      program.reactionCode settings (federate.withReactions reactions) id =
        program.reactionCode settings federate id := by
    funext layout
    rw [reactionCode, reactionCode, same.classReactions_eq]
    rfl
  rw [classCode, classCode, selfStruct_eq, reactionCode_eq]
  rfl

/-- Numbers that are no reactions of the main reactor are ignored. -/
theorem generateFederate_eq (environment : Environment) (baseName : String) :
    program.generateFederate environment (federate.withReactions reactions) baseName =
      program.generateFederate environment federate baseName := by
  have collectClass_eq : ∀ settings,
      program.collectClass settings (federate.withReactions reactions) =
        program.collectClass settings federate := by
    intro settings
    funext id
    rw [collectClass, collectClass, same.classCode_eq]
  have interpreterFiles_eq : ∀ environment,
      program.interpreterFiles environment (federate.withReactions reactions) =
        program.interpreterFiles environment federate := by
    intro environment
    funext topLevelName classes
    rw [interpreterFiles, interpreterFiles, collectClass_eq]
    rfl
  have federateFiles_eq : ∀ environment,
      program.federateFiles environment (federate.withReactions reactions) =
        program.federateFiles environment federate := by
    intro environment
    funext topLevelName
    rw [federateFiles, federateFiles, interpreterFiles_eq]
    rfl
  rw [generateFederate, generateFederate, federateFiles_eq]
  rfl

end ListsSameReactions
end Program
/-! ## Generation in stages -/

/-- What is listed below an instance starts with the instance. -/
theorem ReactorTree.mem_listing_self
    {tree : ReactorTree}
    {bound : Nat}
    {id : InstanceId}
    {listing : List InstanceId}
    (listed : tree.listingWithin bound id = .ok listing) :
    id ∈ listing := by
  cases bound with
  | zero => exact absurd listed (by simp [listingWithin])
  | succ bound =>
    obtain ⟨_, _, below, _, rfl⟩ := listingWithin_succ_eq_ok.mp listed
    exact List.mem_cons_self ..

/-- The children of a listed instance are listed. -/
theorem ReactorTree.child_mem_listing
    {tree : ReactorTree}
    {bound : Nat}
    {id other child : InstanceId}
    {node : ReactorInstance}
    {listing : List InstanceId}
    (listed : tree.listingWithin bound id = .ok listing)
    (member : other ∈ listing)
    (node_eq : tree.node other = .ok node)
    (isChild : child ∈ node.children) :
    child ∈ listing := by
  induction bound generalizing id listing with
  | zero => exact absurd listed (by simp [listingWithin])
  | succ bound inductionHypothesis =>
    obtain ⟨first, first_eq, below, below_eq, rfl⟩ := listingWithin_succ_eq_ok.mp listed
    refine List.mem_cons_of_mem _ (List.mem_flatten.mpr ?_)
    rcases List.mem_cons.mp member with rfl | inBelow
    · obtain rfl := Except.ok.inj (first_eq.symm.trans node_eq)
      obtain ⟨part, isPart, part_eq⟩ := Result.exists_mem_of_mapM below_eq isChild
      exact ⟨part, isPart, mem_listing_self part_eq⟩
    · obtain ⟨part, isPart, inPart⟩ := List.mem_flatten.mp inBelow
      obtain ⟨_, _, part_eq⟩ := Result.exists_item_of_mapM below_eq isPart
      exact ⟨part, isPart, inductionHypothesis part_eq inPart⟩

/-- A computation that fails like the first unresolved site, and otherwise only if there is
no room for an instance. -/
structure BindsModesWithin
    (room : Prop)
    (tree : ReactorTree)
    (sites : List TriggerSite)
    (result : Except Failure α) : Prop where
  unresolved : ∀ site, sites.find? (·.isUnresolved tree) = some site ->
    result = .error (.fault (.unresolvedMode site.name site.span))
  bound : sites.find? (·.isUnresolved tree) = none -> room -> ∃ value, result = .ok value
  full : sites.find? (·.isUnresolved tree) = none -> ¬ room ->
    result = .error (.dangling .place)

namespace BindsModesWithin

variable
  {room : Prop}
  {tree : ReactorTree}
  {sites : List TriggerSite}
  {result : Except Failure α}

/-- What binds modes may be followed by something that needs room. -/
theorem of_bind
    {next : α -> Except Failure β}
    (binds : BindsModes tree sites result)
    (placed : room -> ∀ value, ∃ last, next value = .ok last)
    (lacks : ¬ room -> ∀ value, next value = .error (.dangling .place)) :
    BindsModesWithin room tree sites (result >>= next) := by
  constructor
  case unresolved =>
    intro site found
    rw [binds.unresolved site found]
    rfl
  case bound =>
    intro resolved hasRoom
    obtain ⟨value, value_eq⟩ := binds.bound resolved
    rw [value_eq]
    exact placed hasRoom value
  case full =>
    intro resolved noRoom
    obtain ⟨value, value_eq⟩ := binds.bound resolved
    rw [value_eq]
    exact lacks noRoom value

/-- Where no room is needed, only modes can be at fault. -/
theorem of_bindsModes
    (binds : BindsModes tree sites result)
    (hasRoom : room) :
    BindsModesWithin room tree sites result :=
  ⟨binds.unresolved, fun resolved _ => binds.bound resolved,
    fun _ noRoom => absurd hasRoom noRoom⟩

theorem congr
    {other : Prop}
    (binds : BindsModesWithin room tree sites result)
    (same : room ↔ other) :
    BindsModesWithin other tree sites result :=
  propext same ▸ binds

theorem map
    (binds : BindsModesWithin room tree sites result)
    (function : α -> β) :
    BindsModesWithin room tree sites (result.map function) := by
  constructor
  case unresolved =>
    intro site found
    rw [binds.unresolved site found]
    rfl
  case bound =>
    intro resolved hasRoom
    obtain ⟨value, value_eq⟩ := binds.bound resolved hasRoom
    rw [value_eq]
    exact ⟨function value, rfl⟩
  case full =>
    intro resolved noRoom
    rw [binds.full resolved noRoom]
    rfl

theorem not_dangles (binds : BindsModesWithin room tree sites result) : ¬ Dangles result := by
  cases found : sites.find? (·.isUnresolved tree) with
  | some site =>
    rw [binds.unresolved site found]
    exact Dangles.not_fault _
  | none =>
    by_cases hasRoom : room
    · obtain ⟨value, value_eq⟩ := binds.bound found hasRoom
      rw [value_eq]
      exact Dangles.not_ok value
    · rw [binds.full found hasRoom]
      exact Dangles.not_place

end BindsModesWithin

namespace Program

variable
  {program : Program}
  {environment : Environment}
  {federate : Federate}

/-- What is generated for a federate is made from its files. -/
theorem exists_generateFederate_eq
    (program : Program)
    (environment : Environment)
    (federate : Federate)
    (baseName : String) :
    ∃ finish, (program.generateFederate environment federate baseName).run.result =
      (program.federateFiles
        { environment with settings := program.federateSettings environment.settings }
        federate (program.topLevelName baseName federate)).run.result.map finish := by
  simp only [generateFederate, Report.result_run_bind, Generation.result_log,
    Result.ok_bind, Generation.result_withWarnings, Report.result_run_pure, Result.map_bind]
  exact ⟨_, rfl⟩

/-- Every instance that the interpreter runs for a federate has a number behind it, so that
its list can be long enough. -/
def HasPlaces (program : Program) (federate : Federate) : Prop :=
  ∀ {instances : List InstanceId} {id : InstanceId} {node : ReactorInstance},
    program.federateInstances federate = .ok instances -> id ∈ instances ->
    program.tree.node id = .ok node -> program.Interprets id -> node.bankIndex + 1 ≠ 0

/-- The statement that makes an instance has the place of the instance. -/
theorem bankIndex_of_instantiation
    {id : InstanceId}
    {instantiation : Instantiation}
    (made : program.instantiation id = .ok instantiation) :
    ∃ node, program.tree.node id = .ok node ∧ instantiation.bankIndex = node.bankIndex := by
  simp only [Program.instantiation, Result.bind_eq_ok, Result.pure_eq_ok] at made
  obtain ⟨node, node_eq, _, _, _, _, _, _, rfl⟩ := made
  exact ⟨node, node_eq, rfl⟩

section Stages

variable
  (ordered : program.tree.Ordered)
  {classes : List ClassId}
  (classes_eq : program.federateClasses federate = .ok classes)

include ordered classes_eq

/-- The instances can be made, and then it depends on their places. -/
theorem exists_instantiations :
    ∃ contained interpreted instantiations,
      program.federateInstances federate = .ok contained ∧
        contained.filterM program.isInterpreted = .ok interpreted ∧
        interpreted.mapM program.instantiation = .ok instantiations := by
  obtain ⟨contained, contained_eq, known⟩ := exists_knownInstances ordered classes_eq
  obtain ⟨interpreted, interpreted_eq⟩ : ∃ interpreted,
      contained.filterM program.isInterpreted = .ok interpreted := by
    refine ⟨_, Result.filterM_eq_ok.mpr ⟨fun id member => ?_, rfl⟩⟩
    obtain ⟨node, reactorClass, node_eq, class_eq⟩ := known id member
    rw [isInterpreted, node_eq, Result.ok_bind, isNative, class_eq]
    exact ⟨_, rfl⟩
  obtain ⟨instantiations, instantiations_eq⟩ : ∃ instantiations,
      interpreted.mapM program.instantiation = .ok instantiations := by
    refine Result.exists_mapM fun id member => ?_
    obtain ⟨_, rfl⟩ := Result.filterM_eq_ok.mp interpreted_eq
    obtain ⟨node, reactorClass, node_eq, class_eq⟩ :=
      known id (List.mem_filter.mp member).1
    obtain ⟨path, _, path_eq, _⟩ := ordered.exists_names node_eq
    rw [instantiation, node_eq, Result.ok_bind, class_eq, Result.ok_bind, path_eq,
      Result.ok_bind, Naming.instanceList, Naming.flatPath, path_eq]
    exact ⟨_, rfl⟩
  exact ⟨contained, interpreted, instantiations, contained_eq, interpreted_eq,
    instantiations_eq⟩

theorem exists_pythonInstances (hasPlaces : program.HasPlaces federate) :
    ∃ instances, program.pythonInstances federate = .ok instances := by
  obtain ⟨contained, interpreted, instantiations, contained_eq, interpreted_eq,
    instantiations_eq⟩ := exists_instantiations ordered classes_eq
  refine ⟨⟨instantiations⟩, pythonInstances_eq_ok.mpr
    ⟨contained, interpreted, contained_eq, interpreted_eq, instantiations_eq, ?_⟩⟩
  intro instantiation member
  obtain ⟨id, isInterpreted, made⟩ := Result.exists_item_of_mapM instantiations_eq member
  obtain ⟨node, node_eq, bankIndex_eq⟩ := bankIndex_of_instantiation made
  obtain ⟨_, rfl⟩ := Result.filterM_eq_ok.mp interpreted_eq
  obtain ⟨isContained, interprets⟩ := List.mem_filter.mp isInterpreted
  rw [bankIndex_eq]
  exact hasPlaces contained_eq isContained node_eq (holds_isInterpreted_iff.mp interprets)

theorem pythonInstances_of_full (full : ¬ program.HasPlaces federate) :
    program.pythonInstances federate = .error .place := by
  obtain ⟨contained, interpreted, instantiations, contained_eq, interpreted_eq,
    instantiations_eq⟩ := exists_instantiations ordered classes_eq
  have lacks : ¬ instantiations.all Instantiation.hasPlace = true := by
    intro placed
    refine full fun {instances id node} instances_eq member node_eq interprets => ?_
    obtain rfl := Except.ok.inj (contained_eq.symm.trans instances_eq)
    obtain ⟨_, rfl⟩ := Result.filterM_eq_ok.mp interpreted_eq
    obtain ⟨instantiation, isMade, made⟩ := Result.exists_mem_of_mapM instantiations_eq
      (List.mem_filter.mpr ⟨member, holds_isInterpreted_iff.mpr interprets⟩)
    obtain ⟨made, sameNode, bankIndex_eq⟩ := bankIndex_of_instantiation made
    obtain rfl := Except.ok.inj (node_eq.symm.trans sameNode)
    rw [← bankIndex_eq]
    simpa [Instantiation.hasPlace] using List.all_eq_true.mp placed _ isMade
  rw [pythonInstances, contained_eq, Result.ok_bind, interpreted_eq, Result.ok_bind,
    instantiations_eq, Result.ok_bind, if_neg lacks]
  rfl

omit ordered in
theorem pythonModule_eq (topLevelName : String) (preamble : List String) :
    ∃ pythonClasses : List PythonClass,
      program.pythonModule federate classes topLevelName preamble = (do
        let instances ← program.pythonInstances federate
        return ⟨topLevelName, preamble, pythonClasses, instances⟩) := by
  obtain ⟨pythonClasses, pythonClasses_eq⟩ : ∃ pythonClasses,
      classes.mapM program.pythonClass = .ok pythonClasses := by
    refine Result.exists_mapM fun id used => ?_
    obtain ⟨reactorClass, class_eq⟩ :=
      exists_classAt_iff.mpr (inRange_of_federateClasses classes_eq used)
    rw [pythonClass, class_eq]
    exact ⟨_, rfl⟩
  refine ⟨pythonClasses, ?_⟩
  rw [pythonModule, pythonClasses_eq, Result.ok_bind]

omit ordered in
theorem exists_modulePreamble (support : SerializationSupport) :
    ∃ preamble, program.modulePreamble classes support = .ok preamble := by
  obtain ⟨found, found_eq⟩ : ∃ found, classes.mapM program.classAt = .ok found :=
    Result.exists_mapM fun id used =>
      exists_classAt_iff.mpr (inRange_of_federateClasses classes_eq used)
  rw [modulePreamble, found_eq]
  exact ⟨_, rfl⟩

/-- For the interpreter, serializers come first, then classes, and after them only modes
and places can be at fault. -/
theorem exists_interpreterFiles_eq
    {sites : List TriggerSite}
    (sites_eq : program.triggerSites federate = .ok sites)
    (topLevelName : String) :
    ∃ rest : SerializationSupport -> List ClassCode -> Except Failure FederateFiles,
      (∀ support codes, BindsModesWithin (program.HasPlaces federate) program.tree sites
        (rest support codes)) ∧
      (program.interpreterFiles environment federate topLevelName classes).run.result = (do
        let support ← (program.enableSerializers environment federate).run.result
        let codes ← classes.mapM (program.classCode environment.settings federate)
        rest support codes) := by
  have collected : ∀ id ∈ classes,
      (program.collectClass environment.settings federate id).run.result =
        program.classCode environment.settings federate id := by
    intro id used
    obtain ⟨reactorClass, class_eq⟩ :=
      exists_classAt_iff.mpr (inRange_of_federateClasses classes_eq used)
    simp only [collectClass, Report.result_run_bind, Generation.result_ofExcept,
      class_eq, Result.liftM_ok, Result.ok_bind, Generation.result_log]
  simp only [interpreterFiles, Report.result_run_bind, Report.result_run_mapM,
    Generation.result_ofExcept, Report.result_run_pure, Result.mapM_congr collected]
  refine ⟨_, fun support codes => ?_, rfl⟩
  obtain ⟨preamble, preamble_eq⟩ := exists_modulePreamble classes_eq support
  obtain ⟨pythonClasses, module_eq⟩ := pythonModule_eq classes_eq topLevelName preamble
  rw [preamble_eq, Result.liftM_ok, Result.ok_bind]
  refine .of_bind (bindsModes_initialization ordered classes_eq sites_eq true) ?_ ?_
  · intro hasPlaces initialization
    obtain ⟨instances, instances_eq⟩ := exists_pythonInstances ordered classes_eq hasPlaces
    rw [module_eq, instances_eq]
    exact ⟨_, rfl⟩
  · intro full initialization
    rw [module_eq, pythonInstances_of_full ordered classes_eq full]
    rfl

end Stages

/-! ## Where generation breaks off -/

theorem exists_enableSerializers_iff :
    (∃ support, (program.enableSerializers environment federate).run.result = .ok support) ↔
      ∀ connection ∈ program.connections, connection.concerns federate = true ->
        ¬ connection.IsUnserved environment.settings := by
  constructor
  · rintro ⟨support, support_eq⟩ connection member concerned
    cases enabled_eq : program.enabledSerializers environment.settings federate with
    | error failure =>
      have failed := enableSerializers_eq_error.mpr enabled_eq
      exact absurd (support_eq.symm.trans failed) nofun
    | ok enabled =>
      obtain ⟨used, used_eq, _⟩ := Result.bind_eq_ok.mp enabled_eq
      obtain ⟨_, _, resolved⟩ := Result.exists_mem_of_mapM used_eq
        (List.mem_filter.mpr ⟨member, concerned⟩)
      exact (resolveSerializer_eq_ok.mp resolved).1
  · intro served
    obtain ⟨enabled, enabled_eq, _⟩ := enabledSerializers_of_served served
    cases support_eq : (program.enableSerializers environment federate).run.result with
    | ok support => exact ⟨support, rfl⟩
    | error failure =>
      have failed := enableSerializers_eq_error.mp support_eq
      exact absurd (failed.symm.trans enabled_eq) nofun

/-- Whether generation comes to a class, one of whose reactions refers to a contained
reactor of an unknown class. -/
def BreaksOff
    (program : Program)
    (settings : Settings)
    (federate : Federate) : Prop :=
  settings.target = .python ∧
    program.ReachesBuild settings federate ∧
    ∃ before id after, program.federateClasses federate = .ok (before ++ id :: after) ∧
      (∀ earlier ∈ before, ∃ code,
        program.classCode settings federate earlier = .ok code) ∧
      program.MeetsStray federate id

/-- Whether generation comes to the instances of a federate: its classes are known, and
in the interpreter's target its serializers are served and the code of its classes is
written. -/
def ReachesInstances
    (program : Program)
    (settings : Settings)
    (federate : Federate) : Prop :=
  ∃ classes, program.federateClasses federate = .ok classes ∧
    (settings.target = .python ->
      (∀ connection ∈ program.connections, connection.concerns federate = true ->
        ¬ connection.IsUnserved settings) ∧
      ∀ id ∈ classes, ∃ code, program.classCode settings federate id = .ok code)

theorem result_federateFiles
    {classes : List ClassId}
    (classes_eq : program.federateClasses federate = .ok classes)
    (topLevelName : String) :
    (program.federateFiles environment federate topLevelName).run.result =
      if environment.settings.target = .python then
        (program.interpreterFiles environment federate topLevelName classes).run.result
      else (program.triggerFiles federate topLevelName).run.result := by
  rw [federateFiles, Report.result_run_bind, Generation.result_ofExcept, classes_eq,
    Result.ok_bind]
  split <;> rfl

section Outcome

variable (ordered : program.tree.Ordered)

include ordered

theorem bindsModes_triggerFiles
    {classes : List ClassId}
    (classes_eq : program.federateClasses federate = .ok classes)
    {sites : List TriggerSite}
    (sites_eq : program.triggerSites federate = .ok sites)
    (topLevelName : String) :
    BindsModes program.tree sites
      (program.triggerFiles federate topLevelName).run.result := by
  rw [triggerFiles, Report.result_run_bind, Generation.result_ofExcept]
  exact (bindsModes_initialization ordered classes_eq sites_eq false).map _

/-- Where generation comes to the instances, only modes and places can be at fault. -/
theorem bindsModes_federateFiles
    (reaches : program.ReachesInstances environment.settings federate)
    {sites : List TriggerSite}
    (sites_eq : program.triggerSites federate = .ok sites)
    (topLevelName : String) :
    BindsModesWithin (environment.settings.target = .python -> program.HasPlaces federate)
      program.tree sites
      (program.federateFiles environment federate topLevelName).run.result := by
  obtain ⟨classes, classes_eq, reaches⟩ := reaches
  rw [result_federateFiles classes_eq]
  split
  case isTrue python =>
    obtain ⟨served, coded⟩ := reaches python
    obtain ⟨rest, binds, files_eq⟩ :=
      exists_interpreterFiles_eq ordered classes_eq sites_eq topLevelName
    obtain ⟨support, support_eq⟩ := exists_enableSerializers_iff.mpr served
    obtain ⟨codes, codes_eq⟩ := Result.exists_mapM coded
    rw [files_eq, support_eq, Result.ok_bind, codes_eq, Result.ok_bind]
    exact (binds support codes).congr ⟨fun hasPlaces _ => hasPlaces, fun hasPlaces => hasPlaces python⟩
  case isFalse other =>
    exact .of_bindsModes (bindsModes_triggerFiles ordered classes_eq sites_eq topLevelName)
      fun python => absurd python other

/-- Generation breaks off exactly at a reference to a contained reactor of an unknown
class. -/
theorem dangles_federateFiles_iff
    (knowsEnds : program.KnowsEnds federate)
    (topLevelName : String) :
    Dangles (program.federateFiles environment federate topLevelName).run.result ↔
      program.BreaksOff environment.settings federate := by
  obtain ⟨sites, sites_eq⟩ := exists_triggerSites ordered federate
  cases classes_eq : program.federateClasses federate with
  | error failure =>
    have unreached : ¬ program.BreaksOff environment.settings federate := by
      rintro ⟨_, _, _, _, _, some_eq, _⟩
      cases classes_eq.symm.trans some_eq
    refine iff_of_false (fun dangles => ?_) unreached
    rw [federateFiles, Report.result_run_bind, Generation.result_ofExcept,
      Dangles.bind_iff, classes_eq] at dangles
    rcases dangles with dangles | ⟨_, some_eq, _⟩
    · rw [← classes_eq] at dangles
      exact not_dangles_federateClasses ordered dangles
    · cases some_eq
  | ok classes =>
    rw [result_federateFiles classes_eq]
    split
    case isFalse other =>
      refine iff_of_false ?_ fun breaksOff => other breaksOff.1
      have binds := bindsModes_triggerFiles ordered classes_eq sites_eq topLevelName
      exact (BindsModesWithin.of_bindsModes binds trivial).not_dangles
    case isTrue python =>
      obtain ⟨rest, binds, files_eq⟩ :=
        exists_interpreterFiles_eq ordered classes_eq sites_eq topLevelName
      have stray_iff : ∀ id ∈ classes,
          (Dangles (program.classCode environment.settings federate id) ↔
            program.MeetsStray federate id) := by
        intro id used
        obtain ⟨reactorClass, class_eq⟩ :=
          exists_classAt_iff.mpr (inRange_of_federateClasses classes_eq used)
        exact dangles_classCode_iff knowsEnds ordered class_eq
      rw [files_eq, Dangles.bind_iff]
      constructor
      · rintro (dangles | ⟨support, support_eq, dangles⟩)
        · exact absurd dangles (not_dangles_enableSerializers knowsEnds)
        · rcases Dangles.bind_iff.mp dangles with dangles | ⟨codes, _, dangles⟩
          · obtain ⟨before, id, after, rfl, coded, dangles⟩ := Dangles.mapM_iff.mp dangles
            refine ⟨python, ⟨?_, exists_enableSerializers_iff.mp ⟨support, support_eq⟩⟩,
              before, id, after, classes_eq, coded, ?_⟩
            · rw [classes_eq]
              rfl
            · exact (stray_iff id (by simp)).mp dangles
          · exact absurd dangles (binds support codes).not_dangles
      · rintro ⟨_, ⟨_, served⟩, before, id, after, same_eq, coded, meets⟩
        obtain rfl := Except.ok.inj (classes_eq.symm.trans same_eq)
        obtain ⟨support, support_eq⟩ := exists_enableSerializers_iff.mpr served
        refine .inr ⟨support, support_eq, Dangles.bind_iff.mpr (.inl ?_)⟩
        exact Dangles.mapM_iff.mpr
          ⟨before, id, after, rfl, coded, (stray_iff id (by simp)).mpr meets⟩

/-- Generation breaks off only if some instance of another federate has an unknown
class. -/
theorem exists_foreign_of_breaksOff
    {settings : Settings}
    (breaksOff : program.BreaksOff settings federate) :
    ∃ stray node, federate.containsInstance program.tree stray = .ok false ∧
      program.tree.node stray = .ok node ∧
      program.classes.length ≤ node.reactorClass.index := by
  obtain ⟨_, _, _, _, _, classes_eq, _, meets⟩ := breaksOff
  obtain ⟨_, _, container, child, _, _, _, child_eq, outOfRange⟩ := meets
  simp only [firstChild?, instancesOf, Result.bind_eq_ok, Result.pure_eq_ok] at child_eq
  obtain ⟨_, ⟨listing, listing_eq, nodes, nodes_eq, rfl⟩, children, children_eq, found⟩ :=
    child_eq
  obtain ⟨stray, isChild, stray_eq⟩ :=
    Result.exists_item_of_mapM children_eq (List.mem_of_find?_eq_some found)
  obtain ⟨owner, isOwner, isChild⟩ := List.mem_flatMap.mp isChild
  obtain ⟨ownerId, isListed, owner_eq⟩ :=
    Result.exists_item_of_mapM nodes_eq (List.mem_filter.mp isOwner).1
  have strayListed :=
    ReactorTree.child_mem_listing listing_eq isListed owner_eq isChild
  refine ⟨stray, child, ?_, stray_eq, outOfRange⟩
  obtain ⟨answer, answer_eq⟩ := federate.exists_containsInstance ordered stray_eq
  cases answer with
  | false => exact answer_eq
  | true =>
    obtain ⟨_, _, failed⟩ :=
      usedClass?_of_hasUnknownClass ordered ⟨answer_eq, child, stray_eq, outOfRange⟩
    rw [federateClasses, listing_eq, Result.liftM_ok, Result.ok_bind] at classes_eq
    obtain ⟨_, used_eq, _⟩ := Result.bind_eq_ok.mp classes_eq
    obtain ⟨_, _, succeeded⟩ := Result.exists_mem_of_mapM used_eq strayListed
    cases failed.symm.trans succeeded

end Outcome

/-- Whether the connections of a program are between its federates. -/
def ConnectsFederates (program : Program) : Prop :=
  ∀ connection ∈ program.connections,
    connection.sendingFederate.index < program.federates.length ∧
      connection.receivingFederate.index < program.federates.length

theorem ConnectsFederates.knowsEnds
    (connects : program.ConnectsFederates)
    (federate : Federate) :
    program.KnowsEnds federate := by
  intro connection member _
  obtain ⟨senderInRange, receiverInRange⟩ := connects connection member
  exact ⟨_, _, Result.orDangling_eq_ok.mpr (List.getElem?_eq_getElem senderInRange),
    Result.orDangling_eq_ok.mpr (List.getElem?_eq_getElem receiverInRange)⟩

/-- What becomes of the malformed references of a program in one of its federates. -/
structure ReportsReferences
    (program : Program)
    (environment : Environment)
    (federate : Federate)
    (baseName : String)
    (settings : Settings) : Prop where
  /-- The first instance of the federate whose class is unknown is reported. -/
  unknownClass : ∀ {before id after},
    program.tree.preorder = .ok (before ++ id :: after) ->
    (∀ earlier ∈ before, ¬ program.HasUnknownClass federate earlier) ->
    program.HasUnknownClass federate id ->
    ∃ path, program.tree.fullName id = .ok path ∧
      (program.generateFederate environment federate baseName).run.result =
        .error (.fault (.unknownReactorClass path))
  /-- Generation meets a dangling reference where it breaks off, and nowhere else. -/
  breaksOff_iff :
    Dangles (program.generateFederate environment federate baseName).run.result ↔
      program.BreaksOff settings federate
  /-- An instance of another federate is needed for that. -/
  stray : program.BreaksOff settings federate ->
    ∃ stray node, federate.containsInstance program.tree stray = .ok false ∧
      program.tree.node stray = .ok node ∧
      program.classes.length ≤ node.reactorClass.index
  /-- Apart from that, unknown classes in other federates have no effect. -/
  foreign : ∀ {classes}, program.ChangesForeign federate classes ->
    ¬ program.BreaksOff settings federate ->
    (program.reclassify classes).generateFederate environment federate baseName =
      program.generateFederate environment federate baseName
  /-- At the instances, the first trigger of an unknown mode is reported, and nothing
  else stops generation there, as long as the lists of the interpreter can be long
  enough. -/
  modes : ∃ sites, program.triggerSites federate = .ok sites ∧
    (program.ReachesInstances settings federate ->
      BindsModesWithin (settings.target = .python -> program.HasPlaces federate)
        program.tree sites
        (program.generateFederate environment federate baseName).run.result)
  /-- Numbers that are no reactions of the main reactor are ignored. -/
  reactions : ∀ {reactions}, program.ListsSameReactions federate reactions ->
    program.generateFederate environment (federate.withReactions reactions) baseName =
      program.generateFederate environment federate baseName

/-- Malformed references are reported or ignored in a tree that is built from its root,
except for contained reactors that are found in other federates. -/
theorem generateFederate_reportsReferences
    (grown : program.tree.Grown)
    (connects : program.ConnectsFederates)
    (environment : Environment)
    (federate : Federate)
    (baseName : String) :
    program.ReportsReferences environment federate baseName
      (program.federateSettings environment.settings) := by
  have ordered := grown.ordered
  have knowsEnds := connects.knowsEnds federate
  obtain ⟨sites, sites_eq⟩ := exists_triggerSites ordered federate
  obtain ⟨finish, result_eq⟩ :=
    program.exists_generateFederate_eq environment federate baseName
  have breaksOff_iff :
      Dangles (program.generateFederate environment federate baseName).run.result ↔
        program.BreaksOff (program.federateSettings environment.settings) federate := by
    rw [result_eq, Dangles.map_iff, dangles_federateFiles_iff ordered knowsEnds]
  constructor
  case unknownClass =>
    intro before id after listing_eq first malformed
    obtain ⟨path, path_eq, classes_eq⟩ :=
      federateClasses_of_unknown ordered listing_eq first malformed
    refine ⟨path, path_eq, ?_⟩
    rw [result_eq, federateFiles, Report.result_run_bind, Generation.result_ofExcept,
      classes_eq]
    rfl
  case breaksOff_iff => exact breaksOff_iff
  case stray => exact exists_foreign_of_breaksOff ordered
  case foreign =>
    intro classes changes goesOn
    refine (changes.generateFederate_follows ordered environment baseName).resolve_left ?_
    rw [breaksOff_iff]
    exact goesOn
  case modes =>
    refine ⟨sites, sites_eq, fun reaches => ?_⟩
    let configured : Environment :=
      { environment with settings := program.federateSettings environment.settings }
    have reachesThere : program.ReachesInstances configured.settings federate := reaches
    rw [result_eq]
    exact (bindsModes_federateFiles ordered reachesThere sites_eq _).map finish
  case reactions =>
    intro reactions same
    exact same.generateFederate_eq environment baseName

end Program

namespace Warehouse

/-- A dock that reads what its crate holds. -/
def dockClass : ReactorClass :=
  { ReactorClass.ofName "Dock" with
    reactions := [⟨[.var ⟨some "crate", "load"⟩], [], [], "pass", none, none⟩] }

def crateClass : ReactorClass :=
  { ReactorClass.ofName "Crate" with outputs := [⟨"load", none, none⟩] }

/-- A warehouse with two docks.  The class of the first crate is not in the table. -/
def tree : ReactorTree where
  instances := [
    { ReactorInstance.ofName "Warehouse" ⟨0⟩ none with children := [⟨1⟩, ⟨3⟩] },
    { ReactorInstance.ofName "north" ⟨1⟩ (some ⟨0⟩) with children := [⟨2⟩] },
    ReactorInstance.ofName "crate" ⟨9⟩ (some ⟨1⟩),
    { ReactorInstance.ofName "south" ⟨1⟩ (some ⟨0⟩) with children := [⟨4⟩] },
    ReactorInstance.ofName "crate" ⟨2⟩ (some ⟨3⟩)]
  modes := []

theorem grown : tree.Grown := by
  have warehouse := ReactorTree.Grown.ofRoot "Warehouse" ⟨0⟩
  have north := warehouse.step
    (@ReactorTree.Step.addChild _ ⟨0⟩ _ _ "north" ⟨1⟩ (by decide) rfl)
  have northCrate := north.step
    (@ReactorTree.Step.addChild _ ⟨1⟩ _ _ "crate" ⟨9⟩ (by decide) rfl)
  have south := northCrate.step
    (@ReactorTree.Step.addChild _ ⟨0⟩ _ _ "south" ⟨1⟩ (by decide) rfl)
  exact south.step (@ReactorTree.Step.addChild _ ⟨3⟩ _ _ "crate" ⟨2⟩ (by decide) rfl)

def northern : Federate := .ofInstances ⟨0⟩ "north" [⟨1⟩]

def southern : Federate := .ofInstances ⟨1⟩ "south" [⟨3⟩]

def program : Program where
  name := "Warehouse"
  target := "Python"
  properties := []
  preambles := []
  classes := [{ ReactorClass.ofName "Warehouse" with isMain := true, isFederated := true },
    dockClass, crateClass]
  tree := tree
  federates := [northern, southern]
  connections := []

def environment : Environment := ⟨.ofTarget .python, fun _ => none, none⟩

/-- The classes of the instances as they should be. -/
def repaired (id : InstanceId) : ClassId :=
  ⟨[0, 1, 2, 1, 2].getD id.index 0⟩

/-- What becomes of the references of the warehouse in its southern federate. -/
theorem southern_reportsReferences :
    tree.Grown ∧ program.ConnectsFederates ∧
      program.ReportsReferences environment southern "Warehouse"
        (program.federateSettings environment.settings) := by
  have connects : program.ConnectsFederates := nofun
  exact ⟨grown, connects, Program.generateFederate_reportsReferences grown connects
    environment southern "Warehouse"⟩

/-- All instances of the southern federate are of known classes, but its dock is looked
up together with the northern one, whose crate is not. -/
theorem southern_breaksOff :
    tree.Grown ∧ program.ConnectsFederates ∧
      program.federateClasses southern = .ok [⟨0⟩, ⟨1⟩, ⟨2⟩] ∧
      southern.containsInstance tree ⟨2⟩ = .ok false ∧
      (program.generateFederate environment southern "Warehouse").run.result =
        .error (.dangling (.reactorClass ⟨9⟩)) ∧
      ∃ generated, ((program.reclassify repaired).generateFederate environment southern
        "Warehouse").run.result = .ok generated := by
  exact ⟨grown, nofun, rfl, rfl, rfl, _, rfl⟩

end Warehouse
end ReactorGen
