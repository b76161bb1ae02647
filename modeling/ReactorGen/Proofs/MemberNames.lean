import Mathlib.Data.List.Nodup
import Mathlib.Data.List.Perm.Basic
import ReactorGen.Proofs.PlainNames
import ReactorGen.Proofs.ReactionArguments
import ReactorGen.Proofs.SelfStructMembers

/-!
# The names of members

Parameters keep their names as members of the self struct; all other members are called
after what they are for, behind a mark that they share.  Names that a class declares are
therefore spread over three levels: parameters stand beside the mark, ports, actions and
contained reactors behind it, and triggers behind a second underscore.  On each level there
are names that the generator makes up, and a member is declared twice exactly if a class
declares one of these.
-/

namespace ReactorGen

open Text

/-! ## Names on three levels -/

namespace LayoutParts

/-- The names of the parameters, which stand on the first level. -/
def parameterNames (parts : LayoutParts) : List String :=
  parts.reactorClass.parameters.map (·.name)

/-- The names of what the struct holds behind the mark: the ports, the actions and the
contained reactors. -/
def heldNames (parts : LayoutParts) : List String :=
  parts.ports.map (·.name) ++ parts.actions.map (·.name) ++
    parts.containers.map (·.1.name)

/-- The names of the multiports, which have widths beside them. -/
def multiportNames (parts : LayoutParts) : List String :=
  (parts.ports.filter (·.width.isSome)).map (·.name)

/-- The names of what has a trigger. -/
def triggerNames (parts : LayoutParts) : List String :=
  parts.reactorClass.inputs.map (·.name) ++ parts.actions.map (·.name) ++
    parts.reactorClass.timers

/-- The names behind the second underscore. -/
def innerNames (parts : LayoutParts) : List String :=
  parts.triggerNames ++
    parts.reactions.map (fun entry => "reaction_" ++ toString entry.1) ++
    if parts.reactorClass.modes.isEmpty then [] else ["modes"]

/-- The names of the methods that the interpreter runs. -/
def methodNames (parts : LayoutParts) : List String :=
  parts.reactorClass.reactions.zipIdx.flatMap fun entry =>
    (entry.1.methods entry.2).map (·.name)

/-- The names behind the mark. -/
def markedNames (parts : LayoutParts) : List String :=
  "name" :: parts.heldNames ++ parts.multiportNames.map (· ++ "_width") ++
    parts.innerNames.map ("_" ++ ·) ++ parts.methodNames.map ("py_" ++ ·)

end LayoutParts

/-- A name behind the mark of members. -/
def marked (name : String) : String := "_lf_" ++ name

theorem marked_injective : Function.Injective marked :=
  fun _ _ => (String.append_right_inj "_lf_").mp

/-! ## Members by their names -/

theorem Member.name_base : Member.base.name = "base" := rfl

theorem Member.name_instanceName : Member.instanceName.name = marked "name" := rfl

theorem Member.name_parameter (name : String) : (Member.parameter name).name = name := rfl

theorem Member.name_port (type : NativeType) (name : String) :
    (Member.port type name).name = marked name := rfl

theorem Member.name_container (name : String) (ports : List NestedMember) :
    (Member.container name ports).name = marked name := rfl

theorem Member.name_trigger (name : String) :
    (Member.trigger name).name = marked ("_" ++ name) := by
  rw [Member.name, marked, ← String.append_assoc]
  rfl

theorem Member.name_reaction (index : Nat) :
    (Member.reaction index).name = marked ("_" ++ ("reaction_" ++ toString index)) := by
  simp only [Member.name, marked, ← String.append_assoc]
  rfl

section Ports

variable
  (reactorClass : ReactorClass)
  (ports : List PortDecl)

theorem ReactorClass.names_portMembers (single : NativeType) (port : PortDecl) :
    (reactorClass.portMembers single port).map Member.name =
      marked port.name ::
        if port.width.isSome then [marked (port.name ++ "_width")] else [] := by
  unfold portMembers
  cases port.width with
  | none => rfl
  | some count => simp [Member.name, marked, String.append_assoc]

theorem ReactorClass.count_names_outputMembers (name : String) :
    ((ports.flatMap reactorClass.outputMembers).map Member.name).count name =
      (ports.map fun port => marked port.name).count name +
      ((ports.filter (·.width.isSome)).map fun port =>
        marked (port.name ++ "_width")).count name := by
  induction ports with
  | nil => rfl
  | cons port rest inductionHypothesis =>
    rw [List.flatMap_cons, List.map_append, List.count_append, inductionHypothesis,
      outputMembers, names_portMembers]
    -- A single port adds nothing to the widths on the right.
    cases multiple : port.width.isSome with
    | false =>
      simp [multiple, List.count_cons]
      omega
    | true =>
      simp [multiple, List.count_cons]
      omega

theorem ReactorClass.count_names_inputMembers (name : String) :
    ((ports.flatMap reactorClass.inputMembers).map Member.name).count name =
      (ports.map fun port => marked port.name).count name +
      ((ports.filter (·.width.isSome)).map fun port =>
        marked (port.name ++ "_width")).count name +
      (ports.map fun port => marked ("_" ++ port.name)).count name := by
  induction ports with
  | nil => rfl
  | cons port rest inductionHypothesis =>
    rw [List.flatMap_cons, List.map_append, List.count_append, inductionHypothesis,
      inputMembers, List.map_append, names_portMembers, List.map_singleton,
      Member.name_trigger]
    cases multiple : port.width.isSome with
    | false =>
      simp [multiple, List.count_cons]
      omega
    | true =>
      simp [multiple, List.count_cons]
      omega

end Ports

/-- The members for what the interpreter runs are called after its methods. -/
theorem ReactorClass.names_callableMembers (index : Nat) (reaction : Reaction) :
    (callableMembers index reaction).map Member.name =
      (reaction.methods index).map fun method => marked ("py_" ++ method.name) := by
  have reactionName : Naming.reactionCallable index =
      marked ("py_" ++ Naming.reactionMethod index) := by
    rw [Naming.reactionCallable, marked, ← String.append_assoc]
    rfl
  have deadlineName : Naming.deadlineCallable index =
      marked ("py_" ++ Naming.deadlineMethod index) := by
    rw [Naming.deadlineCallable, marked, ← String.append_assoc]
    rfl
  unfold callableMembers Reaction.methods
  cases reaction.deadline with
  | none => simp [Member.name, reactionName]
  | some deadline => simp [Member.name, reactionName, deadlineName]

/-- The members are those of the parameters and of what is marked, besides the base. -/
theorem LayoutParts.names_perm (parts : LayoutParts) :
    (parts.members.map Member.name).Perm
      ("base" :: parts.parameterNames ++ parts.markedNames.map marked) := by
  have callables : (parts.reactorClass.reactions.zipIdx.flatMap fun entry =>
        ReactorClass.callableMembers entry.2 entry.1).map Member.name =
      parts.methodNames.map fun method => marked ("py_" ++ method) := by
    rw [methodNames, List.map_flatMap, List.map_flatMap]
    simp only [ReactorClass.names_callableMembers, List.map_map, Function.comp_def]
  have modes : (if parts.reactorClass.modes.isEmpty then []
        else [Member.modes parts.reactorClass.modes.length]).map Member.name =
      (if parts.reactorClass.modes.isEmpty then [] else ["modes"]).map fun name =>
        marked ("_" ++ name) := by
    cases parts.reactorClass.modes <;> rfl
  rw [List.perm_iff_count]
  intro name
  have inputs := parts.reactorClass.count_names_inputMembers parts.reactorClass.inputs name
  have outputs :=
    parts.reactorClass.count_names_outputMembers parts.reactorClass.outputs name
  simp only [members, List.map_append, List.count_append, callables, modes, inputs, outputs]
  simp only [markedNames, innerNames, triggerNames, multiportNames, heldNames, ports,
    parameterNames, List.map_append, List.map_cons, List.map_map, List.count_append,
    List.count_cons, List.map_nil, List.count_nil, List.filter_append, Function.comp_def,
    actionMembers, UsedContainer.member_eq, Member.name_base, Member.name_instanceName,
    Member.name_parameter, Member.name_port, Member.name_trigger, Member.name_container,
    Member.name_reaction]
  omega

/-! ## Clashes -/

namespace LayoutParts

/-- What a class declares and a federate generates is told apart by its names. -/
structure Distinct (parts : LayoutParts) : Prop where
  parameters : parts.parameterNames.Nodup
  held : parts.heldNames.Nodup
  triggers : parts.triggerNames.Nodup
  reactions : (parts.reactions.map Prod.fst).Nodup

/-- No declared name is one that the generator makes up on the same level. -/
structure Spares (parts : LayoutParts) : Prop where
  base : "base" ∉ parts.parameterNames
  parameters : ∀ name ∈ parts.markedNames, marked name ∉ parts.parameterNames
  instanceName : "name" ∉ parts.heldNames
  widths : ∀ port ∈ parts.multiportNames, port ++ "_width" ∉ parts.heldNames
  triggers : ∀ name ∈ parts.innerNames, "_" ++ name ∉ parts.heldNames
  methods : ∀ name ∈ parts.methodNames, "py_" ++ name ∉ parts.heldNames
  /-- A trigger stands behind two underscores, so it may be called like a width. -/
  triggerWidths : ∀ port ∈ parts.multiportNames, ∀ name ∈ parts.triggerNames,
    port ++ "_width" ≠ "_" ++ name
  reactions : ∀ entry ∈ parts.reactions,
    "reaction_" ++ toString entry.1 ∉ parts.triggerNames
  modes : parts.reactorClass.modes ≠ [] -> "modes" ∉ parts.triggerNames

variable {parts : LayoutParts}

/-- A width is not called like what is numbered. -/
theorem width_ne_numbered (port before : String) (number : Nat) :
    port ++ "_width" ≠ before ++ toString number := by
  intro equal
  have ends : EndsIn 'h' (port ++ "_width") := EndsIn.append (by decide) port
  rw [equal] at ends
  exact not_endsIn_numbered (by decide) before number ends

/-- Methods are numbered. -/
theorem exists_number_of_methodNames
    {name : String}
    (member : name ∈ parts.methodNames) :
    ∃ before, ∃ number : Nat, name = before ++ toString number := by
  rw [methodNames, List.mem_flatMap] at member
  obtain ⟨⟨reaction, index⟩, _, inMethods⟩ := member
  obtain ⟨method, isMethod, rfl⟩ := List.mem_map.mp inMethods
  rcases Reaction.mem_methods.mp isMethod with rfl | ⟨deadline, _, rfl⟩
  · exact ⟨"reaction_function_", index, rfl⟩
  · exact ⟨"deadline_function_", index, rfl⟩

theorem nodup_methodNames (parts : LayoutParts) : parts.methodNames.Nodup := by
  rw [methodNames, List.nodup_flatMap]
  constructor
  · rintro ⟨reaction, index⟩ _
    have different := reactionMethod_ne_deadlineMethod index index
    cases late : reaction.deadline with
    | none => simp [Reaction.methods, late]
    | some deadline => simp [Reaction.methods, late, different]
  · have apart : parts.reactorClass.reactions.zipIdx.Pairwise fun first second =>
        first.2 ≠ second.2 := by
      have numbers : (parts.reactorClass.reactions.zipIdx.map Prod.snd).Nodup := by
        rw [List.zipIdx_map_snd]
        exact List.nodup_range'
      rwa [List.Nodup, List.pairwise_map] at numbers
    refine apart.imp fun {first second} different => ?_
    intro name inFirst inSecond
    obtain ⟨left, isLeft, rfl⟩ := List.mem_map.mp inFirst
    obtain ⟨right, isRight, equal⟩ := List.mem_map.mp inSecond
    rcases Reaction.mem_methods.mp isLeft with rfl | ⟨_, _, rfl⟩
    · rcases Reaction.mem_methods.mp isRight with rfl | ⟨_, _, rfl⟩
      · exact different (reactionMethod_inj.mp equal).symm
      · exact reactionMethod_ne_deadlineMethod _ _ equal.symm
    · rcases Reaction.mem_methods.mp isRight with rfl | ⟨_, _, rfl⟩
      · exact reactionMethod_ne_deadlineMethod _ _ equal
      · exact different (deadlineMethod_inj.mp equal).symm

/-- Behind the second underscore, triggers have to keep clear of reactions and modes. -/
theorem nodup_innerNames_iff (distinct : parts.Distinct) :
    parts.innerNames.Nodup ↔
      (∀ entry ∈ parts.reactions,
        "reaction_" ++ toString entry.1 ∉ parts.triggerNames) ∧
      (parts.reactorClass.modes ≠ [] -> "modes" ∉ parts.triggerNames) := by
  have numbered : (parts.reactions.map fun entry =>
      "reaction_" ++ toString entry.1).Nodup := by
    have injective : Function.Injective fun number : Nat => "reaction_" ++ toString number :=
      fun _ _ equal => toString_inj.mp ((String.append_right_inj _).mp equal)
    have numbers := distinct.reactions.map injective
    rwa [List.map_map] at numbers
  have notModes (number : Nat) : "reaction_" ++ toString number ≠ "modes" :=
    append_ne_of_take 1 (by decide) (by decide) (by decide) (toString number)
  have apart : (parts.triggerNames ++
      parts.reactions.map fun entry => "reaction_" ++ toString entry.1).Nodup ↔
      ∀ entry ∈ parts.reactions, "reaction_" ++ toString entry.1 ∉ parts.triggerNames := by
    rw [List.nodup_append', List.disjoint_right, List.forall_mem_map]
    simp only [distinct.triggers, numbered, true_and]
  cases modes : parts.reactorClass.modes with
  | nil =>
    rw [innerNames, modes, List.isEmpty_nil, if_pos rfl, List.append_nil, apart]
    simp
  | cons mode rest =>
    rw [innerNames, modes, List.isEmpty_cons, if_neg Bool.false_ne_true,
      List.nodup_append', apart, List.disjoint_right, List.forall_mem_singleton]
    simp only [List.nodup_singleton, List.mem_append, List.mem_map, notModes, and_false,
      exists_false, or_false, true_and, ne_eq, List.cons_ne_nil, not_false_eq_true,
      true_implies]

/-- Of what stands behind the second underscore, only triggers can be called like the
width of a multiport. -/
theorem widths_ne_innerNames_iff :
    (∀ name ∈ parts.innerNames, ∀ port ∈ parts.multiportNames,
      port ++ "_width" ≠ "_" ++ name) ↔
    ∀ port ∈ parts.multiportNames, ∀ name ∈ parts.triggerNames,
      port ++ "_width" ≠ "_" ++ name := by
  constructor
  · intro apart port isPort name isTrigger
    refine apart name ?_ port isPort
    exact List.mem_append_left _ (List.mem_append_left _ isTrigger)
  · intro apart name isInner port isPort
    rw [innerNames, List.mem_append, List.mem_append, List.mem_map] at isInner
    rcases isInner with (isTrigger | ⟨entry, _, rfl⟩) | isModes
    · exact apart port isPort name isTrigger
    · rw [← String.append_assoc]
      exact width_ne_numbered port _ entry.1
    · obtain rfl : name = "modes" := by
        split at isModes
        · exact absurd isModes List.not_mem_nil
        · exact List.mem_singleton.mp isModes
      exact append_ne_append 1 (by decide) (by decide) (by decide) port "_"

/-- Behind the mark, what the struct holds has to keep clear of everything else. -/
theorem nodup_markedNames_iff (distinct : parts.Distinct) :
    parts.markedNames.Nodup ↔
      "name" ∉ parts.heldNames ∧
      (∀ port ∈ parts.multiportNames, port ++ "_width" ∉ parts.heldNames) ∧
      (∀ name ∈ parts.innerNames, "_" ++ name ∉ parts.heldNames) ∧
      (∀ name ∈ parts.methodNames, "py_" ++ name ∉ parts.heldNames) ∧
      (∀ port ∈ parts.multiportNames, ∀ name ∈ parts.triggerNames,
        port ++ "_width" ≠ "_" ++ name) ∧
      parts.innerNames.Nodup := by
  have widths : (parts.multiportNames.map (· ++ "_width")).Nodup := by
    have ports : parts.multiportNames.Nodup := by
      have held := (List.nodup_append'.mp (List.nodup_append'.mp distinct.held).1).1
      exact held.sublist (List.filter_sublist.map _)
    exact ports.map fun _ _ => (String.append_left_inj "_width").mp
  have inner : (parts.innerNames.map ("_" ++ ·)).Nodup ↔ parts.innerNames.Nodup :=
    List.nodup_map_iff fun _ _ => (String.append_right_inj "_").mp
  have methods : (parts.methodNames.map ("py_" ++ ·)).Nodup :=
    parts.nodup_methodNames.map fun _ _ => (String.append_right_inj "py_").mp
  have widthNotName (port : String) : port ++ "_width" ≠ "name" := by
    intro equal
    have last := congrArg (fun text => text.toList.getLast?) equal
    simp at last
  have innerNotName (name : String) : "_" ++ name ≠ "name" :=
    append_ne_of_take 1 (by decide) (by decide) (by decide) name
  have methodNotName (name : String) : "py_" ++ name ≠ "name" :=
    append_ne_of_take 1 (by decide) (by decide) (by decide) name
  have innerNotMethod (name method : String) : "_" ++ name ≠ "py_" ++ method :=
    append_ne_append_of_take 1 (by decide) (by decide) (by decide) name method
  have widthNotMethod : ∀ name ∈ parts.methodNames, ∀ port ∈ parts.multiportNames,
      port ++ "_width" ≠ "py_" ++ name := by
    intro name isMethod port _
    obtain ⟨before, number, rfl⟩ := exists_number_of_methodNames isMethod
    rw [← String.append_assoc]
    exact width_ne_numbered port ("py_" ++ before) number
  rw [markedNames, List.cons_append, List.cons_append, List.cons_append, List.nodup_cons,
    List.nodup_append', List.nodup_append', List.nodup_append', List.disjoint_right,
    List.disjoint_right, List.disjoint_right, List.forall_mem_map, List.forall_mem_map,
    List.forall_mem_map, inner]
  simp only [widths, methods, distinct.held, List.mem_append, List.mem_map, not_or,
    not_exists, not_and, imp_and, forall_and, widthNotName, innerNotName, methodNotName,
    innerNotMethod, ← ne_eq, widths_ne_innerNames_iff, not_false_eq_true, implies_true,
    and_true, true_and]
  tauto

/-- On the first level, parameters have to keep clear of the base and of the mark. -/
theorem nodup_names_iff_markedNames (distinct : parts.Distinct) :
    (parts.members.map Member.name).Nodup ↔
      "base" ∉ parts.parameterNames ∧
      (∀ name ∈ parts.markedNames, marked name ∉ parts.parameterNames) ∧
      parts.markedNames.Nodup := by
  have baseNotMarked (name : String) : marked name ≠ "base" :=
    append_ne_of_take 1 (by decide) (by decide) (by decide) name
  rw [parts.names_perm.nodup_iff, List.cons_append, List.nodup_cons, List.nodup_append',
    List.disjoint_right, List.forall_mem_map, List.nodup_map_iff marked_injective]
  simp only [distinct.parameters, List.mem_append, List.mem_map, baseNotMarked, and_false,
    exists_false, or_false, true_and]
  tauto

/-- The members of a struct are called differently exactly if the names of the class keep
clear of those that the generator makes up. -/
theorem nodup_names_iff (distinct : parts.Distinct) :
    (parts.members.map Member.name).Nodup ↔ parts.Spares := by
  rw [nodup_names_iff_markedNames distinct, nodup_markedNames_iff distinct,
    nodup_innerNames_iff distinct]
  constructor
  · rintro ⟨base, parameters, instanceName, widths, triggers, methods, triggerWidths,
      reactions, modes⟩
    exact ⟨base, parameters, instanceName, widths, triggers, methods, triggerWidths,
      reactions, modes⟩
  · rintro ⟨base, parameters, instanceName, widths, triggers, methods, triggerWidths,
      reactions, modes⟩
    exact ⟨base, parameters, instanceName, widths, triggers, methods, triggerWidths,
      reactions, modes⟩

/-- Made-up names join words with underscores, so names without underscores keep clear of
them, but for three words. -/
theorem spares_of_plain
    (parameters : ∀ name ∈ parts.parameterNames, Plain name ∧ name ≠ "base")
    (held : ∀ name ∈ parts.heldNames, Plain name ∧ name ≠ "name" ∧ name ≠ "")
    (triggers : ∀ name ∈ parts.triggerNames, Plain name ∧ name ≠ "modes") :
    parts.Spares := by
  have plainHeld {name : String} (joined : '_' ∈ name.toList) : name ∉ parts.heldNames :=
    fun member => (held name member).1.not_mem (by decide) joined
  have plainTrigger {name : String} (joined : '_' ∈ name.toList) :
      name ∉ parts.triggerNames :=
    fun member => (triggers name member).1.not_mem (by decide) joined
  constructor
  case base => exact fun member => (parameters "base" member).2 rfl
  case parameters =>
    intro name _ member
    have free : '_' ∉ (marked name).toList :=
      (parameters _ member).1.not_mem (by decide)
    exact free (by simp [marked])
  case instanceName => exact fun member => (held "name" member).2.1 rfl
  case widths => exact fun port _ => plainHeld (by simp)
  case triggers => exact fun name _ => plainHeld (by simp)
  case methods => exact fun name _ => plainHeld (by simp)
  case triggerWidths =>
    intro port isPort name isTrigger equal
    have cut : port ++ "_" ++ "width" = "_" ++ name := by
      rw [← equal, String.append_assoc]
      rfl
    have free : '_' ∉ name.toList := (triggers name isTrigger).1.not_mem (by decide)
    obtain ⟨same, _⟩ := append_inj_of_endsIn (EndsIn.append (by decide) port) (by decide)
      (by decide) free cut
    obtain ⟨declared, isDeclared, rfl⟩ := List.mem_map.mp isPort
    have inHeld : declared.name ∈ parts.heldNames := by
      refine List.mem_append_left _ (List.mem_append_left _ ?_)
      exact List.mem_map_of_mem (List.mem_filter.mp isDeclared).1
    exact (held _ inHeld).2.2 (String.append_eq_right_iff.mp same)
  case reactions => exact fun entry _ => plainTrigger (by simp)
  case modes => exact fun _ member => (triggers "modes" member).2 rfl

end LayoutParts

/-! ## Names that a class declares -/

namespace ReactorClass

/-- The names that a class declares. -/
def declaredNames (reactorClass : ReactorClass) : List String :=
  reactorClass.parameters.map (·.name) ++ reactorClass.inputs.map (·.name) ++
    reactorClass.outputs.map (·.name) ++ reactorClass.actions.map (·.name) ++
    reactorClass.timers

end ReactorClass

namespace Program

/-- A class declares no name twice, and contains nothing under a name that it
declares. -/
structure Distinguishes
    (program : Program)
    (id : ClassId)
    (reactorClass : ReactorClass) : Prop where
  declared : reactorClass.declaredNames.Nodup
  contained : ∀ {owners owner container child},
    program.instancesOf id = .ok owners -> owner ∈ owners ->
    program.Contains owner container child -> container ∉ reactorClass.declaredNames

variable
  {program : Program}
  {federate : Federate}
  {id : ClassId}
  {parts : LayoutParts}
  {layout : SelfStruct}

/-- A contained reactor that is found is contained in some instance of the class. -/
theorem exists_contains_of_containedClass?
    {container : String}
    {child : ReactorClass}
    (child_eq : program.containedClass? id container = .ok (some child)) :
    ∃ owners owner, program.instancesOf id = .ok owners ∧ owner ∈ owners ∧
      program.Contains owner container child := by
  simp only [containedClass?, Result.bind_eq_ok] at child_eq
  obtain ⟨listing, listing_eq, nodes, nodes_eq, children, children_eq, found_eq⟩ := child_eq
  cases found : children.find? (·.name == container) with
  | none =>
    rw [found] at found_eq
    exact absurd (Result.pure_eq_ok.mp found_eq) (by simp)
  | some node =>
    have named := List.find?_some found
    rw [found] at found_eq
    obtain ⟨known, known_eq, equal⟩ := Result.map_eq_ok.mp found_eq
    obtain rfl := Option.some.inj equal
    obtain ⟨childId, isChild, node_eq⟩ :=
      Result.exists_item_of_mapM children_eq (List.mem_of_find?_eq_some found)
    obtain ⟨owner, isOwner, isChild⟩ := List.mem_flatMap.mp isChild
    refine ⟨_, owner, ?_, isOwner, childId, isChild, node, node_eq, ?_, known_eq⟩
    · rw [instancesOf, listing_eq, Result.ok_bind, nodes_eq]
      rfl
    · exact beq_iff_eq.mp named

/-- What a class tells apart, its self struct does. -/
theorem HasParts.distinct
    (hasParts : program.HasParts federate id parts)
    (layout_eq : program.selfStruct federate id = .ok layout)
    (distinguishes : program.Distinguishes id parts.reactorClass) :
    parts.Distinct := by
  have generated := (classActions_sublist hasParts.reactorClass hasParts.actions).map
    ActionDecl.name
  have declared := distinguishes.declared
  rw [ReactorClass.declaredNames] at declared
  have own : (parts.ports.map (·.name) ++ parts.actions.map (·.name)).Sublist
      parts.reactorClass.declaredNames := by
    rw [LayoutParts.ports, List.map_append]
    exact (((List.sublist_append_right ..).append (.refl _)).append generated).trans
      (List.sublist_append_left ..)
  have nests := hasParts.nests layout_eq
  have containers : layout.containers.map Prod.fst = parts.containers.map (·.1.name) := by
    rw [hasParts.containers_eq layout_eq, List.map_map]
    rfl
  constructor
  case parameters => exact (List.nodup_append'.mp (List.nodup_append'.mp
    (List.nodup_append'.mp (List.nodup_append'.mp declared).1).1).1).1
  case held =>
    rw [LayoutParts.heldNames, List.nodup_append', ← containers]
    refine ⟨distinguishes.declared.sublist own, nests.once, ?_⟩
    intro name isOwn isContainer
    obtain ⟨_, child, child_eq⟩ := (nests.complete name).mp isContainer
    obtain ⟨owners, owner, owners_eq, isOwner, contains⟩ :=
      exists_contains_of_containedClass? child_eq
    exact distinguishes.contained owners_eq isOwner contains (own.subset isOwn)
  case triggers =>
    refine declared.sublist (.append (.append ?_ generated) (.refl _))
    exact (List.sublist_append_right ..).trans (List.sublist_append_left ..)
  case reactions =>
    exact ReactorClass.nodup_map_fst_reactionsAt
      (classReactions_spec hasParts.reactorClass hasParts.positions).1

/-- The members of a self struct are called differently exactly if what the class declares
keeps clear of the names that the generator makes up. -/
theorem selfStruct_namesOnce_iff
    (layout_eq : program.selfStruct federate id = .ok layout)
    {reactorClass : ReactorClass}
    (class_eq : program.classAt id = .ok reactorClass)
    (distinguishes : program.Distinguishes id reactorClass) :
    ∃ parts, program.HasParts federate id parts ∧
      ((layout.members.map Member.name).Nodup ↔ parts.Spares) := by
  obtain ⟨parts, hasParts, _⟩ := exists_parts layout_eq
  obtain rfl := Except.ok.inj (class_eq.symm.trans hasParts.reactorClass)
  refine ⟨parts, hasParts, ?_⟩
  rw [hasParts.members_eq layout_eq]
  exact LayoutParts.nodup_names_iff (hasParts.distinct layout_eq distinguishes)

end Program

/-! ## A registry of persons -/

namespace Registry

/-- A person with one input, which triggers a reaction, and a timer. -/
def personClass (input : String) : ReactorClass :=
  { ReactorClass.ofName "Person" with
    inputs := [⟨input, none, none⟩]
    timers := ["birthday"]
    reactions := [⟨[.var (.own input)], [], [], "pass", none, none⟩] }

def program (input : String) : Program where
  name := "Registry"
  target := "Python"
  properties := []
  preambles := []
  classes := [{ ReactorClass.ofName "Registry" with isMain := true }, personClass input]
  tree := ⟨[{ ReactorInstance.ofName "Registry" ⟨0⟩ none with children := [⟨1⟩] },
    .ofName "person" ⟨1⟩ (some ⟨0⟩)], []⟩
  federates := [.singleton]
  connections := []

/-- Persons contain nothing, so they have only their own names to tell apart. -/
theorem distinguishes
    {input : String}
    (notBirthday : input ≠ "birthday") :
    (program input).Distinguishes ⟨1⟩ (personClass input) where
  declared := by simp [ReactorClass.declaredNames, personClass, ReactorClass.ofName,
    notBirthday]
  contained := by
    intro owners owner container child owners_eq isOwner contains
    have known : (program input).instancesOf ⟨1⟩ =
        .ok [.ofName "person" ⟨1⟩ (some ⟨0⟩)] := rfl
    obtain rfl := Except.ok.inj (known.symm.trans owners_eq)
    obtain rfl := List.mem_singleton.mp isOwner
    obtain ⟨_, isChild, _⟩ := contains
    exact absurd isChild List.not_mem_nil

/-- The members of a person with an address are called differently. -/
theorem address_namesOnce :
    (program "address").Distinguishes ⟨1⟩ (personClass "address") ∧
      ∃ layout, (program "address").selfStruct .singleton ⟨1⟩ = .ok layout ∧
        (layout.members.map Member.name).Nodup ∧
        layout.members.map Member.name = ["base", "_lf_name", "_lf_address", "_lf__address",
          "_lf__birthday", "_lf__reaction_0", "_lf_py_reaction_function_0"] := by
  have told : (program "address").Distinguishes ⟨1⟩ (personClass "address") :=
    distinguishes (by decide)
  obtain ⟨layout, layout_eq, names⟩ : ∃ layout,
      (program "address").selfStruct .singleton ⟨1⟩ = .ok layout ∧
        layout.members.map Member.name = ["base", "_lf_name", "_lf_address", "_lf__address",
          "_lf__birthday", "_lf__reaction_0", "_lf_py_reaction_function_0"] :=
    ⟨_, rfl, by decide⟩
  obtain ⟨parts, hasParts, namesOnce⟩ :=
    Program.selfStruct_namesOnce_iff layout_eq rfl told
  have hasKnown : (program "address").HasParts .singleton ⟨1⟩
      ⟨personClass "address", [], [0], []⟩ := ⟨rfl, rfl, rfl, rfl⟩
  obtain rfl := hasParts.unique hasKnown
  refine ⟨told, layout, layout_eq, namesOnce.mpr ?_, names⟩
  exact LayoutParts.spares_of_plain (by decide) (by decide) (by decide)

/-- A person whose input is called `name` has two members of that name. -/
theorem name_namesTwice :
    (program "name").Distinguishes ⟨1⟩ (personClass "name") ∧
      ∃ layout, (program "name").selfStruct .singleton ⟨1⟩ = .ok layout ∧
        ¬ (layout.members.map Member.name).Nodup ∧
        layout.members.map Member.declaration = ["struct self_base_t base;",
          "char *_lf_name;", "person_name_t* _lf_name;", "trigger_t _lf__name;",
          "trigger_t _lf__birthday;", "reaction_t _lf__reaction_0;",
          "PyObject* _lf_py_reaction_function_0;"] :=
  ⟨distinguishes (by decide), _, rfl, by decide, by decide⟩

end Registry
end ReactorGen
