import ReactorGen.Layout.SelfStruct
import ReactorGen.Proofs.Results

/-!
# The parts of self structs

A self struct is laid out from a class, the actions and the reactions of the class
that a federate generates, and the contained reactors whose ports these reactions use.
Everything that later modules need of a layout is stated here once: its bindings, its
constructor, and which members it has.
-/

namespace ReactorGen

/-- What a self struct is laid out from. -/
structure LayoutParts where
  reactorClass : ReactorClass
  /-- The actions that the federate generates. -/
  actions : List ActionDecl
  /-- The positions of the reactions that the federate generates. -/
  positions : List Nat
  /-- The contained reactors whose ports the reactions use, with their classes. -/
  containers : List (UsedContainer × ReactorClass)

namespace LayoutParts

/-- The reactions that the federate generates, each with its position. -/
def reactions (parts : LayoutParts) : List (Nat × Reaction) :=
  parts.reactorClass.reactionsAt parts.positions

/-- The ports of the class. -/
def ports (parts : LayoutParts) : List PortDecl :=
  parts.reactorClass.inputs ++ parts.reactorClass.outputs

/-- The variables of these reactions. -/
def references (parts : LayoutParts) : List VarRef :=
  parts.reactions.flatMap fun entry => entry.2.variables

end LayoutParts

/-- The parts that a federate has for the self struct of a class. -/
structure Program.HasParts
    (program : Program)
    (federate : Federate)
    (id : ClassId)
    (parts : LayoutParts) : Prop where
  reactorClass : program.classAt id = .ok parts.reactorClass
  actions : program.classActions federate id = .ok parts.actions
  positions : program.classReactions federate id = .ok parts.positions
  containers : program.resolveContainers id (usedContainers parts.references) =
    .ok parts.containers

/-- A self struct that is laid out from the given parts. -/
structure SelfStruct.LaidOut (layout : SelfStruct) (parts : LayoutParts) : Prop where
  className : layout.className = parts.reactorClass.name
  bindings : layout.bindings =
    parts.reactorClass.inputs.map (parts.reactorClass.portBinding .input) ++
    parts.reactorClass.outputs.map (parts.reactorClass.portBinding .output) ++
    parts.actions.map parts.reactorClass.actionBinding ++
    parts.containers.flatMap fun entry => entry.1.bindings entry.2
  constructor : layout.constructor =
    (parts.reactions.flatMap fun entry =>
      parts.reactorClass.reactionSteps entry.1 entry.2) ++
    actionSteps parts.actions
  reaction_mem : ∀ entry ∈ parts.reactions, .reaction entry.1 ∈ layout.members
  action_mem : ∀ action ∈ parts.actions,
    .port (parts.reactorClass.aliasType action.name) action.name ∈ layout.members
  trigger_mem : ∀ action ∈ parts.actions, .trigger action.name ∈ layout.members
  /-- Whether or not the federate generates a reaction, there is room for its
  methods. -/
  callable_mem : ∀ index reaction, parts.reactorClass.reactions[index]? = some reaction ->
    ∀ member ∈ ReactorClass.callableMembers index reaction, member ∈ layout.members

namespace Program

variable
  {program : Program}
  {federate : Federate}
  {id : ClassId}

/-- Every self struct is laid out from the parts that the federate has for it. -/
theorem exists_parts
    {layout : SelfStruct}
    (layout_eq : program.selfStruct federate id = .ok layout) :
    ∃ parts, program.HasParts federate id parts ∧ layout.LaidOut parts := by
  simp only [selfStruct, Result.bind_eq_ok, Result.pure_eq_ok] at layout_eq
  obtain ⟨reactorClass, class_eq, actions, actions_eq, positions, positions_eq, containers,
    containers_eq, rfl⟩ := layout_eq
  refine ⟨⟨reactorClass, actions, positions, containers⟩,
    ⟨class_eq, actions_eq, positions_eq, containers_eq⟩, ?_⟩
  constructor
  case className => rfl
  case bindings => rfl
  case constructor => rfl
  case reaction_mem =>
    intro entry member
    have listed : Member.reaction entry.1 ∈
        (reactorClass.reactionsAt positions).map fun entry => Member.reaction entry.1 :=
      List.mem_map_of_mem member
    simp only [List.mem_append]
    exact .inl (.inl (.inr listed))
  case action_mem =>
    intro action member
    have listed : Member.port (reactorClass.aliasType action.name) action.name ∈
        actionMembers reactorClass.aliasType actions :=
      List.mem_map_of_mem (f := fun action : ActionDecl =>
        Member.port (reactorClass.aliasType action.name) action.name) member
    simp only [List.mem_append]
    tauto
  case trigger_mem =>
    intro action member
    have listed : Member.trigger action.name ∈
        actions.map fun action => Member.trigger action.name :=
      List.mem_map_of_mem member
    simp only [List.mem_append]
    tauto
  case callable_mem =>
    intro index reaction reaction_eq member inMembers
    have listed : member ∈ reactorClass.reactions.zipIdx.flatMap fun entry =>
        ReactorClass.callableMembers entry.2 entry.1 := by
      rw [List.mem_flatMap]
      exact ⟨(reaction, index), List.mem_zipIdx_iff_getElem?.mpr reaction_eq, inMembers⟩
    simp only [List.mem_append]
    exact .inr listed

/-- A federate has one set of parts for the self struct of a class. -/
theorem HasParts.unique
    {first second : LayoutParts}
    (hasFirst : program.HasParts federate id first)
    (hasSecond : program.HasParts federate id second) :
    first = second := by
  obtain ⟨reactorClass, actions, positions, containers⟩ := first
  obtain ⟨class_eq, actions_eq, positions_eq, containers_eq⟩ := hasFirst
  obtain rfl := Except.ok.inj (class_eq.symm.trans hasSecond.reactorClass)
  obtain rfl := Except.ok.inj (actions_eq.symm.trans hasSecond.actions)
  obtain rfl := Except.ok.inj (positions_eq.symm.trans hasSecond.positions)
  obtain rfl := Except.ok.inj (containers_eq.symm.trans hasSecond.containers)
  rfl

theorem HasParts.laidOut
    {parts : LayoutParts}
    (hasParts : program.HasParts federate id parts)
    {layout : SelfStruct}
    (layout_eq : program.selfStruct federate id = .ok layout) :
    layout.LaidOut parts := by
  obtain ⟨others, hasOthers, laidOut⟩ := exists_parts layout_eq
  rw [hasParts.unique hasOthers]
  exact laidOut

/-- The reactions that a federate generates are reactions of the class, and none of
them is generated twice. -/
theorem classReactions_spec
    {reactorClass : ReactorClass}
    {positions : List Nat}
    (class_eq : program.classAt id = .ok reactorClass)
    (positions_eq : program.classReactions federate id = .ok positions) :
    positions.Nodup ∧
      ∀ index ∈ positions, ∃ reaction, reactorClass.reactions[index]? = some reaction := by
  simp only [classReactions, Result.bind_eq_ok, class_eq, Result.ok_bind] at positions_eq
  obtain ⟨root, _, positions_eq⟩ := positions_eq
  obtain ⟨_, rfl⟩ := Result.filterM_eq_ok.mp positions_eq
  constructor
  · exact List.nodup_range.filter _
  · intro index member
    have inRange := List.mem_range.mp (List.mem_filter.mp member).1
    exact ⟨_, List.getElem?_eq_getElem inRange⟩

/-- The actions that a federate generates are actions of the class, in their order. -/
theorem classActions_sublist
    {reactorClass : ReactorClass}
    {actions : List ActionDecl}
    (class_eq : program.classAt id = .ok reactorClass)
    (actions_eq : program.classActions federate id = .ok actions) :
    actions.Sublist reactorClass.actions := by
  simp only [classActions, class_eq, Result.ok_bind] at actions_eq
  obtain ⟨_, rfl⟩ := Result.filterM_eq_ok.mp actions_eq
  exact List.filter_sublist

end Program

/-- A class has the reactions that it lists. -/
theorem ReactorClass.reaction_eq_ok
    {reactorClass : ReactorClass}
    {index : Nat}
    {reaction : Reaction} :
    (liftM (reactorClass.reaction index) : Except Failure Reaction) = .ok reaction ↔
      reactorClass.reactions[index]? = some reaction := by
  rw [Result.liftM_eq_ok, ReactorClass.reaction, Result.orDangling_eq_ok]

theorem ReactorClass.mem_reactionsAt
    {reactorClass : ReactorClass}
    {positions : List Nat}
    {index : Nat}
    {reaction : Reaction} :
    (index, reaction) ∈ reactorClass.reactionsAt positions ↔
      index ∈ positions ∧ reactorClass.reactions[index]? = some reaction := by
  simp only [reactionsAt, List.mem_filterMap, Option.map_eq_some_iff, Prod.mk.injEq]
  constructor
  · rintro ⟨_, member, found, found_eq, rfl, rfl⟩
    exact ⟨member, found_eq⟩
  · rintro ⟨member, reaction_eq⟩
    exact ⟨index, member, reaction, reaction_eq, rfl, rfl⟩

theorem ReactorClass.nodup_map_fst_reactionsAt
    {reactorClass : ReactorClass}
    {positions : List Nat}
    (distinct : positions.Nodup) :
    ((reactorClass.reactionsAt positions).map Prod.fst).Nodup := by
  rw [reactionsAt, List.Nodup, List.pairwise_map, List.pairwise_filterMap]
  refine distinct.imp fun {left right} different => ?_
  intro first first_eq second second_eq
  obtain ⟨_, _, rfl⟩ := Option.map_eq_some_iff.mp first_eq
  obtain ⟨_, _, rfl⟩ := Option.map_eq_some_iff.mp second_eq
  exact different

end ReactorGen
