import ReactorGen.Proofs.VariableResolution

/-!
# The members of self structs

All members of a self struct, as its parts give them.  Among them is one nested struct
for each contained reactor whose ports the reactions use: the containers are found in
some instance of the class, they stand in the order of their first use, and so do the
ports in each of them.
-/

namespace ReactorGen

/-! ## Members and their parts -/

/-- The contained reactor and the ports of a nested struct. -/
def Member.container? : Member -> Option (String × List NestedMember)
  | container name ports => some (name, ports)
  | _ => none

/-- The members for the used ports of a container that its class declares. -/
def UsedContainer.nested
    (used : UsedContainer)
    (child : ReactorClass) : List NestedMember :=
  used.ports.filterMap fun name =>
    (child.port? name).map fun port => ⟨.pointer (child.aliasType port.name), name⟩

theorem UsedContainer.member_eq (used : UsedContainer) (child : ReactorClass) :
    used.member child = .container used.name (used.nested child) := rfl

namespace LayoutParts

/-- The members of the struct in the order of their layout. -/
def members (parts : LayoutParts) : List Member :=
  [.base, .instanceName] ++
  parts.reactorClass.parameters.map (fun parameter => .parameter parameter.name) ++
  parts.reactorClass.inputs.flatMap parts.reactorClass.inputMembers ++
  parts.reactorClass.outputs.flatMap parts.reactorClass.outputMembers ++
  actionMembers parts.reactorClass.aliasType parts.actions ++
  parts.actions.map (fun action => .trigger action.name) ++
  parts.reactorClass.timers.map .trigger ++
  parts.containers.map (fun entry => entry.1.member entry.2) ++
  parts.reactions.map (fun entry => .reaction entry.1) ++
  (if parts.reactorClass.modes.isEmpty then []
    else [.modes parts.reactorClass.modes.length]) ++
  (parts.reactorClass.reactions.zipIdx.flatMap fun entry =>
    ReactorClass.callableMembers entry.2 entry.1)

variable {parts : LayoutParts}

theorem mem_members_of_input
    {port : PortDecl}
    (declared : port ∈ parts.reactorClass.inputs)
    {member : Member}
    (inPort : member ∈ parts.reactorClass.inputMembers port) :
    member ∈ parts.members := by
  have listed : member ∈
      parts.reactorClass.inputs.flatMap parts.reactorClass.inputMembers :=
    List.mem_flatMap.mpr ⟨port, declared, inPort⟩
  simp only [members, List.mem_append]
  tauto

theorem mem_members_of_output
    {port : PortDecl}
    (declared : port ∈ parts.reactorClass.outputs)
    {member : Member}
    (inPort : member ∈ parts.reactorClass.outputMembers port) :
    member ∈ parts.members := by
  have listed : member ∈
      parts.reactorClass.outputs.flatMap parts.reactorClass.outputMembers :=
    List.mem_flatMap.mpr ⟨port, declared, inPort⟩
  simp only [members, List.mem_append]
  tauto

theorem mem_members_of_container
    {entry : UsedContainer × ReactorClass}
    (found : entry ∈ parts.containers) :
    .container entry.1.name (entry.1.nested entry.2) ∈ parts.members := by
  have listed : Member.container entry.1.name (entry.1.nested entry.2) ∈
      parts.containers.map fun entry => entry.1.member entry.2 :=
    List.mem_map_of_mem found
  simp only [members, List.mem_append]
  tauto

/-- The nested structs are those of the containers. -/
theorem filterMap_container?_members (parts : LayoutParts) :
    parts.members.filterMap Member.container? =
      parts.containers.map fun entry => (entry.1.name, entry.1.nested entry.2) := by
  have ports (single : NativeType) (port : PortDecl) :
      (parts.reactorClass.portMembers single port).filterMap Member.container? = [] := by
    unfold ReactorClass.portMembers
    cases port.width <;> rfl
  have inputs :
      (parts.reactorClass.inputs.flatMap parts.reactorClass.inputMembers).filterMap
        Member.container? = [] := by
    rw [List.filterMap_flatMap, List.flatMap_eq_nil_iff]
    intro port _
    rw [ReactorClass.inputMembers, List.filterMap_append, ports]
    rfl
  have outputs :
      (parts.reactorClass.outputs.flatMap parts.reactorClass.outputMembers).filterMap
        Member.container? = [] := by
    rw [List.filterMap_flatMap, List.flatMap_eq_nil_iff]
    exact fun port _ => ports _ port
  have callables :
      (parts.reactorClass.reactions.zipIdx.flatMap fun entry =>
        ReactorClass.callableMembers entry.2 entry.1).filterMap Member.container? = [] := by
    rw [List.filterMap_flatMap, List.flatMap_eq_nil_iff]
    intro entry _
    unfold ReactorClass.callableMembers
    cases entry.1.deadline <;> rfl
  have modes : (if parts.reactorClass.modes.isEmpty then []
      else [Member.modes parts.reactorClass.modes.length]).filterMap
        Member.container? = [] := by
    cases parts.reactorClass.modes <;> rfl
  have start : [Member.base, .instanceName].filterMap Member.container? = [] := rfl
  simp only [members, List.filterMap_append, start, inputs, outputs, callables, modes,
    actionMembers]
  simp [Member.container?, UsedContainer.member_eq, Function.comp_def]

end LayoutParts

/-- The nested structs of a self struct, each with the contained reactor it is for. -/
def SelfStruct.containers (layout : SelfStruct) : List (String × List NestedMember) :=
  layout.members.filterMap Member.container?

theorem SelfStruct.mem_containers
    {layout : SelfStruct}
    {name : String}
    {ports : List NestedMember} :
    (name, ports) ∈ layout.containers ↔ .container name ports ∈ layout.members := by
  rw [containers, List.mem_filterMap]
  constructor
  · rintro ⟨member, inStruct, isContainer⟩
    cases member <;> cases isContainer
    exact inStruct
  · intro inStruct
    exact ⟨_, inStruct, rfl⟩

namespace Program

variable
  {program : Program}
  {federate : Federate}
  {id : ClassId}
  {parts : LayoutParts}
  {layout : SelfStruct}

theorem HasParts.members_eq
    (hasParts : program.HasParts federate id parts)
    (layout_eq : program.selfStruct federate id = .ok layout) :
    layout.members = parts.members := by
  simp only [selfStruct, hasParts.reactorClass, hasParts.actions, hasParts.positions,
    Result.ok_bind, Result.bind_eq_ok, Result.pure_eq_ok] at layout_eq
  obtain ⟨containers, containers_eq, rfl⟩ := layout_eq
  obtain rfl := Except.ok.inj (containers_eq.symm.trans hasParts.containers)
  rfl

theorem HasParts.containers_eq
    (hasParts : program.HasParts federate id parts)
    (layout_eq : program.selfStruct federate id = .ok layout) :
    layout.containers =
      parts.containers.map fun entry => (entry.1.name, entry.1.nested entry.2) := by
  rw [SelfStruct.containers, hasParts.members_eq layout_eq,
    LayoutParts.filterMap_container?_members]

/-! ## Containers in the order of their first use -/

/-- The containers that are found keep their order, and each has the class of the
contained reactor. -/
theorem resolveContainers_spec
    {used : List UsedContainer}
    {containers : List (UsedContainer × ReactorClass)}
    (containers_eq : program.resolveContainers id used = .ok containers) :
    (containers.map Prod.fst).Sublist used ∧
      ∀ entry ∈ containers,
        program.containedClass? id entry.1.name = .ok (some entry.2) := by
  simp only [resolveContainers, Result.bind_eq_ok, Result.pure_eq_ok] at containers_eq
  obtain ⟨resolved, resolved_eq, rfl⟩ := containers_eq
  rw [Result.mapM_eq_ok] at resolved_eq
  induction resolved_eq with
  | nil => exact ⟨List.Sublist.slnil, fun _ found => absurd found List.not_mem_nil⟩
  | @cons container entry? rest others first_eq _ inductionHypothesis =>
    obtain ⟨sublist, classes⟩ := inductionHypothesis
    obtain ⟨child?, child_eq, entry_eq⟩ := Result.bind_eq_ok.mp first_eq
    obtain rfl := Result.pure_eq_ok.mp entry_eq
    cases child? with
    | none => exact ⟨sublist.cons _, classes⟩
    | some child =>
      constructor
      · exact sublist.cons_cons _
      · exact List.forall_mem_cons.mpr ⟨child_eq, classes⟩

end Program

/-- Containers are listed in the order in which references name them first. -/
theorem pairwise_usedContainers (references : List VarRef) :
    (usedContainers references).Pairwise fun first second =>
      (references.filterMap VarRef.container).idxOf first.name <
        (references.filterMap VarRef.container).idxOf second.name := by
  rw [usedContainers, List.pairwise_map]
  exact FirstOccurrences.pairwise_eraseDups _

theorem mem_usedContainers
    {references : List VarRef}
    {used : UsedContainer} :
    used ∈ usedContainers references ↔
      (∃ ref ∈ references, ref.container = some used.name) ∧
        used.ports = ((references.filter (·.container == some used.name)).map
          VarRef.name).eraseDups := by
  rw [usedContainers, List.mem_map]
  simp only [List.mem_eraseDups, List.mem_filterMap]
  constructor
  · rintro ⟨container, named, rfl⟩
    exact ⟨named, rfl⟩
  · rintro ⟨named, ports_eq⟩
    refine ⟨used.name, named, ?_⟩
    rw [← ports_eq]

/-- Ports of one container occur first in the order in which references to them do. -/
theorem idxOf_map_name (references : List VarRef) (container name : String) :
    ((references.filter (·.container == some container)).map VarRef.name).idxOf name =
      (references.filter (·.container == some container)).idxOf ⟨some container, name⟩ := by
  induction references with
  | nil => rfl
  | cons ref rest inductionHypothesis =>
    rw [List.filter_cons]
    split
    case isFalse => exact inductionHypothesis
    case isTrue inside =>
      obtain ⟨_, refName⟩ := ref
      obtain rfl := beq_iff_eq.mp inside
      rw [List.map_cons, List.idxOf_cons, List.idxOf_cons, inductionHypothesis]
      by_cases same : refName = name
      · simp [same]
      · have different : (⟨some container, refName⟩ : VarRef) ≠ ⟨some container, name⟩ := by
          simpa using same
        rw [beq_false_of_ne same, beq_false_of_ne different]

namespace UsedContainer

variable
  {references : List VarRef}
  {used : UsedContainer}

theorem mem_ports
    (isUsed : used ∈ usedContainers references)
    {name : String} :
    name ∈ used.ports ↔ ⟨some used.name, name⟩ ∈ references := by
  rw [(mem_usedContainers.mp isUsed).2, List.mem_eraseDups, List.mem_map]
  simp only [List.mem_filter, beq_iff_eq]
  constructor
  · rintro ⟨⟨_, _⟩, ⟨member, rfl⟩, rfl⟩
    exact member
  · intro member
    exact ⟨_, ⟨member, rfl⟩, rfl⟩

theorem pairwise_ports (isUsed : used ∈ usedContainers references) :
    used.ports.Pairwise fun first second =>
      references.idxOf ⟨some used.name, first⟩ <
        references.idxOf ⟨some used.name, second⟩ := by
  rw [(mem_usedContainers.mp isUsed).2]
  refine (FirstOccurrences.pairwise_eraseDups _).imp fun {first second} before => ?_
  rw [idxOf_map_name, idxOf_map_name] at before
  have inside : ((some used.name : Option String) == some used.name) = true := by simp
  exact FirstOccurrences.idxOf_lt_of_filter
    (fun ref : VarRef => ref.container == some used.name) inside before

theorem mem_nested
    (isUsed : used ∈ usedContainers references)
    {child : ReactorClass}
    {nested : NestedMember} :
    nested ∈ used.nested child ↔
      ⟨some used.name, nested.name⟩ ∈ references ∧
        ∃ port, child.port? nested.name = some port ∧
          nested.type = .pointer (child.aliasType port.name) := by
  rw [UsedContainer.nested, List.mem_filterMap]
  simp only [mem_ports isUsed, Option.map_eq_some_iff]
  constructor
  · rintro ⟨name, isPort, port, port_eq, rfl⟩
    exact ⟨isPort, port, port_eq, rfl⟩
  · rintro ⟨isPort, port, port_eq, type_eq⟩
    refine ⟨_, isPort, port, port_eq, ?_⟩
    rw [← type_eq]

theorem pairwise_nested
    (isUsed : used ∈ usedContainers references)
    (child : ReactorClass) :
    (used.nested child).Pairwise fun first second =>
      references.idxOf ⟨some used.name, first.name⟩ <
        references.idxOf ⟨some used.name, second.name⟩ := by
  rw [UsedContainer.nested, List.pairwise_filterMap]
  refine (pairwise_ports isUsed).imp fun {first second} before => ?_
  intro firstMember first_eq secondMember second_eq
  obtain ⟨_, _, rfl⟩ := Option.map_eq_some_iff.mp first_eq
  obtain ⟨_, _, rfl⟩ := Option.map_eq_some_iff.mp second_eq
  exact before

end UsedContainer

/-! ## The nested structs of a self struct -/

/-- The members of a nested struct are the ports of the contained reactor that are used
and that its class declares, each of them once and in the order of first use. -/
structure Gathers
    (references : List VarRef)
    (container : String)
    (child : ReactorClass)
    (ports : List NestedMember) : Prop where
  complete : ∀ nested, nested ∈ ports ↔
    ⟨some container, nested.name⟩ ∈ references ∧
      ∃ port, child.port? nested.name = some port ∧
        nested.type = .pointer (child.aliasType port.name)
  once : (ports.map NestedMember.name).Nodup
  ordered : ports.Pairwise fun first second =>
    references.idxOf ⟨some container, first.name⟩ <
      references.idxOf ⟨some container, second.name⟩

/-- Every contained reactor that references name, and that an instance of the class has,
gets one nested struct for its used ports, in the order of first use. -/
structure SelfStruct.Nests
    (layout : SelfStruct)
    (program : Program)
    (id : ClassId)
    (references : List VarRef) : Prop where
  complete : ∀ name, name ∈ layout.containers.map Prod.fst ↔
    (∃ ref ∈ references, ref.container = some name) ∧
      ∃ child, program.containedClass? id name = .ok (some child)
  once : (layout.containers.map Prod.fst).Nodup
  ordered : (layout.containers.map Prod.fst).Pairwise fun first second =>
    (references.filterMap VarRef.container).idxOf first <
      (references.filterMap VarRef.container).idxOf second
  gathers : ∀ name ports, .container name ports ∈ layout.members ->
    ∃ child, program.containedClass? id name = .ok (some child) ∧
      Gathers references name child ports

theorem UsedContainer.gathers
    {references : List VarRef}
    {used : UsedContainer}
    (isUsed : used ∈ usedContainers references)
    (child : ReactorClass) :
    Gathers references used.name child (used.nested child) where
  complete _ := mem_nested isUsed
  ordered := pairwise_nested isUsed child
  once := by
    rw [List.Nodup, List.pairwise_map]
    refine (pairwise_nested isUsed child).imp fun {first second} before same => ?_
    rw [same] at before
    exact Nat.lt_irrefl _ before

/-- The nested structs of a self struct are those that the reactions of the federate
need. -/
theorem Program.HasParts.nests
    {program : Program}
    {federate : Federate}
    {id : ClassId}
    {parts : LayoutParts}
    (hasParts : program.HasParts federate id parts)
    {layout : SelfStruct}
    (layout_eq : program.selfStruct federate id = .ok layout) :
    layout.Nests program id parts.references := by
  obtain ⟨sublist, classes⟩ := resolveContainers_spec hasParts.containers
  have names : layout.containers.map Prod.fst =
      (parts.containers.map Prod.fst).map UsedContainer.name := by
    rw [hasParts.containers_eq layout_eq, List.map_map, List.map_map]
    rfl
  have isUsed {entry : UsedContainer × ReactorClass} (found : entry ∈ parts.containers) :
      entry.1 ∈ usedContainers parts.references :=
    sublist.subset (List.mem_map_of_mem found)
  have ordered : (layout.containers.map Prod.fst).Pairwise fun first second =>
      (parts.references.filterMap VarRef.container).idxOf first <
        (parts.references.filterMap VarRef.container).idxOf second := by
    rw [names, List.pairwise_map]
    exact (pairwise_usedContainers parts.references).sublist sublist
  constructor
  case ordered => exact ordered
  case once =>
    refine ordered.imp fun {first second} before same => ?_
    rw [same] at before
    exact Nat.lt_irrefl _ before
  case complete =>
    intro name
    rw [names, List.map_map, List.mem_map]
    constructor
    · rintro ⟨entry, found, rfl⟩
      exact ⟨(mem_usedContainers.mp (isUsed found)).1, entry.2, classes entry found⟩
    · rintro ⟨⟨⟨_, port⟩, member, rfl⟩, child, child_eq⟩
      obtain ⟨used, inUsed, rfl, _⟩ := exists_usedContainer member
      obtain ⟨found?, found_eq, kept⟩ :=
        exists_containedClass?_of_resolveContainers hasParts.containers inUsed
      obtain rfl := Except.ok.inj (child_eq.symm.trans found_eq)
      exact ⟨_, kept child rfl, rfl⟩
  case gathers =>
    intro name ports inStruct
    rw [← SelfStruct.mem_containers, hasParts.containers_eq layout_eq, List.mem_map]
      at inStruct
    obtain ⟨entry, found, equal⟩ := inStruct
    obtain ⟨rfl, rfl⟩ := Prod.mk.inj equal
    exact ⟨entry.2, classes entry found, UsedContainer.gathers (isUsed found) entry.2⟩

end ReactorGen
