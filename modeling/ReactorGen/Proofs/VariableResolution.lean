import ReactorGen.Compilation
import ReactorGen.Proofs.ConnectionService
import ReactorGen.Proofs.ReactionArguments
import ReactorGen.Proofs.SelfStructParts

/-!
# Which variables of reactions are found

A reaction reaches its variables through the bindings of the self struct.  There are
bindings for ports, for actions and for the used ports of contained reactors, but none
for timers; and of the children of one instance that share a name only the first is
looked at.  These are the only variables a class can declare that its reactions do not
find, and the first reaction with such a variable ends generation.
-/

namespace ReactorGen

/-! ## What a self struct holds -/

/-- The used ports of a container that its class declares. -/
def UsedContainer.held (used : UsedContainer) (child : ReactorClass) : List VarRef :=
  used.ports.filterMap fun name =>
    (child.port? name).map fun _ => ⟨some used.name, name⟩

theorem UsedContainer.variableNames_bindings
    (used : UsedContainer)
    (child : ReactorClass) :
    (used.bindings child).map Binding.variableName =
      (used.held child).map VarRef.dotted := by
  simp only [bindings, held, List.map_filterMap, Option.map_map]
  rfl

namespace LayoutParts

/-- The variables that a self struct has bindings for. -/
def held (parts : LayoutParts) : List VarRef :=
  parts.reactorClass.inputs.map (fun port => .own port.name) ++
  parts.reactorClass.outputs.map (fun port => .own port.name) ++
  parts.actions.map (fun action => .own action.name) ++
  parts.containers.flatMap fun entry => entry.1.held entry.2

/-- Whether a variable is spelled like one that the self struct has a binding for. -/
def Reaches (parts : LayoutParts) (ref : VarRef) : Prop :=
  ref.dotted ∈ parts.held.map VarRef.dotted

instance (parts : LayoutParts) (ref : VarRef) : Decidable (parts.Reaches ref) :=
  inferInstanceAs (Decidable (_ ∈ _))

theorem mem_held
    {parts : LayoutParts}
    {ref : VarRef} :
    ref ∈ parts.held ↔
      (∃ port ∈ parts.reactorClass.inputs, .own port.name = ref) ∨
        (∃ port ∈ parts.reactorClass.outputs, .own port.name = ref) ∨
        (∃ action ∈ parts.actions, .own action.name = ref) ∨
        ∃ entry ∈ parts.containers, ref ∈ entry.1.held entry.2 := by
  simp only [held, List.mem_append, List.mem_map, List.mem_flatMap, or_assoc]

theorem reaches_of_mem
    {parts : LayoutParts}
    {ref : VarRef}
    (member : ref ∈ parts.held) :
    parts.Reaches ref :=
  List.mem_map_of_mem member

end LayoutParts

namespace SelfStruct

variable
  {layout : SelfStruct}
  {parts : LayoutParts}

theorem LaidOut.variableNames (laidOut : layout.LaidOut parts) :
    layout.bindings.map Binding.variableName = parts.held.map VarRef.dotted := by
  rw [laidOut.bindings, LayoutParts.held]
  simp only [List.map_append, List.map_map, List.map_flatMap,
    UsedContainer.variableNames_bindings]
  rfl

/-- A variable has no binding if nothing that the struct holds is spelled like it. -/
theorem LaidOut.binding?_eq_none_iff
    (laidOut : layout.LaidOut parts)
    {ref : VarRef} :
    layout.binding? ref = none ↔ ¬ parts.Reaches ref := by
  rw [binding?, List.find?_eq_none, LayoutParts.Reaches, ← laidOut.variableNames,
    List.mem_map, not_exists]
  simp

theorem LaidOut.exists_binding?_iff
    (laidOut : layout.LaidOut parts)
    {ref : VarRef} :
    (∃ binding, layout.binding? ref = some binding) ↔ parts.Reaches ref := by
  rw [← Option.ne_none_iff_exists', ne_eq, laidOut.binding?_eq_none_iff, not_not]

/-- What is found for one variable of a reaction. -/
def resolveVariable
    (layout : SelfStruct)
    (reactorClass : ReactorClass)
    (index : Nat)
    (reaction : Reaction)
    (ref : VarRef) : Except Fault Binding :=
  match layout.binding? ref with
  | some binding => .ok binding
  | none =>
    .error (.unresolvedField layout.className index ref.dotted
      (reaction.span <|> reactorClass.span))

variable
  {reactorClass : ReactorClass}
  {index : Nat}
  {reaction : Reaction}

theorem resolve_eq :
    layout.resolve reactorClass index reaction =
      reaction.variables.mapM (layout.resolveVariable reactorClass index reaction) := rfl

theorem LaidOut.exists_resolveVariable_iff
    (laidOut : layout.LaidOut parts)
    {ref : VarRef} :
    (∃ binding, layout.resolveVariable reactorClass index reaction ref = .ok binding) ↔
      parts.Reaches ref := by
  rw [← laidOut.exists_binding?_iff, resolveVariable]
  cases layout.binding? ref with
  | none => simp
  | some binding => simp

theorem LaidOut.resolveVariable_eq_error_iff
    (laidOut : layout.LaidOut parts)
    {ref : VarRef}
    {fault : Fault} :
    layout.resolveVariable reactorClass index reaction ref = .error fault ↔
      ¬ parts.Reaches ref ∧
        fault = .unresolvedField layout.className index ref.dotted
          (reaction.span <|> reactorClass.span) := by
  rw [← laidOut.binding?_eq_none_iff, resolveVariable]
  cases layout.binding? ref with
  | none => simp [eq_comm]
  | some binding => simp

/-- The bindings of a reaction are not found because of its first variable that has
none. -/
theorem LaidOut.resolve_eq_error_iff
    (laidOut : layout.LaidOut parts)
    {fault : Fault} :
    layout.resolve reactorClass index reaction = .error fault ↔
      ∃ before ref after, reaction.variables = before ++ ref :: after ∧
        (∀ earlier ∈ before, parts.Reaches earlier) ∧
        ¬ parts.Reaches ref ∧
        fault = .unresolvedField layout.className index ref.dotted
          (reaction.span <|> reactorClass.span) := by
  simp only [resolve_eq, Result.mapM_eq_error, laidOut.exists_resolveVariable_iff,
    laidOut.resolveVariable_eq_error_iff]

end SelfStruct

/-! ## What generation fails with -/

/-- A computation that fails with nothing that ends the whole compilation. -/
def FailsLocally (result : Except Failure α) : Prop :=
  ∀ fault, result = .error (.fault fault) -> fault.aborts = false

namespace FailsLocally

theorem of_ok (value : α) : FailsLocally (.ok value : Except Failure α) := nofun

theorem of_liftM (found : Except DanglingReference α) :
    FailsLocally (liftM found : Except Failure α) := by
  cases found with
  | ok value => exact nofun
  | error reference => exact nofun

theorem bind
    {first : Except Failure α}
    {next : α -> Except Failure β}
    (firstLocally : FailsLocally first)
    (nextLocally : ∀ value, FailsLocally (next value)) :
    FailsLocally (first >>= next) := by
  intro fault fails
  rcases Result.bind_eq_error.mp fails with fails | ⟨value, _, fails⟩
  · exact firstLocally fault fails
  · exact nextLocally value fault fails

theorem resolveSerializer
    (program : Program)
    (settings : Settings)
    (connection : NetworkConnection) :
    FailsLocally (program.resolveSerializer settings connection) := by
  rw [Program.resolveSerializer]
  split
  case isTrue => exact of_ok _
  case isFalse =>
    refine bind (of_liftM _) fun sender => bind (of_liftM _) fun receiver => ?_
    rintro fault ⟨⟩
    rfl

theorem senderBody
    (program : Program)
    (settings : Settings)
    (connection : NetworkConnection) :
    FailsLocally (program.senderBody settings connection) :=
  bind (resolveSerializer program settings connection) fun _ =>
    bind (of_liftM _) fun _ => of_ok _

theorem receiverBody
    (program : Program)
    (settings : Settings)
    (connection : NetworkConnection) :
    FailsLocally (program.receiverBody settings connection) :=
  bind (resolveSerializer program settings connection) fun _ =>
    bind (of_liftM _) fun _ => of_ok _

theorem federatedBody
    (program : Program)
    (settings : Settings)
    (federate : Federate)
    (reaction : Reaction) :
    FailsLocally (program.federatedBody settings federate reaction) := by
  rw [Program.federatedBody]
  split
  case isTrue => exact of_ok _
  case isFalse =>
    split
    case h_1 => exact senderBody program settings _
    case h_2 =>
      split
      case h_1 => exact receiverBody program settings _
      case h_2 => exact of_ok _

end FailsLocally

namespace Program

variable
  {program : Program}
  {settings : Settings}
  {federate : Federate}
  {reactorClass : ReactorClass}
  {layout : SelfStruct}
  {index : Nat}
  {reaction : Reaction}

/-- A reaction whose variables are not found is not generated. -/
theorem reactionCodeAt_of_unresolved
    (reaction_eq : reactorClass.reactions[index]? = some reaction)
    {fault : Fault}
    (unresolved : layout.resolve reactorClass index reaction = .error fault) :
    program.reactionCodeAt settings federate reactorClass layout index =
      .error (.fault fault) := by
  have found := ReactorClass.reaction_eq_ok.mpr reaction_eq
  rw [reactionCodeAt]
  split
  case isTrue =>
    rw [nativeReaction, found, Result.ok_bind, unresolved]
    rfl
  case isFalse =>
    rw [interpreterShim, found, Result.ok_bind, unresolved]
    rfl

/-- Nothing but a variable that is not found ends the compilation at a reaction. -/
theorem reactionCodeAt_failsLocally
    (reaction_eq : reactorClass.reactions[index]? = some reaction)
    {bindings : List Binding}
    (resolved : layout.resolve reactorClass index reaction = .ok bindings) :
    FailsLocally (program.reactionCodeAt settings federate reactorClass layout index) := by
  have found := ReactorClass.reaction_eq_ok.mpr reaction_eq
  rw [reactionCodeAt]
  split
  case isTrue =>
    rw [nativeReaction, found, Result.ok_bind, resolved]
    dsimp only
    split
    case isTrue => exact FailsLocally.of_ok _
    case isFalse =>
      exact FailsLocally.bind (.federatedBody _ _ _ _) fun _ => .of_ok _
  case isFalse =>
    rw [interpreterShim, found, Result.ok_bind, resolved]
    exact FailsLocally.of_ok _

/-- The reaction and the variable of it that generation stops at. -/
structure StopsAt
    (program : Program)
    (settings : Settings)
    (federate : Federate)
    (layout : SelfStruct)
    (parts : LayoutParts)
    (index : Nat)
    (reaction : Reaction)
    (ref : VarRef) : Prop where
  reaction_eq : parts.reactorClass.reactions[index]? = some reaction
  /-- All reactions before it are generated. -/
  position : ∃ before after, parts.positions = before ++ index :: after ∧
    ∀ earlier ∈ before, ∃ code,
      program.reactionCodeAt settings federate parts.reactorClass layout earlier =
        .ok code
  /-- All variables before it are found. -/
  variable_eq : ∃ before after, reaction.variables = before ++ ref :: after ∧
    ∀ earlier ∈ before, parts.Reaches earlier
  missing : ¬ parts.Reaches ref

/-- Generation reports a missing variable exactly for the first one in the order of
the reactions. -/
theorem reactionCode_eq_unresolved_iff
    {id : ClassId}
    {parts : LayoutParts}
    (hasParts : program.HasParts federate id parts)
    (layout_eq : program.selfStruct federate id = .ok layout)
    {className field : String}
    {span : Option Span} :
    program.reactionCode settings federate id layout =
        .error (.fault (.unresolvedField className index field span)) ↔
      ∃ reaction ref,
        program.StopsAt settings federate layout parts index reaction ref ∧
          className = parts.reactorClass.name ∧
          field = ref.dotted ∧
          span = (reaction.span <|> parts.reactorClass.span) := by
  have laidOut := hasParts.laidOut layout_eq
  obtain ⟨_, inClass⟩ := classReactions_spec hasParts.reactorClass hasParts.positions
  have unfolded : program.reactionCode settings federate id layout =
      parts.positions.mapM
        (program.reactionCodeAt settings federate parts.reactorClass layout) := by
    rw [reactionCode, hasParts.reactorClass, Result.liftM_ok, Result.ok_bind,
      hasParts.positions, Result.liftM_ok, Result.ok_bind]
    rfl
  rw [unfolded, Result.mapM_eq_error]
  constructor
  · rintro ⟨before, position, after, positions_eq, succeed, fails⟩
    have member : position ∈ parts.positions := by
      rw [positions_eq]
      exact List.mem_append_right _ (List.mem_cons_self ..)
    obtain ⟨reaction, reaction_eq⟩ := inClass position member
    cases resolved : layout.resolve parts.reactorClass position reaction with
    | ok bindings =>
      have goesOn : FailsLocally (program.reactionCodeAt settings federate
          parts.reactorClass layout position) :=
        reactionCodeAt_failsLocally reaction_eq resolved
      exact Bool.noConfusion (goesOn _ fails)
    | error fault =>
      rw [reactionCodeAt_of_unresolved reaction_eq resolved] at fails
      obtain ⟨earlier, ref, later, variables_eq, found, missing, fault_eq⟩ :=
        laidOut.resolve_eq_error_iff.mp resolved
      rw [fault_eq] at fails
      simp only [Except.error.injEq, Failure.fault.injEq, Fault.unresolvedField.injEq] at fails
      obtain ⟨rfl, rfl, rfl, rfl⟩ := fails
      refine ⟨reaction, ref, ?_, laidOut.className, rfl, rfl⟩
      exact ⟨reaction_eq, ⟨before, after, positions_eq, succeed⟩,
        ⟨earlier, later, variables_eq, found⟩, missing⟩
  · rintro ⟨reaction, ref, stops, rfl, rfl, rfl⟩
    obtain ⟨before, after, positions_eq, succeed⟩ := stops.position
    obtain ⟨earlier, later, variables_eq, found⟩ := stops.variable_eq
    refine ⟨before, index, after, positions_eq, succeed, ?_⟩
    apply reactionCodeAt_of_unresolved stops.reaction_eq
    rw [laidOut.resolve_eq_error_iff]
    exact ⟨earlier, ref, later, variables_eq, found, stops.missing, by rw [laidOut.className]⟩

end Program

/-! ## What a class declares -/

namespace Program

/-- The instances of a class, in the order of the tree. -/
def instancesOf (program : Program) (id : ClassId) :
    Except DanglingReference (List ReactorInstance) := do
  let listing ← program.tree.preorder
  let nodes ← listing.mapM program.tree.node
  return nodes.filter (·.reactorClass = id)

/-- Whether an instance has a child of the given name and class. -/
def Contains
    (program : Program)
    (owner : ReactorInstance)
    (name : String)
    (child : ReactorClass) : Prop :=
  ∃ id ∈ owner.children, ∃ node, program.tree.node id = .ok node ∧
    node.name = name ∧
    program.classAt node.reactorClass = .ok child

/-- A variable that a class declares for the reactions of a federate: a port, a timer,
an action of the federate, or a port that is contained in every instance. -/
inductive Declares
    (program : Program)
    (federate : Federate)
    (id : ClassId) : VarRef -> Prop
  | input {reactorClass : ReactorClass} {port : PortDecl}
    (class_eq : program.classAt id = .ok reactorClass)
    (member : port ∈ reactorClass.inputs) :
    Declares program federate id (.own port.name)
  | output {reactorClass : ReactorClass} {port : PortDecl}
    (class_eq : program.classAt id = .ok reactorClass)
    (member : port ∈ reactorClass.outputs) :
    Declares program federate id (.own port.name)
  | timer {reactorClass : ReactorClass} {name : String}
    (class_eq : program.classAt id = .ok reactorClass)
    (member : name ∈ reactorClass.timers) :
    Declares program federate id (.own name)
  | action {actions : List ActionDecl} {action : ActionDecl}
    (actions_eq : program.classActions federate id = .ok actions)
    (member : action ∈ actions) :
    Declares program federate id (.own action.name)
  | contained {owners : List ReactorInstance} {container name : String}
    (owners_eq : program.instancesOf id = .ok owners)
    (everywhere : ∀ owner ∈ owners, ∃ child, program.Contains owner container child ∧
      (child.port? name).isSome = true) :
    Declares program federate id ⟨some container, name⟩

/-- A variable of a class that no reaction finds unless something else is spelled
like it. -/
inductive Overlooks
    (program : Program)
    (id : ClassId) : VarRef -> Prop
  /-- A timer. -/
  | timer {reactorClass : ReactorClass} {name : String}
    (class_eq : program.classAt id = .ok reactorClass)
    (member : name ∈ reactorClass.timers) :
    Overlooks program id (.own name)
  /-- A port of one of two children of an instance that share a name but not a
  class. -/
  | sibling {owners : List ReactorInstance} {owner : ReactorInstance}
    {first second : ReactorClass} {container name : String}
    (owners_eq : program.instancesOf id = .ok owners)
    (member : owner ∈ owners)
    (firstChild : program.Contains owner container first)
    (notDeclared : first.port? name = none)
    (secondChild : program.Contains owner container second)
    (declared : (second.port? name).isSome = true) :
    Overlooks program id ⟨some container, name⟩

variable
  {program : Program}
  {federate : Federate}
  {id : ClassId}

/-- If the first instance of a class has a child of some name, such a child is what
stands for the name in the class. -/
theorem contains_of_containedClass?
    {owner : ReactorInstance}
    {others : List ReactorInstance}
    (owners_eq : program.instancesOf id = .ok (owner :: others))
    {container : String}
    {second : ReactorClass}
    (contained : program.Contains owner container second)
    {found : Option ReactorClass}
    (found_eq : program.containedClass? id container = .ok found) :
    ∃ first, found = some first ∧ program.Contains owner container first := by
  simp only [instancesOf, Result.bind_eq_ok, Result.pure_eq_ok] at owners_eq
  obtain ⟨listing, listing_eq, nodes, nodes_eq, owners_eq⟩ := owners_eq
  rw [containedClass?, listing_eq, Result.ok_bind, nodes_eq, Result.ok_bind, owners_eq]
    at found_eq
  simp only [List.flatMap_cons, List.mapM_append, Result.bind_eq_ok, Result.pure_eq_ok]
    at found_eq
  obtain ⟨_, ⟨near, near_eq, far, _, rfl⟩, found_eq⟩ := found_eq
  obtain ⟨childId, inChildren, node, node_eq, name_eq, _⟩ := contained
  obtain ⟨same, inNear, same_eq⟩ := Result.exists_mem_of_mapM near_eq inChildren
  obtain rfl := Except.ok.inj (node_eq.symm.trans same_eq)
  have inside : (near.find? (·.name == container)).isSome = true := by
    rw [List.find?_isSome]
    exact ⟨node, inNear, beq_iff_eq.mpr name_eq⟩
  obtain ⟨child, child_eq⟩ := Option.isSome_iff_exists.mp inside
  rw [List.find?_append, child_eq, Option.some_or] at found_eq
  obtain ⟨first, first_eq, rfl⟩ : ∃ first,
      program.classAt child.reactorClass = .ok first ∧ some first = found :=
    Result.map_eq_ok.mp found_eq
  obtain ⟨firstId, inOwner, first_node⟩ :=
    Result.exists_item_of_mapM near_eq (List.mem_of_find?_eq_some child_eq)
  have named := List.find?_some child_eq
  exact ⟨first, rfl, firstId, inOwner, child, first_node, beq_iff_eq.mp named, first_eq⟩

/-- A port that reactions use of a container is listed with the container. -/
theorem exists_usedContainer
    {references : List VarRef}
    {container name : String}
    (member : ⟨some container, name⟩ ∈ references) :
    ∃ used ∈ usedContainers references, used.name = container ∧ name ∈ used.ports := by
  refine ⟨_, List.mem_map_of_mem (a := container) ?_, rfl, ?_⟩
  · rw [List.mem_eraseDups, List.mem_filterMap]
    exact ⟨_, member, rfl⟩
  · rw [List.mem_eraseDups, List.mem_map]
    exact ⟨_, List.mem_filter.mpr ⟨member, beq_iff_eq.mpr rfl⟩, rfl⟩

/-- Every used container is looked up, and it is kept if it is found. -/
theorem exists_containedClass?_of_resolveContainers
    {used : List UsedContainer}
    {containers : List (UsedContainer × ReactorClass)}
    (containers_eq : program.resolveContainers id used = .ok containers)
    {container : UsedContainer}
    (member : container ∈ used) :
    ∃ found, program.containedClass? id container.name = .ok found ∧
      ∀ child, found = some child -> (container, child) ∈ containers := by
  simp only [resolveContainers, Result.bind_eq_ok, Result.pure_eq_ok] at containers_eq
  obtain ⟨resolved, resolved_eq, rfl⟩ := containers_eq
  obtain ⟨entry, inResolved, entry_eq⟩ := Result.exists_mem_of_mapM resolved_eq member
  obtain ⟨found, found_eq, entry_eq⟩ := Result.bind_eq_ok.mp entry_eq
  obtain rfl := Result.pure_eq_ok.mp entry_eq
  refine ⟨found, found_eq, ?_⟩
  rintro child rfl
  exact List.mem_filterMap.mpr ⟨_, inResolved, rfl⟩

/-- A variable that the class declares and a reaction names is found, unless it is one
that is overlooked. -/
theorem reaches_or_overlooks
    {parts : LayoutParts}
    (hasParts : program.HasParts federate id parts)
    {owner : ReactorInstance}
    {others : List ReactorInstance}
    (inhabited : program.instancesOf id = .ok (owner :: others))
    {ref : VarRef}
    (named : ref ∈ parts.references)
    (declares : program.Declares federate id ref) :
    parts.Reaches ref ∨ program.Overlooks id ref := by
  cases declares with
  | input class_eq member =>
    obtain rfl := Except.ok.inj (class_eq.symm.trans hasParts.reactorClass)
    left
    apply LayoutParts.reaches_of_mem
    rw [LayoutParts.mem_held]
    exact .inl ⟨_, member, rfl⟩
  | output class_eq member =>
    obtain rfl := Except.ok.inj (class_eq.symm.trans hasParts.reactorClass)
    left
    apply LayoutParts.reaches_of_mem
    rw [LayoutParts.mem_held]
    exact .inr (.inl ⟨_, member, rfl⟩)
  | action actions_eq member =>
    obtain rfl := Except.ok.inj (actions_eq.symm.trans hasParts.actions)
    left
    apply LayoutParts.reaches_of_mem
    rw [LayoutParts.mem_held]
    exact .inr (.inr (.inl ⟨_, member, rfl⟩))
  | timer class_eq member => exact .inr (.timer class_eq member)
  | @contained owners container name owners_eq everywhere =>
    obtain rfl := Except.ok.inj (inhabited.symm.trans owners_eq)
    obtain ⟨second, secondChild, declared⟩ := everywhere owner (List.mem_cons_self ..)
    obtain ⟨used, inUsed, rfl, inPorts⟩ := exists_usedContainer named
    obtain ⟨found, found_eq, kept⟩ :=
      exists_containedClass?_of_resolveContainers hasParts.containers inUsed
    obtain ⟨first, rfl, firstChild⟩ :=
      contains_of_containedClass? inhabited secondChild found_eq
    cases port_eq : first.port? name with
    | none =>
      exact .inr (.sibling owners_eq (List.mem_cons_self ..) firstChild port_eq secondChild
        declared)
    | some port =>
      left
      apply LayoutParts.reaches_of_mem
      have held : ⟨some used.name, name⟩ ∈ used.held first := by
        rw [UsedContainer.held, List.mem_filterMap]
        exact ⟨name, inPorts, by rw [port_eq]; rfl⟩
      rw [LayoutParts.mem_held]
      exact .inr (.inr (.inr ⟨(used, first), kept first rfl, held⟩))

/-- If the reactions of a class name only what the class declares, then generation
stops with a missing variable exactly at the first one that is overlooked. -/
theorem reactionCode_unresolved_iff_overlooks
    {settings : Settings}
    {layout : SelfStruct}
    {parts : LayoutParts}
    (hasParts : program.HasParts federate id parts)
    (layout_eq : program.selfStruct federate id = .ok layout)
    {owner : ReactorInstance}
    {others : List ReactorInstance}
    (inhabited : program.instancesOf id = .ok (owner :: others))
    (declared : ∀ entry ∈ parts.reactions, ∀ ref ∈ entry.2.variables,
      program.Declares federate id ref)
    {index : Nat}
    {className field : String}
    {span : Option Span} :
    program.reactionCode settings federate id layout =
        .error (.fault (.unresolvedField className index field span)) ↔
      ∃ reaction ref,
        program.StopsAt settings federate layout parts index reaction ref ∧
          program.Overlooks id ref ∧
          className = parts.reactorClass.name ∧
          field = ref.dotted ∧
          span = (reaction.span <|> parts.reactorClass.span) := by
  rw [reactionCode_eq_unresolved_iff hasParts layout_eq]
  constructor
  · rintro ⟨reaction, ref, stops, className_eq, field_eq, span_eq⟩
    refine ⟨reaction, ref, stops, ?_, className_eq, field_eq, span_eq⟩
    obtain ⟨before, after, positions_eq, _⟩ := stops.position
    obtain ⟨earlier, later, variables_eq, _⟩ := stops.variable_eq
    have inReactions : (index, reaction) ∈ parts.reactions := by
      rw [LayoutParts.reactions, ReactorClass.mem_reactionsAt, positions_eq]
      exact ⟨List.mem_append_right _ (List.mem_cons_self ..), stops.reaction_eq⟩
    have inVariables : ref ∈ reaction.variables := by
      rw [variables_eq]
      exact List.mem_append_right _ (List.mem_cons_self ..)
    have named : ref ∈ parts.references :=
      List.mem_flatMap.mpr ⟨_, inReactions, inVariables⟩
    have declares := declared _ inReactions ref inVariables
    exact (reaches_or_overlooks hasParts inhabited named declares).resolve_left stops.missing
  · rintro ⟨reaction, ref, stops, _, className_eq, field_eq, span_eq⟩
    exact ⟨reaction, ref, stops, className_eq, field_eq, span_eq⟩

end Program

/-! ## Timers -/

namespace Station

/-- A reaction to the start, an action and a contained port, and one to a timer. -/
def reactions : List Reaction := [
  ⟨[.startup, .var (.own "wake")], [⟨some "probe", "value"⟩], [.own "out"], "pass", none,
    none⟩,
  ⟨[.var (.own "beat")], [], [], "pass", none, none⟩
]

def stationClass : ReactorClass :=
  { ReactorClass.ofName "Station" with
    outputs := [⟨"out", none, none⟩]
    actions := [⟨"wake", .logical, none⟩]
    timers := ["beat"]
    reactions := reactions
    isMain := true }

def probeClass : ReactorClass :=
  { ReactorClass.ofName "Probe" with outputs := [⟨"value", none, none⟩] }

def station : ReactorInstance :=
  { ReactorInstance.ofName "Station" ⟨0⟩ none with children := [⟨1⟩] }

def probe : ReactorInstance := .ofName "probe" ⟨1⟩ (some ⟨0⟩)

def program : Program where
  name := "Station"
  target := "Python"
  properties := []
  preambles := []
  classes := [stationClass, probeClass]
  tree := ⟨[station, probe], []⟩
  federates := [.singleton]
  connections := []

def parts : LayoutParts where
  reactorClass := stationClass
  actions := stationClass.actions
  positions := [0, 1]
  containers := [(⟨"probe", ["value"]⟩, probeClass)]

def layout : SelfStruct :=
  match program.selfStruct .singleton ⟨0⟩ with
  | .ok layout => layout
  | .error _ => ⟨"", [], [], []⟩

theorem declares :
    ∀ entry ∈ parts.reactions, ∀ ref ∈ entry.2.variables,
      program.Declares .singleton ⟨0⟩ ref := by
  have class_eq : program.classAt ⟨0⟩ = .ok stationClass := rfl
  have actions_eq : program.classActions .singleton ⟨0⟩ = .ok stationClass.actions := rfl
  have owners_eq : program.instancesOf ⟨0⟩ = .ok [station] := rfl
  have contained : program.Contains station "probe" probeClass :=
    ⟨⟨1⟩, List.mem_cons_self .., probe, rfl, rfl, rfl⟩
  have named : parts.references =
      [.own "wake", ⟨some "probe", "value"⟩, .own "out", .own "beat"] := rfl
  intro entry member ref inVariables
  have inReferences : ref ∈ parts.references := List.mem_flatMap.mpr ⟨entry, member, inVariables⟩
  rw [named] at inReferences
  simp only [List.mem_cons, List.not_mem_nil, or_false] at inReferences
  rcases inReferences with rfl | rfl | rfl | rfl
  · exact .action actions_eq (List.mem_cons_self ..)
  · refine .contained owners_eq fun owner isOwner => ?_
    obtain rfl := List.mem_singleton.mp isOwner
    exact ⟨probeClass, contained, rfl⟩
  · exact .output class_eq (List.mem_cons_self ..)
  · exact .timer class_eq (List.mem_cons_self ..)

/-- The first reaction is generated; the second one stops generation because of its
timer. -/
theorem beat_stops :
    program.HasParts .singleton ⟨0⟩ parts ∧
      (∀ entry ∈ parts.reactions, ∀ ref ∈ entry.2.variables,
        program.Declares .singleton ⟨0⟩ ref) ∧
      (∃ code, program.reactionCodeAt (.ofTarget .python) .singleton stationClass layout 0 =
        .ok code) ∧
      program.reactionCode (.ofTarget .python) .singleton ⟨0⟩ layout =
        .error (.fault (.unresolvedField "Station" 1 "beat" none)) := by
  have hasParts : program.HasParts .singleton ⟨0⟩ parts := ⟨rfl, rfl, rfl, rfl⟩
  have layout_eq : program.selfStruct .singleton ⟨0⟩ = .ok layout := rfl
  have inhabited : program.instancesOf ⟨0⟩ = .ok [station] := rfl
  have class_eq : program.classAt ⟨0⟩ = .ok stationClass := rfl
  have generated : ∃ code, program.reactionCodeAt (.ofTarget .python) .singleton
      stationClass layout 0 = .ok code := ⟨_, rfl⟩
  have stops : program.StopsAt (.ofTarget .python) .singleton layout parts 1
      ⟨[.var (.own "beat")], [], [], "pass", none, none⟩ (.own "beat") := by
    constructor
    case reaction_eq => rfl
    case position =>
      refine ⟨[0], [], rfl, ?_⟩
      intro earlier member
      obtain rfl := List.mem_singleton.mp member
      exact generated
    case variable_eq => exact ⟨[], [], rfl, nofun⟩
    case missing => decide
  refine ⟨hasParts, declares, generated, ?_⟩
  rw [Program.reactionCode_unresolved_iff_overlooks hasParts layout_eq inhabited declares]
  exact ⟨_, _, stops, .timer class_eq (List.mem_cons_self ..), rfl, rfl, rfl⟩

end Station

namespace Clock

/-- A class with a timer and a reaction that the timer triggers. -/
def clockClass : ReactorClass :=
  { ReactorClass.ofName "Clock" with
    timers := ["tick"]
    reactions := [⟨[.var (.own "tick")], [], [], "print('tick')", none, none⟩]
    isMain := true }

def clock : ReactorInstance :=
  { ReactorInstance.ofName "Clock" ⟨0⟩ none with
    timers := [⟨"tick", .zero, some ⟨1, .second⟩, none⟩] }

def program : Program where
  name := "Clock"
  target := "Python"
  properties := []
  preambles := []
  classes := [clockClass]
  tree := ⟨[clock], []⟩
  federates := [.singleton]
  connections := []

/-- The struct has a member for the timer, and yet the reaction is said to name a field
that is not there, and the compilation is given up. -/
theorem tick_unresolved :
    program.instancesOf ⟨0⟩ = .ok [clock] ∧
      (∀ ref ∈ clockClass.reactions.flatMap Reaction.variables,
        program.Declares .singleton ⟨0⟩ ref) ∧
      ∃ layout result,
        program.selfStruct .singleton ⟨0⟩ = .ok layout ∧
          .trigger "tick" ∈ layout.members ∧
          program.reactionCode (.ofTarget .python) .singleton ⟨0⟩ layout =
            .error (.fault (.unresolvedField "Clock" 0 "tick" none)) ∧
          (program.compile .empty [] ⟨none, none, fun _ => none⟩).run.result =
            .ok result ∧
          result.success = false ∧
          result.federates = [] := by
  refine ⟨rfl, ?_, _, _, rfl, ?_, rfl, rfl, rfl, rfl⟩
  · intro ref member
    obtain rfl : ref = .own "tick" := List.mem_singleton.mp member
    exact .timer rfl (List.mem_cons_self ..)
  · decide

end Clock
end ReactorGen
