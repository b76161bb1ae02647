import Mathlib.Data.List.Nodup
import ReactorGen.Proofs.PlainNames
import ReactorGen.Proofs.SelfStructMembers

/-!
# The types of local variables

The functions of reactions reach into the self struct with expressions, and the members
of the struct give types to these expressions.  Bindings and members are laid out side by
side, from the kind and the width of what they are for; they agree: every local variable
of a binding is declared with the type of the expression it starts with.
-/

namespace ReactorGen

/-! ## Types of expressions -/

namespace Member

/-- The type that a member is declared with.  Nested structs and arrays have no type that
could be spelled in front of the name. -/
def type? : Member -> Option NativeType
  | base => some (.named "struct self_base_t")
  | instanceName => some (.pointer (.named "char"))
  | parameter _ => some (.named "int")
  | port type _ => some type
  | width _ => some (.named "int")
  | trigger _ => some (.named "trigger_t")
  | container _ _ => none
  | reaction _ => some (.named "reaction_t")
  | modes _ => none
  | callable _ => some (.pointer (.named "PyObject"))

/-- What a member is declared with is the spelling of its type; only the name of the
instance has its asterisk at the name. -/
theorem declaration_of_type?
    {member : Member}
    {type : NativeType}
    (notInstanceName : member ≠ .instanceName)
    (type_eq : member.type? = some type) :
    member.declaration = type.text ++ " " ++ member.name ++ ";" := by
  cases member with
  | instanceName => exact absurd rfl notInstanceName
  | container => cases type_eq
  | modes => cases type_eq
  | base | parameter | port | width | trigger | reaction | callable =>
    obtain rfl := Option.some.inj type_eq
    rfl

end Member

/-- The expression for a member of the nested struct of a contained reactor. -/
def selfNestedMember (container name : String) : String :=
  selfMember ("_lf_" ++ container ++ "." ++ name)

namespace SelfStruct

/-- The types that the members of a self struct give to expressions. -/
inductive HasType (layout : SelfStruct) : NativeValue -> NativeType -> Prop
  /-- A member has the type that it is declared with. -/
  | member {member : Member} {type : NativeType}
    (inStruct : member ∈ layout.members)
    (type_eq : member.type? = some type) :
    HasType layout (.of (selfMember member.name)) type
  /-- So has a member of a nested struct. -/
  | nested {container : String} {ports : List NestedMember} {nested : NestedMember}
    (inStruct : .container container ports ∈ layout.members)
    (inContainer : nested ∈ ports) :
    HasType layout (.of (selfNestedMember container nested.name)) nested.type
  /-- An address has the type of pointers to what is there. -/
  | addressOf {expression : String} {type : NativeType}
    (typed : HasType layout (.of expression) type) :
    HasType layout (.addressOf expression) (.pointer type)

/-- No two members share a name, and no name has the dot that leads into a nested
struct. -/
structure Unambiguous (layout : SelfStruct) : Prop where
  names : (layout.members.map Member.name).Nodup
  dotless : ∀ member ∈ layout.members, '.' ∉ member.name.toList

namespace HasType

variable
  {layout : SelfStruct}
  {type : NativeType}

theorem of_iff {expression : String} :
    layout.HasType (.of expression) type ↔
      (∃ member ∈ layout.members,
        member.type? = some type ∧ expression = selfMember member.name) ∨
      ∃ container ports nested, .container container ports ∈ layout.members ∧
        nested ∈ ports ∧ nested.type = type ∧
        expression = selfNestedMember container nested.name := by
  constructor
  · intro typed
    cases typed with
    | member inStruct type_eq => exact .inl ⟨_, inStruct, type_eq, rfl⟩
    | nested inStruct inContainer => exact .inr ⟨_, _, _, inStruct, inContainer, rfl, rfl⟩
  · rintro (⟨_, inStruct, type_eq, rfl⟩ | ⟨_, _, _, inStruct, inContainer, rfl, rfl⟩)
    · exact .member inStruct type_eq
    · exact .nested inStruct inContainer

/-- A member and a member of a nested struct are different expressions. -/
theorem selfMember_ne_selfNestedMember
    {name : String}
    (dotless : '.' ∉ name.toList)
    (container nested : String) :
    selfMember name ≠ selfNestedMember container nested := by
  intro equal
  rw [selfNestedMember, selfMember, selfMember, String.append_right_inj] at equal
  apply dotless
  rw [equal]
  simp

/-- An expression for a member of a nested struct names the struct and the member. -/
theorem selfNestedMember_inj
    {first second left right : String}
    (firstDotless : '.' ∉ ("_lf_" ++ first).toList)
    (secondDotless : '.' ∉ ("_lf_" ++ second).toList)
    (equal : selfNestedMember first left = selfNestedMember second right) :
    "_lf_" ++ first = "_lf_" ++ second ∧ left = right := by
  rw [selfNestedMember, selfNestedMember, selfMember, selfMember, String.append_right_inj]
    at equal
  exact Text.append_append_inj (by decide) firstDotless secondDotless equal

/-- Where no two members share a name, an expression has one type. -/
theorem unique
    (unambiguous : layout.Unambiguous)
    (nestedOnce : ∀ container ports, .container container ports ∈ layout.members ->
      (ports.map NestedMember.name).Nodup)
    {value : NativeValue}
    {first second : NativeType}
    (hasFirst : layout.HasType value first)
    (hasSecond : layout.HasType value second) :
    first = second := by
  have sameMember {left right : Member} (inLeft : left ∈ layout.members)
      (inRight : right ∈ layout.members) (name_eq : left.name = right.name) : left = right :=
    List.inj_on_of_nodup_map unambiguous.names inLeft inRight name_eq
  induction hasFirst generalizing second with
  | @member member type inStruct type_eq =>
    rcases of_iff.mp hasSecond with
      ⟨other, inOther, other_eq, equal⟩ | ⟨container, _, nested, _, _, _, equal⟩
    · rw [selfMember, selfMember, String.append_right_inj] at equal
      obtain rfl := sameMember inStruct inOther equal
      exact Option.some.inj (type_eq.symm.trans other_eq)
    · exact absurd equal
        (selfMember_ne_selfNestedMember (unambiguous.dotless _ inStruct) _ _)
  | @nested container ports nested inStruct inContainer =>
    have dotless := unambiguous.dotless _ inStruct
    rcases of_iff.mp hasSecond with
      ⟨other, inOther, _, equal⟩ | ⟨other, otherPorts, otherNested, inOther, isOther, rfl, equal⟩
    · exact absurd equal.symm
        (selfMember_ne_selfNestedMember (unambiguous.dotless _ inOther) _ _)
    · obtain ⟨structs, names⟩ :=
        selfNestedMember_inj dotless (unambiguous.dotless _ inOther) equal
      obtain ⟨rfl, rfl⟩ := Member.container.inj (sameMember inStruct inOther structs)
      rw [List.inj_on_of_nodup_map (nestedOnce _ _ inStruct) inContainer isOther names]
  | addressOf _ inductionHypothesis =>
    cases hasSecond with
    | addressOf typed => rw [inductionHypothesis typed]

end HasType

/-! ## What bindings reach -/

/-- How a self struct holds what a binding reaches, and what the binding makes of it. -/
inductive Holds (layout : SelfStruct) (binding : Binding) : Prop
  /-- A single input is a pointer, which the local variable copies. -/
  | singleInput
    (kind : binding.kind = .input)
    (single : binding.width = none)
    (inStruct : .port (.pointer (.named binding.type)) binding.variableName ∈ layout.members)
    (access : binding.access = selfMember ("_lf_" ++ binding.variableName))
    (locals : binding.locals =
      [binding.declare (.pointer (.named binding.type)) (.of binding.access)])
  /-- An own multiport is an array of pointers with its width beside it. -/
  | multiport {width : String}
    (kind : binding.kind = .input ∨ binding.kind = .output)
    (multiple : binding.width = some width)
    (inStruct : .port (.pointer (.pointer (.named binding.type))) binding.variableName ∈
      layout.members)
    (access : binding.access = selfMember ("_lf_" ++ binding.variableName))
    (widthInStruct : .width binding.variableName ∈ layout.members)
    (width_eq : width = selfMember ("_lf_" ++ binding.variableName ++ "_width"))
    (locals : binding.locals = [
      binding.declare (.pointer (.pointer (.named binding.type))) (.of binding.access),
      ⟨.named "int", binding.widthName, .of width⟩])
  /-- Single outputs and actions are part of the struct, so the local variable is their
  address. -/
  | embedded
    (kind : binding.kind = .output ∨ binding.kind = .action)
    (single : binding.width = none)
    (inStruct : .port (.named binding.type) binding.variableName ∈ layout.members)
    (access : binding.access = selfMember ("_lf_" ++ binding.variableName))
    (locals : binding.locals =
      [binding.declare (.pointer (.named binding.type)) (.addressOf binding.access)])
  /-- A port of a contained reactor is a pointer inside the nested struct of its
  container. -/
  | contained {container name : String} {ports : List NestedMember}
    (kind : binding.kind = .containedPort)
    (single : binding.width = none)
    (variableName : binding.variableName = container ++ "." ++ name)
    (inStruct : .container container ports ∈ layout.members)
    (inContainer : ⟨.pointer (.named binding.type), name⟩ ∈ ports)
    (access : binding.access = selfNestedMember container name)
    (locals : binding.locals =
      [binding.declare (.pointer (.named binding.type)) (.of binding.access)])

/-- The local variables of a binding have the types of what they start with. -/
theorem Holds.hasType
    {layout : SelfStruct}
    {binding : Binding}
    (holds : layout.Holds binding)
    {declared : Local}
    (isLocal : declared ∈ binding.locals) :
    layout.HasType declared.value declared.type := by
  cases holds with
  | singleInput _ _ inStruct access locals =>
    rw [locals, List.mem_singleton] at isLocal
    rw [isLocal, Binding.declare, access]
    exact .member inStruct rfl
  | @multiport width _ _ inStruct access widthInStruct width_eq locals =>
    rw [locals, List.mem_cons, List.mem_singleton] at isLocal
    rcases isLocal with rfl | rfl
    · rw [Binding.declare, access]
      exact .member inStruct rfl
    · rw [width_eq]
      exact .member widthInStruct rfl
  | embedded _ _ inStruct access locals =>
    rw [locals, List.mem_singleton] at isLocal
    rw [isLocal, Binding.declare, access]
    exact .addressOf (.member inStruct rfl)
  | contained _ _ _ inStruct inContainer access locals =>
    rw [locals, List.mem_singleton] at isLocal
    rw [isLocal, Binding.declare, access]
    exact .nested inStruct inContainer

end SelfStruct

/-! ## Bindings of a self struct -/

namespace ReactorClass

variable
  {reactorClass : ReactorClass}
  {port : PortDecl}

theorem portMembers_of_single
    (width : port.width = none)
    (single : NativeType) :
    reactorClass.portMembers single port = [.port single port.name] := by
  rw [portMembers, width]

theorem portMembers_of_multiport
    {count : UInt32}
    (width : port.width = some count)
    (single : NativeType) :
    reactorClass.portMembers single port =
      [.port (.pointer (.pointer (reactorClass.aliasType port.name))) port.name,
        .width port.name] := by
  rw [portMembers, width]

theorem width_portBinding_of_single
    (width : port.width = none)
    (kind : BindingKind) :
    (reactorClass.portBinding kind port).width = none := by
  rw [portBinding, width]
  rfl

theorem width_portBinding_of_multiport
    {count : UInt32}
    (width : port.width = some count)
    (kind : BindingKind) :
    (reactorClass.portBinding kind port).width =
      some (selfMember ("_lf_" ++ port.name ++ "_width")) := by
  rw [portBinding, width]
  rfl

/-- A struct with the members of a multiport holds it, whether it is an input or an
output. -/
theorem holds_multiport
    {layout : SelfStruct}
    {single : NativeType}
    (inStruct : ∀ member ∈ reactorClass.portMembers single port, member ∈ layout.members)
    {count : UInt32}
    (width : port.width = some count)
    {kind : BindingKind}
    (own : kind = .input ∨ kind = .output) :
    layout.Holds (reactorClass.portBinding kind port) := by
  have width_eq := reactorClass.width_portBinding_of_multiport width kind
  rw [portMembers_of_multiport width] at inStruct
  apply SelfStruct.Holds.multiport own width_eq
  case inStruct => exact inStruct _ (List.mem_cons_self ..)
  case widthInStruct => exact inStruct _ (List.mem_cons_of_mem _ (List.mem_cons_self ..))
  case access => rfl
  case width_eq => rfl
  case locals =>
    unfold Binding.locals
    rw [width_eq]
    rcases own with rfl | rfl <;> rfl

end ReactorClass

namespace Program

variable
  {program : Program}
  {federate : Federate}
  {id : ClassId}
  {parts : LayoutParts}
  {layout : SelfStruct}

theorem HasParts.holds_input
    (hasParts : program.HasParts federate id parts)
    (layout_eq : program.selfStruct federate id = .ok layout)
    {port : PortDecl}
    (declared : port ∈ parts.reactorClass.inputs) :
    layout.Holds (parts.reactorClass.portBinding .input port) := by
  have inStruct : ∀ member ∈ parts.reactorClass.portMembers
      (.pointer (parts.reactorClass.aliasType port.name)) port, member ∈ layout.members := by
    intro member inPort
    rw [hasParts.members_eq layout_eq]
    exact LayoutParts.mem_members_of_input declared (List.mem_append_left _ inPort)
  cases width : port.width with
  | some count => exact ReactorClass.holds_multiport inStruct width (.inl rfl)
  | none =>
    have width_eq := parts.reactorClass.width_portBinding_of_single width .input
    rw [ReactorClass.portMembers_of_single width] at inStruct
    apply SelfStruct.Holds.singleInput rfl width_eq
    case inStruct => exact inStruct _ (List.mem_singleton_self _)
    case access => rfl
    case locals =>
      unfold Binding.locals
      rw [width_eq]
      rfl

theorem HasParts.holds_output
    (hasParts : program.HasParts federate id parts)
    (layout_eq : program.selfStruct federate id = .ok layout)
    {port : PortDecl}
    (declared : port ∈ parts.reactorClass.outputs) :
    layout.Holds (parts.reactorClass.portBinding .output port) := by
  have inStruct : ∀ member ∈ parts.reactorClass.portMembers
      (parts.reactorClass.aliasType port.name) port, member ∈ layout.members := by
    intro member inPort
    rw [hasParts.members_eq layout_eq]
    exact LayoutParts.mem_members_of_output declared inPort
  cases width : port.width with
  | some count => exact ReactorClass.holds_multiport inStruct width (.inr rfl)
  | none =>
    have width_eq := parts.reactorClass.width_portBinding_of_single width .output
    rw [ReactorClass.portMembers_of_single width] at inStruct
    apply SelfStruct.Holds.embedded (.inl rfl) width_eq
    case inStruct => exact inStruct _ (List.mem_singleton_self _)
    case access => rfl
    case locals =>
      unfold Binding.locals
      rw [width_eq]
      rfl

theorem HasParts.holds_contained
    (hasParts : program.HasParts federate id parts)
    (layout_eq : program.selfStruct federate id = .ok layout)
    {entry : UsedContainer × ReactorClass}
    (found : entry ∈ parts.containers)
    {binding : Binding}
    (member : binding ∈ entry.1.bindings entry.2) :
    layout.Holds binding := by
  have inStruct : .container entry.1.name (entry.1.nested entry.2) ∈ layout.members := by
    rw [hasParts.members_eq layout_eq]
    exact LayoutParts.mem_members_of_container found
  simp only [UsedContainer.bindings, List.mem_filterMap, Option.map_eq_some_iff] at member
  obtain ⟨name, isUsed, port, port_eq, rfl⟩ := member
  apply SelfStruct.Holds.contained rfl rfl rfl inStruct
  case inContainer =>
    rw [UsedContainer.nested, List.mem_filterMap]
    refine ⟨name, isUsed, ?_⟩
    rw [port_eq]
    rfl
  case access => rfl
  case locals => rfl

/-- A self struct holds everything that its bindings reach. -/
theorem HasParts.holds
    (hasParts : program.HasParts federate id parts)
    (layout_eq : program.selfStruct federate id = .ok layout)
    {binding : Binding}
    (member : binding ∈ layout.bindings) :
    layout.Holds binding := by
  have laidOut := hasParts.laidOut layout_eq
  rw [laidOut.bindings] at member
  simp only [List.mem_append, List.mem_map, List.mem_flatMap] at member
  rcases member with ((⟨port, declared, rfl⟩ | ⟨port, declared, rfl⟩) |
    ⟨action, generated, rfl⟩) | ⟨entry, found, inContainer⟩
  · exact hasParts.holds_input layout_eq declared
  · exact hasParts.holds_output layout_eq declared
  · have inStruct := laidOut.action_mem action generated
    exact .embedded (.inr rfl) rfl inStruct rfl rfl
  · exact hasParts.holds_contained layout_eq found inContainer

/-- Every local variable of a binding has the type of the expression it starts with, which
is its only type unless members share a name.  Types are those that members are declared
with; and each contained reactor has one nested struct with the ports that are used, in the
order of first use. -/
theorem selfStruct_typesLocals
    (layout_eq : program.selfStruct federate id = .ok layout) :
    (∀ binding ∈ layout.bindings,
      layout.Holds binding ∧
        ∀ declared ∈ binding.locals,
          layout.HasType declared.value declared.type ∧
            (layout.Unambiguous ->
              ∀ type, layout.HasType declared.value type -> type = declared.type)) ∧
      (∀ member ∈ layout.members, member ≠ .instanceName ->
        ∀ type, member.type? = some type ->
          member.declaration = type.text ++ " " ++ member.name ++ ";") ∧
      ∃ parts, program.HasParts federate id parts ∧
        layout.Nests program id parts.references := by
  obtain ⟨parts, hasParts, _⟩ := exists_parts layout_eq
  have nests := hasParts.nests layout_eq
  have nestedOnce : ∀ container ports, .container container ports ∈ layout.members ->
      (ports.map NestedMember.name).Nodup := by
    intro container ports inStruct
    obtain ⟨_, _, gathers⟩ := nests.gathers container ports inStruct
    exact gathers.once
  refine ⟨fun binding member => ?_,
    fun member _ notInstanceName type => Member.declaration_of_type? notInstanceName,
    parts, hasParts, nests⟩
  have holds := hasParts.holds layout_eq member
  refine ⟨holds, fun declared isLocal => ⟨holds.hasType isLocal, ?_⟩⟩
  intro unambiguous type typed
  exact typed.unique unambiguous nestedOnce (holds.hasType isLocal)

end Program

/-! ## Variables of every kind -/

namespace Mixer

/-- A class with single ports and multiports, an action and a contained reactor. -/
def mixerClass : ReactorClass :=
  { ReactorClass.ofName "Mixer" with
    inputs := [⟨"gain", none, none⟩, ⟨"taps", none, some 4⟩]
    outputs := [⟨"level", none, none⟩, ⟨"fan", none, some 2⟩]
    actions := [⟨"tick", .logical, none⟩]
    reactions := [⟨[.var (.own "gain"), .var (.own "tick")],
      [⟨some "meter", "peak"⟩, .own "taps"],
      [.own "level", .own "fan", ⟨some "meter", "reset"⟩, ⟨some "meter", "peak"⟩],
      "pass", none, none⟩]
    isMain := true }

def meterClass : ReactorClass :=
  { ReactorClass.ofName "Meter" with
    inputs := [⟨"reset", none, none⟩]
    outputs := [⟨"peak", none, none⟩] }

def program : Program where
  name := "Mixer"
  target := "Python"
  properties := []
  preambles := []
  classes := [mixerClass, meterClass]
  tree := ⟨[{ ReactorInstance.ofName "Mixer" ⟨0⟩ none with children := [⟨1⟩] },
    .ofName "meter" ⟨1⟩ (some ⟨0⟩)], []⟩
  federates := [.singleton]
  connections := []

def layout : SelfStruct :=
  match program.selfStruct .singleton ⟨0⟩ with
  | .ok layout => layout
  | .error _ => ⟨"", [], [], []⟩

/-- Every local variable of the mixer has the type of the expression it starts with, and
no other. -/
theorem program_typesLocals :
    program.selfStruct .singleton ⟨0⟩ = .ok layout ∧
      (∀ binding ∈ layout.bindings, ∀ declared ∈ binding.locals,
        layout.HasType declared.value declared.type ∧
          ∀ type, layout.HasType declared.value type -> type = declared.type) ∧
      layout.Nests program ⟨0⟩ (mixerClass.reactions.flatMap Reaction.variables) ∧
      layout.bindings.flatMap (fun binding => binding.locals.map Local.declaration) = [
        "mixer_gain_t* gain = self->_lf_gain;",
        "mixer_taps_t** taps = self->_lf_taps;",
        "int taps_width = self->_lf_taps_width;",
        "mixer_level_t* level = &self->_lf_level;",
        "mixer_fan_t** fan = self->_lf_fan;",
        "int fan_width = self->_lf_fan_width;",
        "mixer_tick_t* tick = &self->_lf_tick;",
        "meter_peak_t* meter_peak = self->_lf_meter.peak;",
        "meter_reset_t* meter_reset = self->_lf_meter.reset;"
      ] := by
  have layout_eq : program.selfStruct .singleton ⟨0⟩ = .ok layout := rfl
  have unambiguous : layout.Unambiguous := ⟨by decide +kernel, by decide +kernel⟩
  obtain ⟨typed, _, parts, hasParts, nests⟩ := Program.selfStruct_typesLocals layout_eq
  have references_eq : parts.references =
      mixerClass.reactions.flatMap Reaction.variables := by
    have hasKnown : program.HasParts .singleton ⟨0⟩ ⟨mixerClass, mixerClass.actions, [0],
        [(⟨"meter", ["peak", "reset"]⟩, meterClass)]⟩ := ⟨rfl, rfl, rfl, rfl⟩
    rw [hasParts.unique hasKnown]
    rfl
  rw [references_eq] at nests
  refine ⟨layout_eq, ?_, nests, by decide +kernel⟩
  intro binding member declared isLocal
  obtain ⟨hasType, only⟩ := (typed binding member).2 declared isLocal
  exact ⟨hasType, only unambiguous⟩

end Mixer
end ReactorGen
