import ReactorGen.Proofs.BindingTypes
import ReactorGen.Proofs.ReactionArguments

/-!
# Widths of multiports

A reaction hands a port of its own class to the interpreter as a multiport exactly if the
port is declared with a width.  The width of a port of a contained reactor is lost on the
way: the nested struct has no room for it, the binding has no expression for it, and the
interpreter takes the port for a single one.
-/

namespace ReactorGen

/-! ## Multiports and single ports -/

namespace Binding

/-- A port that is handed over as a multiport: there is an expression for its width, a
local variable that holds the width, and the interpreter gets that variable. -/
structure HandsMultiport (binding : Binding) : Prop where
  width : ∃ width, binding.width = some width ∧
    ⟨.named "int", binding.widthName, .of width⟩ ∈ binding.locals
  argument : binding.argument.text =
    "convert_C_port_to_py(" ++ binding.localName ++ ", " ++ binding.widthName ++ ")"

/-- A port that is handed over as a single port. -/
structure HandsSingle (binding : Binding) : Prop where
  width : binding.width = none
  argument : binding.argument.text =
    "convert_C_port_to_py(" ++ binding.localName ++ ", -2)"

variable {binding : Binding}

theorem HandsSingle.not_handsMultiport
    (single : binding.HandsSingle) :
    ¬ binding.HandsMultiport := by
  rintro ⟨⟨width, width_eq, _⟩, _⟩
  rw [single.width] at width_eq
  cases width_eq

/-- An own port is handed over as a multiport if there is an expression for its width. -/
theorem handsMultiport_iff
    (own : binding.kind = .input ∨ binding.kind = .output) :
    binding.HandsMultiport ↔ binding.width.isSome = true := by
  constructor
  · rintro ⟨⟨width, multiple, _⟩, _⟩
    rw [multiple]
    rfl
  · intro isSome
    obtain ⟨width, multiple⟩ := Option.isSome_iff_exists.mp isSome
    have isPort : binding.kind ≠ .action := by
      rcases own with kind | kind <;> rw [kind] <;> decide
    constructor
    case width =>
      refine ⟨width, multiple, ?_⟩
      unfold locals
      rw [multiple]
      rcases own with kind | kind <;> rw [kind] <;> simp
    case argument =>
      rw [argument_of_port isPort, multiple, Argument.text_port, Option.map_some,
        Option.getD_some]

/-- A port is handed over as a single port if there is no such expression. -/
theorem handsSingle_iff (isPort : binding.kind ≠ .action) :
    binding.HandsSingle ↔ binding.width = none := by
  constructor
  · exact HandsSingle.width
  · intro single
    refine ⟨single, ?_⟩
    rw [argument_of_port isPort, single, Option.map_none, Argument.text_port_none]

end Binding

/-! ## The ports behind variables -/

/-- The declaration of the port that a variable stands for: a port of the class itself or
of a contained reactor, by what the variable is bound as. -/
inductive Program.NamesPort
    (program : Program)
    (id : ClassId)
    (ref : VarRef) : BindingKind -> PortDecl -> Prop
  | own {kind : BindingKind} {reactorClass : ReactorClass} {port : PortDecl}
    (isOwn : kind = .input ∨ kind = .output)
    (class_eq : program.classAt id = .ok reactorClass)
    (port_eq : reactorClass.port? ref.dotted = some port) :
    NamesPort program id ref kind port
  | contained {container name : String} {child : ReactorClass} {port : PortDecl}
    (child_eq : program.containedClass? id container = .ok (some child))
    (port_eq : child.port? name = some port)
    (spelled : ref.dotted = container ++ "." ++ name) :
    NamesPort program id ref .containedPort port

namespace SelfStruct

variable
  {layout : SelfStruct}
  {parts : LayoutParts}

/-- Inputs are looked up before outputs, these before actions, and ports of contained
reactors last. -/
theorem LaidOut.binding?_cases
    (laidOut : layout.LaidOut parts)
    {ref : VarRef}
    {binding : Binding}
    (bound : layout.binding? ref = some binding) :
    (∃ port, parts.reactorClass.input? ref.dotted = some port ∧
      binding = parts.reactorClass.portBinding .input port) ∨
    (parts.reactorClass.input? ref.dotted = none ∧
      ∃ port, parts.reactorClass.output? ref.dotted = some port ∧
        binding = parts.reactorClass.portBinding .output port) ∨
    (parts.reactorClass.port? ref.dotted = none ∧
      (binding.kind = .action ∨
        ∃ entry ∈ parts.containers, binding ∈ entry.1.bindings entry.2)) := by
  have noPort (noInput : parts.reactorClass.input? ref.dotted = none)
      (noOutput : parts.reactorClass.output? ref.dotted = none) :
      parts.reactorClass.port? ref.dotted = none := by
    rw [ReactorClass.port?, noInput, noOutput]
    rfl
  rw [binding?, laidOut.bindings] at bound
  simp only [List.find?_append, List.find?_map, Option.or_eq_some_iff, Option.map_eq_some_iff,
    Option.or_eq_none_iff, Option.map_eq_none_iff] at bound
  rcases bound with ((⟨port, port_eq, rfl⟩ | ⟨noInput, port, port_eq, rfl⟩) |
    ⟨⟨noInput, noOutput⟩, action, _, rfl⟩) | ⟨⟨⟨noInput, noOutput⟩, _⟩, inContainer⟩
  · exact .inl ⟨port, port_eq, rfl⟩
  · exact .inr (.inl ⟨noInput, port, port_eq, rfl⟩)
  · exact .inr (.inr ⟨noPort noInput noOutput, .inl rfl⟩)
  · obtain ⟨entry, found, member⟩ :=
      List.mem_flatMap.mp (List.mem_of_find?_eq_some inContainer)
    exact .inr (.inr ⟨noPort noInput noOutput, .inr ⟨entry, found, member⟩⟩)

end SelfStruct

/-! ## Widths that are handed over -/

namespace Program

/-- How a variable that is bound to a port is handed over: as a multiport exactly if the
port is one and belongs to the class itself. -/
structure HandsWidth
    (program : Program)
    (id : ClassId)
    (ref : VarRef)
    (binding : Binding) : Prop where
  declared : ∃ port, program.NamesPort id ref binding.kind port
  multiport : ∀ port, program.NamesPort id ref binding.kind port ->
    (binding.HandsMultiport ↔ port.width.isSome = true ∧ binding.kind ≠ .containedPort)
  single : ∀ port, program.NamesPort id ref binding.kind port ->
    (binding.HandsSingle ↔ port.width = none ∨ binding.kind = .containedPort)

variable
  {program : Program}
  {federate : Federate}
  {id : ClassId}
  {layout : SelfStruct}
  {ref : VarRef}

theorem handsWidth_of_own
    {reactorClass : ReactorClass}
    (class_eq : program.classAt id = .ok reactorClass)
    {port : PortDecl}
    (port_eq : reactorClass.port? ref.dotted = some port)
    {kind : BindingKind}
    (own : kind = .input ∨ kind = .output) :
    program.HandsWidth id ref (reactorClass.portBinding kind port) := by
  have notContained : kind ≠ .containedPort := by
    rcases own with rfl | rfl <;> decide
  have isPort : kind ≠ .action := by
    rcases own with rfl | rfl <;> decide
  have only : ∀ other, program.NamesPort id ref kind other -> other = port := by
    intro other named
    cases named with
    | contained => exact absurd rfl notContained
    | own _ other_class other_eq =>
      obtain rfl := Except.ok.inj (class_eq.symm.trans other_class)
      exact Option.some.inj (other_eq.symm.trans port_eq)
  have width_eq : (reactorClass.portBinding kind port).width.isSome = port.width.isSome :=
    Option.isSome_map
  constructor
  case declared => exact ⟨port, .own own class_eq port_eq⟩
  case multiport =>
    intro other named
    obtain rfl := only other named
    rw [Binding.handsMultiport_iff own, width_eq]
    exact (and_iff_left notContained).symm
  case single =>
    intro other named
    obtain rfl := only other named
    rw [Binding.handsSingle_iff isPort, ← Option.isNone_iff_eq_none, ← Option.not_isSome,
      width_eq]
    simp [ReactorClass.portBinding, notContained]

/-- The class of a contained reactor declares its port, but the width does not get into
the binding. -/
theorem handsWidth_of_contained
    {entry : UsedContainer × ReactorClass}
    (child_eq : program.containedClass? id entry.1.name = .ok (some entry.2))
    {binding : Binding}
    (member : binding ∈ entry.1.bindings entry.2)
    (spelled : binding.variableName = ref.dotted) :
    program.HandsWidth id ref binding := by
  simp only [UsedContainer.bindings, List.mem_filterMap, Option.map_eq_some_iff] at member
  obtain ⟨name, _, port, port_eq, rfl⟩ := member
  have single : Binding.HandsSingle ⟨entry.1.name ++ "." ++ name, .containedPort,
      Naming.aliasType entry.2.name port.name,
      selfMember ("_lf_" ++ entry.1.name ++ "." ++ name), none⟩ :=
    (Binding.handsSingle_iff (by simp)).mpr rfl
  constructor
  case declared => exact ⟨port, .contained child_eq port_eq spelled.symm⟩
  case multiport =>
    intro other _
    exact iff_of_false single.not_handsMultiport fun both => both.2 rfl
  case single =>
    intro other _
    exact iff_of_true single (.inr rfl)

/-- A variable that is bound to a port is handed over with the width of the port, unless
the port belongs to a contained reactor. -/
theorem handsWidth_of_binding?
    (layout_eq : program.selfStruct federate id = .ok layout)
    {binding : Binding}
    (bound : layout.binding? ref = some binding)
    (isPort : binding.kind ≠ .action) :
    program.HandsWidth id ref binding := by
  obtain ⟨parts, hasParts, laidOut⟩ := exists_parts layout_eq
  rcases laidOut.binding?_cases bound with
    ⟨port, input_eq, rfl⟩ | ⟨noInput, port, output_eq, rfl⟩ |
      ⟨_, isAction | ⟨entry, found, member⟩⟩
  · refine handsWidth_of_own hasParts.reactorClass ?_ (.inl rfl)
    rw [ReactorClass.port?, input_eq]
    rfl
  · refine handsWidth_of_own hasParts.reactorClass ?_ (.inr rfl)
    rw [ReactorClass.port?, noInput, output_eq]
    rfl
  · exact absurd isAction isPort
  · have child_eq := (resolveContainers_spec hasParts.containers).2 entry found
    exact handsWidth_of_contained child_eq member
      (SelfStruct.variableName_of_binding? bound)

end Program

/-- A function that hands variables to the interpreter through their bindings. -/
def ReactionFunction.HandsBindings
    (function : ReactionFunction)
    (layout : SelfStruct)
    (refs : List VarRef) : Prop :=
  ∃ call, function.body = .call call ∧
    ∀ {position : Nat} {ref : VarRef}, refs[position]? = some ref ->
      ∃ binding, layout.binding? ref = some binding ∧
        call.arguments[position]? = some binding.argument ∧
        ∀ declared ∈ binding.locals, declared ∈ function.locals

theorem callingFunction_handsBindings
    {layout : SelfStruct}
    {reactorClass : ReactorClass}
    {index : Nat}
    {reaction : Reaction}
    {bindings : List Binding}
    (resolved : layout.resolve reactorClass index reaction = .ok bindings)
    (name callable label : String) :
    (callingFunction layout bindings name callable label).HandsBindings layout
      reaction.variables := by
  refine ⟨_, rfl, ?_⟩
  intro position ref ref_eq
  obtain ⟨binding, binding_at, bound⟩ :=
    SelfStruct.exists_binding_of_resolve resolved ref_eq
  refine ⟨binding, bound, ?_, ?_⟩
  · rw [List.getElem?_map, binding_at]
    rfl
  · intro declared isLocal
    exact List.mem_flatMap.mpr ⟨binding, List.mem_of_getElem? binding_at, isLocal⟩

/-- Every function of a reaction calls a method with the bindings of its variables. -/
theorem exists_bindings_of_interpreterShim
    {layout : SelfStruct}
    {reactorClass : ReactorClass}
    {index : Nat}
    {code : ReactionCode}
    (code_eq : interpreterShim reactorClass layout index = .ok code) :
    ∃ reaction bindings, reactorClass.reactions[index]? = some reaction ∧
      layout.resolve reactorClass index reaction = .ok bindings ∧
      ∀ function ∈ code.functions, ∃ name callable label,
        function = callingFunction layout bindings name callable label := by
  rw [interpreterShim, Result.bind_eq_ok] at code_eq
  obtain ⟨reaction, reaction_eq, code_eq⟩ := code_eq
  cases resolved : layout.resolve reactorClass index reaction with
  | error fault => simp [resolved] at code_eq
  | ok bindings =>
    rw [resolved, Result.pure_eq_ok] at code_eq
    subst code_eq
    refine ⟨reaction, bindings, ReactorClass.reaction_eq_ok.mp reaction_eq, resolved, ?_⟩
    intro function member
    rw [ReactionCode.functions, List.mem_cons, Option.mem_toList, Option.map_eq_some_iff]
      at member
    rcases member with rfl | ⟨_, _, rfl⟩
    · exact ⟨_, _, _, rfl⟩
    · exact ⟨_, _, _, rfl⟩

/-- The functions of a reaction, and of its deadline, use the bindings of its variables. -/
theorem handsBindings_of_interpreterShim
    {layout : SelfStruct}
    {reactorClass : ReactorClass}
    {index : Nat}
    {code : ReactionCode}
    (code_eq : interpreterShim reactorClass layout index = .ok code) :
    ∃ reaction, reactorClass.reactions[index]? = some reaction ∧
      ∀ function ∈ code.functions, function.HandsBindings layout reaction.variables := by
  obtain ⟨reaction, bindings, reaction_eq, resolved, calls⟩ :=
    exists_bindings_of_interpreterShim code_eq
  refine ⟨reaction, reaction_eq, ?_⟩
  intro function member
  obtain ⟨name, callable, label, rfl⟩ := calls function member
  exact callingFunction_handsBindings resolved name callable label

/-- A port gets to the interpreter as a multiport exactly if it is declared with a width
and belongs to the class of the reaction; the functions of a reaction hand over what is
bound to its variables. -/
theorem Program.selfStruct_handsWidths
    {program : Program}
    {federate : Federate}
    {id : ClassId}
    {layout : SelfStruct}
    (layout_eq : program.selfStruct federate id = .ok layout) :
    (∀ {ref : VarRef} {binding : Binding}, layout.binding? ref = some binding ->
        binding.kind ≠ .action -> program.HandsWidth id ref binding) ∧
      ∀ {reactorClass : ReactorClass} {index : Nat} {code : ReactionCode},
        interpreterShim reactorClass layout index = .ok code ->
        ∃ reaction, reactorClass.reactions[index]? = some reaction ∧
          ∀ function ∈ code.functions,
            function.HandsBindings layout reaction.variables :=
  ⟨handsWidth_of_binding? layout_eq, handsBindings_of_interpreterShim⟩

/-! ## A mixing desk -/

namespace Desk

/-- A class with a multiport and with a contained reactor that has one, too. -/
def deskClass : ReactorClass :=
  { ReactorClass.ofName "Desk" with
    inputs := [⟨"taps", none, some 4⟩]
    reactions := [⟨[.var (.own "taps"), .var ⟨some "board", "levels"⟩], [], [], "pass",
      none, none⟩]
    isMain := true }

def boardClass : ReactorClass :=
  { ReactorClass.ofName "Board" with
    outputs := [⟨"levels", none, some 4⟩] }

def program : Program where
  name := "Desk"
  target := "Python"
  properties := []
  preambles := []
  classes := [deskClass, boardClass]
  tree := ⟨[{ ReactorInstance.ofName "Desk" ⟨0⟩ none with children := [⟨1⟩] },
    .ofName "board" ⟨1⟩ (some ⟨0⟩)], []⟩
  federates := [.singleton]
  connections := []

def layout : SelfStruct :=
  match program.selfStruct .singleton ⟨0⟩ with
  | .ok layout => layout
  | .error _ => ⟨"", [], [], []⟩

/-- The taps of the desk get to the interpreter with their width. -/
theorem layout_handsWidths :
    program.selfStruct .singleton ⟨0⟩ = .ok layout ∧
      (∃ binding, layout.binding? (.own "taps") = some binding ∧
        binding.HandsMultiport ∧
        program.HandsWidth ⟨0⟩ (.own "taps") binding) ∧
      ∃ code, interpreterShim deskClass layout 0 = .ok code ∧
        ∀ function ∈ code.functions,
          function.HandsBindings layout [.own "taps", ⟨some "board", "levels"⟩] := by
  have class_eq : program.classAt ⟨0⟩ = .ok deskClass := rfl
  have layout_eq : program.selfStruct .singleton ⟨0⟩ = .ok layout := rfl
  obtain ⟨widths, shims⟩ := Program.selfStruct_handsWidths layout_eq
  have bound : layout.binding? (.own "taps") =
      some (deskClass.portBinding .input ⟨"taps", none, some 4⟩) := rfl
  have handsWidth := widths bound (by decide)
  have named : program.NamesPort ⟨0⟩ (.own "taps") .input ⟨"taps", none, some 4⟩ :=
    .own (.inl rfl) class_eq rfl
  obtain ⟨code, code_eq⟩ : ∃ code, interpreterShim deskClass layout 0 = .ok code :=
    ⟨_, rfl⟩
  obtain ⟨reaction, reaction_eq, hands⟩ := shims code_eq
  obtain rfl := Option.some.inj reaction_eq
  exact ⟨layout_eq,
    ⟨_, bound, (handsWidth.multiport _ named).mpr ⟨rfl, by decide⟩, handsWidth⟩,
    code, code_eq, hands⟩

/-- The levels of the board get to the interpreter as a single port, although the class of
the board declares them with a width. -/
theorem levels_loseWidth :
    program.selfStruct .singleton ⟨0⟩ = .ok layout ∧
      ∃ binding port,
        layout.binding? ⟨some "board", "levels"⟩ = some binding ∧
          program.NamesPort ⟨0⟩ ⟨some "board", "levels"⟩ binding.kind port ∧
          port.width = some 4 ∧
          binding.width = none ∧
          binding.argument.text = "convert_C_port_to_py(board_levels, -2)" := by
  have child_eq : program.containedClass? ⟨0⟩ "board" = .ok (some boardClass) := rfl
  have port_eq : boardClass.port? "levels" = some ⟨"levels", none, some 4⟩ := rfl
  exact ⟨rfl, _, _, rfl, .contained child_eq port_eq rfl, rfl, rfl, by decide⟩

end Desk
end ReactorGen
