import ReactorGen.Proofs.ClassTexts
import ReactorGen.Proofs.FirstOccurrences
import ReactorGen.Proofs.FunctionTexts
import ReactorGen.Proofs.SelfStructParts
import ReactorGen.Proofs.TextCuts

/-!
# The arguments of reactions

A reaction of the interpreter is generated twice: as a native function that calls a
method, and as that method.  Both are written from the variables of the reaction,
one through the bindings of the self struct and the other through the names of the
variables, and they agree: the call hands over one argument for each parameter, and
argument and parameter in the same place stand for the same variable.
-/

namespace ReactorGen

open Text

/-! ## Bindings -/

namespace Binding

/-- How a binding hands over its variable: the declarations of the local variables that are
made from the member, and the argument that converts them. -/
inductive Converts (binding : Binding) : List String -> String -> Prop
  | action (kind : binding.kind = .action) :
    Converts binding
      [binding.type ++ "* " ++ binding.localName ++ " = &" ++ binding.access ++ ";"]
      ("convert_C_action_to_py(" ++ binding.localName ++ ")")
  | output (kind : binding.kind = .output) (single : binding.width = none) :
    Converts binding
      [binding.type ++ "* " ++ binding.localName ++ " = &" ++ binding.access ++ ";"]
      ("convert_C_port_to_py(" ++ binding.localName ++ ", -2)")
  | pointer (kind : binding.kind = .input ∨ binding.kind = .containedPort)
    (single : binding.width = none) :
    Converts binding
      [binding.type ++ "* " ++ binding.localName ++ " = " ++ binding.access ++ ";"]
      ("convert_C_port_to_py(" ++ binding.localName ++ ", -2)")
  | multiport (kind : binding.kind = .input ∨ binding.kind = .output)
    {width : String} (wide : binding.width = some width) :
    Converts binding
      [binding.type ++ "** " ++ binding.localName ++ " = " ++ binding.access ++ ";",
        "int " ++ binding.widthName ++ " = " ++ width ++ ";"]
      ("convert_C_port_to_py(" ++ binding.localName ++ ", " ++ binding.widthName ++ ")")

end Binding

namespace Local

theorem declaration_of (type name value : String) :
    Local.declaration ⟨.pointer (.named type), name, .of value⟩ =
      type ++ "* " ++ name ++ " = " ++ value ++ ";" := by
  simp only [declaration, NativeType.text, NativeValue.text, String.append_assoc]
  rfl

theorem declaration_addressOf (type name value : String) :
    Local.declaration ⟨.pointer (.named type), name, .addressOf value⟩ =
      type ++ "* " ++ name ++ " = &" ++ value ++ ";" := by
  have address : " = &" = " = " ++ "&" := by decide
  have pointer : "* " = "*" ++ " " := by decide
  simp only [declaration, NativeType.text, NativeValue.text, address, pointer, String.append_assoc]

theorem declaration_array (type name value : String) :
    Local.declaration ⟨.pointer (.pointer (.named type)), name, .of value⟩ =
      type ++ "** " ++ name ++ " = " ++ value ++ ";" := by
  have pointers : "** " = "*" ++ ("*" ++ " ") := by decide
  simp only [declaration, NativeType.text, NativeValue.text, pointers, String.append_assoc]

theorem declaration_width (name value : String) :
    Local.declaration ⟨.named "int", name, .of value⟩ =
      "int " ++ name ++ " = " ++ value ++ ";" := by
  have int : "int " = "int" ++ " " := by decide
  simp only [declaration, NativeType.text, NativeValue.text, int, String.append_assoc]

end Local

namespace Argument

theorem text_action (localName : String) :
    (action localName).text = "convert_C_action_to_py(" ++ localName ++ ")" := rfl

theorem text_port (localName : String) (width : Option String) :
    (port localName width).text =
      "convert_C_port_to_py(" ++ localName ++ ", " ++ width.getD singleWidth ++ ")" := rfl

theorem text_port_none (localName : String) :
    (port localName none).text = "convert_C_port_to_py(" ++ localName ++ ", -2)" := by
  have single : ", -2)" = ", " ++ ((none : Option String).getD singleWidth ++ ")") := by decide
  rw [text_port, single]
  simp only [String.append_assoc]

end Argument

namespace Binding

theorem argument_of_port {binding : Binding} (isPort : binding.kind ≠ .action) :
    binding.argument =
      .port binding.localName (binding.width.map fun _ => binding.widthName) := by
  unfold argument
  cases kind : binding.kind with
  | action => exact absurd kind isPort
  | input | output | containedPort => rfl

/-- A binding hands over what it declares, as long as only own ports are multiports. -/
theorem converts
    {binding : Binding}
    (own : ∀ {width : String}, binding.width = some width ->
      binding.kind = .input ∨ binding.kind = .output) :
    binding.Converts (binding.locals.map Local.declaration) binding.argument.text := by
  cases width : binding.width with
  | none =>
    cases kind : binding.kind with
    | action =>
      have locals_eq : binding.locals =
          [⟨.pointer (.named binding.type), binding.localName, .addressOf binding.access⟩] := by
        simp only [locals, kind, width, declare]
      have argument_eq : binding.argument = .action binding.localName := by
        simp only [argument, kind]
      rw [locals_eq, argument_eq, List.map_singleton, Local.declaration_addressOf,
        Argument.text_action]
      exact .action kind
    | output =>
      have locals_eq : binding.locals =
          [⟨.pointer (.named binding.type), binding.localName, .addressOf binding.access⟩] := by
        simp only [locals, kind, width, declare]
      have isPort : binding.kind ≠ .action := by rw [kind]; decide
      rw [locals_eq, argument_of_port isPort, width, Option.map_none, List.map_singleton,
        Local.declaration_addressOf, Argument.text_port_none]
      exact .output kind width
    | input | containedPort =>
      have locals_eq : binding.locals =
          [⟨.pointer (.named binding.type), binding.localName, .of binding.access⟩] := by
        simp only [locals, kind, width, declare]
      have isPort : binding.kind ≠ .action := by rw [kind]; decide
      rw [locals_eq, argument_of_port isPort, width, Option.map_none, List.map_singleton,
        Local.declaration_of, Argument.text_port_none]
      exact .pointer (by simp only [kind, true_or, or_true]) width
  | some expression =>
    have isOwn := own width
    have locals_eq : binding.locals = [
        ⟨.pointer (.pointer (.named binding.type)), binding.localName, .of binding.access⟩,
        ⟨.named "int", binding.widthName, .of expression⟩] := by
      rcases isOwn with kind | kind <;> simp only [locals, kind, width, declare]
    have isPort : binding.kind ≠ .action := by
      rcases isOwn with kind | kind <;> rw [kind] <;> decide
    rw [locals_eq, argument_of_port isPort, width, Option.map_some, List.map_cons,
      List.map_singleton, Local.declaration_array, Local.declaration_width, Argument.text_port,
      Option.getD_some]
    exact .multiport isOwn width

end Binding

/-- Only its own multiports have widths in the self struct of a class. -/
theorem SelfStruct.LaidOut.own_of_width
    {layout : SelfStruct}
    {parts : LayoutParts}
    (laidOut : layout.LaidOut parts)
    {binding : Binding}
    (member : binding ∈ layout.bindings)
    {width : String}
    (wide : binding.width = some width) :
    binding.kind = .input ∨ binding.kind = .output := by
  simp only [laidOut.bindings, List.mem_append, List.mem_map, List.mem_flatMap] at member
  rcases member with ((⟨port, _, rfl⟩ | ⟨port, _, rfl⟩) | ⟨action, _, rfl⟩) |
    ⟨container, _, inContainer⟩
  · exact .inl rfl
  · exact .inr rfl
  · cases wide
  · simp only [UsedContainer.bindings, List.mem_filterMap, Option.map_eq_some_iff]
      at inContainer
    obtain ⟨name, _, port, _, rfl⟩ := inContainer
    cases wide

/-! ## Methods -/

theorem reactionMethod_inj {left right : Nat} :
    Naming.reactionMethod left = Naming.reactionMethod right ↔ left = right := by
  unfold Naming.reactionMethod
  rw [String.append_right_inj, toString_inj]

theorem deadlineMethod_inj {left right : Nat} :
    Naming.deadlineMethod left = Naming.deadlineMethod right ↔ left = right := by
  unfold Naming.deadlineMethod
  rw [String.append_right_inj, toString_inj]

/-- No reaction is called like the handler of a deadline. -/
theorem reactionMethod_ne_deadlineMethod (reaction deadline : Nat) :
    Naming.reactionMethod reaction ≠ Naming.deadlineMethod deadline :=
  append_ne_append_of_take 1 (by decide) (by decide) (by decide) _ _

namespace Reaction

/-- The method that runs a reaction. -/
def bodyMethod (index : Nat) (reaction : Reaction) : ReactionMethod :=
  ⟨Naming.reactionMethod index, reaction.variables.map VarRef.parameter,
    gatherAfter [] reaction.variables, reaction.body⟩

/-- The method that handles a missed deadline. -/
def handlerMethod (index : Nat) (reaction : Reaction) (deadline : Deadline) :
    ReactionMethod :=
  ⟨Naming.deadlineMethod index, reaction.variables.map VarRef.parameter,
    gatherAfter [] reaction.variables, deadline.body⟩

@[simp] theorem parameters_bodyMethod (index : Nat) (reaction : Reaction) :
    (reaction.bodyMethod index).parameters = reaction.variables.map VarRef.parameter :=
  rfl

@[simp] theorem parameters_handlerMethod
    (index : Nat)
    (reaction : Reaction)
    (deadline : Deadline) :
    (reaction.handlerMethod index deadline).parameters =
      reaction.variables.map VarRef.parameter := rfl

theorem mem_methods {index : Nat} {reaction : Reaction} {method : ReactionMethod} :
    method ∈ reaction.methods index ↔
      method = reaction.bodyMethod index ∨
        ∃ deadline, reaction.deadline = some deadline ∧
          method = reaction.handlerMethod index deadline := by
  cases late : reaction.deadline with
  | none => simp [methods, late, bodyMethod]
  | some deadline => simp [methods, late, bodyMethod, handlerMethod]

end Reaction

namespace PythonClass

/-- A method that is the only one of its name and starts inside the text of its class. -/
structure HasMethod (pythonClass : PythonClass) (method : ReactionMethod) : Prop where
  member : method ∈ pythonClass.methods
  only : ∀ other ∈ pythonClass.methods, other.name = method.name -> other = method
  written : InOrder
    [Draft.onLines 0 ("class _" ++ pythonClass.reactorName ++ ":"),
      Draft.onLines 1 ("def " ++ method.name ++ "(self" ++
        String.join (method.parameters.map (", " ++ ·)) ++ "):")]
    pythonClass.text

theorem mem_methods {reactorClass : ReactorClass} {method : ReactionMethod} :
    method ∈ (ofReactorClass reactorClass false).methods ↔
      ∃ (index : Nat) (reaction : Reaction),
        reactorClass.reactions[index]? = some reaction ∧
        method ∈ reaction.methods index := by
  simp only [ofReactorClass, Bool.false_eq_true, if_false, List.mem_flatMap]
  constructor
  · rintro ⟨⟨reaction, index⟩, member, inMethods⟩
    exact ⟨index, reaction, List.mem_zipIdx_iff_getElem?.mp member, inMethods⟩
  · rintro ⟨index, reaction, at_, inMethods⟩
    exact ⟨(reaction, index), List.mem_zipIdx_iff_getElem?.mpr at_, inMethods⟩

/-- A method that no other method of its class overrides is found in its text. -/
theorem hasMethod_of_only
    {pythonClass : PythonClass}
    {method : ReactionMethod}
    (member : method ∈ pythonClass.methods)
    (only : ∀ other ∈ pythonClass.methods, other.name = method.name -> other = method) :
    pythonClass.HasMethod method where
  member := member
  only := only
  written := by
    have written := inOrder_of_mem_methods member
    rwa [opening_eq, ReactionMethod.signature_eq] at written

/-- A reaction has one method, which no other reaction overrides. -/
theorem hasMethod_bodyMethod
    {reactorClass : ReactorClass}
    {index : Nat}
    {reaction : Reaction}
    (at_ : reactorClass.reactions[index]? = some reaction) :
    (ofReactorClass reactorClass false).HasMethod (reaction.bodyMethod index) := by
  apply hasMethod_of_only
  · exact mem_methods.mpr ⟨index, reaction, at_, Reaction.mem_methods.mpr (.inl rfl)⟩
  · intro other member name_eq
    obtain ⟨otherIndex, otherReaction, otherAt, inMethods⟩ := mem_methods.mp member
    rcases Reaction.mem_methods.mp inMethods with rfl | ⟨deadline, _, rfl⟩
    · have index_eq := reactionMethod_inj.mp name_eq
      rw [index_eq, at_] at otherAt
      rw [index_eq, Option.some.inj otherAt]
    · exact absurd name_eq.symm (reactionMethod_ne_deadlineMethod index otherIndex)

/-- A deadline has one method, which no other reaction overrides. -/
theorem hasMethod_handlerMethod
    {reactorClass : ReactorClass}
    {index : Nat}
    {reaction : Reaction}
    (at_ : reactorClass.reactions[index]? = some reaction)
    {deadline : Deadline}
    (late : reaction.deadline = some deadline) :
    (ofReactorClass reactorClass false).HasMethod
      (reaction.handlerMethod index deadline) := by
  apply hasMethod_of_only
  · exact mem_methods.mpr
      ⟨index, reaction, at_, Reaction.mem_methods.mpr (.inr ⟨deadline, late, rfl⟩)⟩
  · intro other member name_eq
    obtain ⟨otherIndex, otherReaction, otherAt, inMethods⟩ := mem_methods.mp member
    rcases Reaction.mem_methods.mp inMethods with rfl | ⟨otherDeadline, otherLate, rfl⟩
    · exact absurd name_eq (reactionMethod_ne_deadlineMethod otherIndex index)
    · have index_eq := deadlineMethod_inj.mp name_eq
      rw [index_eq, at_] at otherAt
      obtain rfl := Option.some.inj otherAt
      rw [late] at otherLate
      rw [index_eq, Option.some.inj otherLate]

end PythonClass

/-! ## Calls -/

namespace SelfStruct

variable
  {layout : SelfStruct}
  {reactorClass : ReactorClass}
  {index : Nat}
  {reaction : Reaction}
  {bindings : List Binding}

theorem length_of_resolve
    (resolved : layout.resolve reactorClass index reaction = .ok bindings) :
    bindings.length = reaction.variables.length := by
  rw [resolve, Result.mapM_eq_ok] at resolved
  exact resolved.length_eq.symm

theorem variableName_of_binding?
    {ref : VarRef}
    {binding : Binding}
    (bound : layout.binding? ref = some binding) :
    binding.variableName = ref.dotted := by
  rw [binding?] at bound
  have spelled := List.find?_some bound
  exact beq_iff_eq.mp spelled

/-- The bindings of variables stand in the places of the variables. -/
theorem forall₂_of_resolve
    (resolved : layout.resolve reactorClass index reaction = .ok bindings) :
    List.Forall₂ (fun ref binding => layout.binding? ref = some binding)
      reaction.variables bindings := by
  rw [resolve, Result.mapM_eq_ok] at resolved
  refine resolved.imp fun ref binding found => ?_
  cases bound : layout.binding? ref with
  | none => simp [bound] at found
  | some other =>
    rw [bound] at found
    exact congrArg some (Except.ok.inj found)

/-- The binding of a variable stands where the variable stands. -/
theorem exists_binding_of_resolve
    (resolved : layout.resolve reactorClass index reaction = .ok bindings)
    {position : Nat}
    {ref : VarRef}
    (ref_eq : reaction.variables[position]? = some ref) :
    ∃ binding, bindings[position]? = some binding ∧
      layout.binding? ref = some binding := by
  have bound := forall₂_of_resolve resolved
  obtain ⟨inRange, rfl⟩ := List.getElem?_eq_some_iff.mp ref_eq
  have inBindings : position < bindings.length := by rwa [← bound.length_eq]
  exact ⟨_, List.getElem?_eq_getElem inBindings, bound.get inRange inBindings⟩

end SelfStruct

/-- A variable as it is handed over: the declarations of the local variables that are made
from it, and the argument that converts them. -/
structure HandedVariable where
  declarations : List String
  argument : String

/-- How the generated code hands over the variable of a binding. -/
def Binding.handed (binding : Binding) : HandedVariable where
  declarations := binding.locals.map Local.declaration
  argument := binding.argument.text

/-- A variable of a reaction is handed over as its binding says. -/
def SelfStruct.Hands (layout : SelfStruct) (ref : VarRef) (handed : HandedVariable) : Prop :=
  ∃ binding, layout.binding? ref = some binding ∧ binding.variableName = ref.dotted ∧
    binding.Converts handed.declarations handed.argument

/-- The text of a function that hands the variables of a reaction to a method, each in the
place of the parameter that stands for it. -/
structure ReactionMethod.TakesOver
    (method : ReactionMethod)
    (layout : SelfStruct)
    (refs : List VarRef)
    (function text : String)
    (handed : List HandedVariable) : Prop where
  /-- The function declares the local variables and calls the method. -/
  written : InOrder
    (Draft.onLines 0 (functionOpening function) ::
      (handed.flatMap HandedVariable.declarations).map (Draft.onLines 1) ++
      [callText ("_lf_py_" ++ method.name) (handed.map HandedVariable.argument)])
    text
  arguments : handed.length = method.parameters.length
  /-- Each argument converts what is made from the variable in its place. -/
  hands : List.Forall₂ layout.Hands refs handed
  parameters : method.parameters = refs.map fun ref => pythonName ref.flat

/-- The text of a reaction hands its variables to the methods that a class has for it: the
function of the reaction to one, and the function of the deadline, which is there exactly if
the reaction has a deadline, to the other. -/
structure ReactionCode.HandsOver
    (code : ReactionCode)
    (layout : SelfStruct)
    (index : Nat)
    (reaction : Reaction)
    (pythonClass : PythonClass)
    (shim : String)
    (lateShim : Option String) : Prop where
  text : code.text = shim ++ lateShim.getD ""
  body : ∃ method handed, pythonClass.HasMethod method ∧
    method.name = Naming.reactionMethod index ∧
    method.TakesOver layout reaction.variables
      (Naming.reactionFunction layout.className index) shim handed
  hasHandler : lateShim.isSome = reaction.deadline.isSome
  handler : ∀ {text : String}, lateShim = some text ->
    ∃ method handed, pythonClass.HasMethod method ∧
      method.name = Naming.deadlineMethod index ∧
      method.TakesOver layout reaction.variables
        (Naming.deadlineFunction layout.className index) text handed

/-- The function of a reaction hands over what the reaction lists. -/
theorem callingFunction_takesOver
    {layout : SelfStruct}
    {parts : LayoutParts}
    (laidOut : layout.LaidOut parts)
    {reactorClass : ReactorClass}
    {index : Nat}
    {reaction : Reaction}
    {bindings : List Binding}
    (resolved : layout.resolve reactorClass index reaction = .ok bindings)
    (name label : String)
    {method : ReactionMethod}
    (parameters : method.parameters = reaction.variables.map VarRef.parameter) :
    method.TakesOver layout reaction.variables name
      (Draft.text
        (callingFunction layout bindings name ("_lf_py_" ++ method.name) label).draft)
      (bindings.map Binding.handed) := by
  constructor
  case written =>
    have body_eq : (callingFunction layout bindings name ("_lf_py_" ++ method.name) label).body =
        .call ⟨"_lf_py_" ++ method.name, label, bindings.map Binding.argument⟩ := rfl
    have written := ReactionFunction.inOrder_draft body_eq
    simpa only [callingFunction, Binding.handed, List.flatMap_map, List.map_flatMap,
      List.map_map, Function.comp_def] using written
  case arguments =>
    rw [List.length_map, SelfStruct.length_of_resolve resolved, parameters, List.length_map]
  case hands =>
    rw [List.forall₂_map_right_iff]
    exact (SelfStruct.forall₂_of_resolve resolved).imp fun ref binding bound =>
      ⟨binding, bound, SelfStruct.variableName_of_binding? bound,
        Binding.converts (laidOut.own_of_width (List.mem_of_find?_eq_some bound))⟩
  case parameters => exact parameters

/-- A reaction lists what it names, and what generates its functions and its methods
agrees on the variables that one hands to the other. -/
theorem Program.interpreterShim_handsOver
    (program : Program)
    (federate : Federate)
    (id : ClassId)
    (index : Nat) :
    (∀ reaction : Reaction, reaction.Lists reaction.variables) ∧
      ∀ {reactorClass : ReactorClass} {layout : SelfStruct} {code : ReactionCode},
        program.classAt id = .ok reactorClass ->
        program.classIsNative reactorClass = false ->
        program.selfStruct federate id = .ok layout ->
        interpreterShim reactorClass layout index = .ok code ->
        ∃ reaction pythonClass shim lateShim,
          reactorClass.reactions[index]? = some reaction ∧
          program.pythonClass id = .ok pythonClass ∧
          code.HandsOver layout index reaction pythonClass shim lateShim := by
  refine ⟨Reaction.lists_variables, ?_⟩
  intro reactorClass layout code class_eq interpreted layout_eq code_eq
  rw [interpreterShim, Result.bind_eq_ok] at code_eq
  obtain ⟨reaction, reaction_eq, code_eq⟩ := code_eq
  rw [Result.liftM_eq_ok, ReactorClass.reaction, Result.orDangling_eq_ok] at reaction_eq
  obtain ⟨parts, hasParts, laidOut⟩ := exists_parts layout_eq
  have className_eq : layout.className = reactorClass.name := by
    rw [laidOut.className, Except.ok.inj (class_eq.symm.trans hasParts.reactorClass)]
  cases resolved : layout.resolve reactorClass index reaction with
  | error fault => simp [resolved] at code_eq
  | ok bindings =>
    rw [resolved, Result.pure_eq_ok] at code_eq
    refine ⟨reaction, .ofReactorClass reactorClass false, Draft.text code.reaction.draft,
      code.deadline.map fun function => Draft.text function.draft, reaction_eq, ?_, ?_⟩
    · rw [pythonClass, class_eq, ← interpreted]
      rfl
    · subst code_eq
      constructor
      case text => exact ReactionCode.text_eq_append _
      case body =>
        refine ⟨_, bindings.map Binding.handed,
          PythonClass.hasMethod_bodyMethod reaction_eq, rfl, ?_⟩
        rw [className_eq]
        exact callingFunction_takesOver laidOut resolved _ _
          (reaction.parameters_bodyMethod index)
      case hasHandler => simp only [Option.isSome_map]
      case handler =>
        intro text text_eq
        obtain ⟨function, function_eq, rfl⟩ := Option.map_eq_some_iff.mp text_eq
        obtain ⟨deadline, late, rfl⟩ := Option.map_eq_some_iff.mp function_eq
        refine ⟨_, bindings.map Binding.handed,
          PythonClass.hasMethod_handlerMethod reaction_eq late, rfl, ?_⟩
        rw [className_eq]
        exact callingFunction_takesOver laidOut resolved _ _
          (reaction.parameters_handlerMethod index deadline)

/-! ## A reaction with a deadline -/

namespace LateReaction

/-- A reaction that an action triggers and that writes to a contained reactor. -/
def reaction : Reaction where
  triggers := [.startup, .var (.own "tick")]
  sources := [.own "tick"]
  effects := [⟨some "sink", "in"⟩]
  body := "sink.in.set(1)"
  deadline := some ⟨⟨10, .millisecond⟩, "pass"⟩
  span := none

def mainClass : ReactorClass :=
  { ReactorClass.ofName "Main" with
    actions := [⟨"tick", .logical, none⟩]
    reactions := [reaction]
    isMain := true }

def sinkClass : ReactorClass :=
  { ReactorClass.ofName "Sink" with inputs := [⟨"in", none, none⟩] }

def program : Program where
  name := "Late"
  target := "Python"
  properties := []
  preambles := []
  classes := [mainClass, sinkClass]
  tree := ⟨[{ ReactorInstance.ofName "Main" ⟨0⟩ none with children := [⟨1⟩] },
    .ofName "sink" ⟨1⟩ (some ⟨0⟩)], []⟩
  federates := [.singleton]
  connections := []

def layout : SelfStruct :=
  match program.selfStruct .singleton ⟨0⟩ with
  | .ok layout => layout
  | .error _ => ⟨"", [], [], []⟩

/-- The reaction and its deadline hand over the action and the port. -/
theorem interpreterShim_handsOver_late :
    ∃ code pythonClass shim lateShim,
      interpreterShim mainClass layout 0 = .ok code ∧
        program.pythonClass ⟨0⟩ = .ok pythonClass ∧
        code.HandsOver layout 0 reaction pythonClass shim (some lateShim) ∧
        reaction.variables = [.own "tick", ⟨some "sink", "in"⟩] := by
  have class_eq : program.classAt ⟨0⟩ = .ok mainClass := rfl
  have interpreted : program.classIsNative mainClass = false := by decide
  have layout_eq : program.selfStruct .singleton ⟨0⟩ = .ok layout := rfl
  obtain ⟨code, code_eq⟩ : ∃ code, interpreterShim mainClass layout 0 = .ok code :=
    ⟨_, rfl⟩
  obtain ⟨_, agrees⟩ := program.interpreterShim_handsOver .singleton ⟨0⟩ 0
  obtain ⟨listed, pythonClass, shim, lateShim, listed_at, pythonClass_eq, handsOver⟩ :=
    agrees class_eq interpreted layout_eq code_eq
  obtain rfl : listed = reaction := (Option.some.inj listed_at).symm
  obtain ⟨late, rfl⟩ := Option.isSome_iff_exists.mp handsOver.hasHandler
  exact ⟨code, pythonClass, shim, late, code_eq, pythonClass_eq, handsOver, rfl⟩

end LateReaction
end ReactorGen
