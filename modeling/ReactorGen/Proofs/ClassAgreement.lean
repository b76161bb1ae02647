import Mathlib.Data.List.Nodup
import Mathlib.Data.List.Pairwise
import ReactorGen.Proofs.ConnectionService
import ReactorGen.Proofs.FunctionTexts
import ReactorGen.Proofs.NamesApart
import ReactorGen.Proofs.SelfStructParts
import ReactorGen.Proofs.StructTexts

/-!
# Classes that agree with themselves

The struct of a class, its constructor and the functions of its reactions are written
one by one, each from what the federate generates of the class.  They agree: the
constructor sets exactly the functions that are defined, each of them is defined once,
and whatever is reached through the struct is a member of it.  This holds of the texts
that are written, and these stand in the native code in the order in which they need each
other.
-/

namespace ReactorGen

open Text

/-! ## Names of functions -/

theorem reactionFunction_inj {className : String} {left right : Nat} :
    Naming.reactionFunction className left = Naming.reactionFunction className right ↔
      left = right := by
  rw [Naming.reactionFunction, Naming.reactionFunction, String.append_right_inj,
    toString_inj]

theorem deadlineFunction_inj {className : String} {left right : Nat} :
    Naming.deadlineFunction className left = Naming.deadlineFunction className right ↔
      left = right := by
  rw [Naming.deadlineFunction, Naming.deadlineFunction, String.append_right_inj,
    toString_inj]

/-- No reaction of a class has the function of a deadline. -/
theorem reactionFunction_ne_deadlineFunction
    (className : String)
    (reaction deadline : Nat) :
    Naming.reactionFunction className reaction ≠
      Naming.deadlineFunction className deadline := by
  rw [Naming.reactionFunction, Naming.deadlineFunction]
  simp only [String.append_assoc, ne_eq, String.append_right_inj]
  exact append_ne_append_of_take 1 (by decide) (by decide) (by decide) _ _

theorem Member.reaction_name_inj {left right : Nat} :
    (Member.reaction left).name = (Member.reaction right).name ↔ left = right := by
  rw [Member.name, Member.name, String.append_right_inj, toString_inj]

namespace ReactorClass

/-- Whether the reaction at a position has a deadline. -/
def HasDeadline (reactorClass : ReactorClass) (index : Nat) : Prop :=
  ∃ reaction, reactorClass.reactions[index]? = some reaction ∧
    reaction.deadline.isSome = true

/-- The names of the functions of a reaction. -/
def functionNames
    (reactorClass : ReactorClass)
    (index : Nat)
    (reaction : Reaction) : List String :=
  Naming.reactionFunction reactorClass.name index ::
    if reaction.deadline.isSome then [Naming.deadlineFunction reactorClass.name index]
    else []

theorem mem_functionNames
    {reactorClass : ReactorClass}
    {index : Nat}
    {reaction : Reaction}
    {name : String} :
    name ∈ reactorClass.functionNames index reaction ↔
      name = Naming.reactionFunction reactorClass.name index ∨
        reaction.deadline.isSome = true ∧
          name = Naming.deadlineFunction reactorClass.name index := by
  cases late : reaction.deadline with
  | none => simp [functionNames, late]
  | some deadline => simp [functionNames, late]

theorem nodup_functionNames
    (reactorClass : ReactorClass)
    (index : Nat)
    (reaction : Reaction) :
    (reactorClass.functionNames index reaction).Nodup := by
  have different := reactionFunction_ne_deadlineFunction reactorClass.name index index
  cases late : reaction.deadline with
  | none => simp [functionNames, late]
  | some deadline => simp [functionNames, late, different]

theorem disjoint_functionNames
    {reactorClass : ReactorClass}
    {left right : Nat}
    (different : left ≠ right)
    (leftReaction rightReaction : Reaction) :
    (reactorClass.functionNames left leftReaction).Disjoint
      (reactorClass.functionNames right rightReaction) := by
  intro name inLeft inRight
  rcases mem_functionNames.mp inLeft with rfl | ⟨_, rfl⟩
  · rcases mem_functionNames.mp inRight with equal | ⟨_, equal⟩
    · exact different (reactionFunction_inj.mp equal)
    · exact reactionFunction_ne_deadlineFunction _ _ _ equal
  · rcases mem_functionNames.mp inRight with equal | ⟨_, equal⟩
    · exact reactionFunction_ne_deadlineFunction _ _ _ equal.symm
    · exact different (deadlineFunction_inj.mp equal)

end ReactorClass

/-! ## The constructor -/

namespace ReactorClass

variable
  {reactorClass : ReactorClass}
  {index : Nat}
  {reaction : Reaction}

theorem mem_reactionSteps
    {step : ConstructorStep} :
    step ∈ reactorClass.reactionSteps index reaction ↔
      step = .number index ∨
        step = .function index (Naming.reactionFunction reactorClass.name index) ∨
        step = .owner index ∨
        reaction.deadline.isSome = true ∧
          step = .deadlineHandler index
            (Naming.deadlineFunction reactorClass.name index) := by
  cases late : reaction.deadline with
  | none => simp [reactionSteps, late]
  | some deadline => simp [reactionSteps, late]

/-- The constructor's part for a reaction assigns fields of the reaction. -/
theorem member_of_mem_reactionSteps
    {step : ConstructorStep}
    (member : step ∈ reactorClass.reactionSteps index reaction) :
    step.assignment.member = (Member.reaction index).name := by
  rcases mem_reactionSteps.mp member with rfl | rfl | rfl | ⟨_, rfl⟩ <;> rfl

theorem exists_function_iff {value : NativeValue} :
    (∃ step ∈ reactorClass.reactionSteps index reaction,
        step.assignment = ⟨(Member.reaction index).name, "function", value⟩) ↔
      .of (Naming.reactionFunction reactorClass.name index) = value := by
  simp [mem_reactionSteps, or_and_right, exists_or, ConstructorStep.assignment]

theorem exists_handler_iff {value : NativeValue} :
    (∃ step ∈ reactorClass.reactionSteps index reaction,
        step.assignment =
          ⟨(Member.reaction index).name, "deadline_violation_handler", value⟩) ↔
      reaction.deadline.isSome = true ∧
        .of (Naming.deadlineFunction reactorClass.name index) = value := by
  simp [mem_reactionSteps, or_and_right, exists_or, and_assoc, ConstructorStep.assignment]

end ReactorClass

namespace SelfStruct

/-- Whether a struct declares a member of the given name. -/
def Declares (layout : SelfStruct) (name : String) : Prop :=
  ∃ member ∈ layout.members, ∃ type, member.spelled = type ++ " " ++ name ++ ";"

/-- Whether a constructor assigns a value to a field of a member. -/
def Assigns (layout : SelfStruct) (member field : String) (value : NativeValue) : Prop :=
  ∃ step ∈ layout.constructor, step.assignment = ⟨member, field, value⟩

theorem declares_of_mem
    {layout : SelfStruct}
    {member : Member}
    (inStruct : member ∈ layout.members)
    (notInstanceName : member ≠ .instanceName)
    (notModes : ∀ count, member ≠ .modes count) :
    layout.Declares member.name :=
  ⟨member, inStruct, Member.exists_type notInstanceName notModes⟩

namespace LaidOut

variable
  {layout : SelfStruct}
  {parts : LayoutParts}

/-- A constructor treats the reactions and the actions of the federate. -/
theorem mem_constructor
    (laidOut : layout.LaidOut parts)
    {step : ConstructorStep} :
    step ∈ layout.constructor ↔
      (∃ index reaction, (index, reaction) ∈ parts.reactions ∧
        step ∈ parts.reactorClass.reactionSteps index reaction) ∨
      ∃ action ∈ parts.actions, .actionTrigger action.name = step := by
  rw [laidOut.constructor, List.mem_append, List.mem_flatMap, actionSteps, List.mem_map,
    Prod.exists]

/-- A field of a reaction is assigned by the constructor's part for the reaction. -/
theorem assigns_reaction_iff
    (laidOut : layout.LaidOut parts)
    {index : Nat}
    {field : String}
    {value : NativeValue}
    (notTrigger : field ≠ "trigger") :
    layout.Assigns (Member.reaction index).name field value ↔
      ∃ reaction, (index, reaction) ∈ parts.reactions ∧
        ∃ step ∈ parts.reactorClass.reactionSteps index reaction,
          step.assignment = ⟨(Member.reaction index).name, field, value⟩ := by
  constructor
  · rintro ⟨step, member, assigns⟩
    rcases laidOut.mem_constructor.mp member with
      ⟨other, reaction, inReactions, inSteps⟩ | ⟨action, _, rfl⟩
    · have sameName := ReactorClass.member_of_mem_reactionSteps inSteps
      rw [assigns] at sameName
      obtain rfl := Member.reaction_name_inj.mp sameName
      exact ⟨reaction, inReactions, step, inSteps, assigns⟩
    · exact absurd (congrArg Assignment.field assigns).symm notTrigger
  · rintro ⟨reaction, inReactions, step, inSteps, assigns⟩
    exact ⟨step, laidOut.mem_constructor.mpr (.inl ⟨index, reaction, inReactions, inSteps⟩),
      assigns⟩

/-- Exactly the reactions of the federate get their functions. -/
theorem assigns_function_iff
    (laidOut : layout.LaidOut parts)
    {index : Nat}
    {value : NativeValue} :
    layout.Assigns (Member.reaction index).name "function" value ↔
      (∃ reaction, (index, reaction) ∈ parts.reactions) ∧
        value = .of (Naming.reactionFunction parts.reactorClass.name index) := by
  rw [laidOut.assigns_reaction_iff (by decide), ← exists_and_right]
  simp only [ReactorClass.exists_function_iff, eq_comm (a := value)]

/-- Exactly the reactions of the federate that have deadlines get their handlers. -/
theorem assigns_handler_iff
    (laidOut : layout.LaidOut parts)
    {index : Nat}
    {value : NativeValue} :
    layout.Assigns (Member.reaction index).name "deadline_violation_handler" value ↔
      (∃ reaction, (index, reaction) ∈ parts.reactions ∧
        reaction.deadline.isSome = true) ∧
        value = .of (Naming.deadlineFunction parts.reactorClass.name index) := by
  rw [laidOut.assigns_reaction_iff (by decide), ← exists_and_right]
  simp only [ReactorClass.exists_handler_iff, and_assoc, eq_comm (a := value)]

/-- Whatever a constructor assigns or points to is a member of the struct. -/
theorem declares_assignment
    (laidOut : layout.LaidOut parts)
    {step : ConstructorStep}
    (member : step ∈ layout.constructor) :
    layout.Declares step.assignment.member ∧
      ∀ expression, step.assignment.value = .addressOf expression ->
        ∃ name, expression = selfMember name ∧ layout.Declares name := by
  rcases laidOut.mem_constructor.mp member with
    ⟨index, reaction, inReactions, inSteps⟩ | ⟨action, inActions, rfl⟩
  · rw [ReactorClass.member_of_mem_reactionSteps inSteps]
    refine ⟨declares_of_mem (laidOut.reaction_mem _ inReactions) nofun nofun, ?_⟩
    intro expression address
    rcases ReactorClass.mem_reactionSteps.mp inSteps with rfl | rfl | rfl | ⟨_, rfl⟩ <;>
      exact NativeValue.noConfusion address
  · refine ⟨declares_of_mem (laidOut.action_mem _ inActions) nofun nofun, ?_⟩
    rintro _ ⟨⟩
    exact ⟨_, rfl, declares_of_mem (laidOut.trigger_mem _ inActions) nofun nofun⟩

end LaidOut
end SelfStruct

/-! ## Definitions of functions -/

namespace ReactionCode

/-- The functions that are generated for a reaction of a class. -/
structure Implements
    (code : ReactionCode)
    (reactorClass : ReactorClass)
    (index : Nat)
    (reaction : Reaction) : Prop where
  name : code.reaction.name = Naming.reactionFunction reactorClass.name index
  hasHandler : code.deadline.isSome = reaction.deadline.isSome
  handlerName : ∀ function ∈ code.deadline,
    function.name = Naming.deadlineFunction reactorClass.name index
  /-- Methods are called through the members that are there for the reaction. -/
  callable : ∀ call, code.reaction.body = .call call ->
    call.callable = Naming.reactionCallable index
  handlerCallable : ∀ function ∈ code.deadline, ∀ call, function.body = .call call ->
    call.callable = Naming.deadlineCallable index

variable
  {code : ReactionCode}
  {reactorClass : ReactorClass}
  {index : Nat}
  {reaction : Reaction}

theorem Implements.names (implements : code.Implements reactorClass index reaction) :
    code.functions.map (·.name) = reactorClass.functionNames index reaction := by
  rw [functions, List.map_cons, implements.name, ReactorClass.functionNames,
    ← implements.hasHandler]
  cases late : code.deadline with
  | none => rfl
  | some function =>
    have name := implements.handlerName function late
    simp [name]

theorem Implements.callables
    (implements : code.Implements reactorClass index reaction)
    {function : ReactionFunction}
    (member : function ∈ code.functions)
    {call : MethodCall}
    (body_eq : function.body = .call call) :
    .callable call.callable ∈ ReactorClass.callableMembers index reaction := by
  rw [functions, List.mem_cons, Option.mem_toList] at member
  rcases member with rfl | late
  · rw [implements.callable call body_eq]
    exact List.mem_cons_self ..
  · have hasDeadline : reaction.deadline.isSome = true := by
      rw [← implements.hasHandler, late]
      rfl
    rw [implements.handlerCallable function late call body_eq,
      ReactorClass.callableMembers, if_pos hasDeadline]
    exact List.mem_cons_of_mem _ (List.mem_cons_self ..)

end ReactionCode

namespace Program

variable
  {program : Program}
  {settings : Settings}
  {federate : Federate}
  {reactorClass : ReactorClass}
  {layout : SelfStruct}
  {index : Nat}
  {code : ReactionCode}

theorem implements_of_interpreterShim
    (code_eq : interpreterShim reactorClass layout index = .ok code) :
    ∃ reaction, reactorClass.reactions[index]? = some reaction ∧
      code.Implements reactorClass index reaction := by
  rw [interpreterShim, Result.bind_eq_ok] at code_eq
  obtain ⟨reaction, reaction_eq, code_eq⟩ := code_eq
  refine ⟨reaction, ReactorClass.reaction_eq_ok.mp reaction_eq, ?_⟩
  cases resolved : layout.resolve reactorClass index reaction with
  | error fault => simp [resolved] at code_eq
  | ok bindings =>
    rw [resolved, Result.pure_eq_ok] at code_eq
    subst code_eq
    constructor
    case name => rfl
    case hasHandler => exact Option.isSome_map
    case handlerName =>
      intro function late
      obtain ⟨deadline, _, rfl⟩ := Option.map_eq_some_iff.mp late
      rfl
    case callable =>
      rintro call ⟨⟩
      rfl
    case handlerCallable =>
      intro function late call body_eq
      obtain ⟨deadline, _, rfl⟩ := Option.map_eq_some_iff.mp late
      cases body_eq
      rfl

theorem implements_of_nativeReaction
    (code_eq :
      program.nativeReaction settings federate reactorClass layout index = .ok code) :
    ∃ reaction, reactorClass.reactions[index]? = some reaction ∧
      code.Implements reactorClass index reaction := by
  rw [nativeReaction, Result.bind_eq_ok] at code_eq
  obtain ⟨reaction, reaction_eq, code_eq⟩ := code_eq
  refine ⟨reaction, ReactorClass.reaction_eq_ok.mp reaction_eq, ?_⟩
  cases resolved : layout.resolve reactorClass index reaction with
  | error fault => simp [resolved] at code_eq
  | ok bindings =>
    rw [resolved] at code_eq
    dsimp only at code_eq
    obtain ⟨body, rfl⟩ : ∃ body, code = {
        reaction := ⟨Naming.reactionFunction reactorClass.name index, layout.typeName,
          bindings.flatMap Binding.locals, .native body⟩
        deadline := reaction.deadline.map fun deadline =>
          ⟨Naming.deadlineFunction reactorClass.name index, layout.typeName,
            bindings.flatMap Binding.locals, .native deadline.body⟩ } := by
      by_cases isDelay : reactorClass.isDelay = true
      · rw [if_pos isDelay] at code_eq
        exact ⟨_, (Except.ok.inj code_eq).symm⟩
      · rw [if_neg isDelay] at code_eq
        obtain ⟨body, _, made_eq⟩ := Result.bind_eq_ok.mp code_eq
        exact ⟨body, (Except.ok.inj made_eq).symm⟩
    constructor
    case name => rfl
    case hasHandler => exact Option.isSome_map
    case handlerName =>
      intro function late
      obtain ⟨deadline, _, rfl⟩ := Option.map_eq_some_iff.mp late
      rfl
    case callable => exact fun call body_eq => FunctionBody.noConfusion body_eq
    case handlerCallable =>
      intro function late call body_eq
      obtain ⟨deadline, _, rfl⟩ := Option.map_eq_some_iff.mp late
      exact FunctionBody.noConfusion body_eq

theorem implements_of_reactionCodeAt
    (code_eq :
      program.reactionCodeAt settings federate reactorClass layout index = .ok code) :
    ∃ reaction, reactorClass.reactions[index]? = some reaction ∧
      code.Implements reactorClass index reaction := by
  rw [reactionCodeAt] at code_eq
  split at code_eq
  case isTrue => exact implements_of_nativeReaction code_eq
  case isFalse => exact implements_of_interpreterShim code_eq

end Program

/-! ## Classes -/

namespace ClassCode

/-- The functions of a class in the order of their definition. -/
def functions (code : ClassCode) : List ReactionFunction :=
  code.reactions.flatMap ReactionCode.functions

/-- The names of the functions. -/
def functionNames (code : ClassCode) : List String :=
  code.functions.map (·.name)

/-- The struct, the constructor and the functions of a class agree on the reactions
at the given positions. -/
structure Agrees
    (code : ClassCode)
    (reactorClass : ReactorClass)
    (actions : List ActionDecl)
    (positions : List Nat) : Prop where
  assigned : ∀ index value,
    code.selfStruct.Assigns ("_lf__reaction_" ++ toString index) "function" value ↔
      index ∈ positions ∧
        value = .of (Naming.reactionFunction reactorClass.name index)
  defined : ∀ index,
    Naming.reactionFunction reactorClass.name index ∈ code.functionNames ↔
      index ∈ positions
  once : code.functionNames.Nodup
  handlerAssigned : ∀ index value,
    code.selfStruct.Assigns ("_lf__reaction_" ++ toString index)
        "deadline_violation_handler" value ↔
      (index ∈ positions ∧ reactorClass.HasDeadline index) ∧
        value = .of (Naming.deadlineFunction reactorClass.name index)
  handlerDefined : ∀ index,
    Naming.deadlineFunction reactorClass.name index ∈ code.functionNames ↔
      index ∈ positions ∧ reactorClass.HasDeadline index
  /-- The functions are those that the texts of the reactions define. -/
  definitions : ∃ lines : List (List String),
    code.reactions.map ReactionCode.text =
        lines.map (fun lines => String.join (lines.map (· ++ "\n"))) ∧
      DefinesFunctions code.functionNames lines.flatten
  /-- Every statement of the constructor is an assignment to a member, and what it
  points to is a member. -/
  members : ∀ step ∈ code.selfStruct.constructor,
    step.text = step.assignment.text ∧
      code.selfStruct.Declares step.assignment.member ∧
      ∀ expression, step.assignment.value = .addressOf expression ->
        ∃ name, expression = selfMember name ∧ code.selfStruct.Declares name
  /-- Methods are called through members: the function that calls one names the member. -/
  callables : ∀ reaction ∈ code.reactions,
    reaction.text = String.join (reaction.functions.map fun function =>
        Draft.text function.draft) ∧
      ∀ function ∈ reaction.functions, ∀ call, function.body = .call call ->
        code.selfStruct.Declares call.callable ∧
          InOrder [Draft.onLines 0 (functionOpening function.name),
              callText call.callable (call.arguments.map Argument.text)]
            (Draft.text function.draft)
  /-- The ports and the actions of the class have types of their own. -/
  typeDefinitions : code.typeDefinitions =
    (reactorClass.inputs ++ reactorClass.outputs).map (fun port =>
      "typedef " ++ port.genericType ++ " " ++
        Naming.aliasType reactorClass.name port.name ++ ";") ++
    actions.map fun action =>
      "typedef generic_action_instance_struct " ++
        Naming.aliasType reactorClass.name action.name ++ ";"

theorem exists_lines (code : ClassCode) :
    ∃ lines : List (List String),
      code.reactions.map ReactionCode.text =
          lines.map (fun lines => String.join (lines.map (· ++ "\n"))) ∧
        DefinesFunctions code.functionNames lines.flatten := by
  refine ⟨code.reactions.map ReactionCode.lines, ?_, ?_⟩
  · rw [List.map_map]
    exact List.map_congr_left fun reaction _ => reaction.text_eq
  · rw [functionNames, functions, List.map_flatMap, ← List.flatMap_def]
    exact definesFunctions_flatMap fun reaction _ => reaction.defines

end ClassCode

/-- The functions of the reactions at some positions are called like what the class
has for them. -/
theorem functionNames_of_implements
    {reactorClass : ReactorClass}
    {positions : List Nat}
    {codes : List ReactionCode}
    (implemented : List.Forall₂ (fun index code =>
      ∃ reaction, reactorClass.reactions[index]? = some reaction ∧
        ReactionCode.Implements code reactorClass index reaction) positions codes) :
    (codes.flatMap ReactionCode.functions).map (·.name) =
      (reactorClass.reactionsAt positions).flatMap fun entry =>
        reactorClass.functionNames entry.1 entry.2 := by
  induction implemented with
  | nil => rfl
  | cons first _ inductionHypothesis =>
    obtain ⟨reaction, reaction_eq, implements⟩ := first
    rw [ReactorClass.reactionsAt, List.filterMap_cons, reaction_eq, Option.map_some,
      List.flatMap_cons, List.map_append, List.flatMap_cons, implements.names,
      inductionHypothesis]
    rfl

namespace ReactorClass

variable
  {reactorClass : ReactorClass}
  {positions : List Nat}

/-- Functions of different reactions are called differently. -/
theorem nodup_flatMap_functionNames
    (distinct : positions.Nodup) :
    ((reactorClass.reactionsAt positions).flatMap fun entry =>
      reactorClass.functionNames entry.1 entry.2).Nodup := by
  rw [List.nodup_flatMap]
  refine ⟨fun entry _ => reactorClass.nodup_functionNames entry.1 entry.2, ?_⟩
  rw [reactionsAt, List.pairwise_filterMap]
  refine distinct.imp fun {left right} different => ?_
  intro first first_eq second second_eq
  obtain ⟨_, _, rfl⟩ := Option.map_eq_some_iff.mp first_eq
  obtain ⟨_, _, rfl⟩ := Option.map_eq_some_iff.mp second_eq
  exact disjoint_functionNames different _ _

theorem reactionFunction_mem_iff {index : Nat} :
    (Naming.reactionFunction reactorClass.name index ∈
      (reactorClass.reactionsAt positions).flatMap fun entry =>
        reactorClass.functionNames entry.1 entry.2) ↔
      ∃ reaction, (index, reaction) ∈ reactorClass.reactionsAt positions := by
  rw [List.mem_flatMap]
  constructor
  · rintro ⟨⟨other, reaction⟩, member, inNames⟩
    rcases mem_functionNames.mp inNames with equal | ⟨_, equal⟩
    · obtain rfl := reactionFunction_inj.mp equal
      exact ⟨reaction, member⟩
    · exact absurd equal (reactionFunction_ne_deadlineFunction _ _ _)
  · rintro ⟨reaction, member⟩
    exact ⟨(index, reaction), member, mem_functionNames.mpr (.inl rfl)⟩

theorem deadlineFunction_mem_iff {index : Nat} :
    (Naming.deadlineFunction reactorClass.name index ∈
      (reactorClass.reactionsAt positions).flatMap fun entry =>
        reactorClass.functionNames entry.1 entry.2) ↔
      ∃ reaction, (index, reaction) ∈ reactorClass.reactionsAt positions ∧
        reaction.deadline.isSome = true := by
  rw [List.mem_flatMap]
  constructor
  · rintro ⟨⟨other, reaction⟩, member, inNames⟩
    rcases mem_functionNames.mp inNames with equal | ⟨late, equal⟩
    · exact absurd equal.symm (reactionFunction_ne_deadlineFunction _ _ _)
    · obtain rfl := deadlineFunction_inj.mp equal
      exact ⟨reaction, member, late⟩
  · rintro ⟨reaction, member, late⟩
    exact ⟨(index, reaction), member, mem_functionNames.mpr (.inr ⟨late, rfl⟩)⟩

/-- A reaction of the class stands at every one of the positions. -/
theorem exists_mem_reactionsAt_iff
    (inClass : ∀ index ∈ positions, ∃ reaction,
      reactorClass.reactions[index]? = some reaction)
    {index : Nat} :
    (∃ reaction, (index, reaction) ∈ reactorClass.reactionsAt positions) ↔
      index ∈ positions := by
  simp only [mem_reactionsAt, exists_and_left, and_iff_left_iff_imp]
  exact inClass index

theorem exists_late_mem_reactionsAt_iff {index : Nat} :
    (∃ reaction, (index, reaction) ∈ reactorClass.reactionsAt positions ∧
      reaction.deadline.isSome = true) ↔
      index ∈ positions ∧ reactorClass.HasDeadline index := by
  simp only [mem_reactionsAt, HasDeadline, and_assoc, exists_and_left]

end ReactorClass

namespace Program

variable
  {program : Program}
  {settings : Settings}
  {federate : Federate}
  {id : ClassId}

theorem typeDefinitions_eq
    {parts : LayoutParts}
    (hasParts : program.HasParts federate id parts)
    {definitions : List String}
    (definitions_eq : program.typeDefinitions federate id = .ok definitions) :
    definitions =
      (parts.reactorClass.inputs ++ parts.reactorClass.outputs).map (fun port =>
        "typedef " ++ port.genericType ++ " " ++
          Naming.aliasType parts.reactorClass.name port.name ++ ";") ++
      parts.actions.map fun action =>
        "typedef generic_action_instance_struct " ++
          Naming.aliasType parts.reactorClass.name action.name ++ ";" := by
  rw [typeDefinitions, hasParts.reactorClass, Result.ok_bind, hasParts.actions,
    Result.ok_bind, Result.pure_eq_ok] at definitions_eq
  rw [← definitions_eq]
  rfl

/-- What is generated for a class agrees on the reactions of the federate. -/
theorem agrees_of_classCode
    {code : ClassCode}
    (code_eq : program.classCode settings federate id = .ok code) :
    ∃ reactorClass actions positions,
      program.classAt id = .ok reactorClass ∧
        program.classActions federate id = .ok actions ∧
        program.classReactions federate id = .ok positions ∧
        code.Agrees reactorClass actions positions := by
  simp only [classCode, Result.bind_eq_ok, Result.liftM_eq_ok, Result.pure_eq_ok] at code_eq
  obtain ⟨definitions, definitions_eq, layout, layout_eq, reactions, reactions_eq, rfl⟩ :=
    code_eq
  obtain ⟨parts, hasParts, laidOut⟩ := exists_parts layout_eq
  obtain ⟨distinct, inClass⟩ :=
    classReactions_spec hasParts.reactorClass hasParts.positions
  rw [reactionCode, hasParts.reactorClass, Result.liftM_ok, Result.ok_bind,
    hasParts.positions, Result.liftM_ok, Result.ok_bind, Result.mapM_eq_ok] at reactions_eq
  have implemented := reactions_eq.imp fun _ _ => implements_of_reactionCodeAt
  have names := functionNames_of_implements implemented
  refine ⟨parts.reactorClass, parts.actions, parts.positions, hasParts.reactorClass,
    hasParts.actions, hasParts.positions, ?_⟩
  constructor
  case assigned =>
    intro index value
    exact laidOut.assigns_function_iff.trans
      (and_congr_left fun _ => ReactorClass.exists_mem_reactionsAt_iff inClass)
  case defined =>
    intro index
    rw [ClassCode.functionNames, ClassCode.functions, names,
      ReactorClass.reactionFunction_mem_iff,
      ReactorClass.exists_mem_reactionsAt_iff inClass]
  case once =>
    rw [ClassCode.functionNames, ClassCode.functions, names]
    exact ReactorClass.nodup_flatMap_functionNames distinct
  case handlerAssigned =>
    intro index value
    exact laidOut.assigns_handler_iff.trans
      (and_congr_left fun _ => ReactorClass.exists_late_mem_reactionsAt_iff)
  case handlerDefined =>
    intro index
    rw [ClassCode.functionNames, ClassCode.functions, names,
      ReactorClass.deadlineFunction_mem_iff, ReactorClass.exists_late_mem_reactionsAt_iff]
  case members =>
    intro step member
    exact ⟨step.text_eq, laidOut.declares_assignment member⟩
  case definitions => exact ClassCode.exists_lines _
  case callables =>
    intro one inReactions
    refine ⟨one.text_eq_join, fun function inFunctions call body_eq => ⟨?_, ?_⟩⟩
    · obtain ⟨index, _, implements⟩ := Result.exists_item_of_mapM
        (Result.mapM_eq_ok.mpr reactions_eq) inReactions
      obtain ⟨reaction, reaction_eq, implements⟩ := implements_of_reactionCodeAt implements
      exact SelfStruct.declares_of_mem (laidOut.callable_mem index reaction reaction_eq _
        (implements.callables inFunctions body_eq)) nofun nofun
    · exact function.inOrder_call body_eq
  case typeDefinitions => exact typeDefinitions_eq hasParts definitions_eq

end Program

/-! ## Federates -/

namespace NativeSource

/-- The sections of the native code, the structs and their constructors in full. -/
theorem sections_eq (source : NativeSource) :
    source.sections =
      [joinLines source.preamble] ++
      sectionOfLines source.serializerPreamble ++
      sectionOfLines (source.classes.flatMap (·.typeDefinitions)) ++
      source.classes.map (·.selfStruct.structText) ++
      source.classes.flatMap (fun code => code.reactions.map ReactionCode.text) ++
      source.classes.map (·.selfStruct.constructorText) ++
      [
        source.initialization.tokens.declaration,
        initializationFunction source.initialization.steps
      ] := by
  simp only [sections, SelfStruct.declaration_eq, SelfStruct.constructorDefinition_eq]

theorem inOrder_sections (source : NativeSource) : InOrder source.sections source.text :=
  (inOrder_intercalate "\n\n" source.sections).append_right "\n"

/-- The types come first in the native code, then the structs, the functions of
reactions and the constructors, whatever stands before, between and after them. -/
def Ordered (source : NativeSource) : Prop :=
  InOrder
    (source.classes.flatMap (·.typeDefinitions) ++
      source.classes.map (·.selfStruct.structText) ++
      source.classes.flatMap (fun code => code.reactions.map ReactionCode.text) ++
      source.classes.map (·.selfStruct.constructorText))
    source.text

/-- What stands in order around the lines of a section stands so around the lines. -/
theorem inOrder_sectionOfLines
    {definitions others : List String}
    {text : String}
    (inOrder : InOrder (sectionOfLines definitions ++ others) text) :
    InOrder (definitions ++ others) text := by
  cases definitions with
  | nil => exact inOrder
  | cons first rest => exact inOrder.refine (inOrder_intercalate "\n" (first :: rest))

theorem ordered (source : NativeSource) : source.Ordered := by
  have inOrder := source.inOrder_sections
  rw [sections_eq] at inOrder
  rw [Ordered]
  simp only [List.append_assoc] at inOrder ⊢
  apply inOrder_sectionOfLines
  -- What stands in front of the types and behind the constructors is left out.
  apply inOrder.sublist
  refine .trans ?_ (.trans (List.sublist_append_right ..) (List.sublist_append_right ..))
  exact (((List.sublist_append_left ..).append_left _).append_left _).append_left _

end NativeSource

namespace Program

variable
  {program : Program}
  {environment : Environment}
  {federate : Federate}

/-- What a class adds to the native code of a federate agrees on the reactions that
the federate generates of the class. -/
def ClassAgrees
    (program : Program)
    (settings : Settings)
    (federate : Federate)
    (id : ClassId)
    (code : ClassCode) : Prop :=
  program.classCode settings federate id = .ok code ∧
    ∃ reactorClass actions positions,
      program.classAt id = .ok reactorClass ∧
        program.classActions federate id = .ok actions ∧
        program.classReactions federate id = .ok positions ∧
        code.Agrees reactorClass actions positions

theorem classAgrees_of_collectClass
    {settings : Settings}
    {id : ClassId}
    {code : ClassCode}
    (code_eq : (program.collectClass settings federate id).run.result = .ok code) :
    program.ClassAgrees settings federate id code := by
  simp only [collectClass, Report.result_run_bind, Generation.result_ofExcept,
    Generation.result_log, Result.bind_eq_ok] at code_eq
  obtain ⟨_, _, _, _, code_eq⟩ := code_eq
  exact ⟨code_eq, agrees_of_classCode code_eq⟩

/-- The native code of a federate has all classes of the federate, in their order. -/
theorem exists_source_of_interpreterFiles
    {topLevelName : String}
    {classes : List ClassId}
    {files : FederateFiles}
    (files_eq :
      (program.interpreterFiles environment federate topLevelName classes).run.result =
        .ok files) :
    ∃ source : NativeSource,
      .ofContents (topLevelName ++ ".c") source.text ∈ files.artifacts ∧
        List.Forall₂ (program.ClassAgrees environment.settings federate)
          classes source.classes := by
  simp only [interpreterFiles, Report.result_run_bind, Report.result_run_pure,
    Generation.result_ofExcept, Result.bind_eq_ok] at files_eq
  obtain ⟨_, _, codes, codes_eq, _, _, _, _, _, _, files_eq⟩ := files_eq
  rw [Report.result_run_mapM, Result.mapM_eq_ok] at codes_eq
  rw [← Except.ok.inj files_eq]
  refine ⟨_, List.mem_cons_self .., ?_⟩
  exact codes_eq.imp fun _ _ => classAgrees_of_collectClass

/-- In the native code of a federate, the structs, the constructors and the functions
of all classes agree, and each of them stands behind what it uses. -/
theorem generateFederate_classesAgree
    {baseName : String}
    {generated : FederateArtifacts}
    (interpreted : environment.settings.target = .python)
    (generated_eq :
      (program.generateFederate environment federate baseName).run.result =
        .ok generated) :
    ∃ (classes : List ClassId) (source : NativeSource),
      program.federateClasses federate = .ok classes ∧
        .ofContents (program.topLevelName baseName federate ++ ".c") source.text ∈
          generated.artifacts ∧
        source.Ordered ∧
        List.Forall₂
          (program.ClassAgrees (program.federateSettings environment.settings) federate)
          classes source.classes := by
  obtain ⟨files, files_eq, artifacts_eq, _⟩ :=
    exists_files_of_generateFederate generated_eq
  rw [federateFiles, Report.result_run_bind, Result.bind_eq_ok] at files_eq
  obtain ⟨classes, classes_eq, files_eq⟩ := files_eq
  rw [if_pos ((program.target_federateSettings _).trans interpreted)] at files_eq
  obtain ⟨source, member, agree⟩ := exists_source_of_interpreterFiles files_eq
  refine ⟨classes, source, classes_eq, ?_, source.ordered, agree⟩
  rw [artifacts_eq]
  exact List.mem_append_left _ member

end Program

/-! ## A federate with deadlines -/

namespace Convoy

/-- A reaction to an action, with a deadline. -/
def guarded (action : String) : Reaction where
  triggers := [.var (.own action)]
  sources := []
  effects := []
  body := "pass"
  deadline := some ⟨⟨10, .millisecond⟩, "pass"⟩
  span := none

/-- The main reactor, whose second reaction belongs to the leading federate. -/
def mainClass : ReactorClass :=
  { ReactorClass.ofName "Main" with
    actions := [⟨"halt", .logical, none⟩]
    reactions := [guarded "none", guarded "halt"]
    isMain := true
    isFederated := true }

def truckClass : ReactorClass :=
  { ReactorClass.ofName "Truck" with
    actions := [⟨"tick", .logical, none⟩]
    reactions := [guarded "tick", { guarded "tick" with deadline := none }] }

def leader : Federate :=
  { Federate.ofInstances ⟨0⟩ "leader" [⟨1⟩] with
    networkActions := ["halt"]
    networkReactions := [1] }

def program : Program where
  name := "Convoy"
  target := "Python"
  properties := []
  preambles := []
  classes := [mainClass, truckClass]
  tree := ⟨[{ ReactorInstance.ofName "Main" ⟨0⟩ none with children := [⟨1⟩, ⟨2⟩] },
    .ofName "leader" ⟨1⟩ (some ⟨0⟩), .ofName "follower" ⟨1⟩ (some ⟨0⟩)], []⟩
  federates := [leader, .ofInstances ⟨1⟩ "follower" [⟨2⟩]]
  connections := []

/-- The leading federate has one native reaction and two that the interpreter runs. -/
theorem leader_classesAgree :
    ∃ (generated : FederateArtifacts) (source : NativeSource),
      (program.generateFederate Workshop.environment leader "Convoy").run.result =
          .ok generated ∧
        .ofContents "Convoy_leader.c" source.text ∈ generated.artifacts ∧
        source.Ordered ∧
        List.Forall₂
          (program.ClassAgrees (program.federateSettings Workshop.environment.settings)
            leader)
          [⟨0⟩, ⟨1⟩] source.classes ∧
        source.classes.map ClassCode.functionNames =
          [["_mainreaction_function_1", "_main_deadline_function1"],
            ["_truckreaction_function_0", "_truck_deadline_function0",
              "_truckreaction_function_1"]] := by
  obtain ⟨generated, generated_eq⟩ : ∃ generated,
      (program.generateFederate Workshop.environment leader "Convoy").run.result =
        .ok generated := ⟨_, rfl⟩
  obtain ⟨classes, source, classes_eq, member, ordered, agree⟩ :=
    Program.generateFederate_classesAgree rfl generated_eq
  obtain rfl : [⟨0⟩, ⟨1⟩] = classes := Except.ok.inj classes_eq
  refine ⟨generated, source, generated_eq, member, ordered, agree, ?_⟩
  have made := Result.mapM_eq_ok.mpr (agree.imp fun _ _ agrees => agrees.1)
  obtain ⟨codes, codes_eq, names_eq⟩ : ∃ codes,
      [⟨0⟩, ⟨1⟩].mapM (program.classCode
        (program.federateSettings Workshop.environment.settings) leader) = .ok codes ∧
        codes.map ClassCode.functionNames =
          [["_mainreaction_function_1", "_main_deadline_function1"],
            ["_truckreaction_function_0", "_truck_deadline_function0",
              "_truckreaction_function_1"]] := ⟨_, rfl, by decide +kernel⟩
  rw [← Except.ok.inj (codes_eq.symm.trans made)]
  exact names_eq

end Convoy
end ReactorGen
