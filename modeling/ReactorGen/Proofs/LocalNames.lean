import Mathlib.Data.List.Nodup
import ReactorGen.Proofs.MemberNames
import ReactorGen.Proofs.MultiportWidths
import ReactorGen.Proofs.ReservedNames
import ReactorGen.Proofs.SelfVariables

/-!
# The names of variables in reactions

A reaction spells its variables twice: its functions declare a local variable for each of
them, and its methods take a parameter for each.  A port of a contained reactor gets a name
that is joined with an underscore, which names may contain, too; and all these names stand
beside those that functions and methods declare by themselves.  This module says when a
name is declared twice.
-/

namespace ReactorGen

open Text

/-! ## Variables as identifiers -/

namespace VarRef

/-- Different variables that are spelled alike, since a name of one of them has the
underscore inside that joins the names of the other. -/
inductive Collides : VarRef -> VarRef -> Prop
  | own (container name : String) :
    Collides (.own (container ++ "_" ++ name)) ⟨some container, name⟩
  | contained (container between name : String) :
    Collides ⟨some container, between ++ "_" ++ name⟩
      ⟨some (container ++ "_" ++ between), name⟩

variable {first second ref : VarRef} {refs : List VarRef}

theorem Collides.ne (collides : first.Collides second) : first ≠ second := by
  cases collides with
  | own container name => exact nofun
  | contained container between name =>
    intro equal
    have same := congrArg (fun text => text.toList.length) (VarRef.mk.inj equal).2
    simp only [toList_append_underscore, List.length_append, List.length_cons] at same
    omega

theorem Collides.flat_eq (collides : first.Collides second) : first.flat = second.flat := by
  cases collides with
  | own container name => rfl
  | contained container between name => simp only [flat, String.append_assoc]

/-- Only different variables that collide are spelled alike. -/
theorem flat_eq_flat_iff :
    first.flat = second.flat ↔
      first = second ∨ first.Collides second ∨ second.Collides first := by
  constructor
  · intro equal
    obtain ⟨firstContainer, left⟩ := first
    obtain ⟨secondContainer, right⟩ := second
    cases firstContainer with
    | none =>
      obtain rfl : left = _ := equal
      cases secondContainer with
      | none => exact .inl rfl
      | some container => exact .inr (.inl (.own container right))
    | some firstContainer =>
      cases secondContainer with
      | none =>
        obtain rfl : _ = right := equal
        exact .inr (.inr (.own firstContainer left))
      | some secondContainer =>
        rcases append_underscore_eq_iff.mp equal with
          ⟨rfl, rfl⟩ | ⟨between, rfl, rfl⟩ | ⟨between, rfl, rfl⟩
        · exact .inl rfl
        · exact .inr (.inl (.contained firstContainer between right))
        · exact .inr (.inr (.contained secondContainer between left))
  · rintro (rfl | collides | collides)
    · rfl
    · exact collides.flat_eq
    · exact collides.flat_eq.symm

/-- A word without underscores is the spelling of one variable only. -/
theorem flat_eq_iff_of_free
    {word : String}
    (free : '_' ∉ word.toList) :
    ref.flat = word ↔ ref = .own word := by
  constructor
  · rintro rfl
    obtain ⟨container, name⟩ := ref
    cases container with
    | none => rfl
    | some container => exact absurd (by simp [flat]) free
  · rintro rfl
    rfl

theorem mem_map_flat_iff_of_free
    {word : String}
    (free : '_' ∉ word.toList) :
    word ∈ refs.map flat ↔ .own word ∈ refs := by
  rw [List.mem_map]
  constructor
  · rintro ⟨ref, member, spelled⟩
    rwa [(flat_eq_iff_of_free free).mp spelled] at member
  · intro member
    exact ⟨_, member, rfl⟩

theorem nodup_map_flat_iff (once : refs.Nodup) :
    (refs.map flat).Nodup ↔ ∀ first ∈ refs, ∀ second ∈ refs, ¬first.Collides second := by
  rw [List.nodup_map_iff_inj_on once]
  constructor
  · intro injective first isFirst second isSecond collides
    exact collides.ne (injective first isFirst second isSecond collides.flat_eq)
  · intro apart first isFirst second isSecond equal
    rcases flat_eq_flat_iff.mp equal with same | collides | collides
    · exact same
    · exact absurd collides (apart first isFirst second isSecond)
    · exact absurd collides (apart second isSecond first isFirst)

/-- The names in a variable. -/
def names (ref : VarRef) : List String :=
  ref.container.toList ++ [ref.name]

theorem name_mem_names (ref : VarRef) : ref.name ∈ ref.names :=
  List.mem_append_right _ (List.mem_singleton_self _)

/-- A variable whose names have no dots. -/
def Undotted (ref : VarRef) : Prop :=
  ∀ name ∈ ref.names, '.' ∉ name.toList

instance (ref : VarRef) : Decidable ref.Undotted :=
  inferInstanceAs (Decidable (∀ name ∈ _, _))

theorem underscored_dotted (undotted : ref.Undotted) :
    underscored ref.dotted = ref.flat := by
  have ofName : underscored ref.name = ref.name :=
    underscored_of_dotless (undotted ref.name ref.name_mem_names)
  obtain ⟨container, name⟩ := ref
  cases container with
  | none => exact ofName
  | some container =>
    have ofContainer : underscored container = container :=
      underscored_of_dotless (undotted container (List.mem_cons_self ..))
    rw [dotted, flat, Naming.underscored_append, Naming.underscored_append, ofName,
      ofContainer]
    rfl

end VarRef

/-! ## Plain names -/

namespace VarRef

variable {first second : VarRef}

/-- A variable whose names consist of letters and digits. -/
def Plain (ref : VarRef) : Prop :=
  ∀ name ∈ ref.names, Text.Plain name

instance (ref : VarRef) : Decidable ref.Plain :=
  inferInstanceAs (Decidable (∀ name ∈ _, _))

theorem Plain.underscore_not_mem
    (plain : first.Plain)
    {name : String}
    (member : name ∈ first.names) :
    '_' ∉ name.toList :=
  (plain name member).not_mem (by decide)

/-- Plain names have no underscores inside that could be taken for the one that joins. -/
theorem Plain.not_collides (plain : first.Plain) : ¬first.Collides second := by
  intro collides
  have joined : '_' ∈ first.name.toList := by
    cases collides with
    | own container name => simp [VarRef.own]
    | contained container between name => simp
  exact plain.underscore_not_mem first.name_mem_names joined

/-- Plain variables go on with an underscore only where a contained reactor is called like
a variable. -/
theorem Plain.flat_ne_append
    (firstPlain : first.Plain)
    (secondPlain : second.Plain)
    (notContainer : ∀ container, second.container = some container ->
      first ≠ .own container)
    (word : String) :
    second.flat ≠ first.flat ++ "_" ++ word := by
  intro equal
  have nameFree := secondPlain.underscore_not_mem second.name_mem_names
  obtain ⟨firstContainer, left⟩ := first
  obtain ⟨secondContainer, right⟩ := second
  cases secondContainer with
  | none =>
    obtain rfl : right = _ := equal
    exact nameFree (by simp)
  | some container =>
    -- Both texts are cut at their first underscore, where the name of the container ends.
    have containerFree : '_' ∉ container.toList :=
      secondPlain.underscore_not_mem (List.mem_cons_self ..)
    cases firstContainer with
    | none =>
      have leftFree := firstPlain.underscore_not_mem (List.mem_singleton_self left)
      obtain ⟨rfl, _⟩ := append_append_inj (by decide) containerFree leftFree equal
      exact notContainer container rfl rfl
    | some other =>
      have otherFree : '_' ∉ other.toList :=
        firstPlain.underscore_not_mem (List.mem_cons_self ..)
      have cut : container ++ "_" ++ right = other ++ "_" ++ (left ++ "_" ++ word) := by
        simpa only [flat, String.append_assoc] using equal
      obtain ⟨_, rfl⟩ := append_append_inj (by decide) containerFree otherFree cut
      exact nameFree (by simp)

end VarRef

/-! ## What functions declare -/

/-- A statement that declares a variable: a type, the name, and perhaps a value. -/
def DraftStep.Declares (step : DraftStep) (name : String) : Prop :=
  ∃ type rest, step = .write (type ++ name ++ rest) ∧
    (EndsIn ' ' type ∨ EndsIn '*' type) ∧
    (rest = ";" ∨ ∃ value, rest = " = " ++ value)

/-- A draft that declares variables of the given names in this order, each in a statement
of its own. -/
inductive Draft.Declares : Draft -> List String -> Prop
  | nil : Declares [] []
  | skip {draft : Draft} {names : List String}
    (step : DraftStep)
    (declares : Declares draft names) :
    Declares (step :: draft) names
  | declare {step : DraftStep} {name : String} {draft : Draft} {names : List String}
    (declared : step.Declares name)
    (declares : Declares draft names) :
    Declares (step :: draft) (name :: names)

namespace Draft

theorem declares_nil (draft : Draft) : draft.Declares [] := by
  induction draft with
  | nil => exact .nil
  | cons step rest inductionHypothesis => exact .skip step inductionHypothesis

theorem Declares.append
    {first second : Draft}
    {firstNames secondNames : List String}
    (declares : first.Declares firstNames)
    (goesOn : second.Declares secondNames) :
    Declares (first ++ second) (firstNames ++ secondNames) := by
  induction declares with
  | nil => exact goesOn
  | skip step _ inductionHypothesis => exact .skip step inductionHypothesis
  | declare declared _ inductionHypothesis => exact .declare declared inductionHypothesis

theorem Declares.nested
    {draft : Draft}
    {names : List String}
    (declares : draft.Declares names) :
    (Draft.nested draft).Declares names := by
  have closed := declares.append (declares_nil [.outdent])
  rw [List.append_nil] at closed
  exact .skip .indent closed

end Draft

theorem Local.declares_declaration (declared : Local) :
    DraftStep.Declares (.write declared.declaration) declared.name := by
  refine ⟨declared.type.text ++ " ", " = " ++ (declared.value.text ++ ";"), ?_, .inl ?_,
    .inr ⟨_, rfl⟩⟩
  · simp only [declaration, String.append_assoc]
  · exact EndsIn.append (by decide) _

theorem Draft.declares_locals (locals : List Local) :
    Draft.Declares (locals.map fun declared => .write declared.declaration)
      (locals.map Local.name) := by
  induction locals with
  | nil => exact .nil
  | cons declared rest inductionHypothesis =>
    exact .declare declared.declares_declaration inductionHypothesis

/-- The variables that a body declares by itself. -/
def FunctionBody.declaredNames : FunctionBody -> List String
  | native _ => []
  | call _ => ["gstate", "rValue"]

/-- The variables that a function declares: one for the self struct, those that reach the
variables of the reaction, and those of its body. -/
def ReactionFunction.declaredNames (function : ReactionFunction) : List String :=
  "self" :: function.locals.map Local.name ++ function.body.declaredNames

/-- What a method takes: the instance, and a parameter for each variable. -/
def ReactionMethod.declaredNames (method : ReactionMethod) : List String :=
  "self" :: method.parameters

theorem FunctionBody.declares_draft (body : FunctionBody) :
    body.draft.Declares body.declaredNames := by
  cases body with
  | native source => exact Draft.declares_nil _
  | call called =>
    have threadState : DraftStep.Declares (.write "PyGILState_STATE gstate;") "gstate" :=
      ⟨"PyGILState_STATE ", ";", by decide, .inl (by decide), .inl rfl⟩
    have returned : DraftStep.Declares (.write "PyObject *rValue = PyObject_CallObject(")
        "rValue" :=
      ⟨"PyObject *", " = PyObject_CallObject(", by decide, .inr (by decide),
        .inr ⟨"PyObject_CallObject(", by decide⟩⟩
    exact .declare threadState (.skip _ (.skip _ (.declare returned (Draft.declares_nil _))))

/-- A function has a statement for every variable that it declares. -/
theorem ReactionFunction.declares_draft (function : ReactionFunction) :
    function.draft.Declares function.declaredNames := by
  have reached : DraftStep.Declares (.write (function.selfType ++ "* self = (" ++
      function.selfType ++ "*)instance_args;")) "self" := by
    have opening : "* self = (" = "* " ++ ("self" ++ (" = " ++ "(")) := by decide
    refine ⟨function.selfType ++ "* ", " = " ++ ("(" ++ function.selfType ++
      "*)instance_args;"), ?_, .inl (EndsIn.append (by decide) _), .inr ⟨_, rfl⟩⟩
    rw [opening]
    simp only [String.append_assoc]
  have inside := Draft.Declares.declare reached
    ((Draft.declares_locals function.locals).append function.body.declares_draft)
  have whole := Draft.Declares.skip
    (.write ("void " ++ function.name ++ "(void* instance_args) \x7b")) inside.nested
  have closed := whole.append (Draft.declares_nil [.write "\x7d"])
  rwa [List.append_nil] at closed

/-! ## Local variables -/

/-- Whether a variable is a multiport of the class itself. -/
def ReactorClass.isMultiport (reactorClass : ReactorClass) (ref : VarRef) : Bool :=
  ref.container.isNone && (reactorClass.port? ref.name).any (·.width.isSome)

theorem ReactorClass.mem_of_port?
    {reactorClass : ReactorClass}
    {name : String}
    {port : PortDecl}
    (port_eq : reactorClass.port? name = some port) :
    port.name = name ∧ (port ∈ reactorClass.inputs ∨ port ∈ reactorClass.outputs) := by
  rw [port?, Option.orElse_eq_orElse, Option.orElse_eq_or, Option.or_eq_some_iff] at port_eq
  rcases port_eq with isInput | ⟨_, isOutput⟩
  · have spelled := List.find?_some isInput
    exact ⟨beq_iff_eq.mp spelled, .inl (List.mem_of_find?_eq_some isInput)⟩
  · have spelled := List.find?_some isOutput
    exact ⟨beq_iff_eq.mp spelled, .inr (List.mem_of_find?_eq_some isOutput)⟩

/-- The local variables of a binding are called after it; an own multiport has a second
one. -/
theorem Binding.names_locals (binding : Binding) :
    binding.locals.map Local.name =
      binding.localName ::
        if (binding.kind = .input ∨ binding.kind = .output) ∧ binding.width.isSome = true
        then [binding.widthName] else [] := by
  cases kind : binding.kind <;> cases width : binding.width <;>
    simp [locals, kind, width, declare]

namespace SelfStruct

variable
  {layout : SelfStruct}
  {parts : LayoutParts}
  {reactorClass : ReactorClass}
  {index : Nat}
  {reaction : Reaction}
  {ref : VarRef}
  {refs : List VarRef}
  {binding : Binding}
  {bindings : List Binding}

theorem resolveVariable_eq_ok :
    layout.resolveVariable reactorClass index reaction ref = .ok binding ↔
      layout.binding? ref = some binding := by
  rw [resolveVariable]
  cases layout.binding? ref with
  | none => simp
  | some other => simp

/-- Ports of the class have names without dots, so only own variables are looked up
there. -/
theorem isMultiport_eq
    (undotted : ∀ ref ∈ parts.held, ref.Undotted)
    (ref : VarRef) :
    parts.reactorClass.isMultiport ref =
      (parts.reactorClass.port? ref.dotted).any (·.width.isSome) := by
  obtain ⟨container, name⟩ := ref
  cases container with
  | none => rfl
  | some container =>
    suffices absent : parts.reactorClass.port? (container ++ "." ++ name) = none by
      rw [VarRef.dotted, absent]
      rfl
    rw [Option.eq_none_iff_forall_ne_some]
    intro port port_eq
    obtain ⟨name_eq, isPort⟩ := ReactorClass.mem_of_port? port_eq
    have held : .own port.name ∈ parts.held := by
      rw [LayoutParts.mem_held]
      rcases isPort with isInput | isOutput
      · exact .inl ⟨port, isInput, rfl⟩
      · exact .inr (.inl ⟨port, isOutput, rfl⟩)
    have dotless := undotted _ held port.name (List.mem_singleton_self _)
    rw [name_eq] at dotless
    exact dotless (by simp)

/-- A variable has a local variable that is called after it, and a second one if it is an
own multiport. -/
theorem LaidOut.names_locals
    (laidOut : layout.LaidOut parts)
    (undotted : ∀ ref ∈ parts.held, ref.Undotted)
    (isHeld : ref ∈ parts.held)
    (bound : layout.binding? ref = some binding) :
    binding.locals.map Local.name =
      ref.flat ::
        if parts.reactorClass.isMultiport ref then [ref.flat ++ "_width"] else [] := by
  have localName_eq : binding.localName = ref.flat := by
    rw [Binding.localName, variableName_of_binding? bound,
      VarRef.underscored_dotted (undotted ref isHeld)]
  have multiport_iff : ((binding.kind = .input ∨ binding.kind = .output) ∧
      binding.width.isSome = true) ↔ parts.reactorClass.isMultiport ref = true := by
    rw [isMultiport_eq undotted]
    rcases laidOut.binding?_cases bound with
      ⟨port, input_eq, rfl⟩ | ⟨noInput, port, output_eq, rfl⟩ | ⟨noPort, notOwn⟩
    · simp [ReactorClass.port?, input_eq, ReactorClass.portBinding]
    · simp [ReactorClass.port?, noInput, output_eq, ReactorClass.portBinding]
    -- Without such a port, the binding is for an action or a port of a contained reactor.
    · rw [noPort]
      refine iff_of_false ?_ Bool.false_ne_true
      rintro ⟨isOwn, _⟩
      rcases notOwn with kind | ⟨entry, _, member⟩
      · simp [kind] at isOwn
      · simp only [UsedContainer.bindings, List.mem_filterMap, Option.map_eq_some_iff]
          at member
        obtain ⟨_, _, _, _, rfl⟩ := member
        simp at isOwn
  rw [Binding.names_locals, Binding.widthName, localName_eq]
  simp only [multiport_iff]

end SelfStruct

/-- The local variables that reach variables of a reaction. -/
def ReactorClass.localNames (reactorClass : ReactorClass) (refs : List VarRef) :
    List String :=
  refs.flatMap fun ref =>
    ref.flat :: if reactorClass.isMultiport ref then [ref.flat ++ "_width"] else []

/-- The local variables that hold the widths of multiports. -/
def ReactorClass.widthNames (reactorClass : ReactorClass) (refs : List VarRef) :
    List String :=
  (refs.filter reactorClass.isMultiport).map (·.flat ++ "_width")

theorem ReactorClass.localNames_perm (reactorClass : ReactorClass) (refs : List VarRef) :
    (reactorClass.localNames refs).Perm
      (refs.map VarRef.flat ++ reactorClass.widthNames refs) := by
  induction refs with
  | nil => exact .nil
  | cons ref rest inductionHypothesis =>
    rw [localNames, List.flatMap_cons, widthNames, List.filter_cons]
    cases multiple : reactorClass.isMultiport ref with
    | false => exact inductionHypothesis.cons _
    | true =>
      exact ((inductionHypothesis.cons _).trans List.perm_middle.symm).cons _

namespace SelfStruct

variable
  {layout : SelfStruct}
  {parts : LayoutParts}
  {index : Nat}
  {reaction : Reaction}
  {bindings : List Binding}

/-- The bindings of a reaction declare the local variables of its variables. -/
theorem LaidOut.names_resolve
    (laidOut : layout.LaidOut parts)
    (undotted : ∀ ref ∈ parts.held, ref.Undotted)
    (isHeld : ∀ ref ∈ reaction.variables, ref ∈ parts.held)
    (resolved : layout.resolve parts.reactorClass index reaction = .ok bindings) :
    (bindings.flatMap Binding.locals).map Local.name =
      parts.reactorClass.localNames reaction.variables := by
  rw [resolve_eq, Result.mapM_eq_ok] at resolved
  rw [List.map_flatMap, ReactorClass.localNames]
  generalize reaction.variables = refs at isHeld resolved
  induction resolved with
  | nil => rfl
  | cons found _ inductionHypothesis =>
    rw [List.forall_mem_cons] at isHeld
    rw [List.flatMap_cons, List.flatMap_cons, inductionHypothesis isHeld.2,
      laidOut.names_locals undotted isHeld.1 (resolveVariable_eq_ok.mp found)]

end SelfStruct

/-! ## Names that are declared twice -/

/-- What the functions of a reaction declare besides the variables of the reaction. -/
def fixedNames : List String := ["self", "gstate", "rValue"]

namespace Reaction

/-- The variables of a reaction are spelled apart from each other. -/
def SpelledApart (reaction : Reaction) : Prop :=
  ∀ first ∈ reaction.variables, ∀ second ∈ reaction.variables, ¬first.Collides second

/-- A reaction of a class whose local variables are called differently. -/
structure LocalsApart (reaction : Reaction) (reactorClass : ReactorClass) : Prop where
  spelled : reaction.SpelledApart
  fixed : ∀ name ∈ fixedNames, .own name ∉ reaction.variables
  /-- A multiport has a second local variable, for its width. -/
  widths : ∀ ref ∈ reaction.variables, reactorClass.isMultiport ref = true ->
    ∀ other ∈ reaction.variables, other.flat ≠ ref.flat ++ "_width"

/-- A reaction whose parameters are called differently. -/
structure ParametersApart (reaction : Reaction) : Prop where
  spelled : reaction.SpelledApart
  /-- The instance is the first parameter of every method. -/
  receiver : .own "self" ∉ reaction.variables
  /-- A reserved word becomes a parameter by an underscore behind it. -/
  reserved : ∀ ref ∈ reaction.variables, Target.python.isReserved ref.flat = true ->
    ∀ other ∈ reaction.variables, other.flat ≠ ref.flat ++ "_"

variable {reaction : Reaction} {reactorClass : ReactorClass}

theorem nodup_flat_iff :
    (reaction.variables.map VarRef.flat).Nodup ↔ reaction.SpelledApart :=
  VarRef.nodup_map_flat_iff reaction.lists_variables.once

theorem nodup_widthNames (apart : reaction.SpelledApart) :
    (reactorClass.widthNames reaction.variables).Nodup := by
  have once : ((reaction.variables.filter reactorClass.isMultiport).map VarRef.flat).Nodup :=
    (nodup_flat_iff.mpr apart).sublist (List.filter_sublist.map _)
  have widths := once.map (f := (· ++ "_width")) fun _ _ => (String.append_left_inj _).mp
  rwa [List.map_map] at widths

theorem disjoint_widthNames_iff :
    (reaction.variables.map VarRef.flat).Disjoint
        (reactorClass.widthNames reaction.variables) ↔
      ∀ ref ∈ reaction.variables, reactorClass.isMultiport ref = true ->
        ∀ other ∈ reaction.variables, other.flat ≠ ref.flat ++ "_width" := by
  rw [List.disjoint_right, ReactorClass.widthNames, List.forall_mem_map]
  simp only [List.mem_filter, List.mem_map, not_exists, not_and, and_imp, ne_eq]

/-- Fixed names have no underscores, so only variables of the reactor itself can be called
like them. -/
theorem disjoint_fixedNames_iff :
    fixedNames.Disjoint (reaction.variables.map VarRef.flat ++
        reactorClass.widthNames reaction.variables) ↔
      ∀ name ∈ fixedNames, .own name ∉ reaction.variables := by
  have free : ∀ name ∈ fixedNames, '_' ∉ name.toList := by decide
  have notWidth : ∀ name ∈ fixedNames,
      name ∉ reactorClass.widthNames reaction.variables := by
    intro name isFixed isWidth
    obtain ⟨ref, _, rfl⟩ := List.mem_map.mp isWidth
    exact free _ isFixed (by simp)
  constructor
  · intro apart name isFixed isVariable
    refine apart isFixed (List.mem_append_left _ ?_)
    exact (VarRef.mem_map_flat_iff_of_free (free name isFixed)).mpr isVariable
  · intro apart name isFixed member
    rcases List.mem_append.mp member with isFlat | isWidth
    · exact apart name isFixed ((VarRef.mem_map_flat_iff_of_free (free name isFixed)).mp isFlat)
    · exact notWidth name isFixed isWidth

/-- Local variables are called differently exactly if the variables of the reaction are
spelled apart from each other, from the widths of multiports and from the rest. -/
theorem nodup_localNames_iff :
    ("self" :: reactorClass.localNames reaction.variables ++ ["gstate", "rValue"]).Nodup ↔
      reaction.LocalsApart reactorClass := by
  have sorted : ("self" :: reactorClass.localNames reaction.variables ++
      ["gstate", "rValue"]).Perm (fixedNames ++ (reaction.variables.map VarRef.flat ++
        reactorClass.widthNames reaction.variables)) :=
    .cons _ (List.perm_append_comm.trans
      ((reactorClass.localNames_perm reaction.variables).append_left _))
  have fixedOnce : fixedNames.Nodup := by decide
  rw [sorted.nodup_iff, List.nodup_append', List.nodup_append', disjoint_fixedNames_iff,
    disjoint_widthNames_iff, nodup_flat_iff]
  constructor
  · rintro ⟨_, ⟨spelled, _, widths⟩, fixed⟩
    exact ⟨spelled, fixed, widths⟩
  · rintro ⟨spelled, fixed, widths⟩
    exact ⟨fixedOnce, ⟨spelled, nodup_widthNames spelled, widths⟩, fixed⟩

/-- Parameters are called differently exactly if the variables are spelled apart from each
other, from the instance, and from reserved words with the underscore they get. -/
theorem nodup_parameters_iff :
    ("self" :: reaction.variables.map VarRef.parameter).Nodup ↔ reaction.ParametersApart := by
  have parameters_eq : reaction.variables.map VarRef.parameter =
      (reaction.variables.map VarRef.flat).map Target.python.sanitize := by
    rw [List.map_map]
    rfl
  have receiver : "self" ∉ (reaction.variables.map VarRef.flat).map Target.python.sanitize ↔
      .own "self" ∉ reaction.variables := by
    have only (name : String) : Target.python.sanitize name = "self" ↔ name = "self" :=
      Target.sanitize_eq_iff_of_not_endsIn (by decide) (by decide)
    rw [List.mem_map]
    simp only [only, exists_eq_right]
    exact not_congr (VarRef.mem_map_flat_iff_of_free (by decide))
  have reserved : (∀ name ∈ reaction.variables.map VarRef.flat,
      Target.python.isReserved name = true ->
        name ++ "_" ∉ reaction.variables.map VarRef.flat) ↔
      ∀ ref ∈ reaction.variables, Target.python.isReserved ref.flat = true ->
        ∀ other ∈ reaction.variables, other.flat ≠ ref.flat ++ "_" := by
    rw [List.forall_mem_map]
    simp only [List.mem_map, not_exists, not_and, ne_eq]
  rw [List.nodup_cons, parameters_eq, receiver, Target.nodup_map_sanitize_iff, reserved,
    nodup_flat_iff]
  constructor
  · rintro ⟨receiver, spelled, reserved⟩
    exact ⟨spelled, receiver, reserved⟩
  · rintro ⟨spelled, receiver, reserved⟩
    exact ⟨receiver, spelled, reserved⟩

/-- Variables with plain names are spelled apart from everything, unless one of them is
called like a contained reactor or like what every function declares. -/
theorem apart_of_plain
    (plain : ∀ ref ∈ reaction.variables, ref.Plain)
    (fixed : ∀ name ∈ fixedNames, .own name ∉ reaction.variables)
    (containers : ∀ ref ∈ reaction.variables, ∀ container, ref.container = some container ->
      .own container ∉ reaction.variables) :
    reaction.LocalsApart reactorClass ∧ reaction.ParametersApart := by
  have spelled : reaction.SpelledApart :=
    fun first isFirst _ _ => (plain first isFirst).not_collides
  have goesOn : ∀ ref ∈ reaction.variables, ∀ other ∈ reaction.variables, ∀ word,
      other.flat ≠ ref.flat ++ "_" ++ word := by
    intro ref isVariable other isOther word
    refine (plain ref isVariable).flat_ne_append (plain other isOther) ?_ word
    rintro container contained rfl
    exact containers other isOther container contained isVariable
  constructor
  · refine ⟨spelled, fixed, ?_⟩
    intro ref isVariable _ other isOther equal
    apply goesOn ref isVariable other isOther "width"
    rw [equal, String.append_assoc]
    rfl
  · refine ⟨spelled, fixed "self" (List.mem_cons_self ..), ?_⟩
    intro ref isVariable _ other isOther equal
    apply goesOn ref isVariable other isOther ""
    rw [equal, String.append_empty]

end Reaction

namespace Program

variable
  {program : Program}
  {federate : Federate}
  {id : ClassId}
  {parts : LayoutParts}
  {layout : SelfStruct}
  {index : Nat}
  {reaction : Reaction}

/-- The bindings of variables that the struct holds are found. -/
theorem exists_resolve_of_held
    (laidOut : layout.LaidOut parts)
    (isHeld : ∀ ref ∈ reaction.variables, ref ∈ parts.held) :
    ∃ bindings, layout.resolve parts.reactorClass index reaction = .ok bindings := by
  cases resolved : layout.resolve parts.reactorClass index reaction with
  | ok bindings => exact ⟨bindings, rfl⟩
  | error fault =>
    obtain ⟨before, ref, after, variables_eq, _, missing, _⟩ :=
      laidOut.resolve_eq_error_iff.mp resolved
    have isVariable : ref ∈ reaction.variables := by
      rw [variables_eq]
      exact List.mem_append_right _ (List.mem_cons_self ..)
    exact absurd (LayoutParts.reaches_of_mem (isHeld ref isVariable)) missing

/-- The functions of a reaction declare no name twice, and neither do its methods, exactly
if the variables of the reaction are spelled apart from each other and from what functions
and methods declare by themselves. -/
theorem interpreterShim_namesApart_iff
    (hasParts : program.HasParts federate id parts)
    (interpreted : program.classIsNative parts.reactorClass = false)
    (layout_eq : program.selfStruct federate id = .ok layout)
    (reaction_eq : parts.reactorClass.reactions[index]? = some reaction)
    (isHeld : ∀ ref ∈ reaction.variables, ref ∈ parts.held)
    (undotted : ∀ ref ∈ parts.held, ref.Undotted) :
    ∃ code pythonClass,
      interpreterShim parts.reactorClass layout index = .ok code ∧
      program.pythonClass id = .ok pythonClass ∧
      (∀ function ∈ code.functions,
        function.draft.Declares function.declaredNames ∧
        (function.declaredNames.Nodup ↔ reaction.LocalsApart parts.reactorClass)) ∧
      ∀ method ∈ reaction.methods index,
        method ∈ pythonClass.methods ∧
        (method.declaredNames.Nodup ↔ reaction.ParametersApart) := by
  have laidOut := hasParts.laidOut layout_eq
  obtain ⟨bindings, resolved⟩ : ∃ bindings,
      layout.resolve parts.reactorClass index reaction = .ok bindings :=
    exists_resolve_of_held laidOut isHeld
  obtain ⟨code, code_eq⟩ : ∃ code,
      interpreterShim parts.reactorClass layout index = .ok code := by
    have found := ReactorClass.reaction_eq_ok.mpr reaction_eq
    rw [interpreterShim, found, Result.ok_bind, resolved]
    exact ⟨_, rfl⟩
  obtain ⟨listed, _, listed_eq, same, calls⟩ := exists_bindings_of_interpreterShim code_eq
  obtain rfl := Option.some.inj (reaction_eq.symm.trans listed_eq)
  obtain rfl := Except.ok.inj (resolved.symm.trans same)
  refine ⟨code, .ofReactorClass parts.reactorClass false, code_eq, ?_, ?_, ?_⟩
  · rw [pythonClass, hasParts.reactorClass, ← interpreted]
    rfl
  · intro function member
    refine ⟨function.declares_draft, ?_⟩
    obtain ⟨name, callable, label, rfl⟩ := calls function member
    rw [ReactionFunction.declaredNames, callingFunction,
      laidOut.names_resolve undotted isHeld resolved]
    exact Reaction.nodup_localNames_iff
  · intro method member
    refine ⟨PythonClass.mem_methods.mpr ⟨index, reaction, reaction_eq, member⟩, ?_⟩
    rw [ReactionMethod.declaredNames, (Reaction.gathering_of_mem_methods member).1]
    exact Reaction.nodup_parameters_iff

end Program

/-! ## A thermostat with a probe -/

namespace Thermostat

/-- A reaction to an input and to a port of a contained reactor. -/
def reaction (input : String) : Reaction where
  triggers := [.var (.own input), .var ⟨some "probe", "value"⟩]
  sources := []
  effects := [.own "fan"]
  body := "pass"
  deadline := some ⟨⟨10, .millisecond⟩, "pass"⟩
  span := none

def thermostatClass (input : String) : ReactorClass :=
  { ReactorClass.ofName "Thermostat" with
    inputs := [⟨input, none, none⟩]
    outputs := [⟨"fan", none, some 2⟩]
    reactions := [reaction input] }

def probeClass : ReactorClass :=
  { ReactorClass.ofName "Probe" with outputs := [⟨"value", none, none⟩] }

def thermostat : ReactorInstance :=
  { ReactorInstance.ofName "thermostat" ⟨1⟩ (some ⟨0⟩) with children := [⟨2⟩] }

def program (input : String) : Program where
  name := "House"
  target := "Python"
  properties := []
  preambles := []
  classes := [{ ReactorClass.ofName "House" with isMain := true }, thermostatClass input,
    probeClass]
  tree := ⟨[{ ReactorInstance.ofName "House" ⟨0⟩ none with children := [⟨1⟩] }, thermostat,
    .ofName "probe" ⟨2⟩ (some ⟨1⟩)], []⟩
  federates := [.singleton]
  connections := []

def parts (input : String) : LayoutParts where
  reactorClass := thermostatClass input
  actions := []
  positions := [0]
  containers := [(⟨"probe", ["value"]⟩, probeClass)]

def layout (input : String) : SelfStruct :=
  match (program input).selfStruct .singleton ⟨1⟩ with
  | .ok layout => layout
  | .error _ => ⟨"", [], [], []⟩

/-- No name is declared twice for a thermostat whose input is called `target`. -/
theorem target_namesApart :
    ∃ code pythonClass,
      interpreterShim (thermostatClass "target") (layout "target") 0 = .ok code ∧
      (program "target").pythonClass ⟨1⟩ = .ok pythonClass ∧
      (∀ function ∈ code.functions,
        function.declaredNames =
          ["self", "target", "probe_value", "fan", "fan_width", "gstate", "rValue"] ∧
        function.declaredNames.Nodup) ∧
      ∀ method ∈ (reaction "target").methods 0,
        method ∈ pythonClass.methods ∧
        method.declaredNames = ["self", "target", "probe_value", "fan"] ∧
        method.declaredNames.Nodup := by
  have hasParts : (program "target").HasParts .singleton ⟨1⟩ (parts "target") :=
    ⟨rfl, rfl, rfl, rfl⟩
  have layout_eq : (program "target").selfStruct .singleton ⟨1⟩ = .ok (layout "target") := rfl
  have reaction_eq : (parts "target").reactorClass.reactions[0]? = some (reaction "target") :=
    rfl
  have functionNames : ∀ {code},
      interpreterShim (thermostatClass "target") (layout "target") 0 = .ok code ->
      ∀ function ∈ code.functions, function.declaredNames =
        ["self", "target", "probe_value", "fan", "fan_width", "gstate", "rValue"] := by
    rintro _ ⟨⟩
    decide +kernel
  have methodNames : ∀ method ∈ (reaction "target").methods 0,
      method.declaredNames = ["self", "target", "probe_value", "fan"] := by
    decide +kernel
  obtain ⟨locals, parameters⟩ : (reaction "target").LocalsApart (thermostatClass "target") ∧
      (reaction "target").ParametersApart := by
    apply Reaction.apart_of_plain
    case plain => decide
    case fixed => decide
    case containers => decide
  obtain ⟨code, pythonClass, code_eq, class_eq, functions, methods⟩ :=
    Program.interpreterShim_namesApart_iff hasParts (by decide) layout_eq reaction_eq
      (by decide) (by decide)
  refine ⟨code, pythonClass, code_eq, class_eq, ?_, ?_⟩
  · intro function member
    exact ⟨functionNames code_eq function member, (functions function member).2.mpr locals⟩
  · intro method member
    obtain ⟨inClass, once⟩ := methods method member
    exact ⟨inClass, methodNames method member, once.mpr parameters⟩

/-- A thermostat declares nothing twice, even if its input is called like a port of its
probe. -/
theorem distinguishes :
    (program "probe_value").Distinguishes ⟨1⟩ (thermostatClass "probe_value") where
  declared := by decide
  contained := by
    intro owners owner container child owners_eq isOwner contains
    have known : (program "probe_value").instancesOf ⟨1⟩ = .ok [thermostat] := rfl
    obtain rfl := Except.ok.inj (known.symm.trans owners_eq)
    obtain rfl := List.mem_singleton.mp isOwner
    obtain ⟨childId, isChild, node, node_eq, rfl, _⟩ := contains
    obtain rfl := List.mem_singleton.mp isChild
    obtain rfl := Except.ok.inj node_eq
    decide

/-- If its input is called `probe_value`, then the local variables and the parameters for
the input and for the port of the probe have one name. -/
theorem probeValue_sharesNames :
    (program "probe_value").Distinguishes ⟨1⟩ (thermostatClass "probe_value") ∧
      (program "probe_value").HasParts .singleton ⟨1⟩ (parts "probe_value") ∧
      (∀ ref ∈ (reaction "probe_value").variables,
        ref ∈ (parts "probe_value").held ∧ ref.Undotted) ∧
      (reaction "probe_value").variables.Nodup ∧
      ∃ code pythonClass,
        interpreterShim (thermostatClass "probe_value") (layout "probe_value") 0 = .ok code ∧
        (program "probe_value").pythonClass ⟨1⟩ = .ok pythonClass ∧
        code.reaction.locals.map Local.declaration = [
          "thermostat_probe_value_t* probe_value = self->_lf_probe_value;",
          "probe_value_t* probe_value = self->_lf_probe.value;",
          "thermostat_fan_t** fan = self->_lf_fan;",
          "int fan_width = self->_lf_fan_width;"
        ] ∧
        (∀ function ∈ code.functions, ¬function.declaredNames.Nodup) ∧
        ∀ method ∈ pythonClass.methods,
          method.declaredNames = ["self", "probe_value", "probe_value", "fan"] ∧
          ¬method.declaredNames.Nodup := by
  refine ⟨distinguishes, ⟨rfl, rfl, rfl, rfl⟩, by decide, by decide, _, _, rfl, rfl, ?_⟩
  decide +kernel

end Thermostat
end ReactorGen
