import ReactorGen.Proofs.Identifiers
import ReactorGen.Proofs.ReactionArguments

/-!
# Reserved names in classes

A class for the interpreter gets its names from a reactor class, and all of them become
identifiers, except for one kind: a port of a contained reactor keeps its name where it is
stored as an attribute of the object that stands for the reactor.  A class is free of
reserved words exactly if no reaction touches such a port that has a reserved word for a
name.  Within a method every variable is spelled in one way: what is stored is a
parameter, and the object it is stored in has been made.
-/

namespace ReactorGen

theorem isReserved_pythonName (name : String) :
    Target.python.isReserved (pythonName name) = false :=
  Target.python.isReserved_sanitize name

/-! ## Statements before the body -/

namespace GatherStep

/-- The names in a statement. -/
def names : GatherStep -> List String
  | make container => [container]
  | store container field parameter => [container, field, parameter]

/-- The attribute that a statement stores. -/
def field? : GatherStep -> Option String
  | make _ => none
  | store _ field _ => some field

/-- Every object that is stored in is one of those that are given, or is made before. -/
def StoresInto : List String -> List GatherStep -> Prop
  | _, [] => True
  | objects, make object :: rest => StoresInto (object :: objects) rest
  | objects, store object _ _ :: rest => object ∈ objects ∧ StoresInto objects rest

/-- The statement that stores a variable which is handed over as a parameter. -/
def storing? (ref : VarRef) (parameter : String) : Option GatherStep :=
  ref.container.map fun container => .store (pythonName container) ref.name parameter

theorem storing?_eq_some {ref : VarRef} {parameter : String} {step : GatherStep} :
    storing? ref parameter = some step ↔
      ∃ container, ref.container = some container ∧
        store (pythonName container) ref.name parameter = step :=
  Option.map_eq_some_iff

end GatherStep

section Gathering

variable {seen refs : List VarRef} {ref : VarRef} {step : GatherStep}

/-- A statement is there for one of the variables. -/
theorem exists_of_mem_gatherAfter (member : step ∈ gatherAfter seen refs) :
    ∃ ref ∈ refs, ∃ earlier, step ∈ gatherVariable earlier ref := by
  induction refs generalizing seen with
  | nil => exact absurd member List.not_mem_nil
  | cons first rest inductionHypothesis =>
    rcases List.mem_append.mp member with here | later
    · exact ⟨first, List.mem_cons_self .., seen, here⟩
    · obtain ⟨ref, inRest, earlier, isStep⟩ := inductionHypothesis later
      exact ⟨ref, List.mem_cons_of_mem _ inRest, earlier, isStep⟩

theorem mem_gatherVariable (member : step ∈ gatherVariable seen ref) :
    ∃ container, ref.container = some container ∧
      (step = .make (pythonName container) ∨
        step = .store (pythonName container) ref.name ref.parameter) := by
  cases contained : ref.container with
  | none => simp [gatherVariable, contained] at member
  | some container =>
    refine ⟨container, rfl, ?_⟩
    simp only [gatherVariable, contained, List.mem_append, List.mem_singleton] at member
    rcases member with made | stored
    · split at made
      · exact absurd made List.not_mem_nil
      · exact .inl (List.mem_singleton.mp made)
    · exact .inr stored

/-- Whatever is named before the body is an identifier or an attribute. -/
theorem free_or_field_of_mem_gatherAfter
    (member : step ∈ gatherAfter seen refs)
    {name : String}
    (named : name ∈ step.names) :
    Target.python.isReserved name = false ∨ step.field? = some name := by
  obtain ⟨ref, _, earlier, isStep⟩ := exists_of_mem_gatherAfter member
  obtain ⟨container, _, rfl | rfl⟩ := mem_gatherVariable isStep
  · rw [GatherStep.names, List.mem_singleton] at named
    rw [named]
    exact .inl (isReserved_pythonName container)
  · simp only [GatherStep.names, List.mem_cons, List.not_mem_nil, or_false] at named
    rcases named with rfl | rfl | rfl
    · exact .inl (isReserved_pythonName container)
    · exact .inr rfl
    · exact .inl (isReserved_pythonName ref.flat)

/-- The variables of contained reactors are stored, each once and in their order. -/
theorem stores_gatherAfter (seen refs : List VarRef) :
    (gatherAfter seen refs).filter (·.field?.isSome) =
      refs.filterMap fun ref => GatherStep.storing? ref ref.parameter := by
  induction refs generalizing seen with
  | nil => rfl
  | cons ref rest inductionHypothesis =>
    rw [gatherAfter, List.filter_append, inductionHypothesis]
    cases contained : ref.container with
    | none => simp [gatherVariable, GatherStep.storing?, contained]
    | some container =>
      have made : (if seen.any (·.container == some container) then []
          else [GatherStep.make (pythonName container)]).filter (·.field?.isSome) = [] := by
        split <;> rfl
      have storing : GatherStep.storing? ref ref.parameter =
          some (.store (pythonName container) ref.name ref.parameter) :=
        GatherStep.storing?_eq_some.mpr ⟨container, contained, rfl⟩
      rw [gatherVariable, contained, List.filterMap_cons, storing, List.filter_append, made]
      rfl

/-- The objects of the containers that came up are among those that are made. -/
def MadeFor (objects : List String) (seen : List VarRef) : Prop :=
  ∀ ref ∈ seen, ∀ container, ref.container = some container ->
    pythonName container ∈ objects

theorem MadeFor.concat
    {objects : List String}
    (made : MadeFor objects seen)
    (madeLast : ∀ container, ref.container = some container ->
      pythonName container ∈ objects) :
    MadeFor objects (seen ++ [ref]) := by
  intro earlier member container contained
  rcases List.mem_append.mp member with isSeen | isLast
  · exact made earlier isSeen container contained
  · rw [List.mem_singleton.mp isLast] at contained
    exact madeLast container contained

/-- Whatever is stored is stored in an object that is made before. -/
theorem storesInto_gatherAfter
    {objects : List String}
    (made : MadeFor objects seen)
    (refs : List VarRef) :
    GatherStep.StoresInto objects (gatherAfter seen refs) := by
  induction refs generalizing seen objects with
  | nil => trivial
  | cons ref rest inductionHypothesis =>
    rw [gatherAfter]
    cases contained : ref.container with
    | none =>
      rw [gatherVariable, contained]
      exact inductionHypothesis (made.concat (by simp [contained]))
    | some container =>
      cases isSeen : seen.any (·.container == some container) with
      | true =>
        obtain ⟨earlier, member, same⟩ := List.any_eq_true.mp isSeen
        have there : pythonName container ∈ objects :=
          made earlier member container (beq_iff_eq.mp same)
        simp only [gatherVariable, contained, isSeen, if_true, List.nil_append]
        exact ⟨there, inductionHypothesis (made.concat (by simp [contained, there]))⟩
      | false =>
        have madeNow : MadeFor (pythonName container :: objects) seen :=
          fun earlier member other contained =>
            List.mem_cons_of_mem _ (made earlier member other contained)
        simp only [gatherVariable, contained, isSeen]
        exact ⟨List.mem_cons_self .., inductionHypothesis
          (madeNow.concat (by simp [contained]))⟩

end Gathering

/-! ## Names of methods -/

namespace ReactionMethod

/-- The names in a method, other than its own and those in its body. -/
def names (method : ReactionMethod) : List String :=
  method.parameters ++ method.gathering.flatMap GatherStep.names

/-- The attributes of objects that a method stores. -/
def fields (method : ReactionMethod) : List String :=
  method.gathering.filterMap GatherStep.field?

theorem zip_map_self (items : List α) (function : α -> β) :
    items.zip (items.map function) = items.map fun item => (item, function item) := by
  have mapped : (items.map id).zip (items.map function) = _ := List.zip_map'
  rwa [List.map_id] at mapped

/-- A method that spells every variable in one way: it has one parameter for each, and
before the body it stores the parameters of those that belong to contained reactors, in
objects that it has made. -/
structure Spells (method : ReactionMethod) (refs : List VarRef) : Prop where
  parameters : method.parameters = refs.map fun ref => pythonName ref.flat
  stores : method.gathering.filter (·.field?.isSome) =
    (refs.zip method.parameters).filterMap fun (ref, parameter) =>
      GatherStep.storing? ref parameter
  objects : GatherStep.StoresInto [] method.gathering

variable {method : ReactionMethod} {refs : List VarRef}

/-- The attributes are the names of the ports of contained reactors. -/
theorem Spells.mem_fields
    (spells : method.Spells refs)
    {field : String} :
    field ∈ method.fields ↔ ∃ ref ∈ refs, ref.container.isSome = true ∧ ref.name = field := by
  constructor
  · intro member
    obtain ⟨step, isStep, field_eq⟩ := List.mem_filterMap.mp member
    have isStore : step ∈ method.gathering.filter (·.field?.isSome) :=
      List.mem_filter.mpr ⟨isStep, Option.isSome_of_eq_some field_eq⟩
    rw [spells.stores] at isStore
    obtain ⟨⟨ref, parameter⟩, inZip, storing⟩ := List.mem_filterMap.mp isStore
    obtain ⟨container, contained, rfl⟩ := GatherStep.storing?_eq_some.mp storing
    exact ⟨ref, (List.of_mem_zip inZip).1, Option.isSome_of_eq_some contained,
      Option.some.inj field_eq⟩
  · rintro ⟨ref, member, isContained, rfl⟩
    obtain ⟨container, contained⟩ := Option.isSome_iff_exists.mp isContained
    let step := GatherStep.store (pythonName container) ref.name ref.parameter
    have isStore : step ∈ method.gathering.filter (·.field?.isSome) := by
      rw [spells.stores, spells.parameters, zip_map_self, List.mem_filterMap]
      exact ⟨(ref, ref.parameter), List.mem_map_of_mem member,
        GatherStep.storing?_eq_some.mpr ⟨container, contained, rfl⟩⟩
    exact List.mem_filterMap.mpr ⟨step, (List.mem_filter.mp isStore).1, rfl⟩

end ReactionMethod

namespace Reaction

variable {reaction : Reaction} {index : Nat} {method : ReactionMethod}

theorem gathering_of_mem_methods (member : method ∈ reaction.methods index) :
    method.parameters = reaction.variables.map VarRef.parameter ∧
      method.gathering = gatherAfter [] reaction.variables := by
  rcases mem_methods.mp member with rfl | ⟨deadline, _, rfl⟩
  · exact ⟨rfl, rfl⟩
  · exact ⟨rfl, rfl⟩

theorem spells_of_mem_methods (member : method ∈ reaction.methods index) :
    method.Spells reaction.variables := by
  obtain ⟨parameters_eq, gathering_eq⟩ := gathering_of_mem_methods member
  constructor
  case parameters => exact parameters_eq
  case stores =>
    rw [gathering_eq, stores_gatherAfter, parameters_eq, ReactionMethod.zip_map_self,
      List.filterMap_map]
    rfl
  case objects =>
    rw [gathering_eq]
    exact storesInto_gatherAfter (fun _ member => absurd member List.not_mem_nil) _

/-- In a method, only attributes may be reserved words. -/
theorem free_or_field_of_mem_methods
    (member : method ∈ reaction.methods index)
    {name : String}
    (named : name ∈ method.names) :
    Target.python.isReserved name = false ∨ name ∈ method.fields := by
  obtain ⟨parameters_eq, gathering_eq⟩ := gathering_of_mem_methods member
  rcases List.mem_append.mp named with isParameter | isGathered
  · rw [parameters_eq] at isParameter
    obtain ⟨ref, _, rfl⟩ := List.mem_map.mp isParameter
    exact .inl (isReserved_pythonName ref.flat)
  · obtain ⟨step, isStep, inStep⟩ := List.mem_flatMap.mp isGathered
    rw [gathering_eq] at isStep
    rcases free_or_field_of_mem_gatherAfter isStep inStep with free | isField
    · exact .inl free
    · rw [← gathering_eq] at isStep
      exact .inr (List.mem_filterMap.mpr ⟨step, isStep, isField⟩)

end Reaction

/-! ## Names of classes -/

namespace PythonClass

/-- The names in a class that come from the model. -/
def names (pythonClass : PythonClass) : List String :=
  pythonClass.parameters.map Prod.fst ++ pythonClass.stateVars.map Prod.fst ++
    pythonClass.methods.flatMap ReactionMethod.names

/-- The attributes of objects that the methods of a class store. -/
def fields (pythonClass : PythonClass) : List String :=
  pythonClass.methods.flatMap ReactionMethod.fields

variable {reactorClass : ReactorClass} {native : Bool} {method : ReactionMethod}

/-- A method is there for a reaction, and there are none for native reactions. -/
theorem exists_of_mem_methods
    (member : method ∈ (ofReactorClass reactorClass native).methods) :
    native = false ∧ ∃ index, ∃ reaction ∈ reactorClass.reactions,
      method ∈ reaction.methods index := by
  cases native with
  | true => exact absurd member List.not_mem_nil
  | false =>
    obtain ⟨index, reaction, reaction_eq, inMethods⟩ := mem_methods.mp member
    exact ⟨rfl, index, reaction, List.mem_of_getElem? reaction_eq, inMethods⟩

theorem fields_subset_names (pythonClass : PythonClass) :
    pythonClass.fields ⊆ pythonClass.names := by
  intro field member
  obtain ⟨method, isMethod, isField⟩ := List.mem_flatMap.mp member
  obtain ⟨step, isStep, field_eq⟩ := List.mem_filterMap.mp isField
  have named : field ∈ step.names := by
    cases step with
    | make container => exact absurd field_eq (by simp [GatherStep.field?])
    | store container stored parameter =>
      rw [← Option.some.inj field_eq]
      simp [GatherStep.names]
  refine List.mem_append_right _ (List.mem_flatMap.mpr ⟨method, isMethod, ?_⟩)
  exact List.mem_append_right _ (List.mem_flatMap.mpr ⟨step, isStep, named⟩)

/-- In a class, only attributes of objects may be reserved words. -/
theorem free_or_field_of_mem_names
    {name : String}
    (member : name ∈ (ofReactorClass reactorClass native).names) :
    Target.python.isReserved name = false ∨
      name ∈ (ofReactorClass reactorClass native).fields := by
  rw [names, List.mem_append, List.mem_append] at member
  rcases member with (isParameter | isState) | isMethod
  · obtain ⟨_, inParameters, rfl⟩ := List.mem_map.mp isParameter
    obtain ⟨parameter, _, rfl⟩ := List.mem_map.mp inParameters
    exact .inl (isReserved_pythonName parameter.name)
  · obtain ⟨_, inStates, rfl⟩ := List.mem_map.mp isState
    obtain ⟨state, _, rfl⟩ := List.mem_map.mp inStates
    exact .inl (isReserved_pythonName state.name)
  · obtain ⟨method, inMethods, named⟩ := List.mem_flatMap.mp isMethod
    obtain ⟨_, index, reaction, _, ofReaction⟩ := exists_of_mem_methods inMethods
    refine (Reaction.free_or_field_of_mem_methods ofReaction named).imp_right fun isField => ?_
    exact List.mem_flatMap.mpr ⟨method, inMethods, isField⟩

/-- The attributes of objects are the names of the ports of contained reactors. -/
theorem mem_fields {field : String} :
    field ∈ (ofReactorClass reactorClass native).fields ↔
      native = false ∧ ∃ reaction ∈ reactorClass.reactions, ∃ ref ∈ reaction.variables,
        ref.container.isSome = true ∧ ref.name = field := by
  constructor
  · intro member
    obtain ⟨method, inMethods, isField⟩ := List.mem_flatMap.mp member
    obtain ⟨interpreted, index, reaction, isReaction, ofReaction⟩ :=
      exists_of_mem_methods inMethods
    exact ⟨interpreted, reaction, isReaction,
      (Reaction.spells_of_mem_methods ofReaction).mem_fields.mp isField⟩
  · rintro ⟨rfl, reaction, isReaction, isPort⟩
    obtain ⟨index, reaction_eq⟩ := List.getElem?_of_mem isReaction
    have ofReaction : reaction.bodyMethod index ∈ reaction.methods index :=
      Reaction.mem_methods.mpr (.inl rfl)
    refine List.mem_flatMap.mpr ⟨_, (hasMethod_bodyMethod reaction_eq).member, ?_⟩
    exact (Reaction.spells_of_mem_methods ofReaction).mem_fields.mpr isPort

end PythonClass

/-- A reactor class of which no reaction touches a port of a contained reactor that has a
reserved word for a name. -/
def ReactorClass.PortsFree (reactorClass : ReactorClass) : Prop :=
  ∀ reaction ∈ reactorClass.reactions, ∀ ref ∈ reaction.variables,
    ref.container.isSome = true -> Target.python.isReserved ref.name = false

/-- A class for the interpreter is made of identifiers that are not reserved, except for
the attributes of the objects that stand for contained reactors.  It is free of reserved
words exactly if its reactions are native or touch no port that is called like one.  Its
methods spell every variable in one way. -/
theorem Program.pythonClass_namesFree_iff
    {program : Program}
    {id : ClassId}
    {reactorClass : ReactorClass}
    (class_eq : program.classAt id = .ok reactorClass) :
    ∃ pythonClass, program.pythonClass id = .ok pythonClass ∧
      (∀ name ∈ pythonClass.names,
        Target.python.isReserved name = true -> name ∈ pythonClass.fields) ∧
      ((∀ name ∈ pythonClass.names, Target.python.isReserved name = false) ↔
        (program.classIsNative reactorClass = false -> reactorClass.PortsFree)) ∧
      ∀ method ∈ pythonClass.methods, ∃ reaction ∈ reactorClass.reactions,
        method.Spells reaction.variables := by
  let native := program.classIsNative reactorClass
  have pythonClass_eq : program.pythonClass id = .ok (.ofReactorClass reactorClass native) := by
    rw [pythonClass, class_eq]
    rfl
  refine ⟨_, pythonClass_eq, ?_, ?_, ?_⟩
  · intro name member reserved
    refine (PythonClass.free_or_field_of_mem_names member).resolve_left fun free => ?_
    exact Bool.false_ne_true (free.symm.trans reserved)
  · constructor
    · intro free interpreted reaction isReaction ref isVariable isContained
      apply free
      apply PythonClass.fields_subset_names
      exact PythonClass.mem_fields.mpr
        ⟨interpreted, reaction, isReaction, ref, isVariable, isContained, rfl⟩
    · intro portsFree name member
      rcases PythonClass.free_or_field_of_mem_names member with free | isField
      · exact free
      · obtain ⟨interpreted, reaction, isReaction, ref, isVariable, isContained, rfl⟩ :=
          PythonClass.mem_fields.mp isField
        exact portsFree interpreted reaction isReaction ref isVariable isContained
  · intro method member
    obtain ⟨_, index, reaction, isReaction, ofReaction⟩ :=
      PythonClass.exists_of_mem_methods member
    exact ⟨reaction, isReaction, Reaction.spells_of_mem_methods ofReaction⟩

/-! ## A valve before a tank -/

namespace Valve

/-- A reaction to an input that writes to a port of a contained reactor. -/
def reaction (port : String) : Reaction where
  triggers := [.var (.own "in")]
  sources := []
  effects := [⟨some "from", port⟩]
  body := "pass"
  deadline := none
  span := none

/-- A class that uses reserved words for names wherever it can. -/
def valveClass (port : String) : ReactorClass :=
  { ReactorClass.ofName "Valve" with
    parameters := [⟨"lambda", "0"⟩]
    stateVars := [⟨"global", none⟩]
    inputs := [⟨"in", none, none⟩]
    reactions := [reaction port]
    isMain := true }

def program (port : String) : Program where
  name := "Valve"
  target := "Python"
  properties := []
  preambles := []
  classes := [valveClass port,
    { ReactorClass.ofName "Tank" with inputs := [⟨port, none, none⟩] }]
  tree := ⟨[{ ReactorInstance.ofName "Valve" ⟨0⟩ none with children := [⟨1⟩] },
    .ofName "from" ⟨1⟩ (some ⟨0⟩)], []⟩
  federates := [.singleton]
  connections := []

/-- If the port of the tank is not called like a reserved word, then no name is. -/
theorem value_namesFree :
    ∃ pythonClass, (program "value").pythonClass ⟨0⟩ = .ok pythonClass ∧
      pythonClass.names =
        ["lambda_", "global_", "in_", "from_value", "from_", "from_", "value", "from_value"] ∧
      (∀ name ∈ pythonClass.names, Target.python.isReserved name = false) ∧
      ∀ method ∈ pythonClass.methods, method.Spells (reaction "value").variables := by
  have class_eq : (program "value").classAt ⟨0⟩ = .ok (valveClass "value") := rfl
  obtain ⟨pythonClass, pythonClass_eq, _, free, spelled⟩ :=
    Program.pythonClass_namesFree_iff class_eq
  refine ⟨pythonClass, pythonClass_eq, ?_, free.mpr fun _ => ?_, ?_⟩
  · obtain rfl := Except.ok.inj pythonClass_eq
    decide +kernel
  · unfold ReactorClass.PortsFree
    decide +kernel
  · intro method member
    obtain ⟨listed, isReaction, spells⟩ := spelled method member
    rwa [List.mem_singleton.mp isReaction] at spells

/-- The port of the tank is stored under its own name, even if this is a reserved word. -/
theorem in_namesReserved :
    ∃ pythonClass, (program "in").pythonClass ⟨0⟩ = .ok pythonClass ∧
      ∃ method ∈ pythonClass.methods,
        method.parameters = ["in_", "from_in"] ∧
        method.gathering.map GatherStep.text = ["from_ = Make()", "from_.in = from_in"] ∧
        "in" ∈ pythonClass.names ∧ Target.python.isReserved "in" = true := by
  refine ⟨_, rfl, _, List.mem_of_getElem? (i := 0) rfl, ?_⟩
  decide +kernel

end Valve
end ReactorGen
