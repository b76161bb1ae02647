import ReactorGen.Proofs.Identifiers
import ReactorGen.Proofs.InstanceLists
import ReactorGen.Proofs.Results

/-!
# Keywords of instances

The module for the interpreter makes an instance with one keyword for the place in the
bank and one for each parameter.  Each keyword is the attribute that the constructor of
the class gives a default and that the property of the parameter returns.  The keywords
of a call are different exactly if the parameters are, none of them is called like the
place in the bank, and no reserved word stands beside this word with an underscore.
-/

namespace ReactorGen

/-! ## Attributes of a class -/

namespace PythonClass

/-- The statement of the constructor that takes over the keywords of a call. -/
def takeKeywords : DraftStep :=
  .write "self.__dict__.update(kwargs)"

/-- The statement of the constructor that gives an attribute a value. -/
def setField (field value : String) : DraftStep :=
  .write ("self." ++ field ++ " = " ++ value)

/-- The definition of a property that returns an attribute. -/
def getField (property field : String) : Draft :=
  [.write "@property", .write ("def " ++ property ++ "(self):"), .indent,
    .write ("return self." ++ field ++ " # pylint: disable=no-member"), .outdent]

/-- The constructor gives an attribute a default before it takes over the keywords, so
that a keyword with the name of the attribute replaces the default. -/
def Defaults (pythonClass : PythonClass) (field default : String) : Prop :=
  [setField field default, takeKeywords].Sublist pythonClass.constructorDraft

/-- A class returns an attribute as a property. -/
def Returns (pythonClass : PythonClass) (property field : String) : Prop :=
  getField property field <:+: pythonClass.draft

variable {pythonClass : PythonClass}

theorem defaults_of_mem
    {field default : String}
    (member : setField field default ∈
      setField (attributeOf "bank_index") "0" ::
        pythonClass.parameters.map fun (name, default) =>
          setField (attributeOf name) default) :
    pythonClass.Defaults field default := by
  let front : Draft := [.write "# Constructor", .write "def __init__(self, **kwargs):",
    .indent, .write "# Define parameters and their default values"]
  let back : Draft := [.write "# Handle parameters that are set in instantiation",
    takeKeywords] ++
    ((if pythonClass.stateVars.isEmpty then []
        else [.write "# Define state variables"]) ++
      pythonClass.stateVars.map (fun (name, init) => setField name init) ++ [.outdent])
  have place : DraftStep.write ("self." ++ attributeOf "bank_index" ++ " = 0") =
      setField (attributeOf "bank_index") "0" := rfl
  have constructor_eq : pythonClass.constructorDraft = front ++
      ((setField (attributeOf "bank_index") "0" ::
        pythonClass.parameters.map fun (name, default) =>
          setField (attributeOf name) default) ++ back) := by
    simp only [constructorDraft, Draft.nested, place, front, back, List.append_assoc,
      List.cons_append, List.nil_append]
    rfl
  have taken : takeKeywords ∈ back := by simp [back]
  rw [Defaults, constructor_eq]
  apply List.sublist_append_of_sublist_right
  exact (List.singleton_sublist.mpr member).append (List.singleton_sublist.mpr taken)

theorem defaults_bank_index (pythonClass : PythonClass) :
    pythonClass.Defaults (attributeOf "bank_index") "0" :=
  defaults_of_mem (List.mem_cons_self ..)

theorem defaults_parameter
    {name default : String}
    (member : (name, default) ∈ pythonClass.parameters) :
    pythonClass.Defaults (attributeOf name) default :=
  defaults_of_mem (List.mem_cons_of_mem _ (List.mem_map.mpr ⟨_, member, rfl⟩))

theorem returns_parameter
    {name default : String}
    (member : (name, default) ∈ pythonClass.parameters) :
    pythonClass.Returns name (attributeOf name) := by
  have property : getField name (attributeOf name) <:+: propertyDraft name :=
    ⟨[], [.blank], rfl⟩
  have properties : propertyDraft name <:+:
      pythonClass.parameters.flatMap fun parameter => propertyDraft parameter.1 :=
    List.infix_of_mem_flatten (List.mem_map.mpr ⟨_, member, rfl⟩)
  refine (property.trans properties).trans ?_
  let header : Draft := [.write ("# Python class for reactor " ++ pythonClass.reactorName),
    .write ("class " ++ nameOf pythonClass.reactorName ++ ":"), .indent]
  let methods := pythonClass.methods.flatMap fun method => method.draft ++ [.blank]
  refine ⟨header ++ pythonClass.constructorDraft ++ [.blank], methods ++ [.outdent], ?_⟩
  simp only [draft, Draft.nested, header, methods, List.append_assoc, List.cons_append,
    List.nil_append]

end PythonClass

/-! ## Keywords of a call -/

/-- The names of the parameters of a class. -/
def ReactorClass.parameterNames (reactorClass : ReactorClass) : List String :=
  reactorClass.parameters.map (·.name)

/-- A class whose parameters keep apart as keywords, also from the place in the bank. -/
structure ReactorClass.KeepsKeywordsApart (reactorClass : ReactorClass) : Prop where
  once : reactorClass.parameterNames.Nodup
  bankIndex : "bank_index" ∉ reactorClass.parameterNames
  reserved : ∀ name ∈ reactorClass.parameterNames,
    Target.python.isReserved name = true -> name ++ "_" ∉ reactorClass.parameterNames

instance (reactorClass : ReactorClass) : Decidable reactorClass.KeepsKeywordsApart :=
  decidable_of_iff
    (reactorClass.parameterNames.Nodup ∧
      "bank_index" ∉ reactorClass.parameterNames ∧
      ∀ name ∈ reactorClass.parameterNames,
        Target.python.isReserved name = true -> name ++ "_" ∉ reactorClass.parameterNames)
    ⟨fun ⟨once, bankIndex, reserved⟩ => ⟨once, bankIndex, reserved⟩,
      fun ⟨once, bankIndex, reserved⟩ => ⟨once, bankIndex, reserved⟩⟩

/-- A call that gives an instance the place in its bank and the values of all parameters,
each under the name of the attribute that the class has for it. -/
structure Instantiation.Initializes
    (instantiation : Instantiation)
    (node : ReactorInstance)
    (reactorClass : ReactorClass)
    (pythonClass : PythonClass) : Prop where
  className : instantiation.reactorName = pythonClass.reactorName
  place : pythonClass.Defaults "_bank_index" "0"
  keywords : ∃ values,
    instantiation.keywords = ("_bank_index", toString node.bankIndex) :: values ∧
    List.Forall₂ (fun keyword parameter =>
        keyword.2 = node.parameterValue parameter ∧
          pythonClass.Defaults keyword.1 parameter.default ∧
          pythonClass.Returns (pythonName parameter.name) keyword.1)
      values reactorClass.parameters

/-- The keywords of a call are different exactly if the parameters keep apart. -/
theorem ReactorClass.nodup_keywords_iff (reactorClass : ReactorClass) :
    (PythonClass.attributeOf "bank_index" :: reactorClass.parameters.map fun parameter =>
        PythonClass.attributeOf (pythonName parameter.name)).Nodup ↔
      reactorClass.KeepsKeywordsApart := by
  have attribute_inj : Function.Injective PythonClass.attributeOf :=
    fun _ _ => (String.append_right_inj "_").mp
  have keywords_eq : (PythonClass.attributeOf "bank_index" ::
      reactorClass.parameters.map fun parameter =>
        PythonClass.attributeOf (pythonName parameter.name)) =
      ("bank_index" :: reactorClass.parameterNames.map Target.python.sanitize).map
        PythonClass.attributeOf := by
    simp only [parameterNames, List.map_cons, List.map_map]
    rfl
  have bankIndex_iff (name : String) :
      Target.python.sanitize name = "bank_index" ↔ name = "bank_index" :=
    Target.sanitize_eq_iff_of_not_endsIn (by decide) (by decide)
  rw [keywords_eq, List.nodup_map_iff attribute_inj, List.nodup_cons,
    Target.nodup_map_sanitize_iff]
  simp only [List.mem_map, bankIndex_iff, exists_eq_right]
  constructor
  · rintro ⟨bankIndex, once, reserved⟩
    exact ⟨once, bankIndex, reserved⟩
  · intro apart
    exact ⟨apart.bankIndex, apart.once, apart.reserved⟩

namespace Program

variable {program : Program} {id : InstanceId}

theorem instantiation_initializes
    {instantiation : Instantiation}
    (made : program.instantiation id = .ok instantiation) :
    ∃ node reactorClass pythonClass,
      program.tree.node id = .ok node ∧
      program.classAt node.reactorClass = .ok reactorClass ∧
      program.pythonClass node.reactorClass = .ok pythonClass ∧
      instantiation.Initializes node reactorClass pythonClass ∧
      ((instantiation.keywords.map Prod.fst).Nodup ↔ reactorClass.KeepsKeywordsApart) := by
  simp only [Program.instantiation, Result.bind_eq_ok, Result.pure_eq_ok] at made
  obtain ⟨node, node_eq, reactorClass, class_eq, path, _, list, _, rfl⟩ := made
  have pythonClass_eq : program.pythonClass node.reactorClass =
      .ok (.ofReactorClass reactorClass (program.classIsNative reactorClass)) := by
    rw [pythonClass, class_eq]
    rfl
  refine ⟨node, reactorClass, _, node_eq, class_eq, pythonClass_eq, ?_, ?_⟩
  · constructor
    case className => rfl
    case place => exact PythonClass.defaults_bank_index _
    case keywords =>
      refine ⟨_, rfl, ?_⟩
      rw [List.forall₂_map_left_iff, List.forall₂_same]
      intro parameter member
      have isParameter : (pythonName parameter.name, parameter.default) ∈
          (PythonClass.ofReactorClass reactorClass
            (program.classIsNative reactorClass)).parameters :=
        List.mem_map.mpr ⟨parameter, member, rfl⟩
      exact ⟨rfl, PythonClass.defaults_parameter isParameter,
        PythonClass.returns_parameter isParameter⟩
  · rw [← reactorClass.nodup_keywords_iff, List.map_cons, List.map_map]
    rfl

/-- The module makes exactly the instances of a federate whose reactions are not native.
Every call sets the attributes that the class of the instance has, and its keywords are
different exactly if the parameters of the class keep apart as keywords. -/
theorem pythonInstances_keywordsApart_iff
    {federate : Federate}
    {instances : Instances}
    (made : program.pythonInstances federate = .ok instances) :
    ∃ contained interpreted,
      program.federateInstances federate = .ok contained ∧
      interpreted.Sublist contained ∧
      (∀ id ∈ contained, id ∈ interpreted ↔ program.Interprets id) ∧
      List.Forall₂ (fun id instantiation => ∃ node reactorClass pythonClass,
          program.tree.node id = .ok node ∧
          program.classAt node.reactorClass = .ok reactorClass ∧
          program.pythonClass node.reactorClass = .ok pythonClass ∧
          instantiation.Initializes node reactorClass pythonClass ∧
          ((instantiation.keywords.map Prod.fst).Nodup ↔ reactorClass.KeepsKeywordsApart))
        interpreted instances.instantiations := by
  obtain ⟨contained, interpreted, contained_eq, interpreted_eq, instantiations_eq, _⟩ :=
    pythonInstances_eq_ok.mp made
  obtain ⟨_, kept⟩ := Result.filterM_eq_ok.mp interpreted_eq
  refine ⟨contained, interpreted, contained_eq, ?_, ?_, ?_⟩
  · rw [kept]
    exact List.filter_sublist
  · intro id member
    rw [kept, List.mem_filter, holds_isInterpreted_iff]
    exact and_iff_right member
  · exact (Result.mapM_eq_ok.mp instantiations_eq).imp fun _ _ => instantiation_initializes

end Program

/-! ## An instrument with parameters -/

namespace Instrument

/-- A class whose parameters are zero. -/
def stringClass (names : List String) : ReactorClass :=
  { ReactorClass.ofName "String" with
    parameters := names.map fun name => ⟨name, "0"⟩ }

/-- An instrument with one string. -/
def program (names : List String) : Program where
  name := "Instrument"
  target := "Python"
  properties := []
  preambles := []
  classes := [{ ReactorClass.ofName "Instrument" with isMain := true }, stringClass names]
  tree := ⟨[{ ReactorInstance.ofName "Instrument" ⟨0⟩ none with children := [⟨1⟩] },
    { ReactorInstance.ofName "string" ⟨1⟩ (some ⟨0⟩) with
      parameterValues := [("lambda", "65")] }], []⟩
  federates := [.singleton]
  connections := []

/-- A reserved word keeps apart from other names. -/
theorem lambda_keywordsApart :
    ∃ instances,
      (program ["gain", "lambda"]).pythonInstances .singleton = .ok instances ∧
      instances.instantiations.map (·.keywords) =
        [[("_bank_index", "0")], [("_bank_index", "0"), ("_gain", "0"), ("_lambda_", "65")]] ∧
      ∀ instantiation ∈ instances.instantiations,
        (instantiation.keywords.map Prod.fst).Nodup := by
  obtain ⟨instances, instances_eq⟩ : ∃ instances,
      (program ["gain", "lambda"]).pythonInstances .singleton = .ok instances := ⟨_, rfl⟩
  obtain ⟨_, _, _, _, _, made⟩ := Program.pythonInstances_keywordsApart_iff instances_eq
  have keepApart : ∀ reactorClass ∈ (program ["gain", "lambda"]).classes,
      reactorClass.KeepsKeywordsApart := by decide +kernel
  refine ⟨instances, instances_eq, ?_, ?_⟩
  · obtain rfl := Except.ok.inj instances_eq
    decide +kernel
  intro instantiation member
  obtain ⟨_, _, _, reactorClass, _, _, class_eq, _, _, apart⟩ :=
    Result.exists_item_of_forall₂ made member
  exact apart.mpr (keepApart reactorClass
    (List.mem_of_getElem? (Result.orDangling_eq_ok.mp class_eq)))

/-- Different parameters get the same keyword: one that is called like the place in the
bank, and one that is called like a reserved word with an underscore. -/
theorem bankIndex_sharesKeywords :
    (stringClass ["bank_index", "lambda", "lambda_"]).parameterNames.Nodup ∧
      ∃ instances,
        (program ["bank_index", "lambda", "lambda_"]).pythonInstances .singleton =
            .ok instances ∧
          ∃ instantiation ∈ instances.instantiations,
            instantiation.reactorName = "String" ∧
            instantiation.keywords.map Prod.fst =
              ["_bank_index", "_bank_index", "_lambda_", "_lambda_"] ∧
            ¬ (instantiation.keywords.map Prod.fst).Nodup := by
  refine ⟨by decide, _, rfl, _, List.mem_of_getElem? (i := 1) rfl, rfl, ?_, ?_⟩
  · decide +kernel
  · decide +kernel

end Instrument
end ReactorGen
