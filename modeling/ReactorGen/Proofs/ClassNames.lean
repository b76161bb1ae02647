import Mathlib.Data.List.Nodup
import ReactorGen.Proofs.FederateSources
import ReactorGen.Proofs.PlainNames

/-!
# Names in native code

The native code of a federate names types, constructors and functions after the lowercase
names of its classes, and joins words with underscores.  Which of these names are the same
is settled here once, for all names of all kinds: besides names that are built from the
same words, a type can only be called like a type of a class whose name goes on with an
underscore, or like a constructor.
-/

namespace ReactorGen

open Text

/-! ## Names of all kinds -/

/-- A name that the native code of a class defines.  Classes are known by their lowercase
names, which is how native names spell them. -/
inductive NativeName
  /-- The type of a port or an action, or of the struct. -/
  | type (stem member : String)
  | constructor (stem : String)
  | reaction (stem : String) (index : Nat)
  | deadline (stem : String) (index : Nat)
deriving DecidableEq, Repr

namespace NativeName

/-- The spelling of a name. -/
def text : NativeName -> String
  | type stem member => stem ++ "_" ++ member ++ "_t"
  | constructor stem => "new_" ++ stem
  | reaction stem index => "_" ++ stem ++ "reaction_function_" ++ toString index
  | deadline stem index => "_" ++ stem ++ "_deadline_function" ++ toString index

/-- The class of a name. -/
def stem : NativeName -> String
  | type stem _ => stem
  | constructor stem => stem
  | reaction stem _ => stem
  | deadline stem _ => stem

/-- Different names that are spelled alike. -/
inductive Collides : NativeName -> NativeName -> Prop
  /-- The name of one class goes on where a port of the other has the same words. -/
  | types (stem rest member : String) :
    Collides (type stem (rest ++ "_" ++ member)) (type (stem ++ "_" ++ rest) member)
  /-- Types of the class `new` are spelled like constructors. -/
  | newClass (member : String) :
    Collides (constructor (member ++ "_t")) (type "new" member)
  /-- So are those of a class whose name starts with this word. -/
  | newStem (rest member : String) :
    Collides (constructor (rest ++ "_" ++ member ++ "_t")) (type ("new_" ++ rest) member)

theorem Collides.ne
    {first second : NativeName}
    (collides : first.Collides second) :
    first ≠ second := by
  cases collides with
  | types stem rest member =>
    intro equal
    have lengths := congrArg String.length (congrArg NativeName.stem equal)
    have underscore : "_".length = 1 := rfl
    simp only [NativeName.stem, String.length_append] at lengths
    omega
  | newClass member => exact fun equal => NativeName.noConfusion equal
  | newStem rest member => exact fun equal => NativeName.noConfusion equal

theorem Collides.text_eq
    {first second : NativeName}
    (collides : first.Collides second) :
    first.text = second.text := by
  cases collides with
  | types stem rest member => simp only [text, String.append_assoc]
  | newClass member =>
    simp only [text, String.append_assoc]
    rfl
  | newStem rest member =>
    simp only [text, String.append_assoc]

/-! ### Names of two kinds -/

theorem text_type_eq_type
    {first second left right : String}
    (equal : (type first left).text = (type second right).text) :
    type first left = type second right ∨
      (type first left).Collides (type second right) ∨
      (type second right).Collides (type first left) := by
  rcases append_underscore_eq_iff.mp ((String.append_left_inj "_t").mp equal) with
    ⟨rfl, rfl⟩ | ⟨rest, rfl, rfl⟩ | ⟨rest, rfl, rfl⟩
  · exact .inl rfl
  · exact .inr (.inl (.types ..))
  · exact .inr (.inr (.types ..))

theorem text_constructor_eq_type
    {stem other member : String}
    (equal : (constructor stem).text = (type other member).text) :
    (constructor stem).Collides (type other member) := by
  have cut : "new" ++ "_" ++ stem = other ++ "_" ++ (member ++ "_t") := by
    rw [← String.append_assoc]
    exact equal
  rcases append_underscore_eq_iff.mp cut with
    ⟨rfl, rfl⟩ | ⟨rest, rfl, rfl⟩ | ⟨rest, new_eq, _⟩
  · exact .newClass member
  · rw [← String.append_assoc]
    exact .newStem rest member
  · -- No underscore is inside the word that constructors start with.
    have free : '_' ∉ "new".toList := by decide
    rw [new_eq] at free
    exact absurd (by simp) free

/-- Types end in a letter. -/
theorem text_type_ne_numbered (stem member before : String) (index : Nat) :
    (type stem member).text ≠ before ++ toString index := by
  intro equal
  have ends : EndsIn 't' (type stem member).text := EndsIn.append (by decide) _
  rw [equal] at ends
  exact not_endsIn_numbered (by decide) before index ends

theorem text_constructor_ne_reaction (stem other : String) (index : Nat) :
    (constructor stem).text ≠ (reaction other index).text := by
  simp only [text, String.append_assoc]
  exact append_ne_append_of_take 1 (by decide) (by decide) (by decide) _ _

theorem text_constructor_ne_deadline (stem other : String) (index : Nat) :
    (constructor stem).text ≠ (deadline other index).text := by
  simp only [text, String.append_assoc]
  exact append_ne_append_of_take 1 (by decide) (by decide) (by decide) _ _

/-- The functions of reactions have an underscore before the number. -/
theorem text_reaction_inj
    {first second : String}
    {left right : Nat}
    (equal : (reaction first left).text = (reaction second right).text) :
    first = second ∧ left = right := by
  have ends (stem : String) : EndsIn '_' ("_" ++ stem ++ "reaction_function_") :=
    EndsIn.append (by decide) _
  obtain ⟨before, numbers⟩ := numbered_inj (by decide) (ends first) (ends second) equal
  have stems := (String.append_left_inj "reaction_function_").mp before
  exact ⟨(String.append_right_inj "_").mp stems, numbers⟩

/-- The functions of deadlines have a letter there. -/
theorem text_deadline_inj
    {first second : String}
    {left right : Nat}
    (equal : (deadline first left).text = (deadline second right).text) :
    first = second ∧ left = right := by
  have ends (stem : String) : EndsIn 'n' ("_" ++ stem ++ "_deadline_function") :=
    EndsIn.append (by decide) _
  obtain ⟨before, numbers⟩ := numbered_inj (by decide) (ends first) (ends second) equal
  have stems := (String.append_left_inj "_deadline_function").mp before
  exact ⟨(String.append_right_inj "_").mp stems, numbers⟩

/-- Behind the last underscore, the function of a reaction has only its number. -/
theorem text_reaction_ne_deadline (first second : String) (left right : Nat) :
    (reaction first left).text ≠ (deadline second right).text := by
  intro equal
  have firstEnds : EndsIn '_' ("_" ++ first ++ "reaction_function_") :=
    EndsIn.append (by decide) _
  have secondEnds : EndsIn '_' ("_" ++ second ++ "_deadline_") :=
    EndsIn.append (by decide) _
  have free : '_' ∉ ("function" ++ toString right).toList := by
    rw [String.toList_append, List.mem_append, not_or]
    exact ⟨by decide, not_mem_toString (by decide) right⟩
  -- The function of a deadline has a word in front of the number.
  have cut : "_" ++ first ++ "reaction_function_" ++ toString left =
      "_" ++ second ++ "_deadline_" ++ ("function" ++ toString right) := by
    rw [← String.append_assoc]
    rw [text, text] at equal
    rw [equal]
    simp only [String.append_assoc]
    rfl
  obtain ⟨_, numbers⟩ := append_inj_of_endsIn firstEnds secondEnds
    (not_mem_toString (by decide) left) free cut
  have digits : 'f' ∉ (toString left).toList := not_mem_toString (by decide) left
  rw [numbers] at digits
  exact digits (by simp)

/-- Names are spelled alike exactly if they are the same or collide. -/
theorem text_eq_iff {first second : NativeName} :
    first.text = second.text ↔
      first = second ∨ first.Collides second ∨ second.Collides first := by
  constructor
  · -- Only types and constructors meet; all other kinds start or end differently.
    intro equal
    cases first with
    | type stem member =>
      cases second with
      | type => exact text_type_eq_type equal
      | constructor => exact .inr (.inr (text_constructor_eq_type equal.symm))
      | reaction => exact absurd equal (text_type_ne_numbered _ _ _ _)
      | deadline => exact absurd equal (text_type_ne_numbered _ _ _ _)
    | constructor stem =>
      cases second with
      | type => exact .inr (.inl (text_constructor_eq_type equal))
      | constructor => exact .inl (congrArg constructor ((String.append_right_inj _).mp equal))
      | reaction => exact absurd equal (text_constructor_ne_reaction _ _ _)
      | deadline => exact absurd equal (text_constructor_ne_deadline _ _ _)
    | reaction stem index =>
      cases second with
      | type => exact absurd equal.symm (text_type_ne_numbered _ _ _ _)
      | constructor => exact absurd equal.symm (text_constructor_ne_reaction _ _ _)
      | reaction =>
        obtain ⟨rfl, rfl⟩ := text_reaction_inj equal
        exact .inl rfl
      | deadline => exact absurd equal (text_reaction_ne_deadline _ _ _ _)
    | deadline stem index =>
      cases second with
      | type => exact absurd equal.symm (text_type_ne_numbered _ _ _ _)
      | constructor => exact absurd equal.symm (text_constructor_ne_deadline _ _ _)
      | reaction => exact absurd equal.symm (text_reaction_ne_deadline _ _ _ _)
      | deadline =>
        obtain ⟨rfl, rfl⟩ := text_deadline_inj equal
        exact .inl rfl
  · rintro (equal | collides | collides)
    · rw [equal]
    · exact collides.text_eq
    · exact collides.text_eq.symm

/-- Different names are spelled differently unless two of them collide. -/
theorem nodup_map_text_iff {names : List NativeName} :
    (names.map text).Nodup ↔
      names.Nodup ∧ ∀ first ∈ names, ∀ second ∈ names, ¬first.Collides second := by
  constructor
  · intro distinct
    refine ⟨distinct.of_map, ?_⟩
    intro first inFirst second inSecond collides
    apply collides.ne
    exact List.inj_on_of_nodup_map distinct inFirst inSecond collides.text_eq
  · rintro ⟨distinct, apart⟩
    refine distinct.map_on ?_
    intro first inFirst second inSecond equal
    rcases text_eq_iff.mp equal with same | collides | collides
    · exact same
    · exact absurd collides (apart _ inFirst _ inSecond)
    · exact absurd collides (apart _ inSecond _ inFirst)

end NativeName

/-! ## The names of a class -/

/-- The functions of a reaction and of its deadline. -/
def functionsOf (stem : String) (index : Nat) (reaction : Reaction) : List NativeName :=
  .reaction stem index :: if reaction.deadline.isSome then [.deadline stem index] else []

theorem mem_functionsOf
    {stem : String}
    {index : Nat}
    {reaction : Reaction}
    {name : NativeName} :
    name ∈ functionsOf stem index reaction ↔
      name = .reaction stem index ∨
        reaction.deadline.isSome = true ∧ name = .deadline stem index := by
  cases late : reaction.deadline with
  | none => simp [functionsOf, late]
  | some deadline => simp [functionsOf, late]

theorem nodup_functionsOf (stem : String) (index : Nat) (reaction : Reaction) :
    (functionsOf stem index reaction).Nodup := by
  cases late : reaction.deadline with
  | none => simp [functionsOf, late]
  | some deadline => simp [functionsOf, late]

theorem text_functionsOf (reactorClass : ReactorClass) (index : Nat) (reaction : Reaction) :
    (functionsOf (lowercase reactorClass.name) index reaction).map NativeName.text =
      reactorClass.functionNames index reaction := by
  rw [functionsOf, List.map_cons, ReactorClass.functionNames]
  cases reaction.deadline <;> rfl

namespace LayoutParts

/-- The class as native names spell it. -/
def stem (parts : LayoutParts) : String := lowercase parts.reactorClass.name

/-- The names of the ports, and of the actions that the federate generates. -/
def aliased (parts : LayoutParts) : List String :=
  parts.ports.map (·.name) ++ parts.actions.map (·.name)

/-- The types of ports and actions. -/
def aliasNames (parts : LayoutParts) : List NativeName :=
  parts.aliased.map (.type parts.stem)

/-- The functions of reactions and of deadlines. -/
def functionNames (parts : LayoutParts) : List NativeName :=
  parts.reactions.flatMap fun entry => functionsOf parts.stem entry.1 entry.2

/-- The type of the struct and its constructor. -/
def structNames (parts : LayoutParts) : List NativeName :=
  [.type parts.stem "self", .constructor parts.stem]

/-- The names that the native code of a class defines. -/
def nativeNames (parts : LayoutParts) : List NativeName :=
  parts.aliasNames ++ parts.structNames ++ parts.functionNames

variable {parts : LayoutParts}

theorem stem_of_mem
    {name : NativeName}
    (member : name ∈ parts.nativeNames) :
    name.stem = parts.stem := by
  simp only [nativeNames, aliasNames, structNames, functionNames, List.mem_append,
    List.mem_map, List.mem_cons, List.not_mem_nil, or_false, List.mem_flatMap,
    mem_functionsOf] at member
  rcases member with (⟨_, _, rfl⟩ | rfl | rfl) | ⟨_, _, rfl | ⟨_, rfl⟩⟩
  all_goals rfl

theorem nodup_functionNames
    (distinct : (parts.reactions.map Prod.fst).Nodup) :
    parts.functionNames.Nodup := by
  rw [functionNames, List.nodup_flatMap]
  refine ⟨fun entry _ => nodup_functionsOf .., ?_⟩
  rw [List.Nodup, List.pairwise_map] at distinct
  refine distinct.imp fun {first second} different => ?_
  intro name inFirst inSecond
  rcases mem_functionsOf.mp inFirst with rfl | ⟨_, rfl⟩
  · rcases mem_functionsOf.mp inSecond with equal | ⟨_, equal⟩
    · exact different (NativeName.reaction.inj equal).2
    · exact NativeName.noConfusion equal
  · rcases mem_functionsOf.mp inSecond with equal | ⟨_, equal⟩
    · exact NativeName.noConfusion equal
    · exact different (NativeName.deadline.inj equal).2

/-- Within a class, only a port or an action that is called `self` has the name of
something else. -/
theorem nodup_nativeNames_iff
    (aliased : parts.aliased.Nodup)
    (distinct : (parts.reactions.map Prod.fst).Nodup) :
    parts.nativeNames.Nodup ↔ "self" ∉ parts.aliased := by
  have aliases : parts.aliasNames.Nodup :=
    aliased.map fun _ _ equal => (NativeName.type.inj equal).2
  have structs : parts.structNames.Nodup := by simp [structNames]
  have functions : (parts.aliasNames ++ parts.structNames).Disjoint parts.functionNames := by
    intro name isOther isFunction
    obtain ⟨entry, _, isFunction⟩ := List.mem_flatMap.mp isFunction
    simp only [aliasNames, structNames, List.mem_append, List.mem_map, List.mem_cons,
      List.not_mem_nil, or_false] at isOther
    rcases mem_functionsOf.mp isFunction with rfl | ⟨_, rfl⟩
    · simp at isOther
    · simp at isOther
  have self : parts.aliasNames.Disjoint parts.structNames ↔ "self" ∉ parts.aliased := by
    simp [List.disjoint_left, aliasNames, structNames, ← List.forall_mem_ne']
  rw [nativeNames, List.nodup_append', List.nodup_append', self]
  simp only [aliases, structs, functions, nodup_functionNames distinct, true_and, and_true]

end LayoutParts

/-- The names of a class and of the functions of its code. -/
structure ClassCode.Defines (code : ClassCode) (parts : LayoutParts) : Prop where
  aliases : List.Forall₂
    (fun definition name =>
      ∃ existing, definition = typeDefinition existing (NativeName.text name))
    code.typeDefinitions parts.aliasNames
  struct : code.selfStruct.typeName = (NativeName.type parts.stem "self").text
  constructor : Naming.constructor code.selfStruct.className =
    (NativeName.constructor parts.stem).text
  functions : code.functionNames = parts.functionNames.map NativeName.text

/-! ## The names of a federate -/

/-- No two classes of a federate have the same lowercase name, none has a port or an action
called `self`, and no names of them collide. -/
structure KeepNamesApart (parts : List LayoutParts) : Prop where
  stems : (parts.map LayoutParts.stem).Nodup
  self : ∀ one ∈ parts, "self" ∉ one.aliased
  apart : ∀ first ∈ parts.flatMap LayoutParts.nativeNames,
    ∀ second ∈ parts.flatMap LayoutParts.nativeNames, ¬first.Collides second

/-- Different names stand for different things exactly if classes differ in lowercase and
have no `self` besides their own. -/
theorem nodup_flatMap_nativeNames_iff
    {parts : List LayoutParts}
    (aliased : ∀ one ∈ parts, one.aliased.Nodup)
    (distinct : ∀ one ∈ parts, (one.reactions.map Prod.fst).Nodup) :
    (parts.flatMap LayoutParts.nativeNames).Nodup ↔
      (parts.map LayoutParts.stem).Nodup ∧ ∀ one ∈ parts, "self" ∉ one.aliased := by
  have constructors (one : LayoutParts) : .constructor one.stem ∈ one.nativeNames := by
    simp [LayoutParts.nativeNames, LayoutParts.structNames]
  have stems_iff : (parts.map LayoutParts.stem).Nodup ↔
      parts.Pairwise fun first second => first.stem ≠ second.stem := List.pairwise_map
  rw [List.nodup_flatMap, stems_iff, and_comm]
  refine and_congr ⟨?_, ?_⟩ ?_
  · intro disjoint
    refine disjoint.imp fun {first second} apart same => ?_
    have inFirst := constructors first
    rw [same] at inFirst
    exact apart inFirst (constructors second)
  · intro stems
    refine stems.imp fun {first second} different => ?_
    intro name inFirst inSecond
    exact different ((LayoutParts.stem_of_mem inFirst).symm.trans
      (LayoutParts.stem_of_mem inSecond))
  · exact forall₂_congr fun one inParts =>
      LayoutParts.nodup_nativeNames_iff (aliased one inParts) (distinct one inParts)

/-- Names are spelled differently exactly if classes keep them apart. -/
theorem nodup_text_iff
    {parts : List LayoutParts}
    (aliased : ∀ one ∈ parts, one.aliased.Nodup)
    (distinct : ∀ one ∈ parts, (one.reactions.map Prod.fst).Nodup) :
    ((parts.flatMap LayoutParts.nativeNames).map NativeName.text).Nodup ↔
      KeepNamesApart parts := by
  rw [NativeName.nodup_map_text_iff, nodup_flatMap_nativeNames_iff aliased distinct]
  constructor
  · rintro ⟨⟨stems, self⟩, apart⟩
    exact ⟨stems, self, apart⟩
  · rintro ⟨stems, self, apart⟩
    exact ⟨⟨stems, self⟩, apart⟩

/-- Names collide only through underscores in the names of classes. -/
theorem keepNamesApart_of_free
    {parts : List LayoutParts}
    (stems : (parts.map LayoutParts.stem).Nodup)
    (self : ∀ one ∈ parts, "self" ∉ one.aliased)
    (free : ∀ one ∈ parts, '_' ∉ one.stem.toList) :
    KeepNamesApart parts := by
  have freeOf {name : NativeName} (member : name ∈ parts.flatMap LayoutParts.nativeNames) :
      '_' ∉ name.stem.toList := by
    obtain ⟨one, inParts, inNames⟩ := List.mem_flatMap.mp member
    rw [LayoutParts.stem_of_mem inNames]
    exact free one inParts
  refine ⟨stems, self, ?_⟩
  intro first inFirst second inSecond collides
  have freeFirst := freeOf inFirst
  have freeSecond := freeOf inSecond
  cases collides with
  | types stem rest member => exact freeSecond (by simp [NativeName.stem])
  | newClass member => exact freeFirst (by simp [NativeName.stem])
  | newStem rest member => exact freeFirst (by simp [NativeName.stem])

/-! ## Names in the code of a federate -/

/-- The names of the ports and the actions of a class. -/
def ReactorClass.aliased (reactorClass : ReactorClass) : List String :=
  (reactorClass.inputs ++ reactorClass.outputs).map (·.name) ++
    reactorClass.actions.map (·.name)

namespace Program

variable
  {program : Program}
  {environment : Environment}
  {federate : Federate}
  {id : ClassId}

theorem HasParts.nodup_aliased
    {parts : LayoutParts}
    (hasParts : program.HasParts federate id parts)
    (distinct : ∀ reactorClass ∈ program.classes, reactorClass.aliased.Nodup) :
    parts.aliased.Nodup := by
  have member : parts.reactorClass ∈ program.classes :=
    List.mem_of_getElem? (Result.orDangling_eq_ok.mp hasParts.reactorClass)
  have generated := (classActions_sublist hasParts.reactorClass hasParts.actions).map
    ActionDecl.name
  exact (distinct _ member).sublist ((List.Sublist.refl _).append generated)

/-- What is generated for a class defines its names. -/
theorem defines_of_classCode
    {settings : Settings}
    {code : ClassCode}
    (code_eq : program.classCode settings federate id = .ok code) :
    ∃ parts, program.HasParts federate id parts ∧ code.Defines parts := by
  simp only [classCode, Result.bind_eq_ok, Result.liftM_eq_ok, Result.pure_eq_ok] at code_eq
  obtain ⟨definitions, definitions_eq, layout, layout_eq, reactions, reactions_eq, rfl⟩ :=
    code_eq
  obtain ⟨parts, hasParts, laidOut⟩ := exists_parts layout_eq
  rw [reactionCode, hasParts.reactorClass, Result.liftM_ok, Result.ok_bind,
    hasParts.positions, Result.liftM_ok, Result.ok_bind, Result.mapM_eq_ok] at reactions_eq
  have implemented := reactions_eq.imp fun _ _ => implements_of_reactionCodeAt
  rw [typeDefinitions, hasParts.reactorClass, Result.ok_bind, hasParts.actions,
    Result.ok_bind, Result.pure_eq_ok] at definitions_eq
  refine ⟨parts, hasParts, ?_⟩
  constructor
  case aliases =>
    have names : parts.aliasNames =
        parts.ports.map (fun port => .type parts.stem port.name) ++
          parts.actions.map (fun action => .type parts.stem action.name) := by
      simp [LayoutParts.aliasNames, LayoutParts.aliased, Function.comp_def]
    rw [← definitions_eq, names]
    refine List.rel_append ?_ ?_
    · exact List.forall₂_map_left_iff.mpr (List.forall₂_map_right_iff.mpr
        (List.forall₂_same.mpr fun port _ => ⟨_, rfl⟩))
    · exact List.forall₂_map_left_iff.mpr (List.forall₂_map_right_iff.mpr
        (List.forall₂_same.mpr fun action _ => ⟨_, rfl⟩))
  case struct =>
    rw [SelfStruct.typeName, laidOut.className, Naming.selfType, NativeName.text]
    simp only [String.append_assoc]
    rfl
  case constructor =>
    rw [laidOut.className]
    rfl
  case functions =>
    rw [ClassCode.functionNames, ClassCode.functions, functionNames_of_implements implemented,
      LayoutParts.functionNames, List.map_flatMap]
    simp only [LayoutParts.stem, text_functionsOf]
    rfl

/-- The code of several classes, one after the other. -/
theorem exists_parts_of_classCodes
    {settings : Settings}
    {classes : List ClassId}
    {codes : List ClassCode}
    (agree : List.Forall₂ (program.ClassAgrees settings federate) classes codes) :
    ∃ parts, List.Forall₂ (program.HasParts federate) classes parts ∧
      List.Forall₂ ClassCode.Defines codes parts := by
  induction agree with
  | nil => exact ⟨[], .nil, .nil⟩
  | cons first _ inductionHypothesis =>
    obtain ⟨one, hasParts, defines⟩ := defines_of_classCode first.1
    obtain ⟨others, haveParts, othersDefine⟩ := inductionHypothesis
    exact ⟨one :: others, .cons hasParts haveParts, .cons defines othersDefine⟩

/-- The native code of a federate defines the names of all its classes. -/
theorem exists_parts_of_generateFederate
    {baseName : String}
    {generated : FederateArtifacts}
    (interpreted : environment.settings.target = .python)
    (generated_eq :
      (program.generateFederate environment federate baseName).run.result =
        .ok generated) :
    ∃ (classes : List ClassId) (source : NativeSource) (parts : List LayoutParts),
      program.federateClasses federate = .ok classes ∧
        .ofContents (program.topLevelName baseName federate ++ ".c") source.text ∈
          generated.artifacts ∧
        List.Forall₂ (program.HasParts federate) classes parts ∧
        List.Forall₂ ClassCode.Defines source.classes parts := by
  obtain ⟨files, files_eq, artifacts_eq, _⟩ :=
    exists_files_of_generateFederate generated_eq
  rw [federateFiles, Report.result_run_bind, Result.bind_eq_ok] at files_eq
  obtain ⟨classes, classes_eq, files_eq⟩ := files_eq
  rw [if_pos ((program.target_federateSettings _).trans interpreted)] at files_eq
  obtain ⟨source, member, agree⟩ := exists_source_of_interpreterFiles files_eq
  obtain ⟨parts, hasParts, defines⟩ := exists_parts_of_classCodes agree
  refine ⟨classes, source, parts, classes_eq, ?_, hasParts, defines⟩
  rw [artifacts_eq]
  exact List.mem_append_left _ member

/-- All types, constructors and functions of all classes of a federate are called
differently exactly if the classes keep their names apart. -/
theorem generateFederate_classNamesApart_iff
    {baseName : String}
    {generated : FederateArtifacts}
    (interpreted : environment.settings.target = .python)
    (generated_eq :
      (program.generateFederate environment federate baseName).run.result =
        .ok generated)
    (distinct : ∀ reactorClass ∈ program.classes, reactorClass.aliased.Nodup) :
    ∃ (classes : List ClassId) (source : NativeSource) (parts : List LayoutParts),
      program.federateClasses federate = .ok classes ∧
        .ofContents (program.topLevelName baseName federate ++ ".c") source.text ∈
          generated.artifacts ∧
        List.Forall₂ (program.HasParts federate) classes parts ∧
        List.Forall₂ ClassCode.Defines source.classes parts ∧
        (((parts.flatMap LayoutParts.nativeNames).map NativeName.text).Nodup ↔
          KeepNamesApart parts) := by
  obtain ⟨classes, source, parts, classes_eq, member, hasParts, defines⟩ :=
    exists_parts_of_generateFederate interpreted generated_eq
  refine ⟨classes, source, parts, classes_eq, member, hasParts, defines, ?_⟩
  have known : ∀ one ∈ parts, ∃ id, program.HasParts federate id one := by
    intro one inParts
    obtain ⟨id, _, hasOne⟩ := Result.exists_item_of_forall₂ hasParts inParts
    exact ⟨id, hasOne⟩
  apply nodup_text_iff
  · intro one inParts
    obtain ⟨id, hasOne⟩ := known one inParts
    exact hasOne.nodup_aliased distinct
  · intro one inParts
    obtain ⟨id, hasOne⟩ := known one inParts
    exact ReactorClass.nodup_map_fst_reactionsAt
      (classReactions_spec hasOne.reactorClass hasOne.positions).1

theorem HasParts.rightUnique (program : Program) (federate : Federate) :
    Relator.RightUnique (program.HasParts federate) :=
  fun _ _ _ hasFirst hasSecond => hasFirst.unique hasSecond

end Program

/-! ## A yard with sensors -/

namespace Yard

/-- A class with one output. -/
def sensorClass (name : String) : ReactorClass :=
  { ReactorClass.ofName name with outputs := [⟨"value", none, none⟩] }

/-- A yard with two sensors, each of a class of its own. -/
def program (second : String) : Program where
  name := "Yard"
  target := "Python"
  properties := []
  preambles := []
  classes := [{ ReactorClass.ofName "Yard" with isMain := true }, sensorClass "Sensor",
    sensorClass second]
  tree := ⟨[{ ReactorInstance.ofName "Yard" ⟨0⟩ none with children := [⟨1⟩, ⟨2⟩] },
    .ofName "first" ⟨1⟩ (some ⟨0⟩), .ofName "second" ⟨2⟩ (some ⟨0⟩)], []⟩
  federates := [.singleton]
  connections := []

/-- The parts of the three classes, which have neither actions nor reactions. -/
def parts (second : String) : List LayoutParts :=
  (program second).classes.map fun reactorClass => ⟨reactorClass, [], [], []⟩

theorem hasParts (second : String) :
    List.Forall₂ ((program second).HasParts .singleton) [⟨0⟩, ⟨1⟩, ⟨2⟩] (parts second) :=
  .cons ⟨rfl, rfl, rfl, rfl⟩ (.cons ⟨rfl, rfl, rfl, rfl⟩ (.cons ⟨rfl, rfl, rfl, rfl⟩ .nil))

/-- A sensor and a gauge keep their names apart. -/
theorem gauge_namesApart :
    ∃ (generated : FederateArtifacts) (source : NativeSource),
      ((program "Gauge").generateFederate Workshop.environment .singleton "Yard").run.result =
          .ok generated ∧
        .ofContents "Yard.c" source.text ∈ generated.artifacts ∧
        List.Forall₂ ClassCode.Defines source.classes (parts "Gauge") ∧
        (((parts "Gauge").flatMap LayoutParts.nativeNames).map NativeName.text).Nodup := by
  obtain ⟨generated, generated_eq⟩ : ∃ generated,
      ((program "Gauge").generateFederate Workshop.environment .singleton
        "Yard").run.result = .ok generated := ⟨_, rfl⟩
  obtain ⟨classes, source, known, classes_eq, member, hasKnown, defines, apart⟩ :=
    Program.generateFederate_classNamesApart_iff rfl generated_eq (by decide)
  obtain rfl : [⟨0⟩, ⟨1⟩, ⟨2⟩] = classes := Except.ok.inj classes_eq
  obtain rfl := (Program.HasParts.rightUnique _ _).forall₂ hasKnown (hasParts "Gauge")
  refine ⟨generated, source, generated_eq, member, defines, apart.mpr ?_⟩
  exact keepNamesApart_of_free (by decide) (by decide) (by decide)

/-- Two classes whose names differ in case only share all their names. -/
theorem sensor_sharesNames :
    ((program "sensor").classes.map (·.name)).Nodup ∧
      (∀ reactorClass ∈ (program "sensor").classes, reactorClass.aliased.Nodup) ∧
      ∃ (generated : FederateArtifacts) (source : NativeSource),
        ((program "sensor").generateFederate Workshop.environment .singleton
            "Yard").run.result = .ok generated ∧
          .ofContents "Yard.c" source.text ∈ generated.artifacts ∧
          List.Forall₂ ClassCode.Defines source.classes (parts "sensor") ∧
          ¬ (((parts "sensor").flatMap LayoutParts.nativeNames).map NativeName.text).Nodup ∧
          ((parts "sensor").flatMap LayoutParts.nativeNames).map NativeName.text =
            ["yard_self_t", "new_yard", "sensor_value_t", "sensor_self_t", "new_sensor",
              "sensor_value_t", "sensor_self_t", "new_sensor"] := by
  obtain ⟨generated, generated_eq⟩ : ∃ generated,
      ((program "sensor").generateFederate Workshop.environment .singleton
        "Yard").run.result = .ok generated := ⟨_, rfl⟩
  obtain ⟨classes, source, known, classes_eq, member, hasKnown, defines⟩ :=
    Program.exists_parts_of_generateFederate rfl generated_eq
  obtain rfl : [⟨0⟩, ⟨1⟩, ⟨2⟩] = classes := Except.ok.inj classes_eq
  obtain rfl := (Program.HasParts.rightUnique _ _).forall₂ hasKnown (hasParts "sensor")
  have names : ((parts "sensor").flatMap LayoutParts.nativeNames).map NativeName.text =
      ["yard_self_t", "new_yard", "sensor_value_t", "sensor_self_t", "new_sensor",
        "sensor_value_t", "sensor_self_t", "new_sensor"] := by decide +kernel
  refine ⟨by decide, by decide, generated, source, generated_eq, member, defines, ?_, names⟩
  rw [names]
  decide

end Yard
end ReactorGen
