import Mathlib.Data.List.Nodup
import ReactorGen.Package.Module
import ReactorGen.Proofs.FirstOccurrences
import ReactorGen.Proofs.PlacedTexts
import ReactorGen.Proofs.Results

/-!
# Lists of instances

The module for the interpreter makes a list for each bank and then puts every instance into
its place.  A list is declared once, with one place more than the last of its instances
needs; an instance behind which there is no further number has no place in any list, and
then there is no module.
-/

namespace ReactorGen

open Text

/-! ## Lists -/

namespace Instances

/-- Neither the start nor a number of the list is greater than the greatest. -/
theorem le_foldl_max (numbers : List UInt64) (start : UInt64) :
    start ≤ numbers.foldl max start ∧
      ∀ number ∈ numbers, number ≤ numbers.foldl max start := by
  induction numbers generalizing start with
  | nil => exact ⟨UInt64.le_refl _, fun number member => absurd member List.not_mem_nil⟩
  | cons first rest inductionHypothesis =>
    obtain ⟨startBound, bound⟩ := inductionHypothesis (max start first)
    have greater : start ≤ max start first ∧ first ≤ max start first := by
      rw [UInt64.le_iff_toNat_le, UInt64.le_iff_toNat_le, UInt64.toNat_max]
      exact ⟨Nat.le_max_left _ _, Nat.le_max_right _ _⟩
    rw [List.foldl_cons]
    refine ⟨UInt64.le_trans greater.1 startBound, ?_⟩
    intro number member
    rcases List.mem_cons.mp member with rfl | inRest
    · exact UInt64.le_trans greater.2 startBound
    · exact bound number inRest

/-- Whether a list is declared, and only once, with room for a position. -/
def Declares (instances : Instances) (list : String) (position : UInt64) : Prop :=
  ∃ before length after, instances.lists = before ++ (list, length) :: after ∧
    (∀ other ∈ before ++ after, other.1 ≠ list) ∧ position < length

theorem nodup_lists (instances : Instances) : (instances.lists.map Prod.fst).Nodup := by
  have names_eq : instances.lists.map Prod.fst =
      (instances.instantiations.map (·.list)).eraseDups := by
    rw [lists, List.map_map]
    exact List.map_id _
  rw [names_eq]
  exact FirstOccurrences.nodup_eraseDups _

/-- Every instance has a place in a list, as long as there is a number behind it. -/
theorem declares_of_mem
    {instances : Instances}
    {instantiation : Instantiation}
    (member : instantiation ∈ instances.instantiations)
    (hasPlace : instantiation.bankIndex + 1 ≠ 0) :
    instances.Declares instantiation.list instantiation.bankIndex := by
  let bank := (instances.instantiations.filter (·.list == instantiation.list)).map
    (·.bankIndex + 1)
  have inBank : instantiation.bankIndex + 1 ∈ bank := by
    rw [List.mem_map]
    exact ⟨instantiation, List.mem_filter.mpr ⟨member, beq_self_eq_true _⟩, rfl⟩
  have isList : (instantiation.list, bank.foldl max 0) ∈ instances.lists := by
    rw [lists, List.mem_map]
    refine ⟨instantiation.list, ?_, rfl⟩
    exact List.mem_eraseDups.mpr (List.mem_map_of_mem member)
  have behind : instantiation.bankIndex < instantiation.bankIndex + 1 := by grind
  have room : instantiation.bankIndex < bank.foldl max 0 :=
    UInt64.lt_of_lt_of_le behind ((le_foldl_max bank 0).2 _ inBank)
  obtain ⟨before, after, lists_eq⟩ := List.append_of_mem isList
  refine ⟨before, bank.foldl max 0, after, lists_eq, ?_, room⟩
  have once := instances.nodup_lists
  rw [lists_eq, List.map_append, List.map_cons, List.nodup_middle, List.nodup_cons] at once
  intro other isOther sameName
  apply once.1
  rw [← List.map_append, List.mem_map]
  exact ⟨other, isOther, sameName⟩

end Instances

namespace Program

variable
  {program : Program}
  {federate : Federate}
  {id : InstanceId}

/-- The interpreter runs an instance whose reactions are not native. -/
def Interprets (program : Program) (id : InstanceId) : Prop :=
  ∃ reactorClass, program.classOf id = .ok reactorClass ∧
    program.classIsNative reactorClass = false

theorem holds_isInterpreted_iff :
    Result.holds (program.isInterpreted id) = true ↔ program.Interprets id := by
  rw [isInterpreted, Interprets, classOf]
  cases program.tree.node id with
  | error reference => simp [Result.holds, bind, Except.bind]
  | ok node =>
    simp only [Result.ok_bind, isNative]
    cases program.classAt node.reactorClass with
    | error reference => simp [Result.holds, bind, Except.bind]
    | ok reactorClass => simp [pure, Except.pure]

/-- A federate has instances in the interpreter exactly if it can be told which they are,
each can be made, and each has a place. -/
theorem pythonInstances_eq_ok {instances : Instances} :
    program.pythonInstances federate = .ok instances ↔
      ∃ contained interpreted, program.federateInstances federate = .ok contained ∧
        contained.filterM program.isInterpreted = .ok interpreted ∧
        interpreted.mapM program.instantiation = .ok instances.instantiations ∧
        ∀ instantiation ∈ instances.instantiations, instantiation.bankIndex + 1 ≠ 0 := by
  have hasPlace_iff (instantiations : List Instantiation) :
      instantiations.all Instantiation.hasPlace = true ↔
        ∀ instantiation ∈ instantiations, instantiation.bankIndex + 1 ≠ 0 := by
    simp only [List.all_eq_true, Instantiation.hasPlace, decide_eq_true_eq]
  simp only [pythonInstances, Result.bind_eq_ok]
  constructor
  · rintro ⟨contained, contained_eq, interpreted, interpreted_eq, instantiations,
      instantiations_eq, made⟩
    split at made
    case isTrue placed =>
      obtain rfl := Result.pure_eq_ok.mp made
      exact ⟨contained, interpreted, contained_eq, interpreted_eq, instantiations_eq,
        (hasPlace_iff _).mp placed⟩
    case isFalse => cases made
  · rintro ⟨contained, interpreted, contained_eq, interpreted_eq, instantiations_eq, placed⟩
    refine ⟨contained, contained_eq, interpreted, interpreted_eq, _, instantiations_eq, ?_⟩
    rw [if_pos ((hasPlace_iff _).mpr placed)]
    rfl

end Program

/-! ## Texts -/

/-- The text that makes an instance and puts it into its place. -/
def Instantiation.assignment (instantiation : Instantiation) : String :=
  Draft.onLines 0 ("# Start initializing " ++ instantiation.path ++ " of class " ++
    instantiation.reactorName) ++
    Draft.onLines 0 (instantiation.list ++ "[" ++ toString instantiation.bankIndex ++
      "] = _" ++ instantiation.reactorName ++ "(") ++
    String.join (instantiation.keywords.map fun (keyword, value) =>
      Draft.onLines 1 (keyword ++ " = " ++ value ++ ",")) ++
    Draft.onLines 0 ")"

namespace Instantiation

/-- The keyword arguments as they are written. -/
def arguments (instantiation : Instantiation) : List String :=
  instantiation.keywords.map fun (keyword, value) => keyword ++ " = " ++ value ++ ","

theorem draft_eq (instantiation : Instantiation) :
    instantiation.draft =
      [
        .write ("# Start initializing " ++ instantiation.path ++ " of class " ++
          instantiation.reactorName),
        .write (instantiation.list ++ "[" ++ toString instantiation.bankIndex ++ "] = _" ++
          instantiation.reactorName ++ "(")
      ] ++
      Draft.nested (instantiation.arguments.map .write) ++ [.write ")"] := by
  have underscore : "] = _" = "] = " ++ "_" := by decide
  simp only [draft, arguments, PythonClass.nameOf, underscore, List.map_map,
    String.append_assoc]
  rfl

theorem balanced_arguments (instantiation : Instantiation) :
    Draft.Balanced (instantiation.arguments.map .write) :=
  Draft.balanced_writes _

theorem balanced_draft (instantiation : Instantiation) : instantiation.draft.Balanced := by
  rw [draft_eq]
  exact Draft.Balanced.append (.append (fun _ => rfl) instantiation.balanced_arguments.nested)
    fun _ => rfl

theorem closeLines_draft (instantiation : Instantiation) :
    Draft.closeLines (Draft.linesAt 0 instantiation.draft) = instantiation.assignment := by
  have opens (first second : String) : Draft.Balanced [.write first, .write second] :=
    fun _ => rfl
  rw [draft_eq, List.append_assoc, (opens _ _).linesAt_append,
    instantiation.balanced_arguments.nested.linesAt_append, Draft.linesAt_nested,
    Draft.linesAt_writes, Draft.closeLines_append, Draft.closeLines_append,
    Draft.closeLines_placeTexts, assignment, arguments, List.map_map]
  simp only [Draft.linesAt_cons, Draft.linesAt_nil, Draft.stepLines, Draft.stepLevel,
    Draft.closeLines_append, Draft.onLines_eq, List.append_nil, Function.comp_def,
    String.append_assoc]

end Instantiation

/-- All lists are declared before an instance is put into one of them. -/
theorem Instances.text_eq (instances : Instances) :
    instances.text =
      String.join (instances.lists.map fun (list, length) =>
        Draft.onLines 0 (list ++ " = [None] * " ++ toString length)) ++
      String.join (instances.instantiations.map Instantiation.assignment) := by
  let declarations : List String := instances.lists.map fun (list, length) =>
    list ++ " = [None] * " ++ toString length
  have declarations_eq : instances.lists.map (fun (list, length) =>
      DraftStep.write (list ++ " = [None] * " ++ toString length)) =
        declarations.map .write := by
    rw [List.map_map]
    rfl
  have declares := Draft.balanced_writes declarations
  rw [text, Draft.text, draft, declarations_eq, declares.linesAt_append, Draft.linesAt_writes,
    Draft.linesAt_flatMap Instantiation.balanced_draft, Draft.closeLines_append,
    Draft.closeLines_placeTexts, Draft.closeLines_flatMap, List.map_map]
  simp only [Instantiation.closeLines_draft]
  rfl

namespace PythonModule

/-- What a module has in front of its classes. -/
def front (module : PythonModule) : Draft :=
  [
    .write (joinLines header),
    .write ("from " ++ Naming.extensionModule module.topLevelName ++
      " import (  # pylint: disable=no-name-in-module"),
    .writeAll extensionNames,
    .write ")",
    .write (joinLines baseImports),
    .blank
  ] ++
  (module.preamble.map dedent).map .write ++ [.blank]

/-- What a module has between its classes and its instances. -/
def between : Draft := [.blank, .write "# Instantiate classes"]

/-- What a module has behind its instances. -/
def back : Draft := [.blank, .write (joinLines mainFunction)]

theorem draft_eq (module : PythonModule) :
    module.draft = module.front ++ ((module.classes.map PythonClass.text).map .write ++
      (between ++ .write module.instances.text :: back)) := by
  simp only [draft, front, between, back, List.map_map, Function.comp_def,
    List.append_assoc, List.cons_append, List.nil_append]

theorem balanced_front (module : PythonModule) : module.front.Balanced :=
  .append (.append (fun _ => rfl) (Draft.balanced_writes _)) fun _ => rfl

theorem balanced_between : between.Balanced := fun _ => rfl

/-- The classes stand in a module in front of the instances. -/
theorem inOrder_text (module : PythonModule) :
    InOrder ((module.classes.map fun pythonClass => Draft.onLines 0 pythonClass.text) ++
        [Draft.onLines 0 module.instances.text])
      module.text := by
  have classes_eq : Draft.closeLines
      (Draft.linesAt 0 ((module.classes.map PythonClass.text).map .write)) =
        String.join (module.classes.map fun pythonClass => Draft.onLines 0 pythonClass.text) := by
    rw [Draft.linesAt_writes, Draft.closeLines_placeTexts, List.map_map, Function.comp_def]
  rw [text, Draft.text, draft_eq, module.balanced_front.linesAt_append,
    (Draft.balanced_writes _).linesAt_append, balanced_between.linesAt_append,
    Draft.linesAt_cons, Draft.closeLines_append, Draft.closeLines_append,
    Draft.closeLines_append, Draft.closeLines_append, classes_eq, Draft.stepLines,
    ← Draft.onLines_eq]
  exact ((inOrder_join _).append
    (((inOrder_singleton _).append_right _).append_left _)).append_left _

end PythonModule
end ReactorGen
