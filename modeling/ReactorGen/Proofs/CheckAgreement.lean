import Mathlib.Data.List.Forall2
import ReactorGen.Proofs.CheckFindings

/-!
# Acceptance and checks

A value is stored if its type accepts it, while a user sees what the check of the value
reports.  For types without dictionaries the two agree: a value is accepted exactly if
no error is reported.  The reports stand in the order of the parts that they are about,
at most one for each part.
-/

namespace ReactorGen

namespace PropertyType

/-- No dictionary occurs in the type. -/
inductive DictionaryFree : PropertyType -> Prop
  | value (kind : ValueKind) : DictionaryFree (.value kind)
  | array {item : PropertyType} (free : item.DictionaryFree) : DictionaryFree (.array item)
  | union
      {options : List UnionOption}
      {default : Option Nat}
      (free : ∀ type, UnionOption.type type ∈ options -> type.DictionaryFree) :
      DictionaryFree (.union options default)

end PropertyType

/-! ## Errors -/

namespace PropertyType

/-- An error is reported exactly if the value does not belong to the type. -/
theorem any_isError_check_of_dictionaryFree
    {type : PropertyType}
    (free : type.DictionaryFree)
    (fileExists : String -> Bool)
    (name : String)
    (element : Element) :
    (type.check fileExists name element).any Diagnostic.isError = !type.accepts element := by
  induction free generalizing name element with
  | value kind => exact kind.any_isError_check fileExists name element
  | @array item _ inductionHypothesis =>
    cases element with
    | array items =>
      have positions_irrelevant :
          (items.zipIdx.any fun pair => !item.accepts pair.1) =
            items.any fun part => !item.accepts part := by
        conv_rhs => rw [← List.zipIdx_map_fst 0 items, List.any_map]
        rfl
      rw [check, accepts, List.any_flatMap, List.not_all_eq_any_not, ← positions_irrelevant]
      simp only [inductionHypothesis]
    | literal | id | time | dictionary =>
      rw [check_of_misfits rfl, accepts_of_misfits rfl]
      rfl
  | @union options default _ inductionHypothesis =>
    cases first : (union options default).matchOption? element with
    | none =>
      have misfits := fits_union_eq_false_iff.mpr first
      rw [check_of_misfits misfits, accepts_of_misfits misfits]
      rfl
    | some option =>
      have member := List.mem_of_find?_eq_some first
      have optionAccepts : option.accepts element = true := List.find?_some first
      have accepted : (union options default).accepts element = true := by
        rw [accepts, anyAccepts_eq_any, List.any_eq_true]
        exact ⟨option, member, optionAccepts⟩
      rw [check_union, first, accepted]
      cases option with
      | word word => rfl
      | type type =>
        rw [UnionOption.accepts] at optionAccepts
        have ofType := inductionHypothesis type member name element
        rw [optionAccepts] at ofType
        exact ofType

/-! ## Positions -/

theorem forall₂_flatMap
    {relation : β -> γ -> Prop}
    {items : List α}
    {left : α -> List β}
    {right : α -> List γ}
    (related : ∀ item ∈ items, List.Forall₂ relation (left item) (right item)) :
    List.Forall₂ relation (items.flatMap left) (items.flatMap right) := by
  induction items with
  | nil => exact .nil
  | cons first rest inductionHypothesis =>
    rw [List.forall_mem_cons] at related
    exact List.rel_append related.1 (inductionHypothesis related.2)

/-- A value that has no parts is reported at most once. -/
theorem length_valueCheck_le
    (kind : ValueKind)
    (fileExists : String -> Bool)
    (name : String)
    (element : Element) :
    ((value kind).check fileExists name element).length ≤ 1 := by
  rw [check, ValueKind.check]
  split
  case isTrue =>
    split
    case isTrue =>
      rw [checkFile]
      split <;> simp
    case isFalse => simp
  case isFalse => simp

/-- The reports on a value, each with the positions that lead to the part which it is
about, in the order of these. -/
theorem exists_positions_of_dictionaryFree
    {type : PropertyType}
    (free : type.DictionaryFree)
    (fileExists : String -> Bool)
    (name : String)
    (element : Element) :
    ∃ positions : List (List Nat), positions.Pairwise (· < ·) ∧
      List.Forall₂
        (fun problem position =>
          type.Finds fileExists name element (position.map .item) problem)
        (type.check fileExists name element) positions := by
  induction free generalizing name element with
  | value kind =>
    match reports : (value kind).check fileExists name element with
    | [] => exact ⟨[], .nil, .nil⟩
    | [problem] =>
      have member : problem ∈ (value kind).check fileExists name element := by
        rw [reports]
        exact List.mem_singleton_self _
      obtain ⟨_, _, _, ⟨⟩, blamed⟩ := exists_finds_of_mem_check member
      exact ⟨[[]], List.pairwise_singleton .., .cons (finds_of_blames blamed) .nil⟩
    | _ :: _ :: _ =>
      have atMostOne := length_valueCheck_le kind fileExists name element
      rw [reports] at atMostOne
      exact absurd atMostOne (by simp)
  | @array item _ inductionHypothesis =>
    cases element with
    | array items =>
      choose positionsOf ordered found using fun pair : Element × Nat =>
        inductionHypothesis ((PartStep.item pair.2).extend name) pair.1
      refine ⟨items.zipIdx.flatMap fun pair => (positionsOf pair).map (pair.2 :: ·), ?_, ?_⟩
      · rw [List.pairwise_flatMap]
        constructor
        · intro pair _
          rw [List.pairwise_map]
          exact (ordered pair).imp List.cons_lt_cons_self.mpr
        · have inOrder : items.zipIdx.Pairwise fun first second => first.2 < second.2 := by
            rw [← List.pairwise_map (f := Prod.snd), List.zipIdx_map_snd]
            exact List.pairwise_lt_range'
          refine inOrder.imp fun before => ?_
          simp only [List.forall_mem_map]
          exact fun _ _ _ _ => List.Lex.rel before
      · rw [check]
        apply forall₂_flatMap
        intro pair isItem
        rw [List.forall₂_map_right_iff]
        refine (found pair).imp ?_
        rintro problem position ⟨inner, part, reached, blamed⟩
        have isItem := List.mk_mem_zipIdx_iff_getElem?.mp isItem
        exact ⟨inner, part, .item isItem reached, blamed⟩
    | literal | id | time | dictionary =>
      rw [check_of_misfits rfl]
      exact ⟨[[]], List.pairwise_singleton .., .cons (finds_of_blames (.misfit rfl)) .nil⟩
  | @union options default _ inductionHypothesis =>
    cases first : (union options default).matchOption? element with
    | none =>
      have misfits := fits_union_eq_false_iff.mpr first
      rw [check_of_misfits misfits]
      exact ⟨[[]], List.pairwise_singleton .., .cons (finds_of_blames (.misfit misfits)) .nil⟩
    | some option =>
      rw [check_union, first]
      cases option with
      | word word => exact ⟨[], .nil, .nil⟩
      | type type =>
        obtain ⟨positions, ordered, found⟩ :=
          inductionHypothesis type (List.mem_of_find?_eq_some first) name element
        refine ⟨positions, ordered, found.imp ?_⟩
        rintro problem position ⟨inner, part, reached, blamed⟩
        exact ⟨inner, part, .alternative first reached, blamed⟩

/-- A type that is reached from a type without dictionaries has none. -/
theorem DictionaryFree.of_reaches
    {type inner : PropertyType}
    {element part : Element}
    {steps : List PartStep}
    (free : type.DictionaryFree)
    (reached : type.Reaches element steps inner part) :
    inner.DictionaryFree := by
  induction reached with
  | self => exact free
  | item _ _ inductionHypothesis =>
    cases free with
    | array free => exact inductionHypothesis free
  | alternative isFirst _ inductionHypothesis =>
    cases free with
    | union free => exact inductionHypothesis (free _ (List.mem_of_find?_eq_some isFirst))
  | entry => cases free

/-- A problem is named after the part that it is found at. -/
theorem subject_eq_of_finds
    {type : PropertyType}
    (free : type.DictionaryFree)
    {fileExists : String -> Bool}
    {name : String}
    {element : Element}
    {steps : List PartStep}
    {problem : Diagnostic}
    (found : type.Finds fileExists name element steps problem) :
    problem.subject = partName name steps := by
  obtain ⟨inner, part, reached, blamed⟩ := found
  cases blamed with
  | misfit => rfl
  | missing => rfl
  | unknown => cases free.of_reaches reached

/-! ## The agreement -/

/-- The check of a value agrees with acceptance and says what is wrong where. -/
structure Agrees
    (fileExists : String -> Bool)
    (name : String)
    (element : Element)
    (type : PropertyType) : Prop where
  /-- The value is accepted exactly if no error is reported. -/
  accepts_iff : type.accepts element = true ↔
    ∀ problem ∈ type.check fileExists name element, problem.isError = false
  /-- A value of another kind than the type requires is one error, which describes the
  whole type. -/
  misfit : type.fits element = false ->
    type.check fileExists name element = [typeMismatch name type.description]
  /-- A union reports what its first alternative reports that the value belongs to. -/
  firstAlternative : ∀ before option after default,
    type = .union (before ++ option :: after) default ->
    (∀ earlier ∈ before, earlier.accepts element = false) ->
    option.accepts element = true ->
      type.check fileExists name element = option.check fileExists name element
  /-- Every report is about a part of the value; it is named after the positions that
  lead to the part, and the parts are reported in their order and once at most. -/
  ordered : ∃ positions : List (List Nat), positions.Pairwise (· < ·) ∧
    List.Forall₂
      (fun problem position =>
        problem.subject = partName name (position.map .item) ∧
          type.Finds fileExists name element (position.map .item) problem)
      (type.check fileExists name element) positions
  /-- Nothing that is found at a part is left out. -/
  complete : ∀ steps problem, type.Finds fileExists name element steps problem ->
    problem ∈ type.check fileExists name element

/-- Acceptance and check agree for every type without dictionaries. -/
theorem agrees_of_dictionaryFree
    {type : PropertyType}
    (free : type.DictionaryFree)
    (fileExists : String -> Bool)
    (name : String)
    (element : Element) :
    type.Agrees fileExists name element where
  accepts_iff := by
    have noErrors := any_isError_check_of_dictionaryFree free fileExists name element
    rw [← Bool.not_eq_false', ← noErrors, List.any_eq_false]
    simp only [Bool.not_eq_true]
  misfit := check_of_misfits
  firstAlternative := by
    rintro before option after default rfl noneBefore accepted
    have first : (union (before ++ option :: after) default).matchOption? element =
        some option := by
      rw [matchOption?, List.find?_eq_some_iff_append]
      refine ⟨accepted, before, after, rfl, fun earlier member => ?_⟩
      rw [noneBefore earlier member, Bool.not_false]
    rw [check_union, first]
  ordered := by
    obtain ⟨positions, increasing, found⟩ :=
      exists_positions_of_dictionaryFree free fileExists name element
    exact ⟨positions, increasing,
      found.imp fun _ _ finds => ⟨subject_eq_of_finds free finds, finds⟩⟩
  complete _ _ := mem_check_of_finds

end PropertyType

/-! ## A list of mixed values -/

namespace MixedList

/-- A list of which every item is a word, a list of files or a non-negative integer. -/
def type : PropertyType :=
  .array (.union
    [.word "auto", .type .fileArray, .type .nonNegativeInteger] (some 0))

/-- A word, two files, a number that is negative and one that is not. -/
def element : Element :=
  .array [
    .id "AUTO",
    .array [.literal "\"present.c\"", .literal "\"absent.c\""],
    .literal "-1",
    .literal "0x10"
  ]

/-- Only one of the files is there. -/
def fileExists (path : String) : Bool :=
  path == "present.c"

theorem dictionaryFree : type.DictionaryFree := by
  refine .array (.union fun alternative member => ?_)
  simp only [List.mem_cons, List.not_mem_nil, or_false, reduceCtorEq, false_or,
    UnionOption.type.injEq] at member
  rcases member with rfl | rfl
  · exact .array (.value .file)
  · exact .value .nonNegativeInteger

/-- The file that is missing is a warning and the negative number an error, each under
the name of its part; so the list is not accepted. -/
theorem mixed_agrees :
    type.DictionaryFree ∧ type.Agrees fileExists "inputs" element ∧
      (type.check fileExists "inputs" element).map
          (fun problem => (problem.subject, problem.isError)) =
        [("inputs[1][1]", false), ("inputs[2]", true)] ∧
      type.accepts element = false :=
  ⟨dictionaryFree,
    PropertyType.agrees_of_dictionaryFree dictionaryFree fileExists "inputs" element,
    by decide +kernel, by decide +kernel⟩

end MixedList
end ReactorGen
