import ReactorGen.Property.Configure

/-!
# What a check finds

The check of a value follows its type into the parts of an element: the type of a list
governs the items, the first alternative that an element belongs to governs the element
itself, and the type of a key governs what a dictionary has under the key.  A problem is
found at a part that does not fit the type that governs it, that names a file which is
not there, or that has a key which the type does not know; and all of these are found.
-/

namespace ReactorGen

/-! ## Induction on types -/

namespace PropertyType

/-- What passes from the types of items, alternatives and entries to the types that are
made of them holds of every type. -/
@[elab_as_elim]
theorem induction
    {motive : PropertyType -> Prop}
    (value : ∀ kind, motive (.value kind))
    (array : ∀ item, motive item -> motive (.array item))
    (union : ∀ options default,
      (∀ type, UnionOption.type type ∈ options -> motive type) ->
        motive (.union options default))
    (dictionary : ∀ entries,
      (∀ entry ∈ entries, motive entry.2) -> motive (.dictionary entries)) :
    (type : PropertyType) -> motive type
  | .value kind => value kind
  | .array item => array item (induction value array union dictionary item)
  | .union options default =>
    union options default fun type member =>
      have : sizeOf (UnionOption.type type) < sizeOf options := List.sizeOf_lt_of_mem member
      induction value array union dictionary type
  | .dictionary entries =>
    dictionary entries fun entry member =>
      have : sizeOf entry < sizeOf entries := List.sizeOf_lt_of_mem member
      induction value array union dictionary entry.2
termination_by type => sizeOf type
decreasing_by
  · simp
  · simp at *; omega
  · obtain ⟨key, type⟩ := entry
    simp at *; omega

end PropertyType

/-! ## Checks as look-ups -/

theorem anyAccepts_eq_any (element : Element) (options : List UnionOption) :
    anyAccepts element options = options.any (·.accepts element) := by
  induction options with
  | nil => rfl
  | cons option rest inductionHypothesis =>
    rw [anyAccepts, List.any_cons, inductionHypothesis]

theorem checkOptions_eq_find?
    (fileExists : String -> Bool)
    (name : String)
    (element : Element)
    (options : List UnionOption) :
    checkOptions fileExists name element options =
      (options.find? (·.accepts element)).map fun option =>
        option.check fileExists name element := by
  induction options with
  | nil => rfl
  | cons option rest inductionHypothesis =>
    rw [checkOptions, List.find?_cons]
    cases option.accepts element with
    | true => rfl
    | false => simpa using inductionHypothesis

theorem checkKey_eq_lookupNamed
    (fileExists : String -> Bool)
    (name key : String)
    (element : Element)
    (entries : List (String × PropertyType)) :
    checkKey fileExists name key element entries =
      (Text.lookupNamed Prod.fst key entries).map fun entry =>
        entry.2.check fileExists name element := by
  induction entries with
  | nil => rfl
  | cons entry rest inductionHypothesis =>
    rw [checkKey, Text.lookupNamed, List.find?_cons]
    cases Text.sameName entry.1 key with
    | true => rfl
    | false => simpa [Text.lookupNamed] using inductionHypothesis

namespace PropertyType

/-- The check of a union is that of the first alternative that fits. -/
theorem check_union
    (fileExists : String -> Bool)
    (name : String)
    (element : Element)
    (options : List UnionOption)
    (default : Option Nat) :
    (union options default).check fileExists name element =
      match (union options default).matchOption? element with
      | some option => option.check fileExists name element
      | none => [typeMismatch name (union options default).description] := by
  rw [check, checkOptions_eq_find?, matchOption?, PropertyType.options]
  cases options.find? (·.accepts element) <;> rfl

/-- What the check of a dictionary says about one entry. -/
def checkEntry
    (fileExists : String -> Bool)
    (name : String)
    (type : PropertyType)
    (entry : String × Element) : List Diagnostic :=
  match type.entryNamed? entry.1 with
  | some known => known.2.check fileExists (name ++ "." ++ entry.1) entry.2
  | none => [unknownKey name entry.1 type.description]

/-- The check of a dictionary is that of its entries one by one. -/
theorem check_dictionary
    (fileExists : String -> Bool)
    (name : String)
    (pairs : List (String × Element))
    (entries : List (String × PropertyType)) :
    (dictionary entries).check fileExists name (.dictionary pairs) =
      pairs.flatMap ((dictionary entries).checkEntry fileExists name) := by
  rw [check]
  congr 1
  funext ⟨key, element⟩
  dsimp only
  rw [checkKey_eq_lookupNamed, checkEntry, entryNamed?]
  cases Text.lookupNamed Prod.fst key entries <;> rfl

end PropertyType

/-! ## Parts of an element -/

/-- A step from an element to one of its parts. -/
inductive PartStep
  /-- To the item of a list at a position. -/
  | item (position : Nat)
  /-- To what a dictionary has under a key. -/
  | entry (key : String)
deriving DecidableEq, Repr

/-- The name of the part that a step leads to. -/
def PartStep.extend (name : String) : PartStep -> String
  | item position => name ++ "[" ++ toString position ++ "]"
  | entry key => name ++ "." ++ key

/-- The name of the part that steps lead to from the element called `name`. -/
def partName (name : String) (steps : List PartStep) : String :=
  steps.foldl PartStep.extend name

@[simp] theorem partName_nil (name : String) : partName name [] = name := rfl

@[simp] theorem partName_cons (name : String) (step : PartStep) (steps : List PartStep) :
    partName name (step :: steps) = partName (step.extend name) steps := rfl

theorem PartStep.length_lt_extend (name : String) (step : PartStep) :
    name.length < (step.extend name).length := by
  cases step with
  | item position =>
    have bracket : "[".length = 1 := rfl
    simp only [extend, String.length_append]
    omega
  | entry key =>
    have dot : ".".length = 1 := rfl
    simp only [extend, String.length_append]
    omega

/-- The name of a part is longer than that of the element. -/
theorem length_le_partName (name : String) (steps : List PartStep) :
    name.length ≤ (partName name steps).length := by
  induction steps generalizing name with
  | nil => exact Nat.le_refl _
  | cons step rest inductionHypothesis =>
    exact Nat.le_trans (Nat.le_of_lt (step.length_lt_extend name)) (inductionHypothesis _)

namespace PropertyType

/-- Whether an element is at first sight what the type requires: the parts of a list or
of a dictionary are not looked at. -/
def fits (element : Element) : PropertyType -> Bool
  | value kind => kind.accepts element
  | array _ => element.items?.isSome
  | union options _ => options.any (·.accepts element)
  | dictionary _ => element.entries?.isSome

/-- Steps lead from an element to a part of it, while its type leads to the type that
governs the part. -/
inductive Reaches :
    PropertyType -> Element -> List PartStep -> PropertyType -> Element -> Prop
  | self (type : PropertyType) (element : Element) : Reaches type element [] type element
  | item
      {item inner : PropertyType}
      {items : List Element}
      {position : Nat}
      {next part : Element}
      {steps : List PartStep}
      (isItem : items[position]? = some next)
      (reached : Reaches item next steps inner part) :
      Reaches (.array item) (.array items) (.item position :: steps) inner part
  | alternative
      {options : List UnionOption}
      {default : Option Nat}
      {type inner : PropertyType}
      {element part : Element}
      {steps : List PartStep}
      (isFirst : (union options default).matchOption? element = some (.type type))
      (reached : Reaches type element steps inner part) :
      Reaches (.union options default) element steps inner part
  | entry
      {entries : List (String × PropertyType)}
      {pairs : List (String × Element)}
      {key : String}
      {known : String × PropertyType}
      {inner : PropertyType}
      {next part : Element}
      {steps : List PartStep}
      (isEntry : (key, next) ∈ pairs)
      (isKnown : (dictionary entries).entryNamed? key = some known)
      (reached : Reaches known.2 next steps inner part) :
      Reaches (.dictionary entries) (.dictionary pairs) (.entry key :: steps) inner part

end PropertyType

/-- The warning about a file that is not there. -/
def missingFile (name file : String) : Diagnostic :=
  .warning .fileNotFound name ("Could not find file: '" ++ file ++ "'.")

namespace PropertyType

/-- A problem of the element called `name` itself, not of one of its parts. -/
inductive Blames (fileExists : String -> Bool) (name : String) :
    PropertyType -> Element -> Diagnostic -> Prop
  | misfit
      {type : PropertyType}
      {element : Element}
      (misfits : type.fits element = false) :
      Blames fileExists name type element (typeMismatch name type.description)
  | missing
      {element : Element}
      (accepted : ValueKind.file.accepts element = true)
      (absent : fileExists element.text = false) :
      Blames fileExists name (.value .file) element (missingFile name element.text)
  | unknown
      {entries : List (String × PropertyType)}
      {pairs : List (String × Element)}
      {pair : String × Element}
      (isEntry : pair ∈ pairs)
      (isUnknown : (dictionary entries).entryNamed? pair.1 = none) :
      Blames fileExists name (.dictionary entries) (.dictionary pairs)
        (unknownKey name pair.1 (dictionary entries).description)

/-- A problem of the part of an element that steps lead to. -/
def Finds
    (fileExists : String -> Bool)
    (name : String)
    (type : PropertyType)
    (element : Element)
    (steps : List PartStep)
    (problem : Diagnostic) : Prop :=
  ∃ inner part, type.Reaches element steps inner part ∧
    inner.Blames fileExists (partName name steps) part problem

variable
  {fileExists : String -> Bool}
  {name : String}
  {element : Element}
  {steps : List PartStep}
  {problem : Diagnostic}

/-! ## The problems of a check -/

theorem description_value (kind : ValueKind) :
    (value kind).description = kind.description := rfl

/-- An element does not fit a union exactly if it belongs to no alternative. -/
theorem fits_union_eq_false_iff {options : List UnionOption} {default : Option Nat} :
    (union options default).fits element = false ↔
      (union options default).matchOption? element = none := by
  rw [fits, List.any_eq_false, matchOption?, List.find?_eq_none]
  rfl

/-- An element that does not fit its type is reported itself, and nothing else is. -/
theorem check_of_misfits
    {type : PropertyType}
    (misfits : type.fits element = false) :
    type.check fileExists name element = [typeMismatch name type.description] := by
  cases type with
  | value kind =>
    rw [fits] at misfits
    rw [check, ValueKind.check, misfits, if_neg Bool.false_ne_true, description_value]
  | array item =>
    cases element with
    | array items => exact absurd misfits (by simp [fits, Element.items?])
    | literal | id | time | dictionary => simp only [check]
  | union options default =>
    rw [check_union, fits_union_eq_false_iff.mp misfits]
  | dictionary entries =>
    cases element with
    | dictionary pairs => exact absurd misfits (by simp [fits, Element.entries?])
    | literal | id | time | array => simp only [check]

/-- An element that does not fit a type does not belong to it. -/
theorem accepts_of_misfits
    {type : PropertyType}
    (misfits : type.fits element = false) :
    type.accepts element = false := by
  cases type with
  | value kind => exact misfits
  | array item =>
    cases element with
    | array items => exact absurd misfits (by simp [fits, Element.items?])
    | literal | id | time | dictionary => simp only [accepts]
  | union options default => rw [accepts, anyAccepts_eq_any, ← misfits, fits]
  | dictionary entries => exact misfits

/-- A problem of the element itself is reported. -/
theorem mem_check_of_blames
    {type : PropertyType}
    (blamed : type.Blames fileExists name element problem) :
    problem ∈ type.check fileExists name element := by
  cases blamed with
  | misfit misfits =>
    rw [check_of_misfits misfits]
    exact List.mem_singleton_self _
  | missing accepted absent =>
    rw [check, ValueKind.check, accepted, if_pos rfl, if_pos rfl, checkFile, absent,
      if_neg Bool.false_ne_true]
    exact List.mem_singleton_self _
  | unknown isEntry isUnknown =>
    rw [check_dictionary, List.mem_flatMap]
    refine ⟨_, isEntry, ?_⟩
    rw [checkEntry, isUnknown]
    exact List.mem_singleton_self _

/-- What is found at a part is reported with the element. -/
theorem mem_check_of_finds
    {type : PropertyType}
    (found : type.Finds fileExists name element steps problem) :
    problem ∈ type.check fileExists name element := by
  obtain ⟨inner, part, reached, blamed⟩ := found
  induction reached generalizing name with
  | self => exact mem_check_of_blames blamed
  | item isItem _ inductionHypothesis =>
    rw [check, List.mem_flatMap]
    exact ⟨(_, _), List.mk_mem_zipIdx_iff_getElem?.mpr isItem, inductionHypothesis blamed⟩
  | alternative isFirst _ inductionHypothesis =>
    rw [check_union, isFirst]
    exact inductionHypothesis blamed
  | entry isEntry isKnown _ inductionHypothesis =>
    rw [check_dictionary, List.mem_flatMap]
    refine ⟨_, isEntry, ?_⟩
    rw [checkEntry, isKnown]
    exact inductionHypothesis blamed

theorem finds_of_blames
    {type : PropertyType}
    (blamed : type.Blames fileExists name element problem) :
    type.Finds fileExists name element [] problem :=
  ⟨type, element, .self .., blamed⟩

/-- A report about an element that does not fit its type is about the element. -/
theorem finds_of_misfits
    {type : PropertyType}
    (misfits : type.fits element = false)
    (member : problem ∈ type.check fileExists name element) :
    type.Finds fileExists name element [] problem := by
  rw [check_of_misfits misfits] at member
  rw [List.mem_singleton.mp member]
  exact finds_of_blames (.misfit misfits)

/-- Whatever is reported is found at a part of the element. -/
theorem exists_finds_of_mem_check
    {type : PropertyType}
    (member : problem ∈ type.check fileExists name element) :
    ∃ steps, type.Finds fileExists name element steps problem := by
  induction type using PropertyType.induction generalizing name element with
  | value kind =>
    cases accepts : kind.accepts element with
    | false => exact ⟨[], finds_of_misfits accepts member⟩
    | true =>
      rw [check, ValueKind.check, accepts, if_pos rfl] at member
      split at member
      case isTrue isFile =>
        subst isFile
        rw [checkFile] at member
        split at member
        case isTrue => exact absurd member List.not_mem_nil
        case isFalse absent =>
          rw [List.mem_singleton.mp member]
          exact ⟨[], finds_of_blames (.missing accepts (by simpa using absent))⟩
      case isFalse => exact absurd member List.not_mem_nil
  | array item inductionHypothesis =>
    cases element with
    | array items =>
      rw [check, List.mem_flatMap] at member
      obtain ⟨⟨next, position⟩, isItem, member⟩ := member
      obtain ⟨steps, inner, part, reached, blamed⟩ := inductionHypothesis member
      have isItem := List.mk_mem_zipIdx_iff_getElem?.mp isItem
      exact ⟨.item position :: steps, inner, part, .item isItem reached, blamed⟩
    | literal | id | time | dictionary => exact ⟨[], finds_of_misfits rfl member⟩
  | union options default inductionHypothesis =>
    rw [check_union] at member
    cases first : (union options default).matchOption? element with
    | none =>
      rw [first, List.mem_singleton] at member
      rw [member]
      exact ⟨[], finds_of_blames (.misfit (fits_union_eq_false_iff.mpr first))⟩
    | some option =>
      rw [first] at member
      cases option with
      | word word => exact absurd member List.not_mem_nil
      | type type =>
        obtain ⟨steps, inner, part, reached, blamed⟩ :=
          inductionHypothesis type (List.mem_of_find?_eq_some first) member
        exact ⟨steps, inner, part, .alternative first reached, blamed⟩
  | dictionary entries inductionHypothesis =>
    cases element with
    | dictionary pairs =>
      rw [check_dictionary, List.mem_flatMap] at member
      obtain ⟨pair, isEntry, member⟩ := member
      rw [checkEntry] at member
      cases known_eq : (dictionary entries).entryNamed? pair.1 with
      | none =>
        rw [known_eq, List.mem_singleton] at member
        rw [member]
        exact ⟨[], finds_of_blames (.unknown isEntry known_eq)⟩
      | some known =>
        rw [known_eq] at member
        obtain ⟨steps, inner, part, reached, blamed⟩ :=
          inductionHypothesis known (List.mem_of_find?_eq_some known_eq) member
        exact ⟨.entry pair.1 :: steps, inner, part, .entry isEntry known_eq reached, blamed⟩
    | literal | id | time | array => exact ⟨[], finds_of_misfits rfl member⟩

/-! ## What problems are about -/

/-- A problem is attributed to the element or, if it is a key, to what is under it. -/
theorem Blames.length_le
    {type : PropertyType}
    (blamed : type.Blames fileExists name element problem) :
    name.length ≤ problem.subject.length := by
  cases blamed with
  | misfit => exact Nat.le_refl _
  | missing => exact Nat.le_refl _
  | @unknown _ _ pair => exact Nat.le_of_lt ((PartStep.entry pair.1).length_lt_extend name)

/-- An element that is at fault itself does not belong to its type. -/
theorem accepts_of_blames
    {type : PropertyType}
    (blamed : type.Blames fileExists name element problem)
    (isError : problem.isError = true)
    (subject_eq : problem.subject = name) :
    type.accepts element = false := by
  cases blamed with
  | misfit misfits => exact accepts_of_misfits misfits
  | missing => exact absurd isError Bool.false_ne_true
  | @unknown _ _ pair =>
    have longer := (PartStep.entry pair.1).length_lt_extend name
    have subject_eq : (PartStep.entry pair.1).extend name = name := subject_eq
    rw [subject_eq] at longer
    exact absurd longer (Nat.lt_irrefl _)

/-- Without a step, an element is governed by its type or by an alternative that it
belongs to. -/
theorem accepts_of_reaches
    {type inner : PropertyType}
    {part : Element}
    (reached : type.Reaches element steps inner part)
    (noSteps : steps = [])
    (accepted : type.accepts element = true) :
    inner.accepts part = true := by
  induction reached with
  | self => exact accepted
  | item => exact nomatch noSteps
  | @alternative _ _ type _ element _ _ isFirst _ inductionHypothesis =>
    have belongs : (UnionOption.type type).accepts element = true := List.find?_some isFirst
    rw [UnionOption.accepts] at belongs
    exact inductionHypothesis noSteps belongs
  | entry => exact nomatch noSteps

/-- A value that is reported itself does not belong to its type. -/
theorem accepts_of_error
    {type : PropertyType}
    (member : problem ∈ type.check fileExists name element)
    (isError : problem.isError = true)
    (subject_eq : problem.subject = name) :
    type.accepts element = false := by
  obtain ⟨steps, inner, part, reached, blamed⟩ := exists_finds_of_mem_check member
  have noSteps : steps = [] := by
    have shorter := blamed.length_le
    rw [subject_eq] at shorter
    cases steps with
    | nil => rfl
    | cons step rest =>
      have longer := Nat.lt_of_lt_of_le (step.length_lt_extend name)
        (length_le_partName (step.extend name) rest)
      exact absurd longer (Nat.not_lt_of_ge shorter)
  subst noSteps
  have rejected := accepts_of_blames blamed isError subject_eq
  rw [← Bool.not_eq_true]
  intro accepted
  rw [accepts_of_reaches reached rfl accepted] at rejected
  exact Bool.false_ne_true rejected.symm

/-- The check of a value is about its type and about files. -/
theorem code_of_mem_check
    {type : PropertyType}
    (member : problem ∈ type.check fileExists name element) :
    problem.code = .propertyTypeMismatch ∨ problem.code = .fileNotFound := by
  obtain ⟨_, _, _, _, blamed⟩ := exists_finds_of_mem_check member
  cases blamed with
  | misfit => exact .inl rfl
  | missing => exact .inr rfl
  | unknown => exact .inl rfl

end PropertyType

/-- A single value is reported as an error exactly if it is not of its kind. -/
theorem ValueKind.any_isError_check
    (fileExists : String -> Bool)
    (name : String)
    (element : Element)
    (kind : ValueKind) :
    (kind.check fileExists name element).any Diagnostic.isError = !kind.accepts element := by
  rw [check]
  cases kind.accepts element with
  | true =>
    rw [if_pos rfl]
    split
    case isTrue =>
      rw [checkFile]
      split <;> rfl
    case isFalse => rfl
  | false => rfl

end ReactorGen
