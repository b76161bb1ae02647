import ReactorGen.Proofs.LiteralParts
import ReactorGen.Time

/-!
# Time literals

The grammar of time values, and that exactly its literals are read.  A literal is a row of
digits whose number 64 bits can hold, and then a spelling of a unit, or nothing if the
number is zero.  Whatever else is wrong with a text, it is reported for the fault that comes
first from the left.  The canonical spelling of a time value is a literal of it.
-/

namespace ReactorGen

/-! ## Units -/

/-- A spelling of a unit, in any letter case. -/
def TimeUnit.IsSpelled (unit : TimeUnit) (spelling : String) : Prop :=
  ∃ name, (name, unit) ∈ TimeUnit.spellings ∧ Text.sameName name spelling = true

/-- The unit of a spelling is found, and a spelling has only one. -/
theorem TimeUnit.ofSpelling?_eq_some_iff {unit : TimeUnit} {spelling : String} :
    TimeUnit.ofSpelling? spelling = some unit ↔ unit.IsSpelled spelling := by
  constructor
  · intro found
    obtain ⟨⟨name, _⟩, entry_eq, rfl⟩ := Option.map_eq_some_iff.mp found
    have same := List.find?_some entry_eq
    exact ⟨name, List.mem_of_find?_eq_some entry_eq, same⟩
  · rintro ⟨name, isSpelling, same⟩
    have distinct : ∀ entry ∈ TimeUnit.spellings,
        Text.lookupNamed Prod.fst entry.1 TimeUnit.spellings = some entry := by
      decide +kernel
    rw [TimeUnit.ofSpelling?, Text.lookupNamed_eq_some (distinct _ isSpelling) same]
    rfl

/-- A spelling consists of letters. -/
theorem TimeUnit.IsSpelled.letters
    {unit : TimeUnit}
    {spelling : String}
    (spelled : unit.IsSpelled spelling) :
    spelling.toList ≠ [] ∧
      ∀ char ∈ spelling.toList, 'a' ≤ char.toLower ∧ char.toLower ≤ 'z' := by
  obtain ⟨name, isSpelling, same⟩ := spelled
  have lower : name.toList.map Char.toLower = spelling.toList.map Char.toLower := by
    simpa [Text.sameName] using same
  have names : ∀ entry ∈ TimeUnit.spellings, entry.1.toList ≠ [] ∧
      (entry.1.toList.map Char.toLower).all (fun char => 'a' ≤ char ∧ char ≤ 'z') = true := by
    decide +kernel
  obtain ⟨notEmpty, letters⟩ := names _ isSpelling
  simp only [lower, List.all_eq_true, decide_eq_true_eq, List.forall_mem_map] at letters
  refine ⟨?_, letters⟩
  rintro empty
  rw [empty] at lower
  exact notEmpty (List.map_eq_nil_iff.mp lower)

/-- A letter is neither a digit nor white space. -/
theorem Text.not_isDecimalDigit_of_letter
    {char : Char}
    (letter : 'a' ≤ char.toLower ∧ char.toLower ≤ 'z') :
    isDecimalDigit char = false ∧ isBlank char = false := by
  have first {char : Char} (small : char.toNat < 128) :
      'a' ≤ char.toLower ∧ char.toLower ≤ 'z' ->
        isDecimalDigit char = false ∧ isBlank char = false := by
    refine forall_toNat_lt ?_ small
    decide
  have upperBound : char.toLower.toNat ≤ 'z'.toNat := letter.2
  exact first (toNat_lt_of_toLower (Nat.lt_of_le_of_lt upperBound (by decide))) letter

namespace TimeValue

/-! ## The grammar -/

/-- The digits in front of a text and the spelling behind them, without white space around
either. -/
structure Divides (text : String) (digits spelling : List Char) : Prop where
  parts : ∃ rest, Text.Trimmed (digits ++ rest) text.toList ∧ Text.Trimmed spelling rest ∧
    ∀ char ∈ rest.head?, Text.isDecimalDigit char = false
  digits : ∀ char ∈ digits, Text.isDecimalDigit char = true

/-- A text that denotes a time value. -/
inductive Literal (text : String) : TimeValue → Prop
  /-- Zero may stand without a unit. -/
  | zero
      {digits : List Char}
      (trimmed : Text.Trimmed digits text.toList)
      (notEmpty : digits ≠ [])
      (denotes : Text.Denotes 10 digits 0) :
      Literal text ⟨0, .nanosecond⟩
  | measured
      {digits between : List Char}
      {spelling : String}
      {magnitude : UInt64}
      {unit : TimeUnit}
      (trimmed : Text.Trimmed (digits ++ between ++ spelling.toList) text.toList)
      (notEmpty : digits ≠ [])
      (denotes : Text.Denotes 10 digits magnitude.toNat)
      (blank : ∀ char ∈ between, Text.isBlank char = true)
      (spelled : unit.IsSpelled spelling) :
      Literal text ⟨magnitude, unit⟩

/-- What can be wrong with a text.  A text may have several faults. -/
inductive Fault (text : String) : TimeError → Prop
  | missingMagnitude
      {spelling : List Char}
      (divides : Divides text [] spelling) :
      Fault text (.missingMagnitude text)
  | invalidMagnitude
      {digits spelling : List Char}
      {number : Nat}
      (divides : Divides text digits spelling)
      (denotes : Text.Denotes 10 digits number)
      (large : UInt64.size ≤ number) :
      Fault text (.invalidMagnitude text)
  | missingUnit
      {digits : List Char}
      (divides : Divides text digits [])
      (notZero : ¬Text.Denotes 10 digits 0) :
      Fault text (.missingUnit text)
  | unknownUnit
      {digits : List Char}
      {spelling : String}
      (divides : Divides text digits spelling.toList)
      (notEmpty : spelling ≠ "")
      (unknown : ∀ unit : TimeUnit, ¬unit.IsSpelled spelling) :
      Fault text (.unknownUnit spelling)

end TimeValue

/-- The place of an error among those that a text may be reported for. -/
def TimeError.rank : TimeError → Nat
  | missingMagnitude _ => 0
  | invalidMagnitude _ => 1
  | missingUnit _ => 2
  | unknownUnit _ => 3

namespace TimeValue

/-! ## Parts of texts -/

/-- Every text divides in exactly one way. -/
theorem divides_iff {text : String} {digits spelling : List Char} :
    Divides text digits spelling ↔
      (Text.trimChars text.toList).takeWhile Text.isDecimalDigit = digits ∧
        Text.trimChars ((Text.trimChars text.toList).dropWhile Text.isDecimalDigit) =
          spelling := by
  constructor
  · rintro ⟨⟨rest, trimmed, trimmedRest, stops⟩, decimal⟩
    have cut : (digits ++ rest).takeWhile Text.isDecimalDigit = digits ∧
        (digits ++ rest).dropWhile Text.isDecimalDigit = rest := by
      rw [List.takeWhile_append_of_pos decimal, List.dropWhile_append_of_pos decimal]
      cases rest with
      | nil => exact ⟨List.append_nil _, rfl⟩
      | cons char rest =>
        have stop : Text.isDecimalDigit char = false := stops char rfl
        simp [stop]
    rw [Text.trimmed_iff.mp trimmed, cut.1, cut.2]
    exact ⟨rfl, Text.trimmed_iff.mp trimmedRest⟩
  · rintro ⟨rfl, rfl⟩
    constructor
    case parts =>
      refine ⟨(Text.trimChars text.toList).dropWhile Text.isDecimalDigit, ?_,
        Text.trimmed_trimChars _, ?_⟩
      · rw [List.takeWhile_append_dropWhile]
        exact Text.trimmed_trimChars _
      · intro char isHead
        have stops := List.head?_dropWhile_not Text.isDecimalDigit
          (Text.trimChars text.toList)
        rw [isHead] at stops
        exact stops
    case digits => exact List.all_eq_true.mp List.all_takeWhile

theorem exists_divides (text : String) :
    ∃ digits spelling number, Divides text digits spelling ∧
      Text.Denotes 10 digits number := by
  have divides : Divides text _ _ := divides_iff.mpr ⟨rfl, rfl⟩
  obtain ⟨number, denotes⟩ := Text.exists_denotes divides.digits
  exact ⟨_, _, number, divides, denotes⟩

variable
  {text : String}
  {digits spelling : List Char}
  {number : Nat}

/-- What is read, in terms of the parts of a text. -/
theorem ofText_eq
    (divides : Divides text digits spelling)
    (denotes : Text.Denotes 10 digits number) :
    ofText text =
      if digits = [] then .error (.missingMagnitude text)
      else if UInt64.size ≤ number then .error (.invalidMagnitude text)
      else if spelling = [] then
        if number = 0 then .ok zero else .error (.missingUnit text)
      else
        match TimeUnit.ofSpelling? (String.ofList spelling) with
        | none => .error (.unknownUnit (String.ofList spelling))
        | some unit => .ok ⟨UInt64.ofNat number, unit⟩ := by
  obtain ⟨digits_eq, spelling_eq⟩ := divides_iff.mp divides
  have large : largestMagnitude < number ↔ UInt64.size ≤ number := by
    simp only [largestMagnitude, UInt64.size]
    omega
  have blank : (String.ofList spelling).isEmpty = true ↔ spelling = [] := by
    rw [String.isEmpty_iff, ← String.toList_inj, String.toList_ofList, String.toList_empty]
  by_cases empty : digits = []
  · have unread : Text.number? 10 digits = none := by rw [empty]; rfl
    simp only [ofText, digits_eq, unread, if_pos empty]
  · have read : Text.number? 10 digits = some number :=
      (Text.number?_eq_some_iff (by decide)).mpr ⟨empty, denotes⟩
    cases unit? : TimeUnit.ofSpelling? (String.ofList spelling) with
    | none =>
      simp only [ofText, digits_eq, spelling_eq, read, if_neg empty, large, blank, unit?]
    | some unit =>
      simp only [ofText, digits_eq, spelling_eq, read, if_neg empty, large, blank, unit?]

/-! ## Literals -/

/-- Between the digits and the spelling stands only white space. -/
theorem Divides.exists_between (divides : Divides text digits spelling) :
    ∃ between, (∀ char ∈ between, Text.isBlank char = true) ∧
      Text.Trimmed (digits ++ between ++ spelling) text.toList := by
  obtain ⟨⟨rest, trimmed, ⟨⟨before, after, rfl, blankBefore, blankAfter⟩, _, _⟩, _⟩, _⟩ :=
    divides
  have regrouped : digits ++ (before ++ spelling ++ after) =
      digits ++ before ++ spelling ++ after := by simp only [List.append_assoc]
  rw [regrouped] at trimmed
  rw [trimmed.eq_nil_of_blank blankAfter, List.append_nil] at trimmed
  exact ⟨before, blankBefore, trimmed⟩

/-- The parts of a literal without a unit. -/
theorem divides_of_digits
    (trimmed : Text.Trimmed digits text.toList)
    (denotes : Text.Denotes 10 digits number) :
    Divides text digits [] where
  parts := ⟨[], by rwa [List.append_nil], Text.trimmed_self (by simp), by simp⟩
  digits := denotes.isDecimalDigit

/-- The parts of a literal with a unit. -/
theorem divides_of_spelled
    {between : List Char}
    {unit : TimeUnit}
    {name : String}
    (trimmed : Text.Trimmed (digits ++ between ++ name.toList) text.toList)
    (denotes : Text.Denotes 10 digits number)
    (blank : ∀ char ∈ between, Text.isBlank char = true)
    (spelled : unit.IsSpelled name) :
    Divides text digits name.toList where
  parts := by
    obtain ⟨notEmpty, letters⟩ := spelled.letters
    refine ⟨between ++ name.toList, ?_, ?_, ?_⟩
    · rwa [← List.append_assoc]
    · constructor
      case within => exact ⟨between, [], (List.append_nil _).symm, blank, by simp⟩
      case first =>
        intro char isHead
        exact (Text.not_isDecimalDigit_of_letter
          (letters char (List.mem_of_head? isHead))).2
      case last =>
        intro char isLast
        exact (Text.not_isDecimalDigit_of_letter
          (letters char (List.mem_of_getLast? isLast))).2
    · intro char isHead
      rcases List.mem_append.mp (List.mem_of_head? isHead) with inBetween | inName
      · by_contra decimal
        obtain ⟨value, digit⟩ := Text.isDecimalDigit_iff.mp (Bool.not_eq_false _ ▸ decimal)
        have notBlank := Text.isBlank_of_isDigit (digit.of_le (by decide))
        rw [blank char inBetween] at notBlank
        exact Bool.false_ne_true notBlank.symm
      · exact (Text.not_isDecimalDigit_of_letter (letters char inName)).1
  digits := denotes.isDecimalDigit

/-- Exactly the literals are read. -/
theorem ofText_eq_ok_iff {time : TimeValue} :
    ofText text = .ok time ↔ Literal text time := by
  constructor
  · intro read
    obtain ⟨digits, spelling, number, divides, denotes⟩ := exists_divides text
    obtain ⟨between, blank, trimmed⟩ := divides.exists_between
    rw [ofText_eq divides denotes] at read
    split at read
    case isTrue => exact absurd read (by simp)
    case isFalse notEmpty =>
    split at read
    case isTrue => exact absurd read (by simp)
    case isFalse small =>
    split at read
    case isTrue unitless =>
      split at read
      case isTrue isZero =>
        subst unitless isZero
        rw [List.append_nil] at trimmed
        rw [trimmed.eq_nil_of_blank blank, List.append_nil] at trimmed
        rw [← Except.ok.inj read]
        exact .zero trimmed notEmpty denotes
      case isFalse => exact absurd read (by simp)
    case isFalse =>
      split at read
      case h_1 => exact absurd read (by simp)
      case h_2 unit unit_eq =>
        have magnitude : (UInt64.ofNat number).toNat = number :=
          UInt64.toNat_ofNat_of_lt' (Nat.lt_of_not_le small)
        rw [← Except.ok.inj read]
        refine .measured ?_ notEmpty ?_ blank (TimeUnit.ofSpelling?_eq_some_iff.mp unit_eq)
        · rwa [String.toList_ofList]
        · rwa [magnitude]
  · intro literal
    cases literal with
    | zero trimmed notEmpty denotes =>
      rw [ofText_eq (divides_of_digits trimmed denotes) denotes, if_neg notEmpty,
        if_neg (by decide), if_pos rfl, if_pos rfl]
      rfl
    | measured trimmed notEmpty denotes blank spelled =>
      have divides := divides_of_spelled trimmed denotes blank spelled
      rw [ofText_eq divides denotes, if_neg notEmpty,
        if_neg (Nat.not_le.mpr (UInt64.toNat_lt_size _)), if_neg spelled.letters.1,
        String.ofList_toList, TimeUnit.ofSpelling?_eq_some_iff.mpr spelled]
      simp

/-! ## Faults -/

theorem Divides.unique
    {otherDigits otherSpelling : List Char}
    (divides : Divides text digits spelling)
    (other : Divides text otherDigits otherSpelling) :
    digits = otherDigits ∧ spelling = otherSpelling := by
  obtain ⟨digits_eq, spelling_eq⟩ := divides_iff.mp divides
  obtain ⟨otherDigits_eq, otherSpelling_eq⟩ := divides_iff.mp other
  exact ⟨digits_eq.symm.trans otherDigits_eq, spelling_eq.symm.trans otherSpelling_eq⟩

/-- The faults of a text, in terms of its parts. -/
theorem fault_iff
    (divides : Divides text digits spelling)
    (denotes : Text.Denotes 10 digits number)
    {error : TimeError} :
    Fault text error ↔
      error = .missingMagnitude text ∧ digits = [] ∨
      error = .invalidMagnitude text ∧ UInt64.size ≤ number ∨
      error = .missingUnit text ∧ spelling = [] ∧ number ≠ 0 ∨
      error = .unknownUnit (String.ofList spelling) ∧ spelling ≠ [] ∧
        TimeUnit.ofSpelling? (String.ofList spelling) = none := by
  constructor
  · intro fault
    cases fault with
    | missingMagnitude other =>
      exact .inl ⟨rfl, (divides.unique other).1⟩
    | invalidMagnitude other otherDenotes large =>
      rw [← (divides.unique other).1] at otherDenotes
      rw [otherDenotes.unique (by decide) denotes] at large
      exact .inr (.inl ⟨rfl, large⟩)
    | missingUnit other notZero =>
      obtain ⟨rfl, rfl⟩ := divides.unique other
      refine .inr (.inr (.inl ⟨rfl, rfl, ?_⟩))
      rintro rfl
      exact notZero denotes
    | unknownUnit other notEmpty unknown =>
      obtain ⟨rfl, rfl⟩ := divides.unique other
      refine .inr (.inr (.inr ⟨?_, ?_, ?_⟩))
      · rw [String.ofList_toList]
      · rwa [ne_eq, String.toList_eq_nil_iff]
      · rw [String.ofList_toList, Option.eq_none_iff_forall_not_mem]
        intro unit found
        exact unknown unit (TimeUnit.ofSpelling?_eq_some_iff.mp found)
  · rintro (⟨rfl, rfl⟩ | ⟨rfl, large⟩ | ⟨rfl, rfl, notZero⟩ | ⟨rfl, notEmpty, unknown⟩)
    · exact .missingMagnitude divides
    · exact .invalidMagnitude divides denotes large
    · refine .missingUnit divides fun zero => notZero ?_
      exact denotes.unique (by decide) zero
    · refine .unknownUnit (by rwa [String.toList_ofList]) ?_ ?_
      · rwa [ne_eq, ← String.toList_eq_nil_iff, String.toList_ofList]
      · intro unit spelled
        rw [TimeUnit.ofSpelling?_eq_some_iff.mpr spelled] at unknown
        exact absurd unknown (Option.some_ne_none unit)

/-- Of each rank there is only one fault. -/
theorem Fault.eq_of_rank
    {first second : TimeError}
    (isFirst : Fault text first)
    (isSecond : Fault text second)
    (rank_eq : first.rank = second.rank) :
    first = second := by
  obtain ⟨digits, spelling, number, divides, denotes⟩ := exists_divides text
  have ranked {error : TimeError} (isFault : Fault text error) :
      [.missingMagnitude text, .invalidMagnitude text, .missingUnit text,
        .unknownUnit (String.ofList spelling)][error.rank]? = some error := by
    rcases (fault_iff divides denotes).mp isFault with
      ⟨rfl, _⟩ | ⟨rfl, _⟩ | ⟨rfl, _⟩ | ⟨rfl, _⟩ <;> rfl
  have firstRanked := ranked isFirst
  rw [rank_eq, ranked isSecond] at firstRanked
  exact (Option.some.inj firstRanked).symm

/-- A fault of a text before which there is no other. -/
def FirstFault (text : String) (error : TimeError) : Prop :=
  Fault text error ∧ ∀ other, Fault text other -> error.rank ≤ other.rank

theorem FirstFault.unique
    {first second : TimeError}
    (isFirst : FirstFault text first)
    (isSecond : FirstFault text second) :
    first = second :=
  isFirst.1.eq_of_rank isSecond.1
    (Nat.le_antisymm (isFirst.2 _ isSecond.1) (isSecond.2 _ isFirst.1))

/-- A text without faults is read, and otherwise its first fault is reported. -/
theorem reads_or_reports (text : String) :
    (∃ time, ofText text = .ok time ∧ ∀ error, ¬Fault text error) ∨
      ∃ error, ofText text = .error error ∧ FirstFault text error := by
  obtain ⟨digits, spelling, number, divides, denotes⟩ := exists_divides text
  rw [ofText_eq divides denotes]
  simp only [FirstFault, fault_iff divides denotes]
  split
  case isTrue empty =>
    exact .inr ⟨_, rfl, .inl ⟨rfl, empty⟩, fun _ _ => Nat.zero_le _⟩
  case isFalse notEmpty =>
  split
  case isTrue large =>
    refine .inr ⟨_, rfl, .inr (.inl ⟨rfl, large⟩), ?_⟩
    rintro _ (⟨rfl, empty⟩ | ⟨rfl, _⟩ | ⟨rfl, _⟩ | ⟨rfl, _⟩)
    · exact absurd empty notEmpty
    all_goals simp [TimeError.rank]
  case isFalse small =>
  split
  case isTrue unitless =>
    split
    case isTrue zero =>
      refine .inl ⟨_, rfl, ?_⟩
      rintro _ (⟨rfl, empty⟩ | ⟨rfl, large⟩ | ⟨rfl, _, notZero⟩ | ⟨rfl, notUnitless, _⟩)
      · exact notEmpty empty
      · exact small large
      · exact notZero zero
      · exact notUnitless unitless
    case isFalse notZero =>
      refine .inr ⟨_, rfl, .inr (.inr (.inl ⟨rfl, unitless, notZero⟩)), ?_⟩
      rintro _ (⟨rfl, empty⟩ | ⟨rfl, large⟩ | ⟨rfl, _⟩ | ⟨rfl, _⟩)
      · exact absurd empty notEmpty
      · exact absurd large small
      all_goals simp [TimeError.rank]
  case isFalse notUnitless =>
    cases unit_eq : TimeUnit.ofSpelling? (String.ofList spelling) with
    | none =>
      refine .inr ⟨_, rfl, .inr (.inr (.inr ⟨rfl, notUnitless, rfl⟩)), ?_⟩
      rintro _ (⟨rfl, empty⟩ | ⟨rfl, large⟩ | ⟨rfl, unitless, _⟩ | ⟨rfl, _⟩)
      · exact absurd empty notEmpty
      · exact absurd large small
      · exact absurd unitless notUnitless
      · exact Nat.le_refl _
    | some unit =>
      refine .inl ⟨_, rfl, ?_⟩
      rintro _ (⟨rfl, empty⟩ | ⟨rfl, large⟩ | ⟨rfl, unitless, _⟩ | ⟨rfl, _, unknown⟩)
      · exact notEmpty empty
      · exact small large
      · exact notUnitless unitless
      · exact Option.some_ne_none unit unknown

/-- What is reported is the first fault. -/
theorem ofText_eq_error_iff {error : TimeError} :
    ofText text = .error error ↔ FirstFault text error := by
  rcases reads_or_reports text with ⟨time, read, faultless⟩ | ⟨first, reported, isFirst⟩
  · constructor
    · intro reported
      rw [read] at reported
      exact absurd reported (by simp)
    · intro isFirst
      exact absurd isFirst.1 (faultless error)
  · constructor
    · intro reported_eq
      rw [reported] at reported_eq
      rwa [← Except.error.inj reported_eq]
    · intro isError
      rw [reported, isFirst.unique isError]

/-! ## Printed time values -/

/-- The canonical spelling of a time value is a literal of it. -/
theorem literal_text (time : TimeValue) : Literal time.text time := by
  have named : time.unit.IsSpelled time.unit.name :=
    TimeUnit.ofSpelling?_eq_some_iff.mp (TimeUnit.ofSpelling?_name time.unit)
  have digits : (toString time.magnitude.toNat).toList =
      Nat.toDigits 10 time.magnitude.toNat := by
    rw [Nat.toString_eq_repr, Nat.toList_repr]
  have parts : time.text.toList =
      Nat.toDigits 10 time.magnitude.toNat ++ [' '] ++ time.unit.name.toList := by
    rw [text, String.toList_append, String.toList_append, digits]
    rfl
  have blank : ∀ char ∈ [' '], Text.isBlank char = true :=
    List.forall_mem_singleton.mpr (by decide)
  obtain ⟨notEmpty, letters⟩ := named.letters
  refine .measured ?_ Nat.toDigits_ne_nil (Text.denotes_toDigits _) blank named
  rw [parts]
  constructor
  case within => exact ⟨[], [], by simp, by simp, by simp⟩
  case first =>
    intro char isHead
    rw [List.append_assoc, List.head?_append_of_ne_nil _ Nat.toDigits_ne_nil] at isHead
    obtain ⟨value, digit⟩ :=
      (Text.denotes_toDigits time.magnitude.toNat).isDigit (List.mem_of_head? isHead)
    exact Text.isBlank_of_isDigit (digit.of_le (by decide))
  case last =>
    intro char isLast
    rw [List.getLast?_append_of_ne_nil _ notEmpty] at isLast
    exact (Text.not_isDecimalDigit_of_letter
      (letters char (List.mem_of_getLast? isLast))).2

/-- Exactly the literals of a time value are read as it, whatever else is reported for its
first fault, no spelling belongs to two units, and printing a time value and reading it
gives that time value. -/
theorem ofText_reads :
    (∀ text time, ofText text = .ok time ↔ Literal text time) ∧
    (∀ text error, ofText text = .error error ↔ FirstFault text error) ∧
    (∀ (spelling : String) (unit other : TimeUnit),
      unit.IsSpelled spelling -> other.IsSpelled spelling -> unit = other) ∧
    ∀ time : TimeValue, ofText time.text = .ok time := by
  refine ⟨?_, ?_, ?_, ?_⟩
  · intro text time
    exact ofText_eq_ok_iff
  · intro text error
    exact ofText_eq_error_iff
  · intro spelling unit other isUnit isOther
    have found := TimeUnit.ofSpelling?_eq_some_iff.mpr isUnit
    rw [TimeUnit.ofSpelling?_eq_some_iff.mpr isOther] at found
    exact (Option.some.inj found).symm
  · intro time
    exact ofText_eq_ok_iff.mpr (literal_text time)

/-- The magnitude is judged before the unit. -/
example : ofText "18446744073709551616 parsecs" =
    .error (.invalidMagnitude "18446744073709551616 parsecs") := by
  decide +kernel

end TimeValue
end ReactorGen
