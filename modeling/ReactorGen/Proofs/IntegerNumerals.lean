import ReactorGen.Proofs.LiteralParts
import ReactorGen.Text.Integer

/-!
# Integer numerals

The grammar of integers, and that exactly its numerals are read.  An unsigned numeral is
hexadecimal behind a prefix, octal behind a zero, or decimal, and no numeral is two of
these.  A text is read as the number that its numeral denotes if 32 bits can hold that
number, and otherwise as nothing; every integer of 32 bits is read back from its decimal
numeral.
-/

namespace ReactorGen
namespace Text

/-! ## The grammar -/

/-- What stands in front of hexadecimal digits. -/
def hexadecimalPrefixes : List (List Char) := [['0', 'x'], ['0', 'X'], ['#']]

/-- An unsigned numeral with the number that it denotes. -/
inductive UnsignedNumeral : List Char → Nat → Prop
  | hexadecimal
      {opening digits : List Char}
      {number : Nat}
      (opens : opening ∈ hexadecimalPrefixes)
      (notEmpty : digits ≠ [])
      (denotes : Denotes 16 digits number) :
      UnsignedNumeral (opening ++ digits) number
  | octal
      {digits : List Char}
      {number : Nat}
      (notEmpty : digits ≠ [])
      (denotes : Denotes 8 digits number) :
      UnsignedNumeral ('0' :: digits) number
  /-- No decimal numeral but zero itself starts with a zero. -/
  | decimal
      {digits : List Char}
      {number : Nat}
      (notEmpty : digits ≠ [])
      (notPadded : digits = ['0'] ∨ digits.head? ≠ some '0')
      (denotes : Denotes 10 digits number) :
      UnsignedNumeral digits number

/-- A numeral with the integer that it denotes. -/
inductive Numeral : List Char → Int → Prop
  | unsigned {chars : List Char} {number : Nat} (numeral : UnsignedNumeral chars number) :
      Numeral chars number
  | plus {chars : List Char} {number : Nat} (numeral : UnsignedNumeral chars number) :
      Numeral ('+' :: chars) number
  | minus {chars : List Char} {number : Nat} (numeral : UnsignedNumeral chars number) :
      Numeral ('-' :: chars) (-number)

/-! ## Reading numerals -/

/-- A row of digits starts with a digit. -/
theorem exists_isDigit_of_denotes
    {radix : Nat}
    {digits : List Char}
    {number : Nat}
    (notEmpty : digits ≠ [])
    (denotes : Denotes radix digits number) :
    ∃ char rest value, digits = char :: rest ∧ IsDigit radix char value := by
  cases digits with
  | nil => exact absurd rfl notEmpty
  | cons char rest =>
    obtain ⟨value, digit⟩ := denotes.isDigit (List.mem_cons_self ..)
    exact ⟨char, rest, value, rfl, digit⟩

theorem not_isDigit {radix : Nat} (bounded : radix ≤ 16) {char : Char}
    (notRead : digitValue? radix char = none) (value : Nat) : ¬IsDigit radix char value := by
  intro digit
  rw [(digitValue?_eq_some_iff bounded).mpr digit] at notRead
  exact absurd notRead (Option.some_ne_none value)

theorem radixAndDigits_hexadecimal
    {opening : List Char}
    (opens : opening ∈ hexadecimalPrefixes)
    (digits : List Char) :
    radixAndDigits (opening ++ digits) = (16, digits) := by
  simp only [hexadecimalPrefixes, List.mem_cons, List.not_mem_nil, or_false] at opens
  rcases opens with rfl | rfl | rfl <;> rfl

/-- Behind a zero, an octal digit is no prefix. -/
theorem radixAndDigits_octal
    {digits : List Char}
    {number : Nat}
    (notEmpty : digits ≠ [])
    (denotes : Denotes 8 digits number) :
    radixAndDigits ('0' :: digits) = (8, digits) := by
  obtain ⟨char, rest, value, rfl, digit⟩ := exists_isDigit_of_denotes notEmpty denotes
  have notLower : char ≠ 'x' := by
    rintro rfl
    exact not_isDigit (by decide) (by decide) value digit
  have notUpper : char ≠ 'X' := by
    rintro rfl
    exact not_isDigit (by decide) (by decide) value digit
  rw [radixAndDigits]
  · exact notLower
  · exact notUpper

/-- Nothing is cut from a decimal numeral. -/
theorem radixAndDigits_decimal
    {digits : List Char}
    {number : Nat}
    (notEmpty : digits ≠ [])
    (notPadded : digits = ['0'] ∨ digits.head? ≠ some '0')
    (denotes : Denotes 10 digits number) :
    radixAndDigits digits = (10, digits) := by
  rcases notPadded with rfl | notZero
  · rfl
  · obtain ⟨char, rest, value, rfl, digit⟩ := exists_isDigit_of_denotes notEmpty denotes
    have notPrefix : char ≠ '#' := by
      rintro rfl
      exact not_isDigit (by decide) (by decide) value digit
    have notZero : char ≠ '0' := by simpa using notZero
    rw [radixAndDigits]
    case x_3 => simp [notPrefix]
    all_goals simp [notZero]

/-- What is cut decides what is read. -/
theorem unsigned?_eq_some_iff_of_cut
    {chars digits : List Char}
    {radix number : Nat}
    (cut : radixAndDigits chars = (radix, digits))
    (bounded : radix ≤ 16) :
    unsigned? chars = some number ↔ digits ≠ [] ∧ Denotes radix digits number := by
  rw [unsigned?, cut, number?_eq_some_iff bounded]

/-- What can be cut from a numeral. -/
theorem radixAndDigits_cases (chars : List Char) :
    (∃ opening ∈ hexadecimalPrefixes, ∃ digits, chars = opening ++ digits ∧
      radixAndDigits chars = (16, digits)) ∨
    (∃ digits, digits ≠ [] ∧ chars = '0' :: digits ∧ radixAndDigits chars = (8, digits)) ∨
    (chars = ['0'] ∨ chars.head? ≠ some '0') ∧ radixAndDigits chars = (10, chars) := by
  fun_cases radixAndDigits chars with
  | case1 digits => exact .inl ⟨['0', 'x'], by decide, digits, rfl, rfl⟩
  | case2 digits => exact .inl ⟨['0', 'X'], by decide, digits, rfl, rfl⟩
  | case3 digits => exact .inl ⟨['#'], by decide, digits, rfl, rfl⟩
  | case4 char digits => exact .inr (.inl ⟨char :: digits, List.cons_ne_nil _ _, rfl, rfl⟩)
  | case5 _ _ _ _ notPadded =>
    refine .inr (.inr ⟨?_, rfl⟩)
    cases chars with
    | nil => exact .inr (by decide)
    | cons char rest =>
      by_cases zero : char = '0'
      · subst zero
        cases rest with
        | nil => exact .inl rfl
        | cons digit digits => exact absurd rfl (notPadded digit digits)
      · exact .inr (by simpa using zero)

/-- Unsigned numerals are read as what they denote, and nothing else is read. -/
theorem unsigned?_eq_some_iff {chars : List Char} {number : Nat} :
    unsigned? chars = some number ↔ UnsignedNumeral chars number := by
  constructor
  · intro read
    rcases radixAndDigits_cases chars with ⟨opening, opens, digits, rfl, cut⟩ |
      ⟨digits, _, rfl, cut⟩ | ⟨notPadded, cut⟩
    · obtain ⟨notEmpty, denotes⟩ := (unsigned?_eq_some_iff_of_cut cut (by decide)).mp read
      exact .hexadecimal opens notEmpty denotes
    · obtain ⟨notEmpty, denotes⟩ := (unsigned?_eq_some_iff_of_cut cut (by decide)).mp read
      exact .octal notEmpty denotes
    · obtain ⟨notEmpty, denotes⟩ := (unsigned?_eq_some_iff_of_cut cut (by decide)).mp read
      exact .decimal notEmpty notPadded denotes
  · intro numeral
    cases numeral with
    | hexadecimal opens notEmpty denotes =>
      exact (unsigned?_eq_some_iff_of_cut (radixAndDigits_hexadecimal opens _)
        (by decide)).mpr ⟨notEmpty, denotes⟩
    | octal notEmpty denotes =>
      exact (unsigned?_eq_some_iff_of_cut (radixAndDigits_octal notEmpty denotes)
        (by decide)).mpr ⟨notEmpty, denotes⟩
    | decimal notEmpty notPadded denotes =>
      exact (unsigned?_eq_some_iff_of_cut
        (radixAndDigits_decimal notEmpty notPadded denotes) (by decide)).mpr
          ⟨notEmpty, denotes⟩

/-- A sign is no digit, so no unsigned numeral starts with one. -/
theorem UnsignedNumeral.head?_ne
    {chars : List Char}
    {number : Nat}
    (numeral : UnsignedNumeral chars number)
    (char : Char)
    (notDigit : digitValue? 16 char = none)
    (notPrefix : char ≠ '#') :
    chars.head? ≠ some char := by
  have notZero : char ≠ '0' := by
    rintro rfl
    exact absurd notDigit (by decide)
  cases numeral with
  | hexadecimal opens _ _ =>
    simp only [hexadecimalPrefixes, List.mem_cons, List.not_mem_nil, or_false] at opens
    rcases opens with rfl | rfl | rfl
    · simpa using notZero.symm
    · simpa using notZero.symm
    · simpa using notPrefix.symm
  | octal _ _ => simpa using notZero.symm
  | decimal notEmpty _ denotes =>
    obtain ⟨first, rest, value, rfl, digit⟩ := exists_isDigit_of_denotes notEmpty denotes
    rw [List.head?_cons, ne_eq, Option.some.injEq]
    rintro rfl
    exact not_isDigit (by decide) notDigit value (digit.of_le (by decide))

theorem signed?_minus (rest : List Char) :
    signed? ('-' :: rest) = (unsigned? rest).map fun value => -Int.ofNat value := by
  rw [signed?]
  cases unsigned? rest <;> rfl

theorem signed?_plus (rest : List Char) :
    signed? ('+' :: rest) = (unsigned? rest).map Int.ofNat := by
  rw [signed?]
  cases unsigned? rest <;> rfl

theorem signed?_of_head?_ne
    {chars : List Char}
    (notMinus : chars.head? ≠ some '-')
    (notPlus : chars.head? ≠ some '+') :
    signed? chars = (unsigned? chars).map Int.ofNat := by
  rw [signed?]
  · cases unsigned? chars <;> rfl
  · rintro rest rfl
    exact notMinus rfl
  · rintro rest rfl
    exact notPlus rfl

/-- Numerals are read as what they denote, and nothing else is read. -/
theorem signed?_eq_some_iff {chars : List Char} {number : Int} :
    signed? chars = some number ↔ Numeral chars number := by
  constructor
  · intro read
    by_cases minus : chars.head? = some '-'
    · obtain ⟨rest, rfl⟩ := List.head?_eq_some_iff.mp minus
      rw [signed?_minus, Option.map_eq_some_iff] at read
      obtain ⟨value, value_eq, rfl⟩ := read
      exact .minus (unsigned?_eq_some_iff.mp value_eq)
    by_cases plus : chars.head? = some '+'
    · obtain ⟨rest, rfl⟩ := List.head?_eq_some_iff.mp plus
      rw [signed?_plus, Option.map_eq_some_iff] at read
      obtain ⟨value, value_eq, rfl⟩ := read
      exact .plus (unsigned?_eq_some_iff.mp value_eq)
    · rw [signed?_of_head?_ne minus plus, Option.map_eq_some_iff] at read
      obtain ⟨value, value_eq, rfl⟩ := read
      exact .unsigned (unsigned?_eq_some_iff.mp value_eq)
  · intro numeral
    cases numeral with
    | minus numeral =>
      rw [signed?_minus, unsigned?_eq_some_iff.mpr numeral]
      rfl
    | plus numeral =>
      rw [signed?_plus, unsigned?_eq_some_iff.mpr numeral]
      rfl
    | unsigned numeral =>
      have notMinus := numeral.head?_ne '-' (by decide) (by decide)
      have notPlus := numeral.head?_ne '+' (by decide) (by decide)
      rw [signed?_of_head?_ne notMinus notPlus, unsigned?_eq_some_iff.mpr numeral]
      rfl

/-! ## Characters of numerals -/

/-- Whether a character can stand in a numeral behind the sign. -/
def isPlain (char : Char) : Bool :=
  char.toNat < 128 && !isBlank char && char != '+' && char != '-'

theorem isPlain_iff {char : Char} :
    isPlain char = true ↔
      char.toNat < 128 ∧ isBlank char = false ∧ char ≠ '+' ∧ char ≠ '-' := by
  simp [isPlain, and_assoc]

theorem isPlain_of_isDigit
    {char : Char}
    {value : Nat}
    (digit : IsDigit 16 char value) :
    isPlain char = true := by
  refine IsDigit.holds_of_codes ?_ digit
  decide

theorem UnsignedNumeral.isPlain
    {chars : List Char}
    {number : Nat}
    (numeral : UnsignedNumeral chars number) :
    ∀ char ∈ chars, isPlain char = true := by
  have ofDigits {radix number : Nat} {digits : List Char} (bounded : radix ≤ 16)
      (denotes : Denotes radix digits number) : ∀ char ∈ digits, Text.isPlain char = true := by
    intro char member
    obtain ⟨value, digit⟩ := denotes.isDigit member
    exact isPlain_of_isDigit (digit.of_le bounded)
  cases numeral with
  | hexadecimal opens _ denotes =>
    have prefixes : ∀ opening ∈ hexadecimalPrefixes, opening.all Text.isPlain = true := by
      decide
    exact List.forall_mem_append.mpr
      ⟨List.all_eq_true.mp (prefixes _ opens), ofDigits (by decide) denotes⟩
  | octal _ denotes =>
    exact List.forall_mem_cons.mpr ⟨by decide, ofDigits (by decide) denotes⟩
  | decimal _ _ denotes => exact ofDigits (by decide) denotes

/-- A numeral consists of one character that may be a sign, and of plain ones. -/
theorem Numeral.exists_isPlain
    {chars : List Char}
    {number : Int}
    (numeral : Numeral chars number) :
    ∃ char rest, chars = char :: rest ∧ char.toNat < 128 ∧ isBlank char = false ∧
      ∀ char ∈ rest, isPlain char = true := by
  cases numeral with
  | unsigned numeral =>
    cases chars with
    | nil =>
      have notEmpty : unsigned? [] = none := rfl
      rw [unsigned?_eq_some_iff.mpr numeral] at notEmpty
      exact absurd notEmpty (Option.some_ne_none _)
    | cons char rest =>
      obtain ⟨first, plain⟩ := List.forall_mem_cons.mp numeral.isPlain
      obtain ⟨ascii, notBlank, _⟩ := isPlain_iff.mp first
      exact ⟨char, rest, rfl, ascii, notBlank, plain⟩
  | plus numeral => exact ⟨'+', _, rfl, by decide, by decide, numeral.isPlain⟩
  | minus numeral => exact ⟨'-', _, rfl, by decide, by decide, numeral.isPlain⟩

/-! ## Printed integers -/

theorem unsignedNumeral_repr (number : Nat) :
    UnsignedNumeral number.repr.toList number := by
  rw [Nat.toList_repr]
  exact .decimal Nat.toDigits_ne_nil (head?_toDigits number) (denotes_toDigits number)

/-- A printed integer is a numeral of itself. -/
theorem numeral_toString (number : Int) : Numeral (toString number).toList number := by
  cases number with
  | ofNat value => exact .unsigned (unsignedNumeral_repr value)
  | negSucc value =>
    have minus : (toString (Int.negSucc value)).toList = '-' :: (value + 1).repr.toList := by
      rw [show toString (Int.negSucc value) = "-" ++ (value + 1).repr from rfl,
        String.toList_append]
      rfl
    rw [minus]
    exact .minus (unsignedNumeral_repr (value + 1))

theorem Numeral.trimmed
    {chars : List Char}
    {number : Int}
    (numeral : Numeral chars number) :
    Trimmed chars chars := by
  obtain ⟨char, rest, rfl, _, notBlank, plain⟩ := numeral.exists_isPlain
  refine trimmed_self (List.forall_mem_cons.mpr ⟨notBlank, fun other member => ?_⟩)
  exact (isPlain_iff.mp (plain other member)).2.1

/-! ## Reading texts -/

/-- What 32 bits with a sign can hold. -/
theorem map_ofInt_eq_some_iff {value number : Int} :
    (if Int32.minValue.toInt ≤ value ∧ value ≤ Int32.maxValue.toInt
        then some (Int32.ofInt value) else none).map Int32.toInt = some number ↔
      value = number ∧ -2147483648 ≤ number ∧ number ≤ 2147483647 := by
  have smallest : Int32.minValue.toInt = -2147483648 := by decide
  have greatest : Int32.maxValue.toInt = 2147483647 := by decide
  rw [smallest, greatest]
  split
  case isTrue bounds =>
    have kept : (Int32.ofInt value).toInt = value :=
      Int32.toInt_ofInt_of_le (by omega) (by omega)
    rw [Option.map_some, kept, Option.some.injEq]
    constructor
    · rintro rfl
      exact ⟨rfl, bounds⟩
    · exact fun same => same.1
  case isFalse bounds =>
    simp only [Option.map_none, reduceCtorEq, false_iff]
    rintro ⟨rfl, lower, upper⟩
    exact bounds ⟨lower, upper⟩

/-- A text is read as the integer of its numeral if 32 bits can hold it. -/
theorem map_integer?_eq_some_iff {text : String} {number : Int} :
    (integer? text).map Int32.toInt = some number ↔
      ∃ core, Trimmed core text.toList ∧ Numeral core number ∧
        -2147483648 ≤ number ∧ number ≤ 2147483647 := by
  simp only [trimmed_iff, ← signed?_eq_some_iff, exists_eq_left', integer?]
  cases signed? (trimChars text.toList) with
  | none => simp
  | some value => simp only [map_ofInt_eq_some_iff, Option.some.injEq]

theorem integer?_eq_none_iff {text : String} :
    integer? text = none ↔
      ∀ core number, Trimmed core text.toList -> Numeral core number ->
        number < -2147483648 ∨ 2147483647 < number := by
  constructor
  · intro unread core number trimmed numeral
    by_contra! bounds
    have read := map_integer?_eq_some_iff.mpr ⟨core, trimmed, numeral, bounds⟩
    rw [unread] at read
    exact absurd read (by simp)
  · intro unreadable
    cases read : integer? text with
    | none => rfl
    | some value =>
      have read_eq : (integer? text).map Int32.toInt = some value.toInt := by rw [read]; rfl
      obtain ⟨core, trimmed, numeral, bounds⟩ := map_integer?_eq_some_iff.mp read_eq
      have outside := unreadable core value.toInt trimmed numeral
      omega

/-- A sign that does not stand in front, or a character that is not one of the first 128,
keeps a text from being read. -/
theorem integer?_eq_none_of_not_plain
    {text : String}
    {core : List Char}
    (trimmed : Trimmed core text.toList)
    (notPlain : (∃ char ∈ core.tail, char = '+' ∨ char = '-') ∨
      ∃ char ∈ core, 128 ≤ char.toNat) :
    integer? text = none := by
  rw [integer?_eq_none_iff]
  intro other number otherTrimmed numeral
  have same : core = other :=
    (trimmed_iff.mp trimmed).symm.trans (trimmed_iff.mp otherTrimmed)
  subst same
  obtain ⟨first, rest, rfl, ascii, _, plain⟩ := numeral.exists_isPlain
  exfalso
  rcases notPlain with ⟨char, inRest, sign⟩ | ⟨char, member, large⟩
  · obtain ⟨_, _, notPlus, notMinus⟩ := isPlain_iff.mp (plain char inRest)
    exact sign.elim notPlus notMinus
  · have small : char.toNat < 128 := by
      rcases List.mem_cons.mp member with rfl | inRest
      · exact ascii
      · exact (isPlain_iff.mp (plain char inRest)).1
    omega

theorem integer?_toString (value : Int32) :
    integer? (toString value.toInt) = some value := by
  have numeral := numeral_toString value.toInt
  have bounds : -2147483648 ≤ value.toInt ∧ value.toInt ≤ 2147483647 := by
    have lower := value.le_toInt
    have upper := value.toInt_lt
    omega
  have read := map_integer?_eq_some_iff.mpr ⟨_, numeral.trimmed, numeral, bounds⟩
  obtain ⟨other, read_eq, same⟩ := Option.map_eq_some_iff.mp read
  rw [read_eq, Int32.toInt_inj.mp same]

/-- A text is read as an integer exactly if what stands between the white space around it is
a numeral of an integer that 32 bits can hold, and every such integer is read back from its
decimal numeral. -/
theorem integer?_reads :
    (∀ text number, (integer? text).map Int32.toInt = some number ↔
      ∃ core, Trimmed core text.toList ∧ Numeral core number ∧
        -2147483648 ≤ number ∧ number ≤ 2147483647) ∧
    (∀ text, integer? text = none ↔
      ∀ core number, Trimmed core text.toList -> Numeral core number ->
        number < -2147483648 ∨ 2147483647 < number) ∧
    (∀ text core, Trimmed core text.toList ->
      ((∃ char ∈ core.tail, char = '+' ∨ char = '-') ∨ ∃ char ∈ core, 128 ≤ char.toNat) ->
      integer? text = none) ∧
    ∀ value : Int32, integer? (toString value.toInt) = some value := by
  refine ⟨?_, ?_, ?_, ?_⟩
  · intro text number
    exact map_integer?_eq_some_iff
  · intro text
    exact integer?_eq_none_iff
  · intro text core trimmed notPlain
    exact integer?_eq_none_of_not_plain trimmed notPlain
  · exact integer?_toString

/-- The smallest integer has no positive counterpart. -/
example : (integer? "-0x80000000").map Int32.toInt = some (-2147483648) ∧
    integer? "0x80000000" = none := by
  decide +kernel

end Text
end ReactorGen
