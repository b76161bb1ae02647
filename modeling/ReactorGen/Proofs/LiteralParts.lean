import Mathlib.Data.List.Induction
import Mathlib.Data.Nat.Digits.Defs
import ReactorGen.Proofs.Results
import ReactorGen.Proofs.Trimming
import ReactorGen.Text.Blank
import ReactorGen.Text.Digits

/-!
# Digits and white space

What literals are made of.  A row of digits denotes a number by position, the last digit
being that of the ones, and the white space around some characters ends where the first
and the last character that is not blank stand.  Reading a row gives the number that it
denotes, however long it is, and nothing where a character is no digit; a printed number
denotes itself.
-/

namespace ReactorGen
namespace Text

/-! ## Digits -/

/-- A character that is, in either letter case, the digit of a value. -/
structure IsDigit (radix : Nat) (char : Char) (value : Nat) : Prop where
  small : value < radix
  spelled : char.toLower = value.digitChar

theorem toNat_lt_of_digitValue?
    {char : Char}
    {value : Nat}
    (read : digitValue? 16 char = some value) :
    char.toNat < 128 := by
  simp only [digitValue?, Option.filter_eq_some_iff] at read
  have upperBound {last : Char} (bound : char ≤ last) : char.toNat ≤ last.toNat := bound
  split at read
  case isTrue digit => exact Nat.lt_of_le_of_lt (upperBound digit.2) (by decide)
  split at read
  case isTrue lower => exact Nat.lt_of_le_of_lt (upperBound lower.2) (by decide)
  split at read
  case isTrue upper => exact Nat.lt_of_le_of_lt (upperBound upper.2) (by decide)
  simp at read

/-- Only letters of the first 128 characters have another lower case. -/
theorem toNat_lt_of_toLower {char : Char} (small : char.toLower.toNat < 128) :
    char.toNat < 128 := by
  by_contra large
  have notUpper : ¬(char.val ≥ 'A'.val ∧ char.val ≤ 'Z'.val) := by
    rintro ⟨_, bound⟩
    have upperBound : char.toNat ≤ 'Z'.toNat := bound
    exact large (Nat.lt_of_le_of_lt upperBound (by decide))
  have unchanged : char.toLower = char := dif_neg notUpper
  rw [unchanged] at small
  exact large small

theorem IsDigit.toNat_lt
    {char : Char}
    {value : Nat}
    (digit : IsDigit 16 char value) :
    char.toNat < 128 := by
  have digits : ∀ value < 16, value.digitChar.toNat < 128 := by decide
  apply toNat_lt_of_toLower
  rw [digit.spelled]
  exact digits value digit.small

/-- The first characters of the character standard can be gone through one by one. -/
@[elab_as_elim]
theorem forall_toNat_lt
    {holds : Char -> Prop}
    {bound : Nat}
    {char : Char}
    (codes : ∀ code < bound, holds (Char.ofNat code))
    (small : char.toNat < bound) :
    holds char := by
  have found := codes char.toNat small
  rwa [Char.ofNat_toNat] at found

theorem digitValue?_sixteen_eq_some_iff {char : Char} {value : Nat} :
    digitValue? 16 char = some value ↔ IsDigit 16 char value := by
  have first {char : Char} (small : char.toNat < 128) : ∀ value < 16,
      digitValue? 16 char = some value ↔ char.toLower = value.digitChar := by
    refine forall_toNat_lt ?_ small
    decide +kernel
  constructor
  · intro read
    have small : value < 16 := of_decide_eq_true (Option.filter_eq_some_iff.mp read).2
    exact ⟨small, (first (toNat_lt_of_digitValue? read) value small).mp read⟩
  · intro digit
    exact (first digit.toNat_lt value digit.small).mpr digit.spelled

/-- All digits are among the first characters. -/
@[elab_as_elim]
theorem IsDigit.holds_of_codes
    {holds : Char -> Prop}
    {char : Char}
    {value : Nat}
    (codes : ∀ code < 128, (digitValue? 16 (Char.ofNat code)).isSome = true ->
      holds (Char.ofNat code))
    (digit : IsDigit 16 char value) :
    holds char := by
  have first : (digitValue? 16 char).isSome = true -> holds char :=
    forall_toNat_lt codes digit.toNat_lt
  apply first
  rw [digitValue?_sixteen_eq_some_iff.mpr digit]
  rfl

/-- A smaller radix has fewer digits. -/
theorem digitValue?_eq_filter
    {radix : Nat}
    (bounded : radix ≤ 16)
    (char : Char) :
    digitValue? radix char = (digitValue? 16 char).filter (· < radix) := by
  have both : ∀ value, (decide (value < 16) && decide (value < radix)) =
      decide (value < radix) := by
    intro value
    rw [← Bool.decide_and, decide_eq_decide]
    omega
  simp only [digitValue?, Option.filter_filter, both]

theorem digitValue?_eq_some_iff
    {radix : Nat}
    (bounded : radix ≤ 16)
    {char : Char}
    {value : Nat} :
    digitValue? radix char = some value ↔ IsDigit radix char value := by
  rw [digitValue?_eq_filter bounded, Option.filter_eq_some_iff, decide_eq_true_eq,
    digitValue?_sixteen_eq_some_iff]
  constructor
  · rintro ⟨digit, small⟩
    exact ⟨small, digit.spelled⟩
  · rintro ⟨small, spelled⟩
    exact ⟨⟨Nat.lt_of_lt_of_le small bounded, spelled⟩, small⟩

/-! ## Rows -/

/-- The number that a row of digits denotes, the last digit being that of the ones. -/
def Denotes (radix : Nat) (digits : List Char) (number : Nat) : Prop :=
  ∃ values, List.Forall₂ (IsDigit radix) digits values ∧
    Nat.ofDigits radix values.reverse = number

/-- Reading goes on from what is read, so the values are added up from the left. -/
theorem appendDigits?_eq_some_iff
    {radix : Nat}
    (bounded : radix ≤ 16)
    {start : Nat}
    {digits : List Char}
    {number : Nat} :
    appendDigits? radix start digits = some number ↔
      ∃ values, List.Forall₂ (IsDigit radix) digits values ∧
        values.foldl (fun total value => value + radix * total) start = number := by
  induction digits generalizing start with
  | nil => simp [appendDigits?]
  | cons char rest inductionHypothesis =>
    simp only [List.forall₂_cons_left_iff, appendDigits?]
    constructor
    · intro read
      cases first : digitValue? radix char with
      | none => simp [first] at read
      | some value =>
        rw [first] at read
        obtain ⟨values, digits, folded⟩ := inductionHypothesis.mp read
        refine ⟨value :: values, ⟨value, values, ?_, digits, rfl⟩, ?_⟩
        · exact (digitValue?_eq_some_iff bounded).mp first
        · rw [List.foldl_cons, Nat.add_comm, Nat.mul_comm, folded]
    · rintro ⟨_, ⟨value, values, first, digits, rfl⟩, folded⟩
      rw [(digitValue?_eq_some_iff bounded).mpr first]
      rw [List.foldl_cons, Nat.add_comm, Nat.mul_comm] at folded
      exact inductionHypothesis.mpr ⟨values, digits, folded⟩

theorem appendDigits?_zero_eq_some_iff
    {radix : Nat}
    (bounded : radix ≤ 16)
    {digits : List Char}
    {number : Nat} :
    appendDigits? radix 0 digits = some number ↔ Denotes radix digits number := by
  have folded (values : List Nat) : Nat.ofDigits radix values.reverse =
      values.foldl (fun total value => value + radix * total) 0 := by
    rw [Nat.ofDigits_eq_foldr, List.foldr_reverse]
    rfl
  simp only [appendDigits?_eq_some_iff bounded, Denotes, folded]

/-- A row of digits is read as the number that it denotes. -/
theorem number?_eq_some_iff
    {radix : Nat}
    (bounded : radix ≤ 16)
    {digits : List Char}
    {number : Nat} :
    number? radix digits = some number ↔ digits ≠ [] ∧ Denotes radix digits number := by
  simp only [number?, List.isEmpty_iff]
  split
  case isTrue empty => simp [empty]
  case isFalse notEmpty =>
    simp only [appendDigits?_zero_eq_some_iff bounded, ne_eq, notEmpty, not_false_eq_true,
      true_and]

/-- A row denotes one number. -/
theorem Denotes.unique
    {radix : Nat}
    (bounded : radix ≤ 16)
    {digits : List Char}
    {first second : Nat}
    (denotesFirst : Denotes radix digits first)
    (denotesSecond : Denotes radix digits second) :
    first = second := by
  rw [← appendDigits?_zero_eq_some_iff bounded] at denotesFirst denotesSecond
  exact Option.some.inj (denotesFirst.symm.trans denotesSecond)

theorem Denotes.isDigit
    {radix : Nat}
    {digits : List Char}
    {number : Nat}
    (denotes : Denotes radix digits number)
    {char : Char}
    (member : char ∈ digits) :
    ∃ value, IsDigit radix char value := by
  obtain ⟨values, row, _⟩ := denotes
  obtain ⟨value, _, digit⟩ := Result.exists_item_of_forall₂ row.flip member
  exact ⟨value, digit⟩

/-- A digit behind a row counts ones, and the row counts as many times more as the radix
says. -/
theorem Denotes.append_digit
    {radix : Nat}
    {digits : List Char}
    {number : Nat}
    (denotes : Denotes radix digits number)
    {char : Char}
    {value : Nat}
    (digit : IsDigit radix char value) :
    Denotes radix (digits ++ [char]) (value + radix * number) := by
  obtain ⟨values, row, rfl⟩ := denotes
  refine ⟨values ++ [value], List.rel_append row (.cons digit .nil), ?_⟩
  rw [List.reverse_concat, Nat.ofDigits_cons]

/-! ## Decimal digits -/

theorem isDigit_digitChar {value : Nat} (small : value < 10) :
    IsDigit 10 value.digitChar value where
  small := small
  spelled := by
    have unchanged : ∀ value < 10, value.digitChar.toLower = value.digitChar := by decide
    exact unchanged value small

/-- A printed number denotes itself. -/
theorem denotes_toDigits (number : Nat) : Denotes 10 (Nat.toDigits 10 number) number := by
  induction number using Nat.strongRecOn with
  | ind number inductionHypothesis =>
    by_cases single : number < 10
    · rw [Nat.toDigits_of_lt_base single]
      exact ⟨[number], .cons (isDigit_digitChar single) .nil, Nat.ofDigits_singleton⟩
    · have tens := inductionHypothesis (number / 10) (by omega)
      have ones : IsDigit 10 (number % 10).digitChar (number % 10) :=
        isDigit_digitChar (Nat.mod_lt _ (by decide))
      rw [Nat.toDigits_of_base_le (by decide) (Nat.le_of_not_lt single)]
      have denotes := tens.append_digit ones
      rwa [Nat.mod_add_div] at denotes

/-- A printed number has no superfluous zero in front. -/
theorem head?_toDigits (number : Nat) :
    Nat.toDigits 10 number = ['0'] ∨ (Nat.toDigits 10 number).head? ≠ some '0' := by
  induction number using Nat.strongRecOn with
  | ind number inductionHypothesis =>
    by_cases single : number < 10
    · have digits : ∀ value < 10, value.digitChar = '0' ∨ value.digitChar ≠ '0' := by decide
      rw [Nat.toDigits_of_lt_base single]
      simpa using digits number single
    · right
      have notZero : Nat.toDigits 10 (number / 10) ≠ ['0'] := by
        intro zero
        have denotes := denotes_toDigits (number / 10)
        rw [zero] at denotes
        have none : number / 10 = 0 :=
          denotes.unique (by decide) (denotes_toDigits 0)
        omega
      rw [Nat.toDigits_of_base_le (by decide) (Nat.le_of_not_lt single),
        List.head?_append_of_ne_nil _ Nat.toDigits_ne_nil]
      exact (inductionHypothesis (number / 10) (by omega)).resolve_left notZero

theorem IsDigit.of_le
    {first second : Nat}
    (bounded : first ≤ second)
    {char : Char}
    {value : Nat}
    (digit : IsDigit first char value) :
    IsDigit second char value :=
  ⟨Nat.lt_of_lt_of_le digit.small bounded, digit.spelled⟩

theorem isDecimalDigit_iff {char : Char} :
    isDecimalDigit char = true ↔ ∃ value, IsDigit 10 char value := by
  have first {char : Char} (small : char.toNat < 128) :
      isDecimalDigit char = true ↔ (digitValue? 10 char).isSome = true := by
    refine forall_toNat_lt ?_ small
    decide
  simp only [← digitValue?_eq_some_iff (show 10 ≤ 16 by decide), ← Option.isSome_iff_exists]
  constructor
  · intro decimal
    have bound : char ≤ '9' := by simpa using (Bool.and_eq_true_iff.mp decimal).2
    have upperBound : char.toNat ≤ '9'.toNat := bound
    exact (first (Nat.lt_of_le_of_lt upperBound (by decide))).mp decimal
  · intro read
    obtain ⟨value, read_eq⟩ := Option.isSome_iff_exists.mp read
    have digit := (digitValue?_eq_some_iff (by decide)).mp read_eq
    exact (first (digit.of_le (by decide)).toNat_lt).mpr read

/-- A row of decimal digits denotes some number. -/
theorem exists_denotes
    {digits : List Char}
    (decimal : ∀ char ∈ digits, isDecimalDigit char = true) :
    ∃ number, Denotes 10 digits number := by
  induction digits using List.reverseRecOn with
  | nil => exact ⟨0, [], .nil, rfl⟩
  | append_singleton digits char inductionHypothesis =>
    rw [List.forall_mem_append, List.forall_mem_singleton] at decimal
    obtain ⟨number, denotes⟩ := inductionHypothesis decimal.1
    obtain ⟨value, digit⟩ := isDecimalDigit_iff.mp decimal.2
    exact ⟨value + 10 * number, denotes.append_digit digit⟩

theorem Denotes.isDecimalDigit
    {digits : List Char}
    {number : Nat}
    (denotes : Denotes 10 digits number) :
    ∀ char ∈ digits, isDecimalDigit char = true := by
  intro char member
  exact isDecimalDigit_iff.mpr (denotes.isDigit member)

/-! ## White space -/

/-- What stands between the white space around some characters. -/
structure Trimmed (core chars : List Char) : Prop where
  within : ∃ before after, chars = before ++ core ++ after ∧
    (∀ char ∈ before, isBlank char = true) ∧ (∀ char ∈ after, isBlank char = true)
  first : ∀ char ∈ core.head?, isBlank char = false
  last : ∀ char ∈ core.getLast?, isBlank char = false

/-- What has been trimmed does not end in white space. -/
theorem Trimmed.eq_nil_of_blank
    {front after chars : List Char}
    (trimmed : Trimmed (front ++ after) chars)
    (blank : ∀ char ∈ after, isBlank char = true) :
    after = [] := by
  by_contra notEmpty
  have last := trimmed.last (after.getLast notEmpty) (by
    rw [List.getLast?_append_of_ne_nil _ notEmpty, List.getLast?_eq_some_getLast notEmpty]
    rfl)
  rw [blank _ (List.getLast_mem notEmpty)] at last
  exact Bool.false_ne_true last.symm

theorem trimmed_iff_trims {core chars : List Char} :
    Trimmed core chars ↔ Trims isBlank core chars := by
  constructor
  · exact fun trimmed => ⟨trimmed.within, trimmed.first, trimmed.last⟩
  · exact fun trims => ⟨trims.within, trims.first, trims.last⟩

/-- Trimming leaves what stands between the white space, which there is only one of. -/
theorem trimmed_iff {core chars : List Char} :
    Trimmed core chars ↔ trimChars chars = core :=
  trimmed_iff_trims.trans Trims.iff_eq

theorem trimmed_trimChars (chars : List Char) : Trimmed (trimChars chars) chars :=
  trimmed_iff.mpr rfl

theorem trimmed_self
    {chars : List Char}
    (notBlank : ∀ char ∈ chars, isBlank char = false) :
    Trimmed chars chars where
  within := ⟨[], [], by simp, by simp, by simp⟩
  first char isHead := notBlank char (List.mem_of_head? isHead)
  last char isLast := notBlank char (List.mem_of_getLast? isLast)

theorem isBlank_of_isDigit
    {char : Char}
    {value : Nat}
    (digit : IsDigit 16 char value) :
    isBlank char = false := by
  refine IsDigit.holds_of_codes ?_ digit
  decide

end Text
end ReactorGen
