import Mathlib.Data.List.Basic
import ReactorGen.Text.Lines

/-!
# Cutting texts

Where two equal texts can be cut into equal parts.  A text is cut behind a
separator that the rest does not hold; and texts whose last characters differ are
not equal, whatever stands before them.  Numbers and words that are joined with
underscores are cut apart in the same way.
-/

namespace ReactorGen
namespace Text

/-- Whether a text ends with a character. -/
def EndsIn (separator : Char) (text : String) : Prop :=
  text.toList.getLast? = some separator

instance (separator : Char) (text : String) : Decidable (EndsIn separator text) :=
  inferInstanceAs (Decidable (_ = _))

/-- The last characters of a text, the last one first. -/
def ending (count : Nat) (text : String) : List Char :=
  text.toList.reverse.take count

/-- What stands before a text does not change how it ends. -/
theorem EndsIn.append
    {separator : Char}
    {text : String}
    (ends : EndsIn separator text)
    (before : String) :
    EndsIn separator (before ++ text) := by
  rw [EndsIn] at ends ⊢
  rw [String.toList_append, List.getLast?_append, ends]
  rfl

/-- What stands before a text that is long enough does not change its last
characters. -/
theorem ending_append
    {count : Nat}
    {text : String}
    (long : count ≤ text.toList.length)
    (before : String) :
    ending count (before ++ text) = ending count text := by
  have longReverse : count ≤ text.toList.reverse.length := by
    rw [List.length_reverse]
    exact long
  rw [ending, String.toList_append, List.reverse_append,
    List.take_append_of_le_length longReverse, ending]

/-- Texts are different if their last characters are. -/
theorem append_ne_append
    (count : Nat)
    {left right : String}
    (leftLong : count ≤ left.toList.length)
    (rightLong : count ≤ right.toList.length)
    (different : ending count left ≠ ending count right)
    (first second : String) :
    first ++ left ≠ second ++ right := by
  intro equal
  apply different
  rw [← ending_append leftLong first, equal, ending_append rightLong second]

/-- Texts are different if their first characters are. -/
theorem append_ne_append_of_take
    (count : Nat)
    {left right : String}
    (leftLong : count ≤ left.toList.length)
    (rightLong : count ≤ right.toList.length)
    (different : left.toList.take count ≠ right.toList.take count)
    (first second : String) :
    left ++ first ≠ right ++ second := by
  intro equal
  apply different
  rw [← List.take_append_of_le_length leftLong, ← String.toList_append, equal,
    String.toList_append, List.take_append_of_le_length rightLong]

/-- A text differs from one that starts with other characters. -/
theorem append_ne_of_take
    (count : Nat)
    {left right : String}
    (leftLong : count ≤ left.toList.length)
    (rightLong : count ≤ right.toList.length)
    (different : left.toList.take count ≠ right.toList.take count)
    (rest : String) :
    left ++ rest ≠ right := by
  have apart := append_ne_append_of_take count leftLong rightLong different rest ""
  rwa [String.append_empty] at apart

theorem append_inj_of_getLast?
    {separator : Char}
    {first second left right : List Char}
    (firstEnds : first.getLast? = some separator)
    (secondEnds : second.getLast? = some separator)
    (leftFree : separator ∉ left)
    (rightFree : separator ∉ right)
    (equal : first ++ left = second ++ right) :
    first = second ∧ left = right := by
  rcases List.append_eq_append_iff.mp equal with
    ⟨between, second_eq, left_eq⟩ | ⟨between, first_eq, right_eq⟩
  · cases between with
    | nil => simpa [eq_comm] using And.intro second_eq left_eq
    | cons char rest =>
      have last : separator ∈ char :: rest := by
        rw [second_eq, List.getLast?_append_cons] at secondEnds
        exact List.mem_of_getLast? secondEnds
      refine absurd ?_ leftFree
      rw [left_eq]
      exact List.mem_append_left _ last
  · cases between with
    | nil => simpa [eq_comm] using And.intro first_eq right_eq
    | cons char rest =>
      have last : separator ∈ char :: rest := by
        rw [first_eq, List.getLast?_append_cons] at firstEnds
        exact List.mem_of_getLast? firstEnds
      refine absurd ?_ rightFree
      rw [right_eq]
      exact List.mem_append_left _ last

/-- Equal texts are cut behind the last separator into equal parts. -/
theorem append_inj_of_endsIn
    {separator : Char}
    {first second left right : String}
    (firstEnds : EndsIn separator first)
    (secondEnds : EndsIn separator second)
    (leftFree : separator ∉ left.toList)
    (rightFree : separator ∉ right.toList)
    (equal : first ++ left = second ++ right) :
    first = second ∧ left = right := by
  have equalChars : first.toList ++ left.toList = second.toList ++ right.toList := by
    rw [← String.toList_append, equal, String.toList_append]
  obtain ⟨firstChars, leftChars⟩ :=
    append_inj_of_getLast? firstEnds secondEnds leftFree rightFree equalChars
  exact ⟨String.toList_injective firstChars, String.toList_injective leftChars⟩

/-- A number is written with digits only. -/
theorem not_mem_toString
    {separator : Char}
    (notDigit : separator.isDigit = false)
    (number : Nat) :
    separator ∉ (toString number).toList := by
  intro member
  rw [Nat.toString_eq_repr, Nat.toList_repr] at member
  have digit := Nat.isDigit_of_mem_toDigits (by decide) (by decide) member
  rw [notDigit] at digit
  exact Bool.false_ne_true digit

/-- What is numbered ends in a digit. -/
theorem not_endsIn_numbered
    {separator : Char}
    (notDigit : separator.isDigit = false)
    (before : String)
    (number : Nat) :
    ¬EndsIn separator (before ++ toString number) := by
  intro ends
  have digits : (toString number).toList ≠ [] := by
    rw [Nat.toString_eq_repr, Nat.toList_repr]
    exact Nat.toDigits_ne_nil
  rw [EndsIn, String.toList_append, List.getLast?_append_of_ne_nil _ digits] at ends
  exact not_mem_toString notDigit number (List.mem_of_getLast? ends)

/-- Different numbers are written differently. -/
theorem toString_inj {left right : Nat} :
    toString left = toString right ↔ left = right := by
  constructor
  · intro equal
    rw [Nat.toString_eq_repr, Nat.toString_eq_repr] at equal
    have sameDigits : Nat.toDigits 10 left = Nat.toDigits 10 right := by
      rw [← Nat.toList_repr, equal, Nat.toList_repr]
    rw [← Nat.ofDigitChars_ten_toDigits (n := left), sameDigits,
      Nat.ofDigitChars_ten_toDigits]
  · intro equal
    rw [equal]

/-- Equal numbered texts are cut in front of the numbers, if what stands there ends in the
same character. -/
theorem numbered_inj
    {separator : Char}
    (notDigit : separator.isDigit = false)
    {first second : String}
    (firstEnds : EndsIn separator first)
    (secondEnds : EndsIn separator second)
    {left right : Nat}
    (equal : first ++ toString left = second ++ toString right) :
    first = second ∧ left = right := by
  obtain ⟨before, numbers⟩ := append_inj_of_endsIn firstEnds secondEnds
    (not_mem_toString notDigit left) (not_mem_toString notDigit right) equal
  exact ⟨before, toString_inj.mp numbers⟩

theorem toList_append_underscore (before after : String) :
    (before ++ "_" ++ after).toList = before.toList ++ '_' :: after.toList := by
  have underscore : "_".toList = ['_'] := by decide
  simp only [String.toList_append, underscore, List.append_assoc, List.singleton_append]

/-- Where one text is cut before the other, the rest of that one starts with an
underscore. -/
theorem eq_or_exists_rest
    {first second left right : String}
    {between : List Char}
    (longer : second.toList = first.toList ++ between)
    (cut : '_' :: left.toList = between ++ '_' :: right.toList) :
    first = second ∧ left = right ∨
      ∃ rest, second = first ++ "_" ++ rest ∧ left = rest ++ "_" ++ right := by
  rcases List.cons_eq_append_iff.mp cut with ⟨rfl, same⟩ | ⟨rest, rfl, left_eq⟩
  · rw [List.append_nil] at longer
    have rests := (List.cons.inj same).2
    exact .inl ⟨(String.toList_injective longer).symm,
      (String.toList_injective rests).symm⟩
  · refine .inr ⟨String.ofList rest, String.toList_injective ?_,
      String.toList_injective ?_⟩
    · rw [toList_append_underscore, longer, String.toList_ofList]
    · rw [toList_append_underscore, left_eq, String.toList_ofList]

/-- Texts that are joined of two words are the same if the words are, or if one of them
has the underscore of the other inside a word. -/
theorem append_underscore_eq_iff {first second left right : String} :
    first ++ "_" ++ left = second ++ "_" ++ right ↔
      first = second ∧ left = right ∨
      (∃ rest, second = first ++ "_" ++ rest ∧ left = rest ++ "_" ++ right) ∨
      ∃ rest, first = second ++ "_" ++ rest ∧ right = rest ++ "_" ++ left := by
  constructor
  · intro equal
    have chars := congrArg String.toList equal
    rw [toList_append_underscore, toList_append_underscore] at chars
    rcases List.append_eq_append_iff.mp chars with
      ⟨between, longer, cut⟩ | ⟨between, longer, cut⟩
    · rcases eq_or_exists_rest longer cut with same | goesOn
      · exact .inl same
      · exact .inr (.inl goesOn)
    · rcases eq_or_exists_rest longer cut with ⟨same, rests⟩ | goesOn
      · exact .inl ⟨same.symm, rests.symm⟩
      · exact .inr (.inr goesOn)
  · rintro (⟨rfl, rfl⟩ | ⟨rest, rfl, rfl⟩ | ⟨rest, rfl, rfl⟩)
    · rfl
    · simp only [String.append_assoc]
    · simp only [String.append_assoc]

end Text
end ReactorGen
