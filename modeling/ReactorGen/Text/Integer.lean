import ReactorGen.Text.Blank
import ReactorGen.Text.Digits

/-!
# Integers

The spelling of integers in property values and parameters: an optional sign,
then `0x`, `0X` or `#` with hexadecimal digits, `0` with octal digits, or
decimal digits.  The value has to fit into 32 bits.
-/

namespace ReactorGen
namespace Text

/-- The radix that the start of an unsigned number selects, with the digits that
remain. -/
def radixAndDigits : List Char -> Nat × List Char
  | '0' :: 'x' :: digits => (16, digits)
  | '0' :: 'X' :: digits => (16, digits)
  | '#' :: digits => (16, digits)
  | '0' :: digit :: digits => (8, digit :: digits)
  | digits => (10, digits)

/-- The value of an unsigned number. -/
def unsigned? (chars : List Char) : Option Nat :=
  number? (radixAndDigits chars).1 (radixAndDigits chars).2

/-- The value of a number with an optional sign. -/
def signed? : List Char -> Option Int
  | '-' :: rest => (unsigned? rest).map fun value => -(value : Int)
  | '+' :: rest => (unsigned? rest).map fun value => (value : Int)
  | rest => (unsigned? rest).map fun value => (value : Int)

/-- The integer that a text denotes, white space around it aside, if it is one
of 32 bits with a sign. -/
def integer? (text : String) : Option Int32 :=
  match signed? (trimChars text.toList) with
  | none => none
  | some value =>
    if Int32.minValue.toInt ≤ value ∧ value ≤ Int32.maxValue.toInt then
      some (Int32.ofInt value)
    else none

end Text
end ReactorGen
