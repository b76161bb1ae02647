/-!
# Digits

Numbers written in a radix of at most sixteen, most significant digit first.
-/

namespace ReactorGen
namespace Text

/-- The value of a digit in the given radix. -/
def digitValue? (radix : Nat) (char : Char) : Option Nat :=
  let value? :=
    if '0' ≤ char ∧ char ≤ '9' then some (char.toNat - '0'.toNat)
    else if 'a' ≤ char ∧ char ≤ 'f' then some (char.toNat - 'a'.toNat + 10)
    else if 'A' ≤ char ∧ char ≤ 'F' then some (char.toNat - 'A'.toNat + 10)
    else none
  value?.filter (· < radix)

/-- The number that `value` becomes when the digits are written after it. -/
def appendDigits? (radix : Nat) : Nat -> List Char -> Option Nat
  | value, [] => some value
  | value, char :: rest =>
    match digitValue? radix char with
    | none => none
    | some digit => appendDigits? radix (value * radix + digit) rest

/-- The number that a non-empty row of digits denotes. -/
def number? (radix : Nat) (digits : List Char) : Option Nat :=
  if digits.isEmpty then none else appendDigits? radix 0 digits

/-- Whether a character is one of the digits 0 to 9. -/
def isDecimalDigit (char : Char) : Bool :=
  '0' ≤ char && char ≤ '9'

end Text
end ReactorGen
