/-!
# White space

The white space of the character standard, which is more than the blanks a
keyboard has, and the two questions the library asks about it: what is left of
a text between its surrounding white space, and whether a text holds anything
else.
-/

namespace ReactorGen
namespace Text

/-- The code points that are white space, as closed ranges. -/
def blankRanges : List (Nat × Nat) := [
  (0x9, 0xD), (0x20, 0x20), (0x85, 0x85), (0xA0, 0xA0), (0x1680, 0x1680),
  (0x2000, 0x200A), (0x2028, 0x2029), (0x202F, 0x202F), (0x205F, 0x205F),
  (0x3000, 0x3000)
]

/-- Whether a character is white space. -/
def isBlank (char : Char) : Bool :=
  blankRanges.any fun (low, high) => low ≤ char.toNat && char.toNat ≤ high

/-- The characters between the leading and the trailing white space. -/
def trimChars (chars : List Char) : List Char :=
  ((chars.dropWhile isBlank).reverse.dropWhile isBlank).reverse

/-- A text without its leading and trailing white space. -/
def trim (text : String) : String :=
  String.ofList (trimChars text.toList)

/-- A text without its trailing white space. -/
def trimEnd (text : String) : String :=
  String.ofList (text.toList.reverse.dropWhile isBlank).reverse

/-- Whether a text holds nothing but white space. -/
def isBlankText (text : String) : Bool :=
  text.toList.all isBlank

@[simp] theorem trimChars_nil : trimChars [] = [] := rfl

end Text
end ReactorGen
