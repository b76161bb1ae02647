/-!
# Parts of texts

Where one text occurs in another: at the end, anywhere, or around a separating
character.
-/

namespace ReactorGen
namespace Text

/-- Whether the characters `part` occur in a row somewhere in `chars`. -/
def charsOccur (part : List Char) : List Char -> Bool
  | [] => part.isEmpty
  | char :: rest => part.isPrefixOf (char :: rest) || charsOccur part rest

/-- Whether `part` occurs in `text`. -/
def occursIn (part text : String) : Bool :=
  charsOccur part.toList text.toList

/-- Whether `text` ends with `ending`. -/
def endsWith (text ending : String) : Bool :=
  ending.toList.isSuffixOf text.toList

/-- `text` without `ending` at its end, if it has that end. -/
def withoutEnding? (text ending : String) : Option String :=
  if endsWith text ending then
    some (String.ofList (text.toList.take (text.toList.length - ending.toList.length)))
  else none

/-- The stretches between the separators; one more than there are separators. -/
def splitChars (separator : Char) : List Char -> List (List Char)
  | [] => [[]]
  | char :: rest =>
    if char = separator then [] :: splitChars separator rest
    else
      match splitChars separator rest with
      | [] => [[char]]
      | part :: parts => (char :: part) :: parts

/-- The parts of a text between the separators. -/
def split (separator : Char) (text : String) : List String :=
  (splitChars separator text.toList).map String.ofList

/-- What stands before and after the last separator of a text. -/
def splitAtLast? (separator : Char) (text : String) : Option (String × String) :=
  let reversed := text.toList.reverse
  match reversed.dropWhile (· != separator) with
  | [] => none
  | _ :: before =>
    some (String.ofList before.reverse,
      String.ofList (reversed.takeWhile (· != separator)).reverse)

/-- A text with every dot replaced by an underscore. -/
def underscored (text : String) : String :=
  String.ofList (text.toList.map fun char => if char = '.' then '_' else char)

theorem splitChars_ne_nil (separator : Char) (chars : List Char) :
    splitChars separator chars ≠ [] := by
  cases chars with
  | nil => simp [splitChars]
  | cons char rest =>
    simp only [splitChars]
    split
    · simp
    · split <;> simp

end Text
end ReactorGen
