import ReactorGen.Text.Blank
import ReactorGen.Text.Lines

/-!
# Removing the common indentation

A body that is written inside a program is indented like its surroundings.
`dedent` removes the blank lines around it and as many leading spaces and tabs
from every line as the least indented line has.
-/

namespace ReactorGen
namespace Text

/-- Whether a character indents a line. -/
def isIndent (char : Char) : Bool :=
  char = ' ' || char = '\t'

/-- How many characters indent a line. -/
def indentWidth (line : String) : Nat :=
  (line.toList.takeWhile isIndent).length

/-- The lines from the first to the last that is not blank. -/
def trimLines (lines : List String) : List String :=
  ((lines.dropWhile isBlankText).reverse.dropWhile isBlankText).reverse

/-- The least indentation of the lines that are not blank. -/
def margin (lines : List String) : Nat :=
  (((lines.filter fun line => !isBlankText line).map indentWidth).min?).getD 0

/-- A line without the first characters; a blank line becomes empty. -/
def dropMargin (width : Nat) (line : String) : String :=
  if isBlankText line then "" else String.ofList (line.toList.drop width)

/-- A body without the blank lines around it and without common indentation. -/
def dedent (body : String) : String :=
  let kept := trimLines (lines body)
  joinLines (kept.map (dropMargin (margin kept)))

@[simp] theorem dedent_empty : dedent "" = "" := rfl

end Text
end ReactorGen
