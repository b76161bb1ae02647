/-!
# Lines

A text as the list of its lines.  A line ends at a line feed; one carriage
return before that line feed belongs to the end of the line and is dropped with
it.  What follows the last line feed is a line only when it is not empty.
-/

namespace ReactorGen
namespace Text

/-- The lines of a sequence of characters. -/
def charLines : List Char -> List (List Char)
  | [] => []
  | '\n' :: rest => [] :: charLines rest
  | '\r' :: '\n' :: rest => [] :: charLines rest
  | char :: rest =>
    match charLines rest with
    | [] => [[char]]
    | line :: lines => (char :: line) :: lines

/-- The lines of a text. -/
def lines (text : String) : List String :=
  (charLines text.toList).map String.ofList

/-- Lines as one text, with a line feed between any two of them. -/
def joinLines (lines : List String) : String :=
  "\n".intercalate lines

@[simp] theorem charLines_nil : charLines [] = [] := rfl

@[simp] theorem lines_empty : lines "" = [] := rfl

theorem charLines_newline (rest : List Char) :
    charLines ('\n' :: rest) = [] :: charLines rest := by
  simp [charLines]

/-- No line holds a line feed. -/
theorem newline_not_mem_of_mem_charLines
    {chars line : List Char}
    (lineMember : line ∈ charLines chars) :
    '\n' ∉ line := by
  fun_induction charLines chars generalizing line with
  | case1 => simp at lineMember
  | case2 rest ih =>
    rcases List.mem_cons.mp lineMember with rfl | tailMember
    · simp
    · exact ih tailMember
  | case3 rest ih =>
    rcases List.mem_cons.mp lineMember with rfl | tailMember
    · simp
    · exact ih tailMember
  | case4 char rest notNewline _ none_rest ih =>
    simp only [List.mem_singleton] at lineMember
    subst lineMember
    simpa using fun equal => notNewline equal.symm
  | case5 char rest notNewline _ first others split ih =>
    rw [split] at ih
    rcases List.mem_cons.mp lineMember with rfl | tailMember
    · intro member
      rcases List.mem_cons.mp member with equal | member
      · exact notNewline equal.symm
      · exact ih (List.mem_cons_self ..) member
    · exact ih (List.mem_cons_of_mem _ tailMember)

end Text
end ReactorGen
