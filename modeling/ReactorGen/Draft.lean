import ReactorGen.Text.Blank
import ReactorGen.Text.Lines

/-!
# Drafts of code

Generated code is drafted as a list of steps, which only `text` turns into
characters.  Every line of a text that is written is indented by four spaces for
each open level, except that a blank line is left empty.
-/

namespace ReactorGen

/-- One step of a draft. -/
inductive DraftStep
  /-- Write the lines of a text. -/
  | write (text : String)
  /-- Write the lines of several texts. -/
  | writeAll (texts : List String)
  /-- Leave a line empty. -/
  | blank
  /-- Open a level. -/
  | indent
  /-- Close a level, if one is open. -/
  | outdent
deriving DecidableEq, Repr

/-- Code that is still to be laid out. -/
abbrev Draft := List DraftStep

namespace Draft

/-- A line at the given level. -/
def indentLine (level : Nat) (line : String) : String :=
  if Text.isBlankText line then ""
  else String.ofList (List.replicate (4 * level) ' ') ++ line

/-- The lines of a text at the given level. -/
def placeText (level : Nat) (text : String) : List String :=
  (Text.lines text).map (indentLine level)

/-- The lines that one step adds. -/
def stepLines (level : Nat) : DraftStep -> List String
  | .write text => placeText level text
  | .writeAll texts => texts.flatMap (placeText level)
  | .blank => [""]
  | .indent => []
  | .outdent => []

/-- The level after one step. -/
def stepLevel (level : Nat) : DraftStep -> Nat
  | .indent => level + 1
  | .outdent => level - 1
  | _ => level

/-- The lines of a draft that starts at the given level. -/
def linesAt (level : Nat) : Draft -> List String
  | [] => []
  | step :: rest => stepLines level step ++ linesAt (stepLevel level step) rest

/-- The level after a draft that starts at the given level. -/
def levelAfter (level : Nat) (draft : Draft) : Nat :=
  draft.foldl stepLevel level

/-- Lines as one text, each with a line feed at its end. -/
def closeLines (lines : List String) : String :=
  String.join (lines.map (· ++ "\n"))

/-- The text of a draft. -/
def text (draft : Draft) : String :=
  closeLines (linesAt 0 draft)

/-- A draft one level further in. -/
def nested (draft : Draft) : Draft :=
  .indent :: draft ++ [.outdent]

@[simp] theorem linesAt_nil (level : Nat) : linesAt level [] = [] := rfl

@[simp] theorem linesAt_cons (level : Nat) (step : DraftStep) (rest : Draft) :
    linesAt level (step :: rest) =
      stepLines level step ++ linesAt (stepLevel level step) rest := rfl

@[simp] theorem levelAfter_nil (level : Nat) : levelAfter level [] = level := rfl

@[simp] theorem levelAfter_cons (level : Nat) (step : DraftStep) (rest : Draft) :
    levelAfter level (step :: rest) = levelAfter (stepLevel level step) rest := rfl

theorem levelAfter_append (level : Nat) (first second : Draft) :
    levelAfter level (first ++ second) = levelAfter (levelAfter level first) second := by
  simp [levelAfter]

theorem linesAt_append (level : Nat) (first second : Draft) :
    linesAt level (first ++ second) =
      linesAt level first ++ linesAt (levelAfter level first) second := by
  induction first generalizing level with
  | nil => rfl
  | cons step rest ih => simp [ih]

end Draft
end ReactorGen
