import Mathlib.Data.List.Forall2
import ReactorGen.Proofs.TextLines

/-!
# Drafts inside drafts

The text of one draft may be written by another, as that of a class is written into its
module.  That is the same as going through the steps of the inner draft at the level of the
outer one, as long as the inner draft closes no level that it has not opened and writes no
carriage return.  Each line that a draft writes comes out once, behind four spaces for each
level, and empty if it is blank.
-/

namespace ReactorGen

open Text

/-- The texts that a step writes. -/
def DraftStep.texts : DraftStep -> List String
  | write text => [text]
  | writeAll texts => texts
  | blank => ["\n"]
  | indent | outdent => []

namespace Draft

/-! ## Lines and levels -/

theorem indentLine_of_blank
    {line : String}
    (blank : isBlankText line = true)
    (level : Nat) :
    indentLine level line = "" :=
  if_pos blank

theorem indentLine_of_not_blank
    {line : String}
    (notBlank : isBlankText line = false)
    (level : Nat) :
    indentLine level line = String.ofList (List.replicate (4 * level) ' ') ++ line := by
  rw [indentLine, notBlank, if_neg Bool.false_ne_true]

theorem isBlankText_append (first second : String) :
    isBlankText (first ++ second) = (isBlankText first && isBlankText second) := by
  rw [isBlankText, String.toList_append, List.all_append]
  rfl

/-- A line stays blank or not, wherever it stands. -/
theorem isBlankText_indentLine (level : Nat) (line : String) :
    isBlankText (indentLine level line) = isBlankText line := by
  cases blank : isBlankText line with
  | true =>
    rw [indentLine_of_blank blank]
    rfl
  | false =>
    rw [indentLine_of_not_blank blank, isBlankText_append, blank, Bool.and_false]

/-- A line is at one level after the other, or at their sum. -/
theorem indentLine_add (outer inner : Nat) (line : String) :
    indentLine (outer + inner) line = indentLine outer (indentLine inner line) := by
  cases blank : isBlankText line with
  | true =>
    rw [indentLine_of_blank blank, indentLine_of_blank blank, indentLine_of_blank rfl]
  | false =>
    have stillNotBlank : isBlankText (indentLine inner line) = false := by
      rw [isBlankText_indentLine, blank]
    rw [indentLine_of_not_blank stillNotBlank, indentLine_of_not_blank blank,
      indentLine_of_not_blank blank, Nat.mul_add, List.replicate_add, String.ofList_append,
      String.append_assoc]

/-- A line is still one after it has been placed. -/
theorem oneLine_indentLine
    {line : String}
    (oneLine : OneLine line)
    (level : Nat) :
    OneLine (indentLine level line) := by
  cases blank : isBlankText line with
  | true =>
    rw [indentLine_of_blank blank]
    exact oneLine_empty
  | false =>
    have spaces {char : Char} (notSpace : char ≠ ' ') (free : char ∉ line.toList) :
        char ∉ (indentLine level line).toList := by
      rw [indentLine_of_not_blank blank, String.toList_append, String.toList_ofList,
        List.mem_append, not_or]
      exact ⟨fun member => notSpace (List.eq_of_mem_replicate member), free⟩
    exact ⟨spaces (by decide) oneLine.feedFree, spaces (by decide) oneLine.returnFree⟩

theorem placeText_add (outer inner : Nat) (text : String) :
    placeText (outer + inner) text = (placeText inner text).map (indentLine outer) := by
  rw [placeText, placeText, List.map_map]
  exact List.map_congr_left fun line _ => indentLine_add outer inner line

theorem stepLines_add (outer inner : Nat) (step : DraftStep) :
    stepLines (outer + inner) step = (stepLines inner step).map (indentLine outer) := by
  cases step with
  | write text => exact placeText_add outer inner text
  | writeAll texts =>
    rw [stepLines, stepLines, List.map_flatMap]
    exact congrArg texts.flatMap (funext fun text => placeText_add outer inner text)
  | blank => rfl
  | indent => rfl
  | outdent => rfl

/-- A step at a level that is further in leads as far in. -/
theorem stepLevel_add
    {outer inner : Nat}
    {step : DraftStep}
    (opened : step = .outdent -> 0 < inner) :
    stepLevel (outer + inner) step = outer + stepLevel inner step := by
  cases step with
  | write | writeAll | blank | indent => rfl
  | outdent =>
    have positive := opened rfl
    simp only [stepLevel]
    omega

/-! ## Steps of an inner draft -/

/-- A draft that closes no level but those that it has opened, and some that were open. -/
def StaysWithin (opened : Nat) (draft : Draft) : Prop :=
  ∀ before after, draft = before ++ .outdent :: after -> 0 < levelAfter opened before

/-- A draft that writes no carriage return. -/
def ReturnFree (draft : Draft) : Prop :=
  ∀ step ∈ draft, ∀ text ∈ step.texts, Text.ReturnFree text

instance (draft : Draft) : Decidable draft.ReturnFree :=
  inferInstanceAs (Decidable (∀ step ∈ draft, ∀ text ∈ step.texts, Text.ReturnFree text))

variable
  {opened : Nat}
  {step : DraftStep}
  {draft rest : Draft}

theorem StaysWithin.head
    (stays : StaysWithin opened (step :: rest))
    (closes : step = .outdent) :
    0 < opened := by
  rw [closes] at stays
  exact stays [] rest rfl

theorem StaysWithin.tail (stays : StaysWithin opened (step :: rest)) :
    StaysWithin (stepLevel opened step) rest := by
  rintro before after rfl
  exact stays (step :: before) after rfl

theorem staysWithin_nil (opened : Nat) : StaysWithin opened [] := by
  intro before after split
  exact absurd split.symm (by simp)

theorem staysWithin_cons_iff :
    StaysWithin opened (step :: rest) ↔
      (step = .outdent -> 0 < opened) ∧ StaysWithin (stepLevel opened step) rest := by
  constructor
  · exact fun stays => ⟨stays.head, stays.tail⟩
  · rintro ⟨head, tail⟩ before after split
    cases before with
    | nil =>
      obtain ⟨closes, _⟩ := List.cons.inj split
      exact head closes
    | cons first before =>
      obtain ⟨rfl, rfl⟩ := List.cons.inj split
      exact tail before after rfl

instance decidableStaysWithin :
    (opened : Nat) -> (draft : Draft) -> Decidable (StaysWithin opened draft)
  | opened, [] => isTrue (staysWithin_nil opened)
  | opened, step :: rest =>
    have := decidableStaysWithin (stepLevel opened step) rest
    decidable_of_iff _ staysWithin_cons_iff.symm

/-- The lines of a draft that stands further in are those of the draft, further in. -/
theorem StaysWithin.linesAt_add
    (stays : StaysWithin opened draft)
    (outer : Nat) :
    linesAt (outer + opened) draft = (linesAt opened draft).map (indentLine outer) := by
  induction draft generalizing opened with
  | nil => rfl
  | cons step rest inductionHypothesis =>
    rw [linesAt_cons, linesAt_cons, List.map_append, stepLines_add,
      stepLevel_add stays.head, inductionHypothesis stays.tail]

theorem oneLine_of_mem_placeText
    {text : String}
    (returnFree : Text.ReturnFree text)
    {level : Nat}
    {line : String}
    (member : line ∈ placeText level text) :
    OneLine line := by
  obtain ⟨source, isSource, rfl⟩ := List.mem_map.mp member
  exact oneLine_indentLine (returnFree.oneLine_of_mem_lines isSource) level

theorem oneLine_of_mem_stepLines
    (returnFree : ∀ text ∈ step.texts, Text.ReturnFree text)
    {level : Nat}
    {line : String}
    (member : line ∈ stepLines level step) :
    OneLine line := by
  cases step with
  | write text =>
    exact oneLine_of_mem_placeText (returnFree text (List.mem_singleton_self text)) member
  | writeAll texts =>
    obtain ⟨text, isText, inText⟩ := List.mem_flatMap.mp member
    exact oneLine_of_mem_placeText (returnFree text isText) inText
  | blank =>
    rw [List.mem_singleton.mp member]
    exact oneLine_empty
  | indent => exact absurd member List.not_mem_nil
  | outdent => exact absurd member List.not_mem_nil

theorem ReturnFree.oneLine_of_mem_linesAt
    (returnFree : draft.ReturnFree)
    {level : Nat}
    {line : String}
    (member : line ∈ linesAt level draft) :
    OneLine line := by
  induction draft generalizing level with
  | nil => exact absurd member List.not_mem_nil
  | cons step rest inductionHypothesis =>
    have restFree : ReturnFree rest :=
      fun other inRest => returnFree other (List.mem_cons_of_mem _ inRest)
    rcases List.mem_append.mp member with here | later
    · exact oneLine_of_mem_stepLines (returnFree step (List.mem_cons_self ..)) here
    · exact inductionHypothesis restFree later

/-- Lines that a draft has laid out are found again. -/
theorem ReturnFree.lines_closeLines
    (returnFree : draft.ReturnFree)
    (level : Nat) :
    Text.lines (closeLines (linesAt level draft)) = linesAt level draft :=
  Text.lines_closeLines fun _ member => returnFree.oneLine_of_mem_linesAt member

/-- Writing the text of a draft lays out what its steps would. -/
theorem placeText_text
    (returnFree : draft.ReturnFree)
    (stays : StaysWithin 0 draft)
    (level : Nat) :
    placeText level draft.text = linesAt level draft := by
  have further : linesAt level draft = (linesAt 0 draft).map (indentLine level) :=
    stays.linesAt_add level
  rw [further, placeText, text, returnFree.lines_closeLines]

/-! ## Lines that go in and come out -/

/-- The lines that a step writes, as they are given. -/
def sourceLines (step : DraftStep) : List String :=
  step.texts.flatMap Text.lines

/-- The lines that a draft writes, each with its level. -/
def levelLines (level : Nat) : Draft -> List (Nat × String)
  | [] => []
  | step :: rest =>
    (sourceLines step).map (level, ·) ++ levelLines (stepLevel level step) rest

/-- What becomes of a line at a level. -/
structure Places (level : Nat) (source placed : String) : Prop where
  blank : isBlankText source = true -> placed = ""
  written : isBlankText source = false ->
    placed = String.ofList (List.replicate (4 * level) ' ') ++ source

theorem places_indentLine (level : Nat) (line : String) :
    Places level line (indentLine level line) :=
  ⟨fun blank => indentLine_of_blank blank level,
    fun notBlank => indentLine_of_not_blank notBlank level⟩

theorem stepLines_eq_map (level : Nat) (step : DraftStep) :
    stepLines level step = (sourceLines step).map (indentLine level) := by
  cases step with
  | write text =>
    rw [sourceLines, DraftStep.texts, List.flatMap_singleton]
    rfl
  | writeAll texts =>
    rw [sourceLines, DraftStep.texts, List.map_flatMap]
    rfl
  | blank => rfl
  | indent => rfl
  | outdent => rfl

theorem linesAt_eq_map (level : Nat) (draft : Draft) :
    linesAt level draft = (levelLines level draft).map fun entry =>
      indentLine entry.1 entry.2 := by
  induction draft generalizing level with
  | nil => rfl
  | cons step rest inductionHypothesis =>
    rw [linesAt_cons, levelLines, List.map_append, List.map_map, inductionHypothesis,
      stepLines_eq_map]
    rfl

/-- What comes behind a draft is laid out at the level that the draft leaves. -/
theorem text_append (before draft : Draft) :
    (before ++ draft).text = before.text ++ closeLines (linesAt (levelAfter 0 before) draft) := by
  rw [text, linesAt_append, closeLines, List.map_append, String.join_append]
  rfl

/-- Behind anything that was drafted before, going through the steps of a draft is the same
as writing its text.  What is added are the lines of the draft, none more and none less,
each behind four spaces for every level that is open, and empty if it is blank. -/
theorem text_append_nested
    (returnFree : draft.ReturnFree)
    (stays : StaysWithin 0 draft)
    (before : Draft) :
    (before ++ draft).text = (before ++ [DraftStep.write draft.text]).text ∧
      ∃ placed,
        (before ++ draft).text = before.text ++ closeLines placed ∧
          Text.lines (closeLines placed) = placed ∧
          List.Forall₂ (fun entry line => Places entry.1 entry.2 line)
            (levelLines (levelAfter 0 before) draft) placed := by
  let level := levelAfter 0 before
  constructor
  · have written : linesAt level [DraftStep.write draft.text] = linesAt level draft := by
      rw [linesAt_cons, linesAt_nil, List.append_nil]
      exact placeText_text returnFree stays level
    rw [text_append, text_append, written]
  · refine ⟨linesAt level draft, text_append .., returnFree.lines_closeLines level, ?_⟩
    rw [linesAt_eq_map, List.forall₂_map_right_iff, List.forall₂_same]
    exact fun entry _ => places_indentLine entry.1 entry.2

end Draft

/-! ## A class inside a condition -/

namespace NestedClass

/-- The definition of a class with a blank line in it. -/
def definition : Draft := [
  .write "class Gate:",
  .indent,
  .write "width = 2\n \t\nheight = 3",
  .blank,
  .writeAll ["def open(self):", "    return True"],
  .outdent
]

def condition : Draft := [.write "if outside:", .indent]

/-- The definition may be written as a text. -/
theorem definition_nested :
    definition.ReturnFree ∧ Draft.StaysWithin 0 definition ∧
      (condition ++ definition).text = (condition ++ [DraftStep.write definition.text]).text ∧
      (condition ++ definition).text =
        "if outside:\n    class Gate:\n        width = 2\n\n        height = 3\n\n" ++
          "        def open(self):\n            return True\n" := by
  have returnFree : definition.ReturnFree := by decide
  have stays : Draft.StaysWithin 0 definition := by decide
  exact ⟨returnFree, stays, (Draft.text_append_nested returnFree stays condition).1,
    by decide⟩

/-- A draft that closes a level of the code around it cannot be written as a text. -/
example :
    ¬Draft.StaysWithin 0 [.outdent, .write "pass"] ∧
      (condition ++ [DraftStep.outdent, .write "pass"]).text = "if outside:\npass\n" ∧
      (condition ++ [DraftStep.write (Draft.text [.outdent, .write "pass"])]).text =
        "if outside:\n    pass\n" := by
  decide

end NestedClass
end ReactorGen
