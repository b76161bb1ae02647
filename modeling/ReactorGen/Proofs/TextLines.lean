import Mathlib.Data.List.Basic
import ReactorGen.Draft

/-!
# Lines and texts

A text is the same as its lines as long as no carriage return stands before the end of a
line.  Lines that are closed with line feeds, or joined with them, are found again when the
text is cut into lines; only of a carriage return at the end of a line does nothing remain.
-/

namespace ReactorGen
namespace Text

/-! ## Cutting off the first line -/

/-- A line without the carriage return that belongs to its end. -/
def withoutReturn (line : List Char) : List Char :=
  if line.getLast? = some '\r' then line.dropLast else line

theorem withoutReturn_of_not_mem
    {line : List Char}
    (free : '\r' ∉ line) :
    withoutReturn line = line :=
  if_neg fun last => free (List.mem_of_getLast? last)

theorem withoutReturn_cons
    {char : Char}
    {line : List Char}
    (more : char = '\r' -> line ≠ []) :
    withoutReturn (char :: line) = char :: withoutReturn line := by
  cases line with
  | nil =>
    have notReturn : char ≠ '\r' := fun isReturn => more isReturn rfl
    simp [withoutReturn, notReturn]
  | cons next rest =>
    simp only [withoutReturn, List.getLast?_cons_cons, List.dropLast_cons_cons]
    split <;> rfl

/-- A character that starts a line and is not the end of the line belongs to it. -/
theorem charLines_cons
    {char : Char}
    {rest : List Char}
    (notFeed : char ≠ '\n')
    (notEnd : char = '\r' -> rest.head? ≠ some '\n') :
    charLines (char :: rest) =
      (char :: (charLines rest).headD []) :: (charLines rest).tail := by
  rw [charLines]
  · cases charLines rest <;> rfl
  · exact notFeed
  · rintro after isReturn rfl
    exact notEnd isReturn rfl

theorem charLines_append_feed
    {line : List Char}
    (free : '\n' ∉ line)
    (rest : List Char) :
    charLines (line ++ '\n' :: rest) = withoutReturn line :: charLines rest := by
  induction line with
  | nil => exact charLines_newline rest
  | cons char line inductionHypothesis =>
    rw [List.mem_cons, not_or] at free
    by_cases returns : char = '\r' ∧ line = []
    · obtain ⟨rfl, rfl⟩ := returns
      rfl
    · have more : char = '\r' -> line ≠ [] := fun isReturn empty => returns ⟨isReturn, empty⟩
      have notEnd : char = '\r' -> (line ++ '\n' :: rest).head? ≠ some '\n' := by
        intro isReturn
        cases line with
        | nil => exact absurd rfl (more isReturn)
        | cons next others =>
          intro starts
          exact free.2 (List.mem_of_mem_head? starts)
      rw [List.cons_append, charLines_cons (Ne.symm free.1) notEnd, inductionHypothesis free.2,
        withoutReturn_cons more]
      rfl

/-- What has no line feed is one line, if it is anything. -/
theorem charLines_of_not_mem
    {line : List Char}
    (free : '\n' ∉ line) :
    charLines line = if line = [] then [] else [line] := by
  induction line with
  | nil => rfl
  | cons char line inductionHypothesis =>
    rw [List.mem_cons, not_or] at free
    have notEnd : char = '\r' -> line.head? ≠ some '\n' :=
      fun _ starts => free.2 (List.mem_of_mem_head? starts)
    rw [charLines_cons (Ne.symm free.1) notEnd, inductionHypothesis free.2]
    cases line with
    | nil => rfl
    | cons next rest => rfl

/-- Cutting into lines invents no characters. -/
theorem mem_of_mem_charLines
    {chars line : List Char}
    (lineMember : line ∈ charLines chars)
    {char : Char}
    (member : char ∈ line) :
    char ∈ chars := by
  fun_induction charLines chars generalizing line with
  | case1 => exact absurd lineMember List.not_mem_nil
  | case2 rest inductionHypothesis =>
    rcases List.mem_cons.mp lineMember with rfl | later
    · exact absurd member List.not_mem_nil
    · exact List.mem_cons_of_mem _ (inductionHypothesis later member)
  | case3 rest inductionHypothesis =>
    rcases List.mem_cons.mp lineMember with rfl | later
    · exact absurd member List.not_mem_nil
    · exact List.mem_cons_of_mem _ (List.mem_cons_of_mem _ (inductionHypothesis later member))
  | case4 first rest _ _ _ _ =>
    rw [List.mem_singleton.mp lineMember] at member
    rw [List.mem_singleton.mp member]
    exact List.mem_cons_self ..
  | case5 first rest _ _ line' lines split inductionHypothesis =>
    rw [split] at inductionHypothesis
    rcases List.mem_cons.mp lineMember with rfl | later
    · rcases List.mem_cons.mp member with rfl | inLine
      · exact List.mem_cons_self ..
      · exact List.mem_cons_of_mem _ (inductionHypothesis (List.mem_cons_self ..) inLine)
    · exact List.mem_cons_of_mem _
        (inductionHypothesis (List.mem_cons_of_mem _ later) member)

/-! ## Lines of texts -/

/-- A text that can be cut into lines and put together again: it has no carriage return. -/
def ReturnFree (text : String) : Prop :=
  '\r' ∉ text.toList

instance (text : String) : Decidable (ReturnFree text) :=
  inferInstanceAs (Decidable (_ ∉ _))

/-- A text that is one line. -/
structure OneLine (line : String) : Prop where
  feedFree : '\n' ∉ line.toList
  returnFree : ReturnFree line

theorem feed_not_mem_of_mem_lines
    {text line : String}
    (member : line ∈ lines text) :
    '\n' ∉ line.toList := by
  obtain ⟨chars, lineMember, rfl⟩ := List.mem_map.mp member
  rw [String.toList_ofList]
  exact newline_not_mem_of_mem_charLines lineMember

theorem ReturnFree.oneLine_of_mem_lines
    {text line : String}
    (free : ReturnFree text)
    (member : line ∈ lines text) :
    OneLine line := by
  refine ⟨feed_not_mem_of_mem_lines member, ?_⟩
  obtain ⟨chars, lineMember, rfl⟩ := List.mem_map.mp member
  rw [ReturnFree, String.toList_ofList]
  exact fun inLine => free (mem_of_mem_charLines lineMember inLine)

theorem oneLine_empty : OneLine "" :=
  ⟨by decide, by decide⟩

/-- Without its first characters, a line is still one. -/
theorem OneLine.drop
    {line : String}
    (oneLine : OneLine line)
    (count : Nat) :
    OneLine (String.ofList (line.toList.drop count)) := by
  constructor
  · rw [String.toList_ofList]
    exact fun member => oneLine.feedFree (List.mem_of_mem_drop member)
  · rw [ReturnFree, String.toList_ofList]
    exact fun member => oneLine.returnFree (List.mem_of_mem_drop member)

/-- Closed lines are found again. -/
theorem lines_closeLines
    {closed : List String}
    (oneLine : ∀ line ∈ closed, OneLine line) :
    lines (Draft.closeLines closed) = closed := by
  induction closed with
  | nil => rfl
  | cons line rest inductionHypothesis =>
    rw [List.forall_mem_cons] at oneLine
    have feed : "\n".toList = ['\n'] := by decide
    have chars : (Draft.closeLines (line :: rest)).toList =
        line.toList ++ '\n' :: (Draft.closeLines rest).toList := by
      simp only [Draft.closeLines, List.map_cons, String.join_cons, String.toList_append, feed,
        List.append_assoc, List.singleton_append]
    rw [lines, chars, charLines_append_feed oneLine.1.feedFree,
      withoutReturn_of_not_mem oneLine.1.returnFree, List.map_cons, String.ofList_toList]
    exact congrArg (line :: ·) (inductionHypothesis oneLine.2)

/-- Of joined lines, all but the last end at a line feed. -/
theorem charLines_joinLines
    {joined : List String}
    (feedFree : ∀ line ∈ joined, '\n' ∉ line.toList)
    (last : String) :
    charLines (joinLines (joined ++ [last])).toList =
      joined.map (fun line => withoutReturn line.toList) ++ charLines last.toList := by
  induction joined with
  | nil => rw [List.nil_append, joinLines, String.intercalate_singleton, List.map_nil,
      List.nil_append]
  | cons line rest inductionHypothesis =>
    rw [List.forall_mem_cons] at feedFree
    have feed : "\n".toList = ['\n'] := by decide
    have chars : (joinLines (line :: rest ++ [last])).toList =
        line.toList ++ '\n' :: (joinLines (rest ++ [last])).toList := by
      rw [joinLines, List.cons_append,
        String.intercalate_cons_of_ne_nil (List.append_ne_nil_of_right_ne_nil _ (by simp)),
        String.toList_append, String.toList_append, feed, List.append_assoc,
        List.singleton_append]
      rfl
    rw [chars, charLines_append_feed feedFree.1, inductionHypothesis feedFree.2,
      List.map_cons, List.cons_append]

/-- At the end of a line only a carriage return may be missing. -/
theorem eq_or_eq_append_return (line : String) :
    line = String.ofList (withoutReturn line.toList) ∨
      line = String.ofList (withoutReturn line.toList) ++ "\r" := by
  rw [withoutReturn]
  split
  case isTrue last =>
    right
    apply String.toList_injective
    rw [String.toList_append, String.toList_ofList]
    exact (List.dropLast_append_getLast? _ last).symm
  case isFalse => exact .inl String.ofList_toList.symm

/-- A joined line is found again, but for a carriage return at its end. -/
theorem exists_mem_lines_joinLines
    {joined : List String}
    (feedFree : ∀ line ∈ joined, '\n' ∉ line.toList)
    {line : String}
    (member : line ∈ joined)
    (notEmpty : line ≠ "") :
    ∃ found ∈ lines (joinLines joined), line = found ∨ line = found ++ "\r" := by
  rcases List.eq_nil_or_concat joined with rfl | ⟨rest, last, rfl⟩
  · exact absurd member List.not_mem_nil
  · rw [List.concat_eq_append] at feedFree member ⊢
    have found := charLines_joinLines
      (fun line inRest => feedFree line (List.mem_append_left _ inRest)) last
    rw [lines, found]
    rcases List.mem_append.mp member with inRest | isLast
    · refine ⟨_, List.mem_map_of_mem (List.mem_append_left _ (List.mem_map_of_mem inRest)), ?_⟩
      exact eq_or_eq_append_return line
    · obtain rfl := List.mem_singleton.mp isLast
      refine ⟨line, ?_, .inl rfl⟩
      rw [charLines_of_not_mem (feedFree line member),
        if_neg fun empty => notEmpty (String.toList_eq_nil_iff.mp empty), List.map_append,
        List.map_singleton, String.ofList_toList]
      exact List.mem_append_right _ (List.mem_singleton_self line)

/-- Joined lines are found again, unless there is nothing in the last one. -/
theorem lines_joinLines
    {joined : List String}
    (oneLine : ∀ line ∈ joined, OneLine line)
    (ends : joined.getLast? ≠ some "") :
    lines (joinLines joined) = joined := by
  rcases List.eq_nil_or_concat joined with rfl | ⟨rest, last, rfl⟩
  · rfl
  · rw [List.concat_eq_append] at oneLine ends ⊢
    rw [List.getLast?_concat] at ends
    have notEmpty : last.toList ≠ [] :=
      fun empty => ends (congrArg some (String.toList_eq_nil_iff.mp empty))
    have lastLine := oneLine last (by simp)
    have restLines : ∀ line ∈ rest, OneLine line :=
      fun line member => oneLine line (List.mem_append_left _ member)
    rw [lines, charLines_joinLines fun line member => (restLines line member).feedFree,
      charLines_of_not_mem lastLine.feedFree, if_neg notEmpty, List.map_append, List.map_map,
      List.map_singleton, String.ofList_toList]
    congr 1
    conv_rhs => rw [← List.map_id rest]
    refine List.map_congr_left fun line member => ?_
    rw [Function.comp_apply, withoutReturn_of_not_mem (restLines line member).returnFree,
      String.ofList_toList, id]

end Text
end ReactorGen
