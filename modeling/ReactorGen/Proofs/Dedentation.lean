import ReactorGen.Proofs.ByteIndentation
import ReactorGen.Proofs.NestedDrafts
import ReactorGen.Proofs.Results
import ReactorGen.Proofs.Trimming

/-!
# Bodies without their margin

The body of a reaction is written inside a program and indented like it.  Removing the
margin keeps the lines from the first to the last that is not blank, takes as much
indentation from all of them as the least indented line has, and leaves everything else as
it is.
-/

namespace ReactorGen
namespace Text

/-! ## Blank texts -/

theorem isBlank_of_isIndent
    {char : Char}
    (indents : isIndent char = true) :
    isBlank char = true := by
  simp only [isIndent, Bool.or_eq_true, decide_eq_true_eq] at indents
  rcases indents with rfl | rfl <;> decide

/-- Line ends are blank, so a text is blank if its lines are. -/
theorem isBlankText_eq_all_lines (text : String) :
    isBlankText text = (lines text).all isBlankText := by
  rw [isBlankText, lines, List.all_map]
  fun_induction charLines text.toList with
  | case1 => rfl
  | case2 rest inductionHypothesis =>
    rw [List.all_cons, List.all_cons, inductionHypothesis]
    rfl
  | case3 rest inductionHypothesis =>
    rw [List.all_cons, List.all_cons, List.all_cons, inductionHypothesis]
    rfl
  | case4 char rest _ _ none inductionHypothesis =>
    rw [none] at inductionHypothesis
    rw [List.all_cons, inductionHypothesis]
    simp [isBlankText]
  | case5 char rest _ _ line lines split inductionHypothesis =>
    rw [split] at inductionHypothesis
    rw [List.all_cons, inductionHypothesis, List.all_cons, List.all_cons, ← Bool.and_assoc]
    simp [isBlankText]

theorem isBlankText_joinLines (joined : List String) :
    isBlankText (joinLines joined) = joined.all isBlankText := by
  induction joined with
  | nil => rfl
  | cons line rest inductionHypothesis =>
    cases rest with
    | nil => simp [joinLines]
    | cons next rest =>
      rw [List.all_cons, ← inductionHypothesis, joinLines, String.intercalate_cons_cons,
        Draft.isBlankText_append, Draft.isBlankText_append]
      simp [joinLines, show isBlankText "\n" = true from by decide]

/-! ## Lines that lose the margin -/

/-- What a line is left as when the first bytes of all lines are removed: nothing if it is
blank, and otherwise what is behind these bytes, all of which are spaces and tabs. -/
inductive LosesMargin (margin : Nat) (line left : String) : Prop
  | blank
    (isBlank : isBlankText line = true)
    (empty : left = "")
  | written {removed : String}
    (notBlank : isBlankText line = false)
    (split : line = removed ++ left)
    (bytes : removed.utf8ByteSize = margin)
    (indents : ∀ char ∈ removed.toList, char = ' ' ∨ char = '\t')

/-- A line that is indented far enough can lose the margin. -/
theorem losesMargin_dropMargin
    {margin : Nat}
    {line : String}
    (indented : isBlankText line = false -> margin ≤ indentWidth line) :
    LosesMargin margin line (dropMargin margin line) := by
  cases isBlank : isBlankText line with
  | true => exact .blank isBlank (if_pos isBlank)
  | false =>
    have inside : line.toList.take margin =
        (line.toList.takeWhile isIndent).take margin := by
      have front : line.toList.takeWhile isIndent <+: line.toList :=
        List.takeWhile_prefix isIndent
      obtain ⟨rest, front⟩ := front
      conv_lhs => rw [← front]
      exact List.take_append_of_le_length (indented isBlank)
    have indents : ∀ char ∈ line.toList.take margin, isIndent char = true := by
      intro char member
      rw [inside] at member
      exact List.all_eq_true.mp List.all_takeWhile char (List.mem_of_mem_take member)
    have length : (line.toList.take margin).length = margin := by
      rw [inside, List.length_take]
      exact Nat.min_eq_left (indented isBlank)
    have split : line = String.ofList (line.toList.take margin) ++ dropMargin margin line := by
      rw [dropMargin, isBlank, if_neg Bool.false_ne_true, ← String.ofList_append,
        List.take_append_drop, String.ofList_toList]
    apply LosesMargin.written isBlank split
    case bytes => rw [utf8ByteSize_of_isIndent indents, length]
    case indents =>
      intro char member
      rw [String.toList_ofList] at member
      simpa [isIndent] using indents char member

namespace LosesMargin

variable
  {margin : Nat}
  {line left : String}

/-- A line can be cut behind the margin. -/
theorem sliceFrom?_eq
    (loses : LosesMargin margin line left)
    (notBlank : isBlankText line = false) :
    sliceFrom? line margin = some left := by
  cases loses with
  | blank isBlank => exact nomatch isBlank.symm.trans notBlank
  | written _ split bytes =>
    rw [split, ← bytes]
    exact sliceFrom?_append ..

/-- Without the margin a line stays blank or not. -/
theorem isBlankText_eq (loses : LosesMargin margin line left) :
    isBlankText left = isBlankText line := by
  cases loses with
  | blank isBlank empty =>
    rw [isBlank, empty]
    rfl
  | @written removed _ split _ indents =>
    have blankMargin : isBlankText removed = true := by
      rw [isBlankText, List.all_eq_true]
      intro char member
      apply isBlank_of_isIndent
      simpa [isIndent] using indents char member
    rw [split, Draft.isBlankText_append, blankMargin, Bool.true_and]

/-- Lines are indented relative to each other as they were. -/
theorem indentBytes_eq
    (loses : LosesMargin margin line left)
    (notBlank : isBlankText line = false) :
    indentBytes line = margin + indentBytes left := by
  cases loses with
  | blank isBlank => exact nomatch isBlank.symm.trans notBlank
  | @written removed _ split bytes indents =>
    have isIndented : ∀ char ∈ removed.toList, isIndent char = true := by
      intro char member
      simpa [isIndent] using indents char member
    have length : removed.toList.length = margin := by
      rw [← bytes, ← utf8ByteSize_of_isIndent isIndented, String.ofList_toList]
    rw [Text.indentBytes_eq, Text.indentBytes_eq, split, indentWidth, String.toList_append,
      List.takeWhile_append_of_pos isIndented, List.length_append, length]
    rfl

end LosesMargin

/-! ## Bodies that lose their margin -/

/-- What is left of a body without its margin. -/
structure Dedents (body : String) (margin : Nat) (kept left : List String) : Prop where
  /-- The lines from the first to the last that is not blank are kept. -/
  trims : Trims isBlankText kept (lines body)
  /-- The margin is the least indentation of any line that is not blank. -/
  least : ∀ line ∈ lines body, isBlankText line = false -> margin ≤ indentBytes line
  attained : kept ≠ [] ->
    ∃ line ∈ lines body, isBlankText line = false ∧ indentBytes line = margin
  lines : List.Forall₂ (LosesMargin margin) kept left
  text : dedent body = joinLines left
  /-- Lines are indented relative to each other as they were. -/
  relative : List.Forall₂
    (fun line outcome => isBlankText line = false ->
      indentBytes line = margin + indentBytes outcome) kept left

/-- A line that is not blank is kept. -/
theorem mem_trimLines
    {all : List String}
    {line : String}
    (member : line ∈ all)
    (notBlank : isBlankText line = false) :
    line ∈ trimLines all := by
  obtain ⟨before, after, split, blankBefore, blankAfter⟩ :=
    (Trims.dropped_ends isBlankText all).within
  rw [split] at member
  rcases List.mem_append.mp member with inFront | isAfter
  · rcases List.mem_append.mp inFront with isBefore | isKept
    · exact nomatch (blankBefore line isBefore).symm.trans notBlank
    · exact isKept
  · exact nomatch (blankAfter line isAfter).symm.trans notBlank

theorem mem_of_mem_trimLines
    {all : List String}
    {line : String}
    (member : line ∈ trimLines all) :
    line ∈ all := by
  obtain ⟨before, after, split, _, _⟩ := (Trims.dropped_ends isBlankText all).within
  rw [split]
  exact List.mem_append_left _ (List.mem_append_right _ member)

/-- What is kept begins with a line that is not blank. -/
theorem exists_not_blank_of_trimLines
    {all : List String}
    (notEmpty : trimLines all ≠ []) :
    ∃ line ∈ trimLines all, isBlankText line = false := by
  have isHead := List.head?_eq_some_head notEmpty
  exact ⟨_, List.head_mem notEmpty,
    (Trims.dropped_ends isBlankText all).first _ isHead⟩

theorem margin_le
    {kept : List String}
    {line : String}
    (member : line ∈ kept)
    (notBlank : isBlankText line = false) :
    margin kept ≤ indentWidth line := by
  have width : indentWidth line ∈
      (kept.filter fun line => !isBlankText line).map indentWidth :=
    List.mem_map_of_mem (List.mem_filter.mpr ⟨member, by rw [notBlank]; rfl⟩)
  rw [margin]
  cases least : ((kept.filter fun line => !isBlankText line).map indentWidth).min? with
  | none =>
    rw [List.min?_eq_none_iff.mp least] at width
    exact absurd width List.not_mem_nil
  | some minimum => exact (List.min?_eq_some_iff.mp least).2 _ width

theorem exists_margin_eq
    {kept : List String}
    {line : String}
    (member : line ∈ kept)
    (notBlank : isBlankText line = false) :
    ∃ least ∈ kept, isBlankText least = false ∧ indentWidth least = margin kept := by
  have width : indentWidth line ∈
      (kept.filter fun line => !isBlankText line).map indentWidth :=
    List.mem_map_of_mem (List.mem_filter.mpr ⟨member, by rw [notBlank]; rfl⟩)
  cases least : ((kept.filter fun line => !isBlankText line).map indentWidth).min? with
  | none =>
    rw [List.min?_eq_none_iff.mp least] at width
    exact absurd width List.not_mem_nil
  | some minimum =>
    obtain ⟨other, isKept, width_eq⟩ := List.mem_map.mp (List.min?_eq_some_iff.mp least).1
    obtain ⟨inKept, otherNotBlank⟩ := List.mem_filter.mp isKept
    refine ⟨other, inKept, by simpa using otherNotBlank, ?_⟩
    rw [width_eq, margin, least, Option.getD_some]

/-- Removing the margin leaves what it is meant to leave. -/
theorem dedents (body : String) :
    Dedents body (margin (trimLines (lines body))) (trimLines (lines body))
      ((trimLines (lines body)).map (dropMargin (margin (trimLines (lines body))))) := by
  let kept := trimLines (lines body)
  have loses : ∀ line ∈ kept,
      LosesMargin (margin kept) line (dropMargin (margin kept) line) :=
    fun line member => losesMargin_dropMargin fun notBlank => margin_le member notBlank
  constructor
  case trims => exact Trims.dropped_ends isBlankText (lines body)
  case least =>
    intro line member notBlank
    rw [indentBytes_eq]
    exact margin_le (mem_trimLines member notBlank) notBlank
  case attained =>
    intro notEmpty
    obtain ⟨line, member, notBlank⟩ := exists_not_blank_of_trimLines notEmpty
    obtain ⟨least, isKept, leastNotBlank, width⟩ := exists_margin_eq member notBlank
    exact ⟨least, mem_of_mem_trimLines isKept, leastNotBlank,
      (indentBytes_eq least).trans width⟩
  case lines =>
    rw [List.forall₂_map_right_iff, List.forall₂_same]
    exact loses
  case text => rfl
  case relative =>
    rw [List.forall₂_map_right_iff, List.forall₂_same]
    exact fun line member => (loses line member).indentBytes_eq

/-- Removing the margin by counting and cutting bytes, which fails where a cut would be
inside a character or behind the end of a line. -/
def dedentBytes? (body : String) : Option String := do
  let kept := trimLines (lines body)
  let widths := (kept.filter fun line => !isBlankText line).map indentBytes
  let left ← kept.mapM fun line =>
    if isBlankText line then some "" else sliceFrom? line (widths.min?.getD 0)
  return joinLines left

/-- No cut fails. -/
theorem dedentBytes?_eq (body : String) : dedentBytes? body = some (dedent body) := by
  let kept := trimLines (lines body)
  have sameMargin :
      ((kept.filter fun line => !isBlankText line).map indentBytes).min?.getD 0 =
        margin kept := by
    rw [margin, List.map_congr_left fun line _ => indentBytes_eq line]
  have cut : ∀ line ∈ kept,
      (if isBlankText line then some "" else
        sliceFrom? line
          (((kept.filter fun line => !isBlankText line).map indentBytes).min?.getD 0)) =
        some (dropMargin (margin kept) line) := by
    intro line member
    rw [sameMargin]
    cases isBlank : isBlankText line with
    | true => rw [if_pos rfl, dropMargin, if_pos isBlank]
    | false =>
      rw [if_neg Bool.false_ne_true]
      exact (losesMargin_dropMargin fun notBlank => margin_le member notBlank).sliceFrom?_eq
        isBlank
  have uncut :
      (kept.mapM fun line => some (dropMargin (margin kept) line)) =
        some (kept.map (dropMargin (margin kept))) :=
    List.mapM_pure ..
  exact congrArg (· >>= fun left => some (joinLines left))
    ((Result.mapM_congr cut).trans uncut)

/-! ## The first column -/

/-- What stands behind a line does not take away from its indentation. -/
theorem indentBytes_le_append (line after : String) :
    indentBytes line ≤ indentBytes (line ++ after) := by
  rw [indentBytes_eq, indentBytes_eq, indentWidth, indentWidth, String.toList_append,
    List.takeWhile_append]
  split
  case isTrue whole => rw [List.length_append, whole]; exact Nat.le_add_right ..
  case isFalse => exact Nat.le_refl _

theorem feed_not_mem_dropMargin
    {line : String}
    (free : '\n' ∉ line.toList)
    (margin : Nat) :
    '\n' ∉ (dropMargin margin line).toList := by
  rw [dropMargin]
  split
  · decide
  · rw [String.toList_ofList]
    exact fun member => free (List.mem_of_mem_drop member)

/-- The least indented line is left in the first column. -/
theorem exists_unindented_left
    {kept : List String}
    {line : String}
    (member : line ∈ kept)
    (notBlank : isBlankText line = false) :
    ∃ left ∈ kept.map (dropMargin (margin kept)),
      isBlankText left = false ∧ indentBytes left = 0 := by
  obtain ⟨least, isKept, leastNotBlank, width⟩ := exists_margin_eq member notBlank
  have loses := losesMargin_dropMargin fun _ => Nat.le_of_eq width.symm
  refine ⟨_, List.mem_map_of_mem isKept, loses.isBlankText_eq.trans leastNotBlank, ?_⟩
  have relative := loses.indentBytes_eq leastNotBlank
  rw [indentBytes_eq least, width] at relative
  exact Nat.left_eq_add.mp relative

/-- Something is left of a body in which something is written. -/
theorem isBlankText_dedent
    {body : String}
    (notBlank : isBlankText body = false) :
    isBlankText (dedent body) = false := by
  rw [isBlankText_eq_all_lines, List.all_eq_false] at notBlank
  obtain ⟨line, isLine, lineNotBlank⟩ := notBlank
  rw [Bool.not_eq_true] at lineNotBlank
  obtain ⟨left, inLeft, leftNotBlank, _⟩ :=
    exists_unindented_left (mem_trimLines isLine lineNotBlank) lineNotBlank
  rw [dedent, isBlankText_joinLines, List.all_eq_false]
  exact ⟨left, inLeft, by rw [leftNotBlank]; exact Bool.false_ne_true⟩

/-- Where anything is left, some line that is not blank starts in the first column. -/
theorem exists_unindented
    {body : String}
    (notEmpty : dedent body ≠ "") :
    ∃ line ∈ lines (dedent body), isBlankText line = false ∧ indentBytes line = 0 := by
  let kept := trimLines (lines body)
  let left := kept.map (dropMargin (margin kept))
  have someKept : kept ≠ [] := by
    intro none
    apply notEmpty
    change joinLines (kept.map (dropMargin (margin kept))) = ""
    rw [none]
    rfl
  obtain ⟨first, isFirst, firstNotBlank⟩ := exists_not_blank_of_trimLines someKept
  obtain ⟨least, inLeft, notBlank, unindented⟩ :=
    exists_unindented_left isFirst firstNotBlank
  have feedFree : ∀ line ∈ left, '\n' ∉ line.toList := by
    intro line member
    obtain ⟨source, isSource, rfl⟩ := List.mem_map.mp member
    exact feed_not_mem_dropMargin
      (feed_not_mem_of_mem_lines (mem_of_mem_trimLines isSource)) _
  obtain ⟨line, isLine, same | returned⟩ := exists_mem_lines_joinLines feedFree inLeft
    (by rintro rfl; exact nomatch notBlank)
  · rw [same] at notBlank unindented
    exact ⟨line, isLine, notBlank, unindented⟩
  · rw [returned] at notBlank unindented
    rw [Draft.isBlankText_append, show isBlankText "\r" = true from by decide, Bool.and_true]
      at notBlank
    exact ⟨line, isLine, notBlank,
      Nat.le_zero.mp (unindented ▸ indentBytes_le_append line "\r")⟩

/-! ## Removing the margin again -/

/-- A body without carriage returns is left as lines that can be found again. -/
theorem ReturnFree.lines_dedent
    {body : String}
    (returnFree : ReturnFree body) :
    lines (dedent body) =
      (trimLines (lines body)).map (dropMargin (margin (trimLines (lines body)))) := by
  let kept := trimLines (lines body)
  apply lines_joinLines
  · intro line member
    obtain ⟨source, isSource, rfl⟩ := List.mem_map.mp member
    rw [dropMargin]
    split
    · exact oneLine_empty
    · exact (returnFree.oneLine_of_mem_lines (mem_of_mem_trimLines isSource)).drop _
  · rw [List.getLast?_map]
    intro isLast
    obtain ⟨last, last_eq, empty⟩ := Option.map_eq_some_iff.mp isLast
    have notBlank := (Trims.dropped_ends isBlankText (lines body)).last last last_eq
    have loses : LosesMargin (margin kept) last (dropMargin (margin kept) last) :=
      losesMargin_dropMargin fun _ => margin_le (List.mem_of_getLast? last_eq) notBlank
    have stillNotBlank := loses.isBlankText_eq.trans notBlank
    rw [show dropMargin (margin kept) last = "" from empty] at stillNotBlank
    exact nomatch stillNotBlank

/-- Without the margin, the first and the last line are not blank either. -/
theorem trims_left (body : String) :
    let kept := trimLines (lines body)
    Trims isBlankText (kept.map (dropMargin (margin kept)))
      (kept.map (dropMargin (margin kept))) := by
  intro kept
  have trims : Trims isBlankText kept (lines body) := Trims.dropped_ends ..
  have stays {line : String} (isKept : line ∈ kept) (notBlank : isBlankText line = false) :
      isBlankText (dropMargin (margin kept) line) = false :=
    (losesMargin_dropMargin fun _ => margin_le isKept notBlank).isBlankText_eq.trans notBlank
  constructor
  case within => exact ⟨[], [], by simp, by simp, by simp⟩
  case first =>
    intro line isFirst
    rw [List.head?_map] at isFirst
    obtain ⟨source, isSource, rfl⟩ := Option.map_eq_some_iff.mp isFirst
    exact stays (List.mem_of_mem_head? isSource) (trims.first source isSource)
  case last =>
    intro line isLast
    rw [List.getLast?_map] at isLast
    obtain ⟨source, isSource, rfl⟩ := Option.map_eq_some_iff.mp isLast
    exact stays (List.mem_of_getLast? isSource) (trims.last source isSource)

theorem margin_left (body : String) :
    let kept := trimLines (lines body)
    margin (kept.map (dropMargin (margin kept))) = 0 := by
  intro kept
  rcases eq_or_ne kept [] with none | someKept
  · rw [none]
    rfl
  · obtain ⟨first, isFirst, firstNotBlank⟩ := exists_not_blank_of_trimLines someKept
    obtain ⟨line, member, notBlank, unindented⟩ :=
      exists_unindented_left isFirst firstNotBlank
    rw [indentBytes_eq] at unindented
    exact Nat.le_zero.mp (unindented ▸ margin_le member notBlank)

/-- A body that has lost its margin has none. -/
theorem dedent_dedent
    {body : String}
    (returnFree : ReturnFree body) :
    dedent (dedent body) = dedent body := by
  let kept := trimLines (lines body)
  let left := kept.map (dropMargin (margin kept))
  have keepsAll : trimLines left = left := Trims.iff_eq.mp (trims_left body)
  have unchanged : left.map (dropMargin 0) = left := by
    conv_rhs => rw [← List.map_id left]
    refine List.map_congr_left fun line member => ?_
    obtain ⟨source, isSource, rfl⟩ := List.mem_map.mp member
    cases losesMargin_dropMargin fun notBlank => margin_le isSource notBlank with
    | blank _ empty => rw [empty]; rfl
    | @written removed notBlank split bytes indents =>
      have stays := (LosesMargin.written notBlank split bytes indents).isBlankText_eq
      rw [dropMargin, stays, notBlank, if_neg Bool.false_ne_true, List.drop_zero,
        String.ofList_toList]
      rfl
  have again : dedent (dedent body) =
      joinLines ((trimLines left).map (dropMargin (margin (trimLines left)))) := by
    rw [dedent, returnFree.lines_dedent]
  rw [again, keepsAll, margin_left body, unchanged]
  rfl

end Text
end ReactorGen
