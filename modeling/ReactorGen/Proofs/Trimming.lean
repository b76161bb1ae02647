import Mathlib.Data.List.Basic

/-!
# Trimming

Trimming drops what stands at both ends of a list until something is there that is not to
be dropped.  What is left is the only part of the list that begins and ends with such an
item and has nothing but dropped items around it.
-/

namespace ReactorGen

/-- What stands between the items at both ends that are dropped. -/
structure Trims (drops : α -> Bool) (core items : List α) : Prop where
  within : ∃ before after, items = before ++ core ++ after ∧
    (∀ item ∈ before, drops item = true) ∧ (∀ item ∈ after, drops item = true)
  first : ∀ item ∈ core.head?, drops item = false
  last : ∀ item ∈ core.getLast?, drops item = false

namespace Trims

variable
  {drops : α -> Bool}
  {core items : List α}

/-- Dropped items in front of one that is not are dropped. -/
theorem dropWhile_append
    {before : List α}
    (dropped : ∀ item ∈ before, drops item = true)
    (first : ∀ item ∈ items.head?, drops item = false) :
    (before ++ items).dropWhile drops = items := by
  rw [List.dropWhile_append_of_pos dropped]
  cases items with
  | nil => rfl
  | cons item rest => rw [List.dropWhile_cons_of_neg (by simpa using first item rfl)]

theorem head?_dropWhile (items : List α) :
    ∀ item ∈ (items.dropWhile drops).head?, drops item = false := by
  intro item isHead
  have kept := List.head?_dropWhile_not drops items
  rw [isHead] at kept
  exact kept

theorem dropped_ends (drops : α -> Bool) (items : List α) :
    Trims drops ((items.dropWhile drops).reverse.dropWhile drops).reverse items := by
  have front : items.takeWhile drops ++ items.dropWhile drops = items :=
    List.takeWhile_append_dropWhile
  have back : (items.dropWhile drops).reverse.takeWhile drops ++
      (items.dropWhile drops).reverse.dropWhile drops =
      (items.dropWhile drops).reverse := List.takeWhile_append_dropWhile
  have rest : items.dropWhile drops =
      ((items.dropWhile drops).reverse.dropWhile drops).reverse ++
      ((items.dropWhile drops).reverse.takeWhile drops).reverse := by
    rw [← List.reverse_append, back, List.reverse_reverse]
  constructor
  case within =>
    refine ⟨items.takeWhile drops,
      ((items.dropWhile drops).reverse.takeWhile drops).reverse, ?_, ?_, ?_⟩
    · rw [List.append_assoc, ← rest, front]
    · exact List.all_eq_true.mp List.all_takeWhile
    · intro item member
      exact List.all_eq_true.mp List.all_takeWhile item (List.mem_reverse.mp member)
  case first =>
    intro item isHead
    apply head?_dropWhile items
    rw [rest, List.head?_append, Option.mem_def.mp isHead]
    rfl
  case last =>
    intro item isLast
    apply head?_dropWhile (items.dropWhile drops).reverse
    rwa [List.getLast?_reverse] at isLast

/-- Dropping items at both ends leaves what stands between them, which there is only one
of. -/
theorem iff_eq :
    Trims drops core items ↔
      ((items.dropWhile drops).reverse.dropWhile drops).reverse = core := by
  constructor
  · rintro ⟨⟨before, after, rfl, droppedBefore, droppedAfter⟩, first, last⟩
    have dropped : ∀ item ∈ after.reverse, drops item = true := by
      intro item member
      exact droppedAfter item (List.mem_reverse.mp member)
    cases core with
    | nil =>
      have all : ∀ item ∈ before ++ after, drops item = true := by
        intro item member
        exact (List.mem_append.mp member).elim (droppedBefore item) (droppedAfter item)
      have none : (before ++ after ++ []).dropWhile drops = [] :=
        dropWhile_append all fun _ isHead => nomatch isHead
      rw [List.append_nil] at none
      rw [List.append_nil, none]
      rfl
    | cons item rest =>
      have front : (before ++ (item :: rest ++ after)).dropWhile drops =
          item :: rest ++ after := dropWhile_append droppedBefore first
      rw [List.append_assoc, front, List.reverse_append, dropWhile_append dropped,
        List.reverse_reverse]
      intro other isLast
      rw [List.head?_reverse] at isLast
      exact last other isLast
  · rintro rfl
    exact dropped_ends drops items

end Trims
end ReactorGen
