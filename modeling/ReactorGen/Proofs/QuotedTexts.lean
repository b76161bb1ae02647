import ReactorGen.Proofs.ScriptLiterals

/-!
# Texts between quotes

A script that is put together from texts between quotes and gaps between them.  Its
literals have these texts as their values exactly if each text is read as it is written and
no gap has a quote in it: the quotes are then all used up by the literals, and no literal
goes on into the gap behind it.
-/

namespace ReactorGen
namespace Script

variable
  {named : List Char -> Option Char}
  {text after value : List Char}
  {values : List (List Char)}

/-! ## Counting quotes -/

/-- How many quotes it takes to write literals with these values: two around each of them,
and no more than they have themselves. -/
def quotesOf (values : List (List Char)) : Nat :=
  2 * values.length + values.flatten.count '"'

/-- The quotes that are still to be read, and the one before a literal that is read. -/
def Place.quotesIn : Place -> List Char -> Nat
  | outside, chars => chars.count '"'
  | inside skipped, chars => (chars.drop skipped).count '"' + 1

theorem quotesOf_cons (value : List Char) (values : List (List Char)) :
    quotesOf (value :: values) = 2 + value.count '"' + quotesOf values := by
  rw [quotesOf, quotesOf, List.length_cons, List.flatten_cons, List.count_append]
  omega

theorem quotesOf_prepend
    {values : List (List Char)}
    (some : 0 < quotesOf values)
    (chars : List Char) :
    quotesOf (prepend chars values) = chars.count '"' + quotesOf values := by
  cases values with
  | nil => exact nomatch some
  | cons value values =>
    rw [prepend, quotesOf_cons, quotesOf_cons, List.count_append]
    omega

/-- A quote in an escape is one that the escape stands for. -/
theorem count_quote_of_escape?
    {rest : List Char}
    {escape : Escape}
    (found : escape? named rest = some escape) :
    rest.count '"' ≤ escape.value.count '"' + (rest.drop escape.used).count '"' := by
  cases rest with
  | nil => exact Nat.zero_le _
  | cons first rest =>
    rcases escape?_cases found with ⟨_, rfl⟩ | takes
    · exact Nat.le_add_left ..
    · obtain ⟨others, after, rfl, used, quoteFree⟩ := takes.taken
      have noQuote : others.count '"' = 0 := List.count_eq_zero.mpr quoteFree
      rw [used, List.drop_succ_cons, List.drop_left, List.count_cons, List.count_append,
        noQuote]
      by_cases quote : first = '"'
      · have taken : escape.value.count '"' = 1 := by
          rw [takes.quote quote]
          rfl
        rw [taken, if_pos (beq_iff_eq.mpr quote)]
        omega
      · simp [quote]

/-- A script has no more quotes than its literals take. -/
theorem quotesIn_le
    {place : Place}
    {chars : List Char}
    {values : List (List Char)}
    (read : literalsFrom named place chars = some values) :
    place.quotesIn chars ≤ quotesOf values := by
  induction chars generalizing place values with
  | nil =>
    cases place with
    | outside => exact Nat.zero_le _
    | inside skipped => exact absurd read (Option.some_ne_none _).symm
  | cons char rest inductionHypothesis =>
    cases place with
    | outside =>
      rw [literalsFrom] at read
      by_cases quote : char = '"'
      · subst quote
        rw [if_neg (not_not.mpr rfl)] at read
        split at read
        case isTrue => exact absurd read (Option.some_ne_none _).symm
        case isFalse =>
          have inside := inductionHypothesis read
          rw [Place.quotesIn, List.count_cons_self]
          exact inside
      · rw [if_pos quote] at read
        rw [Place.quotesIn, List.count_cons_of_ne quote]
        exact inductionHypothesis read
    | inside skipped =>
      by_cases reading : skipped ≠ 0
      · obtain ⟨left, rfl⟩ := Nat.exists_eq_succ_of_ne_zero reading
        have goesOn : literalsFrom named (.inside left) rest = some values := read
        exact inductionHypothesis goesOn
      obtain rfl := not_not.mp reading
      rw [Place.quotesIn, List.drop_zero]
      rcases isOrdinary_cases char with rfl | rfl | unreadable | ordinary
      · rw [literalsFrom_quote, Option.map_eq_some_iff] at read
        obtain ⟨others, others_eq, rfl⟩ := read
        have behind : rest.count '"' ≤ quotesOf others := inductionHypothesis others_eq
        rw [quotesOf_cons, List.count_cons_self, List.count_nil]
        omega
      · rw [literalsFrom_backslash, Option.bind_eq_some_iff] at read
        obtain ⟨escape, found, read⟩ := read
        obtain ⟨left, left_eq, rfl⟩ := Option.map_eq_some_iff.mp read
        have behind : (rest.drop escape.used).count '"' + 1 ≤ quotesOf left :=
          inductionHypothesis left_eq
        have escaped := count_quote_of_escape? found
        rw [quotesOf_prepend (by omega), List.count_cons_of_ne (by decide)]
        omega
      · rw [literalsFrom_unreadable unreadable] at read
        exact absurd read (Option.some_ne_none _).symm
      · rw [literalsFrom_ordinary ordinary] at read
        obtain ⟨left, left_eq, rfl⟩ := Option.map_eq_some_iff.mp read
        have behind : rest.count '"' + 1 ≤ quotesOf left := inductionHypothesis left_eq
        have notQuote : char ≠ '"' := by
          rintro rfl
          exact absurd ordinary (by decide)
        rw [quotesOf_prepend (by omega), List.count_cons_of_ne notQuote]
        omega

/-! ## Reading a script -/

/-- A script: what stands in front of each literal, the text in it, and the ending. -/
def quotedTexts : List (String × String) -> String -> String
  | [], ending => ending
  | (gap, text) :: rest, ending =>
    gap ++ BuildDescriptor.quoted text ++ quotedTexts rest ending

theorem quotedTexts_append
    (first second : List (String × String))
    (ending : String) :
    quotedTexts (first ++ second) ending = quotedTexts first (quotedTexts second ending) := by
  induction first with
  | nil => rfl
  | cons piece rest inductionHypothesis =>
    rw [List.cons_append, quotedTexts, quotedTexts, inductionHypothesis]

theorem toList_quotedTexts_cons
    (gap text : String)
    (rest : List (String × String))
    (ending : String) :
    (quotedTexts ((gap, text) :: rest) ending).toList =
      gap.toList ++ '"' :: (text.toList ++ '"' :: (quotedTexts rest ending).toList) := by
  have quote : "\"".toList = ['"'] := by decide
  simp only [quotedTexts, BuildDescriptor.quoted, String.toList_append, quote,
    List.append_assoc, List.cons_append, List.nil_append]

/-- What stands between two literals or behind the last.  A literal that goes on into it is
ended by the quote behind it, or cannot be read. -/
structure Separates (gap : List Char) : Prop where
  within : ∃ front behind, gap = front ++ behind ∧ front ≠ [] ∧
    (∀ char ∈ front, isOrdinary char = true) ∧
    (∀ char ∈ behind.head?, isUnreadable char = true)

theorem literalsFrom_ordinary_append
    {front : List Char}
    (ordinary : ∀ char ∈ front, isOrdinary char = true)
    {rest : List Char}
    (read : literalsFrom named (.inside 0) (front ++ rest) = some (value :: values)) :
    ∃ left, literalsFrom named (.inside 0) rest = some (left :: values) ∧
      value = front ++ left := by
  induction front generalizing value with
  | nil => exact ⟨value, read, rfl⟩
  | cons char front inductionHypothesis =>
    rw [List.forall_mem_cons] at ordinary
    rw [List.cons_append, literalsFrom_ordinary ordinary.1, map_prepend_eq_some] at read
    obtain ⟨others, others_eq, rfl⟩ := read
    obtain ⟨left, left_eq, rfl⟩ := inductionHypothesis ordinary.2 others_eq
    exact ⟨left, left_eq, rfl⟩

namespace Separates

variable {gap : List Char}

/-- More in front of a gap does not matter if it can stand in a literal. -/
theorem append_left
    {front : List Char}
    (ordinary : ∀ char ∈ front, isOrdinary char = true)
    (separates : Separates gap) :
    Separates (front ++ gap) := by
  obtain ⟨within, behind, rfl, notEmpty, ordinaryWithin, unreadable⟩ := separates.within
  exact ⟨front ++ within, behind, (List.append_assoc ..).symm,
    List.append_ne_nil_of_right_ne_nil _ notEmpty,
    List.forall_mem_append.mpr ⟨ordinary, ordinaryWithin⟩, unreadable⟩

/-- What separates literals guards the text in front of it, if it goes up to the next quote
or to the end. -/
theorem guards
    (separates : Separates gap)
    {rest : List Char}
    (opens : ∀ char ∈ rest.head?, char = '"') :
    Guards named (gap ++ rest) := by
  intro value values read
  obtain ⟨front, behind, rfl, notEmpty, ordinary, unreadable⟩ := separates.within
  rw [List.append_assoc] at read
  obtain ⟨left, left_eq, rfl⟩ := literalsFrom_ordinary_append ordinary read
  cases behind with
  | cons char behind =>
    rw [List.cons_append, literalsFrom_unreadable (unreadable char rfl)] at left_eq
    exact nomatch left_eq
  | nil =>
    cases rest with
    | nil => exact nomatch left_eq
    | cons char rest =>
      obtain rfl := opens char rfl
      obtain ⟨_, rfl⟩ := map_nil_cons_eq_some.mp left_eq
      rw [List.append_nil]
      refine ⟨_, List.getLast?_eq_some_getLast notEmpty, ?_⟩
      rintro last
      have isOrdinary := ordinary _ (List.getLast_mem notEmpty)
      rw [last] at isOrdinary
      exact absurd isOrdinary (by decide)

theorem head?_ne_quote
    (separates : Separates gap)
    (rest : List Char) :
    (gap ++ rest).head? ≠ some '"' := by
  obtain ⟨front, behind, rfl, notEmpty, ordinary, _⟩ := separates.within
  obtain ⟨char, front, rfl⟩ := List.exists_cons_of_ne_nil notEmpty
  rintro ⟨⟩
  exact absurd (ordinary '"' (List.mem_cons_self ..)) (by decide)

end Separates

/-- Outside of literals, everything but a quote is passed over. -/
theorem literalsFrom_outside_append
    {gap : List Char}
    (quoteFree : '"' ∉ gap)
    (rest : List Char) :
    literalsFrom named .outside (gap ++ rest) = literalsFrom named .outside rest := by
  induction gap with
  | nil => rfl
  | cons char gap inductionHypothesis =>
    rw [List.mem_cons, not_or] at quoteFree
    rw [List.cons_append, literalsFrom, if_pos (Ne.symm quoteFree.1)]
    exact inductionHypothesis quoteFree.2

/-- A literal with a text in it has the text as its value exactly if the text is read as it
is written. -/
theorem literalsFrom_quoted_iff
    (guards : Guards named after)
    (apart : after.head? ≠ some '"') :
    literalsFrom named .outside ('"' :: (text ++ '"' :: after)) = some (text :: values) ↔
      Verbatim text ∧ literalsFrom named .outside after = some values := by
  rw [literalsFrom, if_neg (not_not.mpr rfl)]
  split
  case isFalse => exact literalsFrom_eq_iff guards
  case isTrue triple =>
    refine iff_of_false (Option.some_ne_none _).symm ?_
    rintro ⟨verbatim, _⟩
    cases text with
    | nil =>
      cases after with
      | nil => exact absurd triple (by decide)
      | cons char after =>
        simp only [List.nil_append, List.isPrefixOf, beq_self_eq_true, Bool.true_and,
          Bool.and_true, beq_iff_eq] at triple
        exact apart (congrArg some triple.symm)
    | cons char text =>
      simp only [List.cons_append, List.isPrefixOf, Bool.and_eq_true, beq_iff_eq] at triple
      exact (verbatim.readable char (List.mem_cons_self ..)).1 triple.1.symm

/-- The texts in the literals of a script. -/
def textsOf (pieces : List (String × String)) : List (List Char) :=
  pieces.map fun piece => piece.2.toList

theorem count_quote_quotedTexts (pieces : List (String × String)) (ending : String) :
    (quotedTexts pieces ending).toList.count '"' =
      quotesOf (textsOf pieces) +
        (pieces.map fun piece => piece.1.toList.count '"').sum +
        ending.toList.count '"' := by
  induction pieces with
  | nil => simp [quotedTexts, textsOf, quotesOf]
  | cons piece rest inductionHypothesis =>
    obtain ⟨gap, text⟩ := piece
    rw [textsOf, List.map_cons, quotesOf_cons, ← textsOf, List.map_cons, List.sum_cons,
      toList_quotedTexts_cons, List.count_append, List.count_cons_self, List.count_append,
      List.count_cons_self, inductionHypothesis]
    dsimp only
    omega

/-- If the literals of a script have the texts in them as their values, there are no other
quotes. -/
theorem quote_not_mem_of_literalsFrom
    {pieces : List (String × String)}
    {ending : String}
    (read : literalsFrom named .outside (quotedTexts pieces ending).toList =
      some (textsOf pieces)) :
    (∀ piece ∈ pieces, '"' ∉ piece.1.toList) ∧ '"' ∉ ending.toList := by
  have bound : (quotedTexts pieces ending).toList.count '"' ≤ quotesOf (textsOf pieces) :=
    quotesIn_le read
  rw [count_quote_quotedTexts] at bound
  have noneBefore : (pieces.map fun piece => piece.1.toList.count '"').sum = 0 := by omega
  constructor
  · intro piece member
    apply List.count_eq_zero.mp
    exact List.sum_eq_zero_iff_forall_eq_nat.mp noneBefore _ (List.mem_map_of_mem member)
  · exact List.count_eq_zero.mp (by omega)

theorem literalsFrom_quotedTexts_iff
    {pieces : List (String × String)}
    {ending : String}
    (separate : ∀ piece ∈ pieces, Separates piece.1.toList)
    (ends : Separates ending.toList)
    (quoteFree : ∀ piece ∈ pieces, '"' ∉ piece.1.toList)
    (endingFree : '"' ∉ ending.toList) :
    literalsFrom named .outside (quotedTexts pieces ending).toList = some (textsOf pieces) ↔
      ∀ piece ∈ pieces, Verbatim piece.2.toList := by
  induction pieces with
  | nil =>
    have nothing : literalsFrom named .outside ending.toList = some [] := by
      rw [← List.append_nil ending.toList, literalsFrom_outside_append endingFree]
      rfl
    exact iff_of_true nothing fun _ member => absurd member List.not_mem_nil
  | cons piece rest inductionHypothesis =>
    obtain ⟨gap, text⟩ := piece
    rw [List.forall_mem_cons] at separate quoteFree ⊢
    -- Behind the literal stands the next gap or the ending, which guards the text.
    have behind : Guards named (quotedTexts rest ending).toList ∧
        (quotedTexts rest ending).toList.head? ≠ some '"' := by
      cases rest with
      | nil =>
        rw [quotedTexts, ← List.append_nil ending.toList]
        exact ⟨ends.guards (by simp), ends.head?_ne_quote []⟩
      | cons next rest =>
        obtain ⟨nextGap, nextText⟩ := next
        have nextSeparates := (List.forall_mem_cons.mp separate.2).1
        rw [toList_quotedTexts_cons]
        exact ⟨nextSeparates.guards (by rintro _ ⟨⟩; rfl), nextSeparates.head?_ne_quote _⟩
    rw [toList_quotedTexts_cons, literalsFrom_outside_append quoteFree.1, textsOf,
      List.map_cons, literalsFrom_quoted_iff behind.1 behind.2,
      ← inductionHypothesis separate.2 quoteFree.2]
    rfl

/-- The literals of a script have the texts in them as their values exactly if these are
read as they are written and no other quotes stand between them. -/
theorem literals?_quotedTexts_iff
    {pieces : List (String × String)}
    {ending : String}
    (separate : ∀ piece ∈ pieces, Separates piece.1.toList)
    (ends : Separates ending.toList) :
    literals? named (quotedTexts pieces ending) = some (pieces.map Prod.snd) ↔
      (∀ piece ∈ pieces, '"' ∉ piece.1.toList ∧ Verbatim piece.2.toList) ∧
        '"' ∉ ending.toList := by
  have values_iff : literals? named (quotedTexts pieces ending) = some (pieces.map Prod.snd) ↔
      literalsFrom named .outside (quotedTexts pieces ending).toList =
        some (textsOf pieces) := by
    have texts_eq : pieces.map Prod.snd = (textsOf pieces).map String.ofList := by
      simp [textsOf]
    have injective : Function.Injective (Option.map (List.map String.ofList)) :=
      Option.map_injective (List.map_injective_iff.mpr fun _ _ same => String.ofList_inj.mp same)
    rw [literals?, texts_eq, ← Option.map_some, injective.eq_iff]
  rw [values_iff]
  constructor
  · intro read
    obtain ⟨quoteFree, endingFree⟩ := quote_not_mem_of_literalsFrom read
    have verbatim :=
      (literalsFrom_quotedTexts_iff separate ends quoteFree endingFree).mp read
    exact ⟨fun piece member => ⟨quoteFree piece member, verbatim piece member⟩, endingFree⟩
  · rintro ⟨each, endingFree⟩
    exact (literalsFrom_quotedTexts_iff separate ends
      (fun piece member => (each piece member).1) endingFree).mpr
      fun piece member => (each piece member).2

end Script
end ReactorGen
