import ReactorGen.Draft

/-!
# Texts inside texts

A generated text is known by the texts that stand in it, one behind the other.  What a draft
writes stands on lines of its own, at the level that is open there, and a draft that closes
what it opens leaves the level to what comes behind it.
-/

namespace ReactorGen

/-! ## Texts in order -/

namespace Text

/-- Texts that stand one behind the other in a text, whatever is between them. -/
inductive InOrder : List String -> String -> Prop
  | nil (text : String) : InOrder [] text
  | cons (before piece : String) {pieces : List String} {after : String}
    (rest : InOrder pieces after) :
    InOrder (piece :: pieces) (before ++ piece ++ after)

variable
  {pieces others : List String}
  {text more : String}

theorem inOrder_singleton (text : String) : InOrder [text] text := by
  have alone := InOrder.cons "" text (.nil "")
  rwa [String.empty_append, String.append_empty] at alone

theorem InOrder.append_left
    (inOrder : InOrder pieces text)
    (before : String) :
    InOrder pieces (before ++ text) := by
  cases inOrder with
  | nil => exact .nil _
  | cons between piece rest =>
    have further := InOrder.cons (before ++ between) piece rest
    simpa only [String.append_assoc] using further

theorem InOrder.append
    (inOrder : InOrder pieces text)
    (goesOn : InOrder others more) :
    InOrder (pieces ++ others) (text ++ more) := by
  induction inOrder with
  | nil text => exact goesOn.append_left text
  | cons before piece _ inductionHypothesis =>
    rw [String.append_assoc]
    exact .cons before piece inductionHypothesis

theorem InOrder.append_right
    (inOrder : InOrder pieces text)
    (after : String) :
    InOrder pieces (text ++ after) := by
  have closed := inOrder.append (.nil after)
  rwa [List.append_nil] at closed

/-- Texts that stand in order in one of the texts. -/
theorem InOrder.refine
    {piece : String}
    (inOrder : InOrder (piece :: pieces) text)
    (inside : InOrder others piece) :
    InOrder (others ++ pieces) text := by
  cases inOrder with
  | cons before _ rest => exact (inside.append_left before).append rest

/-- Some of the texts that stand in order stand in order themselves. -/
theorem InOrder.sublist
    (inOrder : InOrder pieces text)
    (fewer : List.Sublist others pieces) :
    InOrder others text := by
  induction fewer generalizing text with
  | slnil => exact inOrder
  | cons piece _ inductionHypothesis =>
    cases inOrder with
    | cons before _ rest => exact (inductionHypothesis rest).append_left _
  | cons_cons piece _ inductionHypothesis =>
    cases inOrder with
    | cons before _ rest => exact .cons before piece (inductionHypothesis rest)

/-- A list behind its first member is that member with every other behind a separator. -/
theorem intercalate_cons_eq (separator first : String) (rest : List String) :
    separator.intercalate (first :: rest) =
      first ++ String.join (rest.map (separator ++ ·)) := by
  induction rest generalizing first with
  | nil => rw [String.intercalate_singleton, List.map_nil, String.join_nil, String.append_empty]
  | cons next rest inductionHypothesis =>
    rw [String.intercalate_cons_cons, inductionHypothesis, List.map_cons, String.join_cons,
      String.append_assoc, String.append_assoc]

/-- Texts that are put together in groups. -/
theorem join_flatMap (items : List α) (textsOf : α -> List String) :
    String.join (items.flatMap textsOf) =
      String.join (items.map fun item => String.join (textsOf item)) := by
  induction items with
  | nil => rfl
  | cons item items inductionHypothesis =>
    rw [List.flatMap_cons, String.join_append, inductionHypothesis, List.map_cons,
      String.join_cons]

/-- Texts that are put together have in order what each of them has. -/
theorem inOrder_join_map
    {items : List α}
    {pieceOf textOf : α -> String}
    (inOrder : ∀ item, InOrder [pieceOf item] (textOf item)) :
    InOrder (items.map pieceOf) (String.join (items.map textOf)) := by
  induction items with
  | nil => exact .nil _
  | cons item items inductionHypothesis =>
    rw [List.map_cons, List.map_cons, String.join_cons]
    exact (inOrder item).append inductionHypothesis

/-- Texts that are put together stay in order. -/
theorem inOrder_join (pieces : List String) : InOrder pieces (String.join pieces) := by
  have inOrder : InOrder (pieces.map id) (String.join (pieces.map id)) :=
    inOrder_join_map inOrder_singleton
  rwa [List.map_id] at inOrder

/-- Texts that are put together with something between them stay in order. -/
theorem inOrder_intercalate (separator : String) (pieces : List String) :
    InOrder pieces (separator.intercalate pieces) := by
  induction pieces with
  | nil => exact .nil _
  | cons piece pieces inductionHypothesis =>
    cases pieces with
    | nil =>
      rw [String.intercalate_singleton]
      exact inOrder_singleton piece
    | cons next rest =>
      rw [String.intercalate_cons_cons]
      exact ((inOrder_singleton piece).append_right separator).append inductionHypothesis

/-- The lines of a text, each of them one level further in. -/
def inset (text : String) : String :=
  String.join ((lines text).map fun line => "    " ++ line ++ "\n")

/-- The lines of several texts together, one level further in. -/
theorem join_flatMap_lines (texts : List String) :
    String.join ((texts.flatMap lines).map fun line => "    " ++ line ++ "\n") =
      String.join (texts.map inset) := by
  rw [List.map_flatMap, join_flatMap]
  rfl

end Text

/-! ## Lines of drafts -/

namespace Draft

open Text

variable {draft first second : Draft}

/-- A text on lines of its own, at a level: every line is set in by four spaces for the
level, except that a blank one is left empty. -/
def onLines (level : Nat) (text : String) : String :=
  String.join ((lines text).map fun line =>
    (if isBlankText line then "" else String.ofList (List.replicate (4 * level) ' ') ++ line) ++
      "\n")

theorem onLines_eq (level : Nat) (text : String) :
    onLines level text = closeLines (placeText level text) := by
  rw [closeLines, placeText, List.map_map]
  rfl

theorem closeLines_append (first second : List String) :
    closeLines (first ++ second) = closeLines first ++ closeLines second := by
  rw [closeLines, closeLines, closeLines, List.map_append, String.join_append]

/-- Lines that are made one after the other come out as one text after the other. -/
theorem closeLines_flatMap {items : List α} (linesOf : α -> List String) :
    closeLines (items.flatMap linesOf) =
      String.join (items.map fun item => closeLines (linesOf item)) := by
  rw [closeLines, List.map_flatMap, join_flatMap]
  rfl

/-- Texts that are placed one after the other. -/
theorem closeLines_placeTexts (level : Nat) (texts : List String) :
    closeLines (texts.flatMap (placeText level)) = String.join (texts.map (onLines level)) := by
  rw [closeLines_flatMap]
  simp only [← onLines_eq]

/-- The lines of texts that are written one after the other. -/
theorem linesAt_writes (level : Nat) (texts : List String) :
    linesAt level (texts.map .write) = texts.flatMap (placeText level) := by
  induction texts with
  | nil => rfl
  | cons text texts inductionHypothesis =>
    exact congrArg (placeText level text ++ ·) inductionHypothesis

/-- What is nested has its lines one level further in. -/
theorem linesAt_nested (level : Nat) (draft : Draft) :
    linesAt level draft.nested = linesAt (level + 1) draft := by
  change linesAt (level + 1) (draft ++ [.outdent]) = linesAt (level + 1) draft
  rw [linesAt_append]
  exact List.append_nil _

/-! ## Drafts that close what they open -/

/-- A draft that leaves the level at which it starts. -/
def Balanced (draft : Draft) : Prop :=
  ∀ level, draft.levelAfter level = level

theorem levelAfter_outdent (level : Nat) :
    levelAfter (level + 1) [.outdent] = level := rfl

theorem Balanced.append
    (firstBalanced : first.Balanced)
    (secondBalanced : second.Balanced) :
    Balanced (first ++ second) := by
  intro level
  rw [levelAfter_append, firstBalanced, secondBalanced]

theorem balanced_flatMap
    {items : List α}
    {draftOf : α -> Draft}
    (balanced : ∀ item, (draftOf item).Balanced) :
    Balanced (items.flatMap draftOf) := by
  induction items with
  | nil => exact fun _ => rfl
  | cons item items inductionHypothesis =>
    rw [List.flatMap_cons]
    exact (balanced item).append inductionHypothesis

/-- Steps that write texts open and close nothing. -/
theorem balanced_of_writes
    (writes : ∀ step ∈ draft, ∃ text, step = .write text) :
    draft.Balanced := by
  induction draft with
  | nil => exact fun _ => rfl
  | cons step steps inductionHypothesis =>
    rw [List.forall_mem_cons] at writes
    obtain ⟨text, rfl⟩ := writes.1
    exact inductionHypothesis writes.2

theorem balanced_writes (texts : List String) : Balanced (texts.map .write) := by
  apply balanced_of_writes
  intro step member
  obtain ⟨text, _, rfl⟩ := List.mem_map.mp member
  exact ⟨text, rfl⟩

theorem Balanced.nested (balanced : draft.Balanced) : Balanced draft.nested := by
  intro level
  change levelAfter (level + 1) (draft ++ [.outdent]) = level
  rw [levelAfter_append, balanced, levelAfter_outdent]

/-- Behind a draft that closes what it opens, the lines go on at the same level. -/
theorem Balanced.linesAt_append
    (balanced : first.Balanced)
    (level : Nat)
    (second : Draft) :
    linesAt level (first ++ second) = linesAt level first ++ linesAt level second := by
  rw [Draft.linesAt_append, balanced]

/-- Drafts that close what they open have their lines one after the other. -/
theorem linesAt_flatMap
    {items : List α}
    {draftOf : α -> Draft}
    (balanced : ∀ item, (draftOf item).Balanced)
    (level : Nat) :
    linesAt level (items.flatMap draftOf) =
      items.flatMap fun item => linesAt level (draftOf item) := by
  induction items with
  | nil => rfl
  | cons item items inductionHypothesis =>
    rw [List.flatMap_cons, List.flatMap_cons, (balanced item).linesAt_append,
      inductionHypothesis]

end Draft
end ReactorGen
