import ReactorGen.Proofs.Accumulation

/-!
# The arrival of problems

Diagnostics come about in three ways: problems are added one by one, lists of problems
are added, and the diagnostics of other runs are merged, which came about in the same
ways.  None of this can be told from what they hold in the end.  It is what one list of
all problems leaves in the order of their arrival, although every run on the way keeps
only its first errors.
-/

namespace ReactorGen
namespace Diagnostics

/-- Diagnostics that come about step by step, with the problems that have arrived. -/
inductive Collects : List Diagnostic -> Diagnostics -> Prop
  | empty : Collects [] empty
  | push
      {arrived : List Diagnostic}
      {diagnostics : Diagnostics}
      (collects : Collects arrived diagnostics)
      (problem : Diagnostic) :
      Collects (arrived ++ [problem]) (diagnostics.push problem)
  | extend
      {arrived : List Diagnostic}
      {diagnostics : Diagnostics}
      (collects : Collects arrived diagnostics)
      (added : List Diagnostic) :
      Collects (arrived ++ added) (diagnostics.extend added)
  /-- The problems of the other run arrive after those that are there. -/
  | merge
      {arrived otherArrived : List Diagnostic}
      {diagnostics other : Diagnostics}
      (collects : Collects arrived diagnostics)
      (otherCollects : Collects otherArrived other) :
      Collects (arrived ++ otherArrived) (diagnostics.merge other)

/-- What diagnostics hold of the problems that have arrived. -/
structure Summarizes (diagnostics : Diagnostics) (arrived : List Diagnostic) : Prop where
  totalErrors : diagnostics.totalErrors = (errorsOf arrived).length
  /-- The errors that are kept are the first ones. -/
  errors : diagnostics.errors =
    (errorsOf arrived).take (min errorLimit diagnostics.totalErrors)
  warnings : diagnostics.warnings = warningsOf arrived
  totalWarnings : diagnostics.totalWarnings = diagnostics.warnings.length
  /-- What is subtracted when the diagnostics are merged into others is never more than
  what it is subtracted from. -/
  kept_le_total : diagnostics.errors.length ≤ diagnostics.totalErrors

theorem extend_ofList (first second : List Diagnostic) :
    (ofList first).extend second = ofList (first ++ second) :=
  (extend_append empty first second).symm

/-- The diagnostics of two runs are merged into those of one run with the problems of
both. -/
theorem merge_ofList_ofList (first second : List Diagnostic) :
    (ofList first).merge (ofList second) = ofList (first ++ second) := by
  rw [merge_ofList, extend_ofList]

theorem summarizes_ofList (arrived : List Diagnostic) :
    (ofList arrived).Summarizes arrived := by
  rw [ofList_eq]
  constructor
  case totalErrors => rfl
  case errors =>
    dsimp only
    rw [← List.take_take, List.take_length]
  case warnings => rfl
  case totalWarnings => rfl
  case kept_le_total => exact List.length_take_le' _ _

/-- Every step leaves what the list of all problems leaves. -/
theorem Collects.eq_ofList
    {arrived : List Diagnostic}
    {diagnostics : Diagnostics}
    (collects : Collects arrived diagnostics) :
    diagnostics = ofList arrived := by
  induction collects with
  | empty => rfl
  | push _ problem inductionHypothesis =>
    rw [inductionHypothesis, ← extend_ofList]
    rfl
  | extend _ added inductionHypothesis => rw [inductionHypothesis, extend_ofList]
  | merge _ _ inductionHypothesis otherHypothesis =>
    rw [inductionHypothesis, otherHypothesis, merge_ofList_ofList]

/-- Merging runs is appending their problems, and adding a list is adding its problems one
by one.  So diagnostics that come about in any way are those of the problems that have
arrived: they keep the first errors and all warnings, and they count everything. -/
theorem ofList_homomorphism :
    ofList [] = empty ∧
    (∀ first second : List Diagnostic,
      (ofList first).merge (ofList second) = ofList (first ++ second)) ∧
    (∀ (diagnostics : Diagnostics) (added : List Diagnostic),
      diagnostics.extend added = added.foldl push diagnostics) ∧
    ∀ (arrived : List Diagnostic) (diagnostics : Diagnostics),
      Collects arrived diagnostics ->
        diagnostics = ofList arrived ∧ diagnostics.Summarizes arrived := by
  refine ⟨rfl, merge_ofList_ofList, fun _ _ => rfl, ?_⟩
  intro arrived diagnostics collects
  have same := collects.eq_ofList
  refine ⟨same, ?_⟩
  rw [same]
  exact summarizes_ofList arrived

end Diagnostics

/-! Two runs of which the second one finds more errors than it keeps. -/

namespace Proofreading

/-- The error on a line. -/
def misprint (line : Nat) : Diagnostic :=
  .error .propertyTypeMismatch ("line " ++ toString line) "misprint"

def remark : Diagnostic := .warning .fileNotFound "title" "no such file"

/-- A run with 15 errors and a warning between them. -/
def front : Diagnostics :=
  ((Diagnostics.empty.extend ((List.range 7).map misprint)).push remark).extend
    ((List.range 8).map misprint)

/-- A run with 22 errors and a warning behind them. -/
def back : Diagnostics :=
  (Diagnostics.empty.extend ((List.range 22).map misprint)).push remark

/-- Both runs in the order of arrival. -/
def arrived : List Diagnostic :=
  [] ++ (List.range 7).map misprint ++ [remark] ++ (List.range 8).map misprint ++
    ([] ++ (List.range 22).map misprint ++ [remark])

/-- The second run has dropped two errors; the merged run keeps five of the others and
counts all of them. -/
theorem merged_runs :
    Diagnostics.Collects arrived (front.merge back) ∧
      back.errors.length = 20 ∧
      front.merge back = .ofList arrived ∧
      (front.merge back).Summarizes arrived ∧
      (front.merge back).errors.drop 15 = (List.range 5).map misprint ∧
      (front.merge back).totalErrors = 37 ∧
      (front.merge back).totalWarnings = 2 := by
  have collects : Diagnostics.Collects arrived (front.merge back) :=
    .merge (.extend (.push (.extend .empty _) _) _) (.push (.extend .empty _) _)
  obtain ⟨_, _, _, held⟩ := Diagnostics.ofList_homomorphism
  obtain ⟨same, summarizes⟩ := held arrived _ collects
  exact ⟨collects, by decide +kernel, same, summarizes, by decide +kernel,
    by decide +kernel, by decide +kernel⟩

end Proofreading
end ReactorGen
