import ReactorGen.Diagnostic

/-!
# Accumulated problems

What the diagnostics of a run hold after a list of problems.  The errors are kept
up to the limit and all of them are counted, the warnings are all kept, and the
two do not disturb each other.  Adding the problems of another run is the same as
adding them one by one, although that run may have kept only some of its errors.
-/

namespace ReactorGen
namespace Diagnostics

/-- The errors among problems. -/
def errorsOf (problems : List Diagnostic) : List Diagnostic :=
  problems.filter Diagnostic.isError

/-- The warnings among problems. -/
def warningsOf (problems : List Diagnostic) : List Diagnostic :=
  problems.filter fun problem => !problem.isError

@[simp] theorem errorsOf_nil : errorsOf [] = [] := rfl

@[simp] theorem warningsOf_nil : warningsOf [] = [] := rfl

theorem errorsOf_append (first second : List Diagnostic) :
    errorsOf (first ++ second) = errorsOf first ++ errorsOf second := by
  rw [errorsOf, List.filter_append]
  rfl

theorem errorsOf_eq_nil
    {problems : List Diagnostic}
    (noErrors : ∀ problem ∈ problems, problem.isError = false) :
    errorsOf problems = [] := by
  rw [errorsOf, List.filter_eq_nil_iff]
  intro problem member
  simp [noErrors problem member]

/-- Adding one error keeps it if there is room and counts it in any case. -/
theorem push_of_isError
    (diagnostics : Diagnostics)
    {problem : Diagnostic}
    (isError : problem.isError = true) :
    diagnostics.push problem =
      { diagnostics with
        errors := diagnostics.errors ++
          [problem].take (errorLimit - diagnostics.errors.length)
        totalErrors := diagnostics.totalErrors + 1 } := by
  have severity : problem.severity = .error := by
    simpa [Diagnostic.isError] using isError
  simp only [push, severity]
  by_cases room : diagnostics.errors.length < errorLimit
  · obtain ⟨free, room_eq⟩ := Nat.exists_eq_add_of_lt room
    have free_eq : errorLimit - diagnostics.errors.length = free + 1 := by omega
    simp [room, free_eq]
  · have full : errorLimit - diagnostics.errors.length = 0 := by omega
    simp [room, full]

/-- Adding one warning keeps it. -/
theorem push_of_not_isError
    (diagnostics : Diagnostics)
    {problem : Diagnostic}
    (notError : problem.isError = false) :
    diagnostics.push problem =
      { diagnostics with
        warnings := diagnostics.warnings ++ [problem]
        totalWarnings := diagnostics.totalWarnings + 1 } := by
  have severity : problem.severity = .warning := by
    cases severityValue : problem.severity with
    | error => simp [Diagnostic.isError, severityValue] at notError
    | warning => rfl
  simp only [push, severity]

/-- What the diagnostics hold after a list of problems. -/
theorem extend_eq (diagnostics : Diagnostics) (added : List Diagnostic) :
    diagnostics.extend added =
      ⟨diagnostics.errors ++
          (errorsOf added).take (errorLimit - diagnostics.errors.length),
        diagnostics.warnings ++ warningsOf added,
        diagnostics.totalErrors + (errorsOf added).length,
        diagnostics.totalWarnings + (warningsOf added).length⟩ := by
  induction added generalizing diagnostics with
  | nil => simp
  | cons first rest inductionHypothesis =>
    rw [extend_cons, inductionHypothesis]
    cases firstError : first.isError with
    | true =>
      have errors_cons : errorsOf (first :: rest) = first :: errorsOf rest := by
        simp [errorsOf, firstError]
      have warnings_cons : warningsOf (first :: rest) = warningsOf rest := by
        simp [warningsOf, firstError]
      rw [push_of_isError _ firstError, errors_cons, warnings_cons]
      cases room : errorLimit - diagnostics.errors.length with
      | zero => simp [room]; omega
      | succ free =>
        have lessRoom : errorLimit - (diagnostics.errors.length + 1) = free := by
          omega
        simp [lessRoom]
        omega
    | false =>
      have errors_cons : errorsOf (first :: rest) = errorsOf rest := by
        simp [errorsOf, firstError]
      have warnings_cons : warningsOf (first :: rest) = first :: warningsOf rest := by
        simp [warningsOf, firstError]
      rw [push_of_not_isError _ firstError, errors_cons, warnings_cons]
      simp
      omega

/-- What the diagnostics of a list of problems hold. -/
theorem ofList_eq (problems : List Diagnostic) :
    ofList problems =
      ⟨(errorsOf problems).take errorLimit, warningsOf problems,
        (errorsOf problems).length, (warningsOf problems).length⟩ := by
  rw [ofList, extend_eq]
  simp [empty]

theorem totalErrors_extend (diagnostics : Diagnostics) (added : List Diagnostic) :
    (diagnostics.extend added).totalErrors =
      diagnostics.totalErrors + (errorsOf added).length := by
  rw [extend_eq]

/-- The errors that are kept are the first ones of all errors. -/
theorem errors_extend
    {diagnostics : Diagnostics}
    (withinLimit : diagnostics.errors.length ≤ errorLimit)
    (added : List Diagnostic) :
    (diagnostics.extend added).errors =
      (diagnostics.errors ++ errorsOf added).take errorLimit := by
  rw [extend_eq, List.take_append, List.take_of_length_le withinLimit]

theorem length_errors_ofList_le (problems : List Diagnostic) :
    (ofList problems).errors.length ≤ errorLimit := by
  rw [ofList_eq]
  exact List.length_take_le _ _

/-- Adding another run's diagnostics adds the problems of that run. -/
theorem merge_ofList (diagnostics : Diagnostics) (problems : List Diagnostic) :
    diagnostics.merge (ofList problems) = diagnostics.extend problems := by
  have keptErrors : errorsOf ((errorsOf problems).take errorLimit) =
      (errorsOf problems).take errorLimit := by
    rw [errorsOf, List.filter_eq_self]
    intro problem member
    exact (List.mem_filter.mp (List.mem_of_mem_take member)).2
  have noWarnings : warningsOf ((errorsOf problems).take errorLimit) = [] := by
    rw [warningsOf, List.filter_eq_nil_iff]
    intro problem member
    simp [(List.mem_filter.mp (List.mem_of_mem_take member)).2]
  have noErrors : errorsOf (warningsOf problems) = [] := by
    apply errorsOf_eq_nil
    intro problem member
    simpa using (List.mem_filter.mp member).2
  have keptWarnings : warningsOf (warningsOf problems) = warningsOf problems := by
    rw [warningsOf, List.filter_eq_self]
    intro problem member
    exact (List.mem_filter.mp member).2
  have limit : errorLimit - diagnostics.errors.length ≤ errorLimit := Nat.sub_le _ _
  simp only [merge, ofList_eq]
  rw [extend_eq, extend_eq, extend_eq, keptErrors, noWarnings, noErrors, keptWarnings]
  have stored : ((errorsOf problems).take errorLimit).length ≤ (errorsOf problems).length :=
    List.length_take_le' _ _
  have total :
      diagnostics.totalErrors + ((errorsOf problems).take errorLimit).length +
          ((errorsOf problems).length - ((errorsOf problems).take errorLimit).length) =
        diagnostics.totalErrors + (errorsOf problems).length := by
    omega
  simp only [List.take_take, Nat.min_eq_left limit, List.append_nil, List.take_nil,
    List.length_nil, Nat.add_zero, total]

end Diagnostics
end ReactorGen
