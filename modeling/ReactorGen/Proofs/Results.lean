import Mathlib.Data.List.Forall2
import ReactorGen.Fault

/-!
# Results

What a computation gives that may fail, and what it gives when it also reports.
The result of a sequence is the sequence of the results, whatever was reported;
and a sequence, a traversal or a selection succeeds exactly when every part of it
does.
-/

namespace ReactorGen

/-! ## Computations that may fail -/

namespace Result

@[simp] theorem ok_bind (value : α) (next : α -> Except ε β) :
    (Except.ok value >>= next) = next value := rfl

theorem bind_eq_ok
    {first : Except ε α}
    {next : α -> Except ε β}
    {value : β} :
    (first >>= next) = .ok value ↔
      ∃ middle, first = .ok middle ∧ next middle = .ok value := by
  cases first with
  | error failure => simp [bind, Except.bind]
  | ok middle => simp [bind, Except.bind]

theorem bind_eq_error
    {first : Except ε α}
    {next : α -> Except ε β}
    {failure : ε} :
    (first >>= next) = .error failure ↔
      first = .error failure ∨ ∃ middle, first = .ok middle ∧ next middle = .error failure := by
  cases first with
  | error given => simp [bind, Except.bind]
  | ok middle => simp [bind, Except.bind]

theorem pure_eq_ok {given value : α} :
    (pure given : Except ε α) = .ok value ↔ given = value := by
  simp [pure, Except.pure]

theorem map_eq_ok
    {result : Except ε α}
    {function : α -> β}
    {value : β} :
    result.map function = .ok value ↔
      ∃ given, result = .ok given ∧ function given = value := by
  cases result with
  | error failure => simp [Except.map]
  | ok given => simp [Except.map]

@[simp] theorem liftM_ok (value : α) :
    (liftM (Except.ok value : Except DanglingReference α) : Except Failure α) =
      .ok value := rfl

/-- A dangling reference is a failure, and a success stays one. -/
theorem liftM_eq_ok
    {found : Except DanglingReference α}
    {value : α} :
    (liftM found : Except Failure α) = .ok value ↔ found = .ok value := by
  cases found with
  | error reference => simp [liftM, monadLift, MonadLift.monadLift]
  | ok found => simp [liftM, monadLift, MonadLift.monadLift]

/-- A look-up succeeds exactly when there is a value. -/
theorem orDangling_eq_ok
    {reference : DanglingReference}
    {value? : Option α}
    {value : α} :
    orDangling reference value? = .ok value ↔ value? = some value := by
  cases value? with
  | none => simp
  | some found => simp

/-- A traversal depends on its step at the items only. -/
theorem mapM_congr [Monad m] [LawfulMonad m]
    {first second : α -> m β}
    {items : List α}
    (same : ∀ item ∈ items, first item = second item) :
    items.mapM first = items.mapM second := by
  induction items with
  | nil => rfl
  | cons head rest inductionHypothesis =>
    rw [List.mapM_cons, List.mapM_cons, same head (List.mem_cons_self ..),
      inductionHypothesis fun item member => same item (List.mem_cons_of_mem _ member)]

/-- A traversal succeeds exactly when it does at every item. -/
theorem mapM_eq_ok
    {step : α -> Except ε β}
    {items : List α}
    {values : List β} :
    items.mapM step = .ok values ↔
      List.Forall₂ (fun item value => step item = .ok value) items values := by
  induction items generalizing values with
  | nil =>
    rw [List.mapM_nil, pure_eq_ok, List.forall₂_nil_left_iff]
    exact eq_comm
  | cons first rest inductionHypothesis =>
    simp only [List.mapM_cons, bind_eq_ok, pure_eq_ok, inductionHypothesis,
      List.forall₂_cons_left_iff]
    constructor
    · rintro ⟨value, first_eq, others, rest_eq, rfl⟩
      exact ⟨value, others, first_eq, rest_eq, rfl⟩
    · rintro ⟨value, others, first_eq, rest_eq, rfl⟩
      exact ⟨value, first_eq, others, rest_eq, rfl⟩

/-- A traversal fails like the first item at which it does. -/
theorem mapM_eq_error
    {step : α -> Except ε β}
    {items : List α}
    {failure : ε} :
    items.mapM step = .error failure ↔
      ∃ before item after, items = before ++ item :: after ∧
        (∀ earlier ∈ before, ∃ value, step earlier = .ok value) ∧
        step item = .error failure := by
  induction items with
  | nil => simp [pure, Except.pure]
  | cons first rest inductionHypothesis =>
    rw [List.mapM_cons, bind_eq_error]
    constructor
    · rintro (first_fails | ⟨value, first_eq, rest_fails⟩)
      · exact ⟨[], first, rest, rfl, by simp, first_fails⟩
      · rcases bind_eq_error.mp rest_fails with rest_fails | ⟨_, _, impossible⟩
        · obtain ⟨before, item, after, rfl, succeed, fails⟩ :=
            inductionHypothesis.mp rest_fails
          refine ⟨first :: before, item, after, rfl, ?_, fails⟩
          exact List.forall_mem_cons.mpr ⟨⟨value, first_eq⟩, succeed⟩
        · simp [pure, Except.pure] at impossible
    · rintro ⟨before, item, after, items_eq, succeed, fails⟩
      cases before with
      | nil =>
        obtain ⟨rfl, rfl⟩ := List.cons.inj items_eq
        exact .inl fails
      | cons head before =>
        obtain ⟨rfl, rfl⟩ := List.cons.inj items_eq
        obtain ⟨⟨value, first_eq⟩, succeed⟩ := List.forall_mem_cons.mp succeed
        refine .inr ⟨value, first_eq, bind_eq_error.mpr (.inl ?_)⟩
        exact inductionHypothesis.mpr ⟨before, item, after, rfl, succeed, fails⟩

/-- What a traversal gives for an item stands where the item stood. -/
theorem exists_getElem?_of_mapM
    {step : α -> Except ε β}
    {items : List α}
    {values : List β}
    (traversed : items.mapM step = .ok values)
    {position : Nat}
    {item : α}
    (item_eq : items[position]? = some item) :
    ∃ value, values[position]? = some value ∧ step item = .ok value := by
  rw [mapM_eq_ok] at traversed
  induction traversed generalizing position with
  | nil => exact absurd item_eq (by simp)
  | cons first_eq _ inductionHypothesis =>
    cases position with
    | zero =>
      rw [List.getElem?_cons_zero, Option.some.injEq] at item_eq
      rw [← item_eq]
      exact ⟨_, List.getElem?_cons_zero, first_eq⟩
    | succ position =>
      rw [List.getElem?_cons_succ] at item_eq
      exact inductionHypothesis item_eq

/-- What a traversal gives for an item is among its results. -/
theorem exists_mem_of_mapM
    {step : α -> Except ε β}
    {items : List α}
    {values : List β}
    (traversed : items.mapM step = .ok values)
    {item : α}
    (member : item ∈ items) :
    ∃ value ∈ values, step item = .ok value := by
  obtain ⟨position, item_eq⟩ := List.getElem?_of_mem member
  obtain ⟨value, value_at, value_eq⟩ := exists_getElem?_of_mapM traversed item_eq
  exact ⟨value, List.mem_of_getElem? value_at, value_eq⟩

/-- Every result of a traversal comes from an item. -/
theorem exists_item_of_mapM
    {step : α -> Except ε β}
    {items : List α}
    {values : List β}
    (traversed : items.mapM step = .ok values)
    {value : β}
    (member : value ∈ values) :
    ∃ item ∈ items, step item = .ok value := by
  rw [mapM_eq_ok] at traversed
  induction traversed with
  | nil => exact absurd member List.not_mem_nil
  | cons first_eq _ inductionHypothesis =>
    rcases List.mem_cons.mp member with rfl | inRest
    · exact ⟨_, List.mem_cons_self .., first_eq⟩
    · obtain ⟨item, inItems, value_eq⟩ := inductionHypothesis inRest
      exact ⟨item, List.mem_cons_of_mem _ inItems, value_eq⟩

/-- A traversal that succeeds at every item has a result. -/
theorem exists_mapM
    {step : α -> Except ε β}
    {items : List α}
    (succeeds : ∀ item ∈ items, ∃ value, step item = .ok value) :
    ∃ values, items.mapM step = .ok values := by
  induction items with
  | nil => exact ⟨[], rfl⟩
  | cons first rest inductionHypothesis =>
    obtain ⟨value, first_eq⟩ := succeeds first (List.mem_cons_self ..)
    obtain ⟨values, rest_eq⟩ := inductionHypothesis fun item member =>
      succeeds item (List.mem_cons_of_mem _ member)
    rw [mapM_eq_ok] at rest_eq
    exact ⟨value :: values, mapM_eq_ok.mpr (.cons first_eq rest_eq)⟩

/-- What is related to some item of a list is related to it. -/
theorem exists_item_of_forall₂
    {related : α -> β -> Prop}
    {items : List α}
    {values : List β}
    (pairs : List.Forall₂ related items values)
    {value : β}
    (member : value ∈ values) :
    ∃ item ∈ items, related item value := by
  induction pairs with
  | nil => exact absurd member List.not_mem_nil
  | cons first _ inductionHypothesis =>
    rcases List.mem_cons.mp member with rfl | inRest
    · exact ⟨_, List.mem_cons_self .., first⟩
    · obtain ⟨item, inItems, isRelated⟩ := inductionHypothesis inRest
      exact ⟨item, List.mem_cons_of_mem _ inItems, isRelated⟩

/-- What every step keeps holds in the end if it holds at the start. -/
theorem invariant_of_foldlM
    {step : β -> α -> Except ε β}
    {invariant : β -> Prop}
    (kept : ∀ {done item next}, invariant done -> step done item = .ok next -> invariant next)
    {items : List α}
    {start result : β}
    (initially : invariant start)
    (folded : items.foldlM step start = .ok result) :
    invariant result := by
  induction items generalizing start with
  | nil =>
    rw [← Except.ok.inj folded]
    exact initially
  | cons item rest inductionHypothesis =>
    rw [List.foldlM_cons, bind_eq_ok] at folded
    obtain ⟨next, next_eq, folded⟩ := folded
    exact inductionHypothesis (kept initially next_eq) folded

/-- Whether a computation succeeds with a positive answer. -/
def holds : Except ε Bool -> Bool
  | .ok answer => answer
  | .error _ => false

@[simp] theorem holds_ok (answer : Bool) : holds (.ok answer : Except ε Bool) = answer :=
  rfl

theorem filterAuxM_eq_ok
    {test : α -> Except ε Bool}
    {items kept result : List α} :
    items.filterAuxM test kept = .ok result ↔
      (∀ item ∈ items, ∃ answer, test item = .ok answer) ∧
        result = (items.filter fun item => holds (test item)).reverse ++ kept := by
  induction items generalizing kept with
  | nil =>
    rw [List.filterAuxM, pure_eq_ok]
    simpa using eq_comm
  | cons first rest inductionHypothesis =>
    rw [List.filterAuxM, bind_eq_ok]
    simp only [inductionHypothesis, List.forall_mem_cons, List.filter_cons]
    constructor
    · rintro ⟨answer, first_eq, rest_eq, rfl⟩
      refine ⟨⟨⟨answer, first_eq⟩, rest_eq⟩, ?_⟩
      cases answer with
      | false => simp [first_eq]
      | true => simp [first_eq]
    · rintro ⟨⟨⟨answer, first_eq⟩, rest_eq⟩, rfl⟩
      refine ⟨answer, first_eq, rest_eq, ?_⟩
      cases answer with
      | false => simp [first_eq]
      | true => simp [first_eq]

/-- A selection succeeds exactly when every test does, and it keeps the items whose
test is positive. -/
theorem filterM_eq_ok
    {test : α -> Except ε Bool}
    {items result : List α} :
    items.filterM test = .ok result ↔
      (∀ item ∈ items, ∃ answer, test item = .ok answer) ∧
        result = items.filter fun item => holds (test item) := by
  rw [List.filterM, bind_eq_ok]
  simp only [filterAuxM_eq_ok, pure_eq_ok]
  constructor
  · rintro ⟨reversed, ⟨tested, rfl⟩, rfl⟩
    exact ⟨tested, by simp⟩
  · rintro ⟨tested, rfl⟩
    exact ⟨_, ⟨tested, rfl⟩, by simp⟩

end Result

/-! ## Computations that report -/

namespace Report

@[simp] theorem result_run_bind
    (first : ExceptT ε Report α)
    (next : α -> ExceptT ε Report β) :
    (first >>= next).run.result =
      first.run.result >>= fun value => (next value).run.result := by
  rw [ExceptT.run_bind, result_bind]
  cases first.run.result <;> rfl

@[simp] theorem result_run_lift (report : Report α) :
    (ExceptT.lift report : ExceptT ε Report α).run.result = .ok report.result := rfl

@[simp] theorem result_run_pure (value : α) :
    (pure value : ExceptT ε Report α).run.result = .ok value := rfl

/-- Reports do not change what a traversal gives. -/
theorem result_run_mapM
    (step : α -> ExceptT ε Report β)
    (items : List α) :
    (items.mapM step).run.result = items.mapM fun item => (step item).run.result := by
  induction items with
  | nil => rfl
  | cons first rest inductionHypothesis =>
    simp only [List.mapM_cons, result_run_bind, inductionHypothesis, result_run_pure]
    rfl

end Report

namespace Generation

@[simp] theorem result_ofExcept (result : Except Failure α) :
    (ofExcept result).run.result = result := rfl

@[simp] theorem result_log (level : LogLevel) (text : String) :
    (Generation.log level text).run.result = .ok () := rfl

@[simp] theorem result_withWarnings (generation : Generation α) :
    generation.withWarnings.run.result =
      generation.run.result.map fun result =>
        (result, generation.run.events.filterMap Event.warning?) := rfl

end Generation
end ReactorGen
