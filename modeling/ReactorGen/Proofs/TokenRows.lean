import ReactorGen.Proofs.NamesApart
import ReactorGen.Proofs.TextCuts

/-!
# The rows of the token table

The initialization of a federate fills the table of tokens from its first row on.  A
counter says which row comes next; the statements for a token write that row and move
the counter on by one, and no other statement moves it.  The table is declared with a
row for every token that was registered, so each write stays inside the table and
fills the row of its own trigger.
-/

namespace ReactorGen

open Text TokenTable

/-! ## The counter -/

/-- The statement that completes a row and moves the counter on. -/
def TokenTable.advance : String :=
  "_lf_tokens_with_ref_count[_lf_tokens_with_ref_count_count++].reset_is_present = true;"

/-- How often a step moves the counter on. -/
def InitStep.advances (step : InitStep) : Nat :=
  step.singleStatements.count advance

theorem ending_advance : ending 2 advance = [';', 'e'] := by decide

/-- No statement moves the counter that ends differently. -/
theorem ne_advance_of_ending
    {statement : String}
    (long : 2 ≤ statement.toList.length)
    (different : ending 2 statement ≠ [';', 'e'])
    (before : String) :
    before ++ statement ≠ advance := by
  intro equal
  apply different
  rw [← ending_append long before, equal, ending_advance]

/-- No comment moves the counter. -/
theorem comment_ne_advance (comment : String) : "// " ++ comment ≠ advance := by
  have apart : "// " ++ comment ≠ advance ++ "" :=
    append_ne_append_of_take 1 (by decide) (by decide) (by decide) comment ""
  rwa [String.append_empty] at apart

/-- No assignment of a number or a time moves the counter. -/
theorem ne_advance_of_value
    {before value : String}
    (assigns : EndsIn ' ' before)
    (oneWord : ' ' ∉ value.toList)
    (different : 'e' ∉ value.toList) :
    before ++ (value ++ ";") ≠ advance := by
  intro equal
  have cut : advance =
      "_lf_tokens_with_ref_count[_lf_tokens_with_ref_count_count++].reset_is_present = " ++
        "true;" := rfl
  have noSpace : ' ' ∉ (value ++ ";").toList := by
    rw [String.toList_append, List.mem_append, not_or]
    exact ⟨oneWord, by decide⟩
  rw [cut] at equal
  obtain ⟨_, value_eq⟩ := append_inj_of_endsIn assigns (by decide) noSpace (by decide) equal
  have member : 'e' ∈ (value ++ ";").toList := by
    rw [value_eq]
    decide
  rw [String.toList_append, List.mem_append] at member
  rcases member with inValue | inEnd
  · exact different inValue
  · exact absurd inEnd (by decide)

/-- A time is written without small letters and without spaces. -/
theorem TimeValue.not_mem_expression
    {char : Char}
    (small : char = 'e' ∨ char = ' ')
    (time : TimeValue) :
    char ∉ time.expression.toList := by
  have notDigit : char.isDigit = false := by rcases small with rfl | rfl <;> decide
  have noConversion : ∀ unit : TimeUnit, char ∉ unit.conversion.toList := by
    intro unit
    rcases small with rfl | rfl <;> cases unit <;> decide
  rw [expression]
  split
  · rcases small with rfl | rfl <;> decide
  · simp only [String.toList_append, List.mem_append, not_or]
    refine ⟨⟨⟨noConversion time.unit, ?_⟩, not_mem_toString notDigit _⟩, ?_⟩
    · rcases small with rfl | rfl <;> decide
    · rcases small with rfl | rfl <;> decide

/-- An integer is written with digits and a sign. -/
theorem not_mem_toString_int
    {char : Char}
    (notDigit : char.isDigit = false)
    (notSign : char ≠ '-')
    (number : Int) :
    char ∉ (toString number).toList := by
  cases number with
  | ofNat magnitude => exact not_mem_toString notDigit magnitude
  | negSucc magnitude =>
    have signed : toString (Int.negSucc magnitude) = "-" ++ toString (magnitude + 1) := rfl
    rw [signed, String.toList_append, List.mem_append, not_or]
    exact ⟨by simpa using notSign, not_mem_toString notDigit _⟩

theorem Period.not_mem_expression
    {char : Char}
    (small : char = 'e' ∨ char = ' ')
    (period : Period) :
    char ∉ period.expression.toList := by
  cases period with
  | spacing time => exact time.not_mem_expression small
  | undefined => rcases small with rfl | rfl <;> decide

/-- Setting offset, period and mode of a trigger does not move the counter. -/
theorem TriggerMetadata.advance_not_mem (metadata : TriggerMetadata) :
    advance ∉ metadata.initializer := by
  simp only [initializer, List.mem_cons, List.not_mem_nil, or_false, not_or]
  refine ⟨?comment, ?offset, ?period, ?mode⟩
  case comment =>
    have cut : "// Initializing " = "// " ++ "Initializing " := rfl
    rw [cut, String.append_assoc, String.append_assoc, String.append_assoc]
    exact (comment_ne_advance _).symm
  case offset =>
    rw [String.append_assoc]
    exact (ne_advance_of_value (EndsIn.append (by decide) _)
      (TimeValue.not_mem_expression (.inr rfl) _)
      (TimeValue.not_mem_expression (.inl rfl) _)).symm
  case period =>
    rw [String.append_assoc]
    exact (ne_advance_of_value (EndsIn.append (by decide) _)
      (Period.not_mem_expression (.inr rfl) _)
      (Period.not_mem_expression (.inl rfl) _)).symm
  case mode =>
    cases metadata.mode with
    | mode owner index =>
      rw [ModeBinding.expression, ← String.append_assoc, String.append_assoc]
      exact (ne_advance_of_ending (by decide) (by decide) _).symm
    | unbound =>
      rw [ModeBinding.expression, String.append_assoc]
      exact (ne_advance_of_ending (by decide) (by decide) _).symm

namespace TokenInitializer

/-- The statements for a token move the counter on by one row. -/
theorem count_advance (initializer : TokenInitializer) :
    initializer.statements.count advance = 1 := by
  have create : initializer.trigger ++ ".token = _lf_create_token(" ++
      initializer.payloadSize ++ ");" ≠ advance :=
    ne_advance_of_ending (by decide) (by decide) _
  have absent : initializer.trigger ++ ".status = absent;" ≠ advance :=
    ne_advance_of_ending (by decide) (by decide) _
  have token : row ++ ".token = &" ++ initializer.trigger ++ ".token;" ≠ advance :=
    ne_advance_of_ending (by decide) (by decide) _
  have status : row ++ ".status = &" ++ initializer.trigger ++ ".status;" ≠ advance :=
    ne_advance_of_ending (by decide) (by decide) _
  rw [statements, List.count_cons_of_ne create, List.count_cons_of_ne absent,
    List.count_cons_of_ne token, List.count_cons_of_ne status]
  exact List.count_singleton_self

end TokenInitializer

theorem count_advance_of_ne
    {statement : String}
    (different : statement ≠ advance) :
    [statement].count advance = 0 := by
  rw [List.count_eq_zero, List.mem_singleton]
  exact different.symm

/-- Only the statements for a token move the counter on. -/
theorem InitStep.advances_eq (step : InitStep) :
    step.advances = if step.initializer?.isSome then 1 else 0 := by
  cases step with
  | announce path className =>
    have cut : "// ***** Start initializing " = "// " ++ "***** Start initializing " := rfl
    have other : "// ***** Start initializing " ++ path ++ " of class " ++ className ≠
        advance := by
      rw [cut, String.append_assoc, String.append_assoc, String.append_assoc]
      exact comment_ne_advance _
    exact count_advance_of_ne other
  | make selfVariable className =>
    exact count_advance_of_ne (ne_advance_of_ending (by decide) (by decide) _)
  | nameInstance selfVariable list =>
    exact count_advance_of_ne (ne_advance_of_ending (by decide) (by decide) _)
  | setParameter selfVariable name value =>
    have other : selfVariable ++ "->" ++ name ++ " = " ++ toString value.toInt ++ ";" ≠
        advance := by
      rw [String.append_assoc]
      exact ne_advance_of_value (EndsIn.append (by decide) _)
        (not_mem_toString_int (by decide) (by decide) _)
        (not_mem_toString_int (by decide) (by decide) _)
    exact count_advance_of_ne other
  | setTrigger metadata => exact List.count_eq_zero.mpr metadata.advance_not_mem
  | makeToken initializer => exact initializer.count_advance
  | linkMethod link =>
    exact count_advance_of_ne (ne_advance_of_ending (by decide) (by decide) _)

/-- Where the counter points after some steps. -/
def counterAfter : List InitStep -> Nat
  | [] => 0
  | step :: rest => step.advances + counterAfter rest

/-- The counter stands at the number of tokens that have been made. -/
theorem counterAfter_eq (steps : List InitStep) :
    counterAfter steps = (steps.filterMap InitStep.initializer?).length := by
  induction steps with
  | nil => rfl
  | cons step rest inductionHypothesis =>
    rw [counterAfter, inductionHypothesis, step.advances_eq, List.filterMap_cons]
    cases step.initializer? with
    | none => simp
    | some initializer => simp [Nat.add_comm]

/-- The counter is moved on by all statements in turn. -/
theorem counterAfter_eq_count (steps : List InitStep) :
    counterAfter steps = (steps.flatMap InitStep.singleStatements).count advance := by
  induction steps with
  | nil => rfl
  | cons step rest inductionHypothesis =>
    rw [counterAfter, inductionHypothesis, List.flatMap_cons, List.count_append,
      InitStep.advances]

/-- A statement on one line is found among its lines. -/
theorem count_lines
    {statement : String}
    (oneLine : OneLine statement) :
    (lines statement).count advance = [statement].count advance := by
  by_cases empty : statement = ""
  · rw [empty]
    decide
  · have ends : [statement].getLast? ≠ some "" := fun last => empty (Option.some.inj last)
    have found : lines (joinLines [statement]) = [statement] :=
      lines_joinLines (fun line member => by rwa [List.mem_singleton.mp member]) ends
    rw [joinLines, String.intercalate_singleton] at found
    rw [found]

/-- As long as no statement breaks a line, the lines move the counter on like the
statements. -/
theorem count_flatMap_lines
    {statements : List String}
    (oneLine : ∀ statement ∈ statements, OneLine statement) :
    (statements.flatMap lines).count advance = statements.count advance := by
  induction statements with
  | nil => rfl
  | cons statement rest inductionHypothesis =>
    rw [List.forall_mem_cons] at oneLine
    rw [List.flatMap_cons, List.count_append, count_lines oneLine.1,
      inductionHypothesis oneLine.2, ← List.count_append]
    rfl

/-! ## The table -/

/-- The statements for a token write a row of the table that is its own, where the
counter is. -/
structure TokenTable.RowFilled
    (table : TokenTable)
    (counter : Nat)
    (initializer : TokenInitializer) : Prop where
  inside : counter < table.declaredLength
  own : table.entries[counter]? =
    some ⟨"&" ++ initializer.trigger ++ ".token", "&" ++ initializer.trigger ++ ".status", true⟩
  written : (InitStep.makeToken initializer).singleStatements = [
    initializer.trigger ++ ".token = _lf_create_token(" ++ initializer.payloadSize ++ ");",
    initializer.trigger ++ ".status = absent;",
    "_lf_tokens_with_ref_count[_lf_tokens_with_ref_count_count].token = &" ++
      initializer.trigger ++ ".token;",
    "_lf_tokens_with_ref_count[_lf_tokens_with_ref_count_count].status = &" ++
      initializer.trigger ++ ".status;",
    advance]

/-- The statements of an initialization fill the table that is declared for them. -/
structure Initialization.Fills
    (initialization : Initialization)
    (table : TokenTable) : Prop where
  size : table.size = initialization.initializers.length
  declaredLength : table.declaredLength = max 1 initialization.initializers.length
  /-- Every token is in the table once, with its trigger. -/
  entries : table.entries = initialization.initializers.map fun initializer =>
    ⟨"&" ++ initializer.trigger ++ ".token", "&" ++ initializer.trigger ++ ".status", true⟩
  distinct : (table.entries.map TokenEntry.tokenRef).Nodup
  /-- Only the statements for a token move the counter on. -/
  advances : ∀ step ∈ initialization.steps,
    step.advances = if step.initializer?.isSome then 1 else 0
  /-- All statements together move the counter on once for each token. -/
  total : initialization.statements.count advance = initialization.initializers.length
  /-- So do the lines of the function, as long as no statement breaks a line. -/
  lines : (∀ statement ∈ initialization.statements, OneLine statement) ->
    (initialization.statements.flatMap lines).count advance =
      initialization.initializers.length
  /-- Wherever the statements for a token stand, the counter points at their row. -/
  rows : ∀ before initializer after,
    initialization.steps = before ++ .makeToken initializer :: after ->
    table.RowFilled (counterAfter before) initializer

/-- What is registered fills its table. -/
theorem TokenTable.Registers.fills
    {initialization : Initialization}
    {sites : List TokenSite}
    (registers : Registers sites initialization.initializers initialization.tokens) :
    initialization.Fills initialization.tokens := by
  have size : initialization.tokens.size = initialization.initializers.length := by
    rw [TokenTable.size, registers.entries, List.length_map]
  have declaredLength :
      initialization.tokens.declaredLength = max 1 initialization.initializers.length := by
    rw [TokenTable.declaredLength, size, Nat.max_comm]
  have total : initialization.statements.count advance =
      initialization.initializers.length := by
    rw [Initialization.statements, ← counterAfter_eq_count, counterAfter_eq]
    rfl
  constructor
  case size => exact size
  case declaredLength => exact declaredLength
  case entries => exact registers.entries
  case total => exact total
  case lines => exact fun oneLine => (count_flatMap_lines oneLine).trans total
  case distinct =>
    have triggers : (initialization.initializers.map TokenInitializer.trigger).Nodup := by
      rw [registers.triggers]
      exact FirstOccurrences.nodup_eraseDups _
    rw [registers.entries]
    exact TokenEntry.nodup_rows triggers
  case advances =>
    intro step _
    exact step.advances_eq
  case rows =>
    intro before initializer after steps_eq
    have made : initialization.initializers =
        before.filterMap InitStep.initializer? ++
          initializer :: after.filterMap InitStep.initializer? := by
      rw [Initialization.initializers, steps_eq, List.filterMap_append,
        List.filterMap_cons]
      rfl
    rw [counterAfter_eq]
    constructor
    case inside =>
      rw [declaredLength, made, List.length_append, List.length_cons]
      omega
    case own =>
      rw [registers.entries, made, List.getElem?_map, List.getElem?_append_right (Nat.le_refl _),
        Nat.sub_self]
      rfl
    case written => rfl

namespace Program

variable
  {program : Program}
  {environment : Environment}
  {federate : Federate}

/-- Whatever is generated for a federate, its initialization fills the table of tokens
that is declared for it, row by row and with no write outside. -/
theorem generateFederate_fillsTable
    {baseName : String}
    {generated : FederateArtifacts}
    (generated_eq :
      (program.generateFederate environment federate baseName).run.result =
        .ok generated) :
    ∃ initialization,
      program.initialization federate (decide (environment.settings.target = .python)) =
          .ok initialization ∧
        generated.Has initialization ∧
        initialization.Fills generated.tokens := by
  obtain ⟨initialization, initialization_eq, has⟩ := has_of_generateFederate generated_eq
  obtain ⟨names, _, _, registers, _⟩ := keepsApart_iff_of_initialization initialization_eq
  refine ⟨initialization, initialization_eq, has, ?_⟩
  rw [has.tokens]
  exact registers.fills

end Program

namespace Workshop

/-- Five tokens of the crowded workshop share three references, so three rows are
declared and filled. -/
theorem crowded_fillsTable :
    ∃ generated initialization,
      (crowded.generateFederate environment .singleton "Workshop").run.result =
          .ok generated ∧
        generated.Has initialization ∧
        initialization.Fills generated.tokens ∧
        initialization.initializers.length = 3 ∧
        generated.tokens.declaredLength = 3 := by
  obtain ⟨generated, generated_eq⟩ : ∃ generated,
      (crowded.generateFederate environment .singleton "Workshop").run.result =
        .ok generated := ⟨_, rfl⟩
  obtain ⟨initialization, initialization_eq, has, fills⟩ :=
    Program.generateFederate_fillsTable generated_eq
  obtain ⟨known, known_eq, count⟩ : ∃ known,
      crowded.initialization .singleton true = .ok known ∧
        known.initializers.length = 3 := ⟨_, rfl, by decide +kernel⟩
  obtain rfl : known = initialization :=
    Except.ok.inj (known_eq.symm.trans initialization_eq)
  exact ⟨generated, known, generated_eq, has, fills, count,
    by rw [fills.declaredLength, count]; rfl⟩

end Workshop
end ReactorGen
