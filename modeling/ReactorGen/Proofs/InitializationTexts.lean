import ReactorGen.Generated.NativeSource
import ReactorGen.Proofs.PlacedTexts
import ReactorGen.Proofs.TextLines

/-!
# The text of an initialization

What is written for the initialization of a federate: the table of tokens with its counter,
and a function that holds the statements of all steps.  The statements for a token are
written as one text; since each of them ends with a semicolon, they come out on lines of
their own like all others.
-/

namespace ReactorGen

open Text

/-! ## Lines of statements -/

namespace Text

theorem charLines_ne_nil (char : Char) (rest : List Char) : charLines (char :: rest) ≠ [] := by
  rw [charLines.eq_def]
  split <;> simp_all
  split <;> simp

/-- What ends with an ordinary character is cut off by the line feed behind it. -/
theorem charLines_feed
    {last : Char}
    (notFeed : last ≠ '\n')
    (notReturn : last ≠ '\r')
    (before behind : List Char) :
    charLines (before ++ last :: '\n' :: behind) =
      charLines (before ++ [last]) ++ charLines behind := by
  induction before with
  | nil =>
    have single (rest : List Char) : charLines (last :: rest) =
        (last :: (charLines rest).headD []) :: (charLines rest).tail :=
      charLines_cons notFeed fun isReturn => absurd isReturn notReturn
    rw [List.nil_append, List.nil_append, single, single, charLines_newline]
    rfl
  | cons char before inductionHypothesis =>
    rw [List.cons_append, List.cons_append]
    by_cases isFeed : char = '\n'
    · rw [isFeed, charLines_newline, charLines_newline, inductionHypothesis]
      rfl
    by_cases isEnd : char = '\r' ∧ before.head? = some '\n'
    · -- The line feed drops the carriage return in front of it.
      obtain ⟨rfl, starts⟩ := isEnd
      obtain ⟨rest, rfl⟩ := List.head?_eq_some_iff.mp starts
      exact inductionHypothesis
    · have notEnd (rest : List Char) :
          char = '\r' -> (before ++ last :: rest).head? ≠ some '\n' := by
        rintro isReturn starts
        cases before with
        | nil => exact notFeed (Option.some.inj starts)
        | cons next _ => exact isEnd ⟨isReturn, starts⟩
      have notEmpty : charLines (before ++ [last]) ≠ [] := by
        cases before with
        | nil => exact charLines_ne_nil last []
        | cons next rest => exact charLines_ne_nil next _
      obtain ⟨line, others, lines_eq⟩ := List.exists_cons_of_ne_nil notEmpty
      rw [charLines_cons isFeed (notEnd _), charLines_cons isFeed (notEnd _),
        inductionHypothesis, lines_eq]
      rfl

/-- A statement, which ends with a semicolon. -/
def Closed (statement : String) : Prop :=
  ∃ before, statement = before ++ ";"

/-- Statements that are joined have their lines one after the other. -/
theorem lines_joinLines_of_closed
    {statements : List String}
    (closed : ∀ statement ∈ statements, Closed statement) :
    lines (joinLines statements) = statements.flatMap lines := by
  induction statements with
  | nil => rfl
  | cons statement rest inductionHypothesis =>
    rw [List.forall_mem_cons] at closed
    obtain ⟨⟨before, rfl⟩, restClosed⟩ := closed
    rw [List.flatMap_cons, ← inductionHypothesis restClosed]
    cases rest with
    | nil =>
      rw [joinLines, String.intercalate_singleton]
      exact (List.append_nil _).symm
    | cons next others =>
      have ends : (before ++ ";" ++ "\n" ++ joinLines (next :: others)).toList =
          before.toList ++ ';' :: '\n' :: (joinLines (next :: others)).toList := by
        simp only [String.toList_append, List.append_assoc]
        rfl
      have alone : (before ++ ";").toList = before.toList ++ [';'] := by
        rw [String.toList_append]
        rfl
      rw [joinLines, String.intercalate_cons_cons, ← joinLines, lines, ends,
        charLines_feed (by decide) (by decide), List.map_append, ← alone]
      rfl

end Text

/-! ## Statements -/

/-- The statements of a step one by one. -/
def InitStep.singleStatements : InitStep -> List String
  | makeToken initializer => initializer.statements
  | step => step.statements

namespace TokenInitializer

theorem closed_statements (initializer : TokenInitializer) :
    ∀ statement ∈ initializer.statements, Closed statement := by
  have token : ".token;" = ".token" ++ ";" := by decide
  have status : ".status;" = ".status" ++ ";" := by decide
  have absent : ".status = absent;" = ".status = absent" ++ ";" := by decide
  have made : ");" = ")" ++ ";" := by decide
  have reset : ".reset_is_present = true;" = ".reset_is_present = true" ++ ";" := by decide
  rw [statements, token, status, absent, made, reset]
  simp only [List.forall_mem_cons, List.not_mem_nil, false_imp_iff, implies_true, and_true,
    ← String.append_assoc]
  exact ⟨⟨_, rfl⟩, ⟨_, rfl⟩, ⟨_, rfl⟩, ⟨_, rfl⟩, ⟨_, rfl⟩⟩

end TokenInitializer

/-- The statements one by one have the lines that a step writes. -/
theorem InitStep.flatMap_lines_statements (step : InitStep) :
    step.statements.flatMap lines = step.singleStatements.flatMap lines := by
  cases step with
  | makeToken initializer =>
    rw [singleStatements, ← lines_joinLines_of_closed initializer.closed_statements]
    exact List.append_nil _
  | _ => rfl

namespace Initialization

/-- The statements of all steps in order. -/
def statements (initialization : Initialization) : List String :=
  initialization.steps.flatMap InitStep.singleStatements

/-- The function with the statements. -/
def functionText (initialization : Initialization) : String :=
  "void _lf_initialize_trigger_objects() \x7b\n" ++
    String.join (initialization.statements.map inset) ++ "\x7d"

/-- What is written for an initialization: the table, a counter that starts at the first row,
and the function. -/
def spelled (initialization : Initialization) : String :=
  "token_present_t _lf_tokens_with_ref_count[" ++
    toString initialization.tokens.declaredLength ++ "];\n" ++
    "int _lf_tokens_with_ref_count_count = 0;\n\n" ++
    initialization.functionText ++ "\n"

theorem initializationFunction_eq (initialization : Initialization) :
    initializationFunction initialization.steps = initialization.functionText := by
  have lines_eq : (initialization.steps.flatMap InitStep.statements).flatMap lines =
      initialization.statements.flatMap lines := by
    simp only [statements, List.flatMap_assoc, InitStep.flatMap_lines_statements]
  unfold initializationFunction
  rewrite [lines_eq]
  exact congrArg (fun text => _ ++ text ++ "\x7d")
    (join_flatMap_lines initialization.statements)

theorem triggerSource_eq (initialization : Initialization) :
    initialization.triggerSource = initialization.spelled := by
  have counter : "];\nint _lf_tokens_with_ref_count_count = 0;" ++ "\n\n" =
      "];\n" ++ "int _lf_tokens_with_ref_count_count = 0;\n\n" := by decide
  have goesOn (text : String) := congrArg (· ++ text) counter
  simp only [String.append_assoc] at goesOn
  unfold triggerSource TokenTable.declaration spelled
  rewrite [initializationFunction_eq]
  simp only [String.append_assoc, goesOn]

end Initialization
end ReactorGen
