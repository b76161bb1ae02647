import ReactorGen.Proofs.NestedDrafts
import ReactorGen.Proofs.PlacedTexts
import ReactorGen.ReactionCode.Function

/-!
# The texts of functions

What the text of a function of a reaction consists of.  At the margin there is nothing but
the line that opens the function and the brace that closes it, so the functions that a text
defines can be read from its margin.  Inside, the local variables are declared before the
body, and the body of a function that calls a method names the member that holds the method
and then builds the arguments.
-/

namespace ReactorGen

open Text

/-! ## Lines inside a function -/

namespace Draft

/-- A line that does not stand at the margin: it is empty or indented. -/
def Inside (line : String) : Prop :=
  line = "" ∨ ∃ rest, line = "    " ++ rest

theorem inside_indentLine (line : String) : Inside (indentLine 1 line) := by
  cases blank : isBlankText line with
  | true => exact .inl (indentLine_of_blank blank 1)
  | false =>
    have spaces : String.ofList (List.replicate (4 * 1) ' ') = "    " := by decide
    rw [indentLine_of_not_blank blank, spaces]
    exact .inr ⟨line, rfl⟩

/-- One level more at the start is at most one level more at the end. -/
theorem levelAfter_succ_le (level : Nat) (draft : Draft) :
    levelAfter (level + 1) draft ≤ levelAfter level draft + 1 := by
  induction draft generalizing level with
  | nil => exact Nat.le_refl _
  | cons step rest inductionHypothesis =>
    rw [levelAfter_cons, levelAfter_cons]
    cases step with
    | write | writeAll | blank | indent => exact inductionHypothesis _
    | outdent =>
      cases level with
      | zero => exact Nat.le_succ _
      | succ level => exact inductionHypothesis level

/-- A draft that always leaves its level closes no level that it has not opened. -/
theorem Balanced.staysWithin {draft : Draft} (balanced : draft.Balanced) :
    StaysWithin 0 draft := by
  rintro before after rfl
  rw [Nat.pos_iff_ne_zero]
  intro closed
  -- A level that is closed too often is lost, so the draft ends alike from two levels.
  have lost : levelAfter 1 before - 1 = 0 := by
    have bound : levelAfter 1 before ≤ levelAfter 0 before + 1 :=
      levelAfter_succ_le 0 before
    omega
  have fromZero := balanced 0
  have fromOne := balanced 1
  rw [levelAfter_append, levelAfter_cons, stepLevel] at fromZero fromOne
  rw [closed, Nat.zero_sub] at fromZero
  rw [lost, fromZero] at fromOne
  exact absurd fromOne (by decide)

/-- What is nested does not come to the margin. -/
theorem Balanced.inside_of_mem_linesAt
    {draft : Draft}
    (balanced : draft.Balanced)
    {line : String}
    (member : line ∈ linesAt 1 draft) :
    Inside line := by
  have further : linesAt 1 draft = (linesAt 0 draft).map (indentLine 1) :=
    balanced.staysWithin.linesAt_add 1
  rw [further] at member
  obtain ⟨source, _, rfl⟩ := List.mem_map.mp member
  exact inside_indentLine source

end Draft

/-! ## Definitions -/

/-- The line that opens a function of the given name. -/
def functionOpening (name : String) : String :=
  "void " ++ name ++ "(void* instance_args) \x7b"

/-- Lines that define functions of the given names in this order, and nothing else: each
function is opened and closed at the margin, and what is between does not come there. -/
inductive DefinesFunctions : List String -> List String -> Prop
  | nil : DefinesFunctions [] []
  | define {name : String} {names inside lines : List String}
    (inner : ∀ line ∈ inside, Draft.Inside line)
    (defines : DefinesFunctions names lines) :
    DefinesFunctions (name :: names)
      (Draft.placeText 0 (functionOpening name) ++ inside ++ "\x7d" :: lines)

theorem DefinesFunctions.append
    {names others lines more : List String}
    (defines : DefinesFunctions names lines)
    (goesOn : DefinesFunctions others more) :
    DefinesFunctions (names ++ others) (lines ++ more) := by
  induction defines with
  | nil => exact goesOn
  | @define name _ _ _ inner _ inductionHypothesis =>
    have closed := @DefinesFunctions.define name _ _ _ inner inductionHypothesis
    simpa only [List.append_assoc, List.cons_append] using closed

theorem definesFunctions_flatMap
    {items : List α}
    {namesOf linesOf : α -> List String}
    (defines : ∀ item ∈ items, DefinesFunctions (namesOf item) (linesOf item)) :
    DefinesFunctions (items.flatMap namesOf) (items.flatMap linesOf) := by
  induction items with
  | nil => exact .nil
  | cons item items inductionHypothesis =>
    rw [List.forall_mem_cons] at defines
    rw [List.flatMap_cons, List.flatMap_cons]
    exact defines.1.append (inductionHypothesis defines.2)

theorem FunctionBody.balanced_draft (body : FunctionBody) : body.draft.Balanced := by
  cases body with
  | native source => exact fun _ => rfl
  | call called => exact fun _ => rfl

namespace ReactionFunction

/-- The statement that reaches the self struct. -/
def selfDeclaration (function : ReactionFunction) : String :=
  function.selfType ++ "* self = (" ++ function.selfType ++ "*)instance_args;"

/-- What stands inside a function. -/
def inner (function : ReactionFunction) : Draft :=
  [.write function.selfDeclaration] ++
    (function.locals.map Local.declaration).map .write ++ function.body.draft

theorem draft_eq (function : ReactionFunction) :
    function.draft =
      [.write (functionOpening function.name)] ++ function.inner.nested ++
        [.write "\x7d"] := by
  simp only [draft, inner, functionOpening, selfDeclaration, Draft.nested, List.map_map,
    Function.comp_def, List.cons_append, List.nil_append]

theorem balanced_inner (function : ReactionFunction) : function.inner.Balanced := by
  exact Draft.Balanced.append (.append (fun _ => rfl) (Draft.balanced_writes _))
    function.body.balanced_draft

theorem balanced_draft (function : ReactionFunction) : function.draft.Balanced := by
  rw [draft_eq]
  exact Draft.Balanced.append (.append (fun _ => rfl) function.balanced_inner.nested)
    fun _ => rfl

theorem linesAt_draft (function : ReactionFunction) :
    Draft.linesAt 0 function.draft =
      Draft.placeText 0 (functionOpening function.name) ++
        Draft.linesAt 1 function.inner ++ ["\x7d"] := by
  have closing : Draft.linesAt 0 [.write "\x7d"] = ["\x7d"] := by decide
  have opening : Draft.linesAt 0 [.write (functionOpening function.name)] =
      Draft.placeText 0 (functionOpening function.name) := List.append_nil _
  have opens : Draft.Balanced [.write (functionOpening function.name)] := fun _ => rfl
  rw [draft_eq, List.append_assoc, opens.linesAt_append,
    function.balanced_inner.nested.linesAt_append, Draft.linesAt_nested, closing, opening,
    List.append_assoc]

/-- The lines of a function define it and nothing else. -/
theorem defines (function : ReactionFunction) :
    DefinesFunctions [function.name] (Draft.linesAt 0 function.draft) := by
  rw [linesAt_draft]
  exact .define (fun line member => function.balanced_inner.inside_of_mem_linesAt member)
    .nil

end ReactionFunction

namespace ReactionCode

/-- The lines of the functions of a reaction. -/
def lines (code : ReactionCode) : List String :=
  code.functions.flatMap fun function => Draft.linesAt 0 function.draft

theorem text_eq (code : ReactionCode) : code.text = Draft.closeLines code.lines := by
  rw [text, Draft.text, Draft.linesAt_flatMap ReactionFunction.balanced_draft]
  rfl

/-- The text of a reaction defines its functions in their order. -/
theorem defines (code : ReactionCode) :
    DefinesFunctions (code.functions.map (·.name)) code.lines := by
  rw [List.map_eq_flatMap]
  exact definesFunctions_flatMap fun function _ => function.defines

/-- The text of a reaction is made up of the texts of its functions. -/
theorem text_eq_join (code : ReactionCode) :
    code.text = String.join (code.functions.map fun function =>
      Draft.text function.draft) := by
  rw [text_eq, lines, Draft.closeLines_flatMap]
  rfl

/-- The text of a reaction is that of what runs and that of what runs when it is late. -/
theorem text_eq_append (code : ReactionCode) :
    code.text = Draft.text code.reaction.draft ++
      (code.deadline.map fun function => Draft.text function.draft).getD "" := by
  rw [text_eq_join, functions, List.map_cons, String.join_cons]
  cases code.deadline with
  | none => rfl
  | some function =>
    rw [Option.toList_some, List.map_singleton, String.join_cons, String.join_nil,
      String.append_empty]
    rfl

end ReactionCode

/-! ## Calls -/

/-- The expression that builds arguments: a format with one letter for each of them, and
then the arguments. -/
def argumentsText (arguments : List String) : String :=
  "Py_BuildValue(\"(" ++ String.ofList (List.replicate arguments.length 'O') ++ ")\"" ++
    String.join (arguments.map (", " ++ ·)) ++ ")"

theorem MethodCall.format_eq (call : MethodCall) :
    call.format = String.ofList (List.replicate call.arguments.length 'O') :=
  congrArg String.ofList (List.map_const' ..)

theorem MethodCall.argumentTuple_eq (call : MethodCall) :
    call.argumentTuple = argumentsText (call.arguments.map Argument.text) := by
  have opening : "Py_BuildValue(\"(" = "Py_BuildValue(" ++ "\"(" := by decide
  unfold argumentTuple argumentsText
  rw [List.length_map, ← call.format_eq, opening]
  cases call.arguments with
  | nil =>
    simp only [List.isEmpty_nil, if_true, List.map_nil, String.join_nil,
      String.append_empty, String.append_assoc]
  | cons first rest =>
    simp only [List.isEmpty_cons, Bool.false_eq_true, if_false, List.map_cons,
      intercalate_cons_eq, String.join_cons, String.append_assoc]

/-- The text of a call inside a function: the member of the self struct that holds the
method, and then the arguments. -/
def callText (callable : String) (arguments : List String) : String :=
  Draft.onLines 1 "PyObject *rValue = PyObject_CallObject(" ++
    Draft.onLines 2 ("self->" ++ callable ++ ",") ++
    Draft.onLines 2 (argumentsText arguments) ++
    Draft.onLines 1 ");"

theorem MethodCall.inOrder_draft (call : MethodCall) :
    InOrder [callText call.callable (call.arguments.map Argument.text)]
      (Draft.closeLines (Draft.linesAt 1 call.draft)) := by
  let before : Draft := [
    .write "PyGILState_STATE gstate;",
    .write "gstate = PyGILState_Ensure();",
    .write ("DEBUG_PRINT(\"Calling " ++ call.label ++ "\");")]
  let handed : Draft :=
    [.write ("self->" ++ call.callable ++ ","), .write call.argumentTuple]
  let calls : Draft :=
    [.write "PyObject *rValue = PyObject_CallObject("] ++ Draft.nested handed ++ [.write ");"]
  obtain ⟨after, draft_eq⟩ : ∃ after, call.draft = before ++ (calls ++ after) := ⟨_, rfl⟩
  have opens : before.Balanced := fun _ => rfl
  have closes : calls.Balanced := fun _ => rfl
  have calls_eq : Draft.closeLines (Draft.linesAt 1 calls) =
      callText call.callable (call.arguments.map Argument.text) := by
    simp only [calls, handed, Draft.nested, List.cons_append, List.nil_append, Draft.linesAt_cons,
      Draft.linesAt_nil, Draft.stepLines, Draft.stepLevel, Draft.closeLines_append,
      List.append_nil, callText, Draft.onLines_eq, call.argumentTuple_eq, String.append_assoc]
  rw [draft_eq, opens.linesAt_append, closes.linesAt_append, Draft.closeLines_append,
    Draft.closeLines_append, calls_eq]
  exact ((inOrder_singleton _).append_right _).append_left _

/-- In the text of a function that calls a method, the opening of the function is followed
by the local variables and the call. -/
theorem ReactionFunction.inOrder_draft
    {function : ReactionFunction}
    {call : MethodCall}
    (body_eq : function.body = .call call) :
    InOrder (Draft.onLines 0 (functionOpening function.name) ::
        function.locals.map (fun declared => Draft.onLines 1 declared.declaration) ++
        [callText call.callable (call.arguments.map Argument.text)])
      (Draft.text function.draft) := by
  have reaches : Draft.Balanced [.write function.selfDeclaration] := fun _ => rfl
  have declares := Draft.balanced_writes (function.locals.map Local.declaration)
  have locals := inOrder_join ((function.locals.map Local.declaration).map (Draft.onLines 1))
  rw [Draft.text, linesAt_draft, inner, List.append_assoc [DraftStep.write _],
    reaches.linesAt_append, declares.linesAt_append, Draft.linesAt_writes, body_eq,
    Draft.closeLines_append, Draft.closeLines_append, Draft.closeLines_append,
    Draft.closeLines_append, Draft.closeLines_placeTexts, ← Draft.onLines_eq]
  rw [List.map_map] at locals ⊢
  have inside := (locals.append call.inOrder_draft).append_left
    (Draft.closeLines (Draft.linesAt 1 [.write function.selfDeclaration]))
  exact ((inOrder_singleton _).append inside).append_right _

/-- A function that calls a method names the member that holds the method. -/
theorem ReactionFunction.inOrder_call
    {function : ReactionFunction}
    {call : MethodCall}
    (body_eq : function.body = .call call) :
    InOrder [Draft.onLines 0 (functionOpening function.name),
        callText call.callable (call.arguments.map Argument.text)]
      (Draft.text function.draft) :=
  (inOrder_draft body_eq).sublist ((List.sublist_append_right ..).cons_cons _)

end ReactorGen
