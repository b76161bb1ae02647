import ReactorGen.Draft
import ReactorGen.Fault
import ReactorGen.Layout.SelfStruct

/-!
# Functions of reactions

The native runtime calls one function for each reaction and one for each missed
deadline.  Both start by reaching the variables of the reaction through the self
struct.  What follows is native code or a call of a method of the interpreter.
-/

namespace ReactorGen

/-- A call of a method that the interpreter runs. -/
structure MethodCall where
  /-- The member of the self struct that holds the method. -/
  callable : String
  /-- What is called, as messages put it. -/
  label : String
  /-- The arguments of the method. -/
  arguments : List Argument
deriving DecidableEq, Repr

namespace MethodCall

/-- The format of the arguments: one letter for each, since all are objects. -/
def format (call : MethodCall) : String :=
  String.ofList (call.arguments.map fun _ => 'O')

/-- The expression that builds the arguments. -/
def argumentTuple (call : MethodCall) : String :=
  let format := "\"(" ++ call.format ++ ")\""
  if call.arguments.isEmpty then "Py_BuildValue(" ++ format ++ ")"
  else
    "Py_BuildValue(" ++ format ++ ", " ++
      ", ".intercalate (call.arguments.map Argument.text) ++ ")"

/-- What lets other threads use the interpreter again. -/
def release : Draft := [
  .write "/* Release the thread. No Python API allowed beyond this point. */",
  .write "PyGILState_Release(gstate);"
]

/-- The call, which ends the program if the method raises. -/
def draft (call : MethodCall) : Draft :=
  [
    .write "PyGILState_STATE gstate;",
    .write "gstate = PyGILState_Ensure();",
    .write ("DEBUG_PRINT(\"Calling " ++ call.label ++ "\");"),
    .write "PyObject *rValue = PyObject_CallObject("
  ] ++
  Draft.nested [
    .write ("self->" ++ call.callable ++ ","),
    .write call.argumentTuple
  ] ++
  [
    .write ");",
    .write "if (rValue == NULL) \x7b"
  ] ++
  Draft.nested (
    [
      .write ("error_print(\"FATAL: Calling " ++ call.label ++ " failed.\");"),
      .write "if (PyErr_Occurred()) \x7b"
    ] ++
    Draft.nested [
      .write "PyErr_PrintEx(0);",
      .write "PyErr_Clear();"
    ] ++
    .write "\x7d" :: release ++
    [
      .write "Py_FinalizeEx();",
      .write "exit(1);"
    ]) ++
  .write "\x7d" :: release

end MethodCall

/-- What a function of a reaction does after it has reached its variables. -/
inductive FunctionBody
  | native (source : String)
  | call (called : MethodCall)
deriving DecidableEq, Repr

/-- The draft of a body. -/
def FunctionBody.draft : FunctionBody -> Draft
  | native source => [.write source]
  | call called => called.draft

/-- A function that the native runtime calls. -/
structure ReactionFunction where
  name : String
  /-- The type of the self struct. -/
  selfType : String
  /-- The variables of the reaction. -/
  locals : List Local
  body : FunctionBody
deriving DecidableEq, Repr

/-- The definition of a function. -/
def ReactionFunction.draft (function : ReactionFunction) : Draft :=
  .write ("void " ++ function.name ++ "(void* instance_args) \x7b") ::
  Draft.nested (
    .write (function.selfType ++ "* self = (" ++ function.selfType ++
      "*)instance_args;") ::
    function.locals.map (fun declared => .write declared.declaration) ++
    function.body.draft) ++
  [.write "\x7d"]

/-- The functions of one reaction. -/
structure ReactionCode where
  reaction : ReactionFunction
  /-- What runs when the deadline is missed, if there is a deadline. -/
  deadline : Option ReactionFunction
deriving DecidableEq, Repr

namespace ReactionCode

/-- The functions of a reaction in the order of their definition. -/
def functions (code : ReactionCode) : List ReactionFunction :=
  code.reaction :: code.deadline.toList

/-- The definitions as one text. -/
def text (code : ReactionCode) : String :=
  Draft.text (code.functions.flatMap ReactionFunction.draft)

end ReactionCode

/-- The bindings of the variables of a reaction.  A variable that the self struct
does not hold is a fault of the reaction, or of its class if nobody knows where
the reaction stands. -/
def SelfStruct.resolve
    (layout : SelfStruct)
    (reactorClass : ReactorClass)
    (index : Nat)
    (reaction : Reaction) : Except Fault (List Binding) :=
  reaction.variables.mapM fun ref =>
    match layout.binding? ref with
    | some binding => .ok binding
    | none =>
      .error (.unresolvedField layout.className index ref.dotted
        (reaction.span <|> reactorClass.span))

end ReactorGen
