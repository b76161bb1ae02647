import ReactorGen.Layout.SelfStruct
import ReactorGen.Text.Lines

/-!
# Delayed connections

The reactions of a class that implements a delayed connection are native.  One
schedules an action with the value of an input, the other forwards the payload
of that action to an output.
-/

namespace ReactorGen

/-- The body that schedules an action with the value of a port. -/
def delayBody (action port : String) (isToken : Bool) : String :=
  Text.joinLines <|
    if isToken then [
      "if (" ++ port ++ "->is_present) \x7b",
      "    // Put the whole token on the event queue, not just the payload.",
      "    // This way, the length and element_size are transported.",
      "    schedule_token(" ++ action ++ ", 0, " ++ port ++ "->token);",
      "\x7d"
    ]
    else [
      "// Create a token.",
      "#if NUMBER_OF_WORKERS > 0",
      "// Need to lock the mutex first.",
      "lf_mutex_lock(&mutex);",
      "#endif",
      "lf_token_t* t = create_token(sizeof(PyObject*));",
      "#if NUMBER_OF_WORKERS > 0",
      "lf_mutex_unlock(&mutex);",
      "#endif",
      "t->value = " ++ port ++ "->value;",
      "t->length = 1; // Length is 1",
      "",
      "// Pass the token along",
      "schedule_token(" ++ action ++ ", 0, t);"
    ]

/-- The body that writes the payload of an action to a port. -/
def forwardBody (action port : String) (isToken : Bool) : String :=
  if isToken then "SET_TOKEN(" ++ port ++ ", " ++ action ++ "->token);"
  else "SET(" ++ port ++ ", " ++ action ++ "->token->value);"

namespace SelfStruct

/-- Whether a variable is bound as the given kind. -/
def bindsAs (layout : SelfStruct) (kind : BindingKind) (ref : VarRef) : Bool :=
  (layout.binding? ref).any fun binding => binding.kind = kind

/-- The first trigger of a reaction that is bound as the given kind. -/
def firstTrigger?
    (layout : SelfStruct)
    (reaction : Reaction)
    (kind : BindingKind) : Option VarRef :=
  (reaction.triggers.filterMap TriggerRef.var?).find? (layout.bindsAs kind)

/-- The first effect of a reaction that is bound as the given kind. -/
def firstEffect?
    (layout : SelfStruct)
    (reaction : Reaction)
    (kind : BindingKind) : Option VarRef :=
  reaction.effects.find? (layout.bindsAs kind)

end SelfStruct

namespace ReactorClass

/-- Whether the action that a variable names carries tokens. -/
def actionCarriesToken (reactorClass : ReactorClass) (ref : VarRef) : Bool :=
  (reactorClass.action? ref.name).any ActionDecl.isToken

/-- The body of a reaction of a class that implements a delayed connection.  An
action that triggers an output forwards, and an input that triggers an action
delays; any other reaction keeps the body it has. -/
def delayedConnectionBody
    (reactorClass : ReactorClass)
    (layout : SelfStruct)
    (reaction : Reaction) : String :=
  match layout.firstTrigger? reaction .action, layout.firstEffect? reaction .output with
  | some action, some port =>
    forwardBody action.flat port.flat (reactorClass.actionCarriesToken action)
  | _, _ =>
    match layout.firstTrigger? reaction .input, layout.firstEffect? reaction .action with
    | some port, some action =>
      delayBody action.flat port.flat (reactorClass.actionCarriesToken action)
    | _, _ => reaction.body

end ReactorClass
end ReactorGen
