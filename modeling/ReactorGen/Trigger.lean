import ReactorGen.Fault
import ReactorGen.Naming
import ReactorGen.Token

/-!
# Triggers

What the runtime has to know about every action and every timer: when it first
fires, how far events are apart, and which mode it belongs to.  Triggers are
listed in the order of their declaration, the actions of an instance before its
timers.
-/

namespace ReactorGen

/-- How far the events of a trigger are apart. -/
inductive Period
  | spacing (time : TimeValue)
  | undefined
deriving DecidableEq, Repr

/-- The period as an expression of the native runtime. -/
def Period.expression : Period -> String
  | spacing time => time.expression
  | undefined => "-1"

/-- The mode that a trigger belongs to. -/
inductive ModeBinding
  /-- A mode, by its position among the modes of the reactor that the variable
  `owner` holds. -/
  | mode (owner : String) (index : Nat)
  | unbound
deriving DecidableEq, Repr

/-- The mode as an expression of the native runtime. -/
def ModeBinding.expression : ModeBinding -> String
  | mode owner index => "&" ++ owner ++ "->_lf__modes[" ++ toString index ++ "]"
  | unbound => "NULL"

/-- What a trigger is. -/
inductive TriggerKind
  | action
  | timer
deriving DecidableEq, Repr

/-- The spelling of a kind of trigger. -/
def TriggerKind.name : TriggerKind -> String
  | action => "action"
  | timer => "timer"

/-- What the runtime has to know about an action or a timer. -/
structure TriggerMetadata where
  kind : TriggerKind
  name : String
  /-- The path from the main reactor. -/
  fullName : String
  /-- The trigger inside the self struct of its instance. -/
  trigger : String
  /-- When the trigger first fires. -/
  offset : TimeValue
  period : Period
  mode : ModeBinding
  /-- Whether the payload travels in a token. -/
  isToken : Bool
deriving DecidableEq, Repr

/-- A comment and the assignments of offset, period and mode. -/
def TriggerMetadata.initializer (metadata : TriggerMetadata) : List String := [
  "// Initializing " ++ metadata.kind.name ++ " " ++ metadata.fullName,
  metadata.trigger ++ ".offset = " ++ metadata.offset.expression ++ ";",
  metadata.trigger ++ ".period = " ++ metadata.period.expression ++ ";",
  metadata.trigger ++ ".mode = " ++ metadata.mode.expression ++ ";"
]

namespace Program

/-- The binding of a trigger to a mode; the mode has to stand among the modes of
its owner. -/
def bindMode
    (program : Program)
    (mode : Option ModeId)
    (trigger : String)
    (span : Option Span) : Except Failure ModeBinding :=
  match mode with
  | none => return .unbound
  | some id =>
    match program.tree.modeIndex? id with
    | none => .error (.fault (.unresolvedMode trigger span))
    | some index => do
      let found ← program.tree.mode id
      let owner ← Naming.selfVariable program.tree found.owner
      return .mode owner index

/-- The actions of an instance that belong to a federate, apart from the end of
execution. -/
def federateActions
    (program : Program)
    (federate : Federate)
    (id : InstanceId) : Except DanglingReference (List ActionInstance) := do
  let node ← program.tree.node id
  (node.actions.filter fun action => !action.isShutdown).filterM fun action =>
    federate.containsAction program.tree id action.name

/-- The timers of an instance that belong to a federate. -/
def federateTimers
    (program : Program)
    (federate : Federate)
    (id : InstanceId) : Except DanglingReference (List TimerInstance) := do
  if ← federate.containsInstance program.tree id then
    let node ← program.tree.node id
    return node.timers
  else return []

/-- What the runtime has to know about an action. -/
def lowerAction
    (program : Program)
    (owner path : String)
    (action : ActionInstance) : Except Failure TriggerMetadata := do
  let fullName := path ++ "." ++ action.name
  let mode ← program.bindMode action.mode fullName action.span
  return {
    kind := .action
    name := action.name
    fullName := fullName
    trigger := Naming.trigger owner action.name
    offset := action.minDelay
    period := (action.minSpacing.map Period.spacing).getD .undefined
    mode := mode
    isToken := action.isToken
  }

/-- What the runtime has to know about a timer.  A timer without period fires
once. -/
def lowerTimer
    (program : Program)
    (owner path : String)
    (timer : TimerInstance) : Except Failure TriggerMetadata := do
  let fullName := path ++ "." ++ timer.name
  let mode ← program.bindMode timer.mode fullName none
  return {
    kind := .timer
    name := timer.name
    fullName := fullName
    trigger := Naming.trigger owner timer.name
    offset := timer.offset
    period := .spacing (timer.period.getD .zero)
    mode := mode
    isToken := false
  }

/-- What the runtime has to know about the actions of an instance that belong to
a federate. -/
def lowerActions
    (program : Program)
    (federate : Federate)
    (id : InstanceId) : Except Failure (List TriggerMetadata) := do
  let owner ← Naming.selfVariable program.tree id
  let path ← program.tree.fullName id
  let actions ← program.federateActions federate id
  actions.mapM (program.lowerAction owner path)

/-- What the runtime has to know about the timers of an instance that belong to a
federate. -/
def lowerTimers
    (program : Program)
    (federate : Federate)
    (id : InstanceId) : Except Failure (List TriggerMetadata) := do
  let owner ← Naming.selfVariable program.tree id
  let path ← program.tree.fullName id
  let timers ← program.federateTimers federate id
  timers.mapM (program.lowerTimer owner path)

/-- Enter the token of an action into the table, with the statements that make
it, unless it is in the table already. -/
def initializeToken
    (owner : String)
    (made : List TokenInitializer × TokenTable)
    (action : ActionInstance) : List TokenInitializer × TokenTable :=
  let trigger := Naming.trigger owner action.name
  if made.2.isNew trigger then
    (made.1 ++ [⟨trigger, action.payloadSize⟩], made.2.register trigger)
  else made

/-- The statements that make the tokens of an instance, with the table that then
holds these tokens, too. -/
def initializeTokens
    (program : Program)
    (federate : Federate)
    (table : TokenTable)
    (id : InstanceId) :
    Except DanglingReference (List TokenInitializer × TokenTable) := do
  let owner ← Naming.selfVariable program.tree id
  let actions ← program.federateActions federate id
  return (actions.filter (·.isToken)).foldl (initializeToken owner) ([], table)

end Program
end ReactorGen
