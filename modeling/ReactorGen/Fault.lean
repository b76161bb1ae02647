import ReactorGen.Diagnostic
import ReactorGen.Model.Program
import ReactorGen.Report

/-!
# Faults

What stops the generation of code for a federate.  A fault is about the program
and is reported; a dangling reference means that the program was not put
together properly, and nothing can be said about it.
-/

namespace ReactorGen

/-- A structural fault of a program. -/
inductive Fault
  /-- A reaction names a variable that the self struct of its class does not
  hold. -/
  | unresolvedField
    (className : String)
    (reaction : Nat)
    (field : String)
    (span : Option Span)
  /-- A connection needs a serializer that is not available. -/
  | missingSerializer (serializer : Serializer) (sender receiver : String)
  /-- A trigger is bound to a mode that its owner does not list. -/
  | unresolvedMode (trigger : String) (span : Option Span)
  /-- An instance has a class that does not exist. -/
  | unknownReactorClass (reactor : String)
  /-- Something that should not happen did. -/
  | internal (text : String)
deriving DecidableEq, Repr

namespace Fault

/-- The code of a fault. -/
def code : Fault -> Code
  | unresolvedField .. => .unresolvedStructField
  | missingSerializer .. => .missingSerializer
  | unresolvedMode .. => .unresolvedMode
  | unknownReactorClass _ => .unknownReactorClass
  | internal _ => .internal

/-- The class, connection, trigger or instance that a fault is about. -/
def subject : Fault -> String
  | unresolvedField className _ _ _ => className
  | missingSerializer _ sender receiver => sender ++ " -> " ++ receiver
  | unresolvedMode trigger _ => trigger
  | unknownReactorClass reactor => reactor
  | internal _ => ""

/-- Where the subject of a fault stands. -/
def span? : Fault -> Option Span
  | unresolvedField _ _ _ span => span
  | unresolvedMode _ span => span
  | _ => none

/-- The wording of a fault. -/
def message : Fault -> String
  | unresolvedField className reaction field _ =>
    "reaction " ++ toString reaction ++ " of reactor '" ++ className ++
      "' refers to '" ++ field ++ "', which has no field in the self struct"
  | missingSerializer serializer sender receiver =>
    "no " ++ serializer.name ++ " serializer is available for the connection from '" ++
      sender ++ "' to '" ++ receiver ++ "'"
  | unresolvedMode trigger _ =>
    "action '" ++ trigger ++ "' is bound to a mode its reactor does not declare"
  | unknownReactorClass reactor =>
    "instance '" ++ reactor ++ "' refers to an unknown reactor class"
  | internal text => "internal codegen error: " ++ text

/-- The fault as an error. -/
def diagnostic (fault : Fault) : Diagnostic :=
  { Diagnostic.error fault.code fault.subject fault.message with span := fault.span? }

@[simp] theorem isError_diagnostic (fault : Fault) :
    fault.diagnostic.isError = true := rfl

end Fault

/-- Why generation gives no code. -/
inductive Failure
  | fault (fault : Fault)
  | dangling (reference : DanglingReference)
deriving DecidableEq, Repr

/-- A dangling reference is a failure. -/
instance : MonadLift (Except DanglingReference) (Except Failure) where
  monadLift
    | .ok value => .ok value
    | .error reference => .error (.dangling reference)

/-- Generation that may fail and that reports what happens on the way. -/
abbrev Generation := ExceptT Failure Report

namespace Generation

/-- A result that needs no report. -/
def ofExcept (result : Except Failure α) : Generation α :=
  ExceptT.mk (pure result)

instance : MonadLift (Except Failure) Generation where
  monadLift := ofExcept

/-- Report an event. -/
def event (event : Event) : Generation Unit :=
  ExceptT.lift (Report.event event)

/-- Report a line of the log. -/
def log (level : LogLevel) (text : String) : Generation Unit :=
  event (.message level text)

/-- A result with the warnings that its events leave. -/
def withWarnings (generation : Generation α) : Generation (α × List Diagnostic) :=
  ExceptT.mk
    ⟨generation.run.events,
      generation.run.result.map fun result =>
        (result, generation.run.events.filterMap Event.warning?)⟩

end Generation
end ReactorGen
