import ReactorGen.Span
import ReactorGen.Time

/-!
# Reactions

A reaction is triggered by events, may read sources and write effects, and has a
body in the language it is written in.  The variables of a reaction are the
ports and actions it can touch.
-/

namespace ReactorGen

/-- A reference to a port or action, possibly of a contained reactor. -/
structure VarRef where
  /-- The contained reactor, if the variable belongs to one. -/
  container : Option String
  /-- The name of the port or action. -/
  name : String
deriving DecidableEq, Repr

namespace VarRef

/-- The variable `name` of the reactor itself. -/
def own (name : String) : VarRef := ⟨none, name⟩

/-- The spelling in the program: `out` or `c.out`. -/
def dotted (ref : VarRef) : String :=
  match ref.container with
  | some container => container ++ "." ++ ref.name
  | none => ref.name

/-- The spelling as one identifier: `out` or `c_out`. -/
def flat (ref : VarRef) : String :=
  match ref.container with
  | some container => container ++ "_" ++ ref.name
  | none => ref.name

end VarRef

/-- What triggers a reaction. -/
inductive TriggerRef
  | startup
  | shutdown
  | var (ref : VarRef)
deriving DecidableEq, Repr

/-- The variable that triggers, unless the start or the end of execution does. -/
def TriggerRef.var? : TriggerRef -> Option VarRef
  | .var ref => some ref
  | _ => none

/-- How late a reaction may run, and what runs instead when it is later. -/
structure Deadline where
  delay : TimeValue
  body : String
deriving DecidableEq, Repr

/-- A reaction of a reactor class. -/
structure Reaction where
  triggers : List TriggerRef
  sources : List VarRef
  effects : List VarRef
  /-- The body as it is written. -/
  body : String
  deadline : Option Deadline
  span : Option Span
deriving DecidableEq, Repr

/-- Every variable of a reaction once, in the order in which triggers, sources
and effects first name it. -/
def Reaction.variables (reaction : Reaction) : List VarRef :=
  (reaction.triggers.filterMap TriggerRef.var? ++
    reaction.sources ++ reaction.effects).eraseDups

end ReactorGen
