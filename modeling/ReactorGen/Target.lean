import ReactorGen.Target.ReservedWords
import ReactorGen.Text.Name

/-!
# Targets

A target is the language that a program is generated for.
-/

namespace ReactorGen

/-- A language to generate code for. -/
inductive Target
  | c
  | ccpp
  | cpp
  | typeScript
  | python
deriving DecidableEq, Repr

namespace Target

/-- Every target in the order of declaration. -/
def all : List Target := [c, ccpp, cpp, typeScript, python]

/-- The name of a target in a target declaration. -/
def name : Target -> String
  | c => "C"
  | ccpp => "CCpp"
  | cpp => "Cpp"
  | typeScript => "TypeScript"
  | python => "Python"

/-- The target with the given name in any letter case. -/
def ofName? (targetName : String) : Option Target :=
  Text.lookupNamed name targetName all

/-- Whether programs for the target have to give types to ports, actions and
parameters. -/
def requiresTypes : Target -> Bool
  | typeScript => false
  | python => false
  | _ => true

/-- Whether this library generates code for the target. -/
def isGenerated : Target -> Bool
  | python => true
  | c => true
  | ccpp => true
  | _ => false

/-- The words that are not identifiers in the target. -/
def reservedWords : Target -> List String
  | c => ReservedWords.c
  | ccpp => ReservedWords.c
  | cpp => ReservedWords.cpp
  | typeScript => ReservedWords.typeScript
  | python => ReservedWords.python

/-- Whether a word is no identifier in the target. -/
def isReserved (target : Target) (word : String) : Bool :=
  target.reservedWords.contains word

/-- A name as an identifier of the target: reserved words get an underscore. -/
def sanitize (target : Target) (identifier : String) : String :=
  if target.isReserved identifier then identifier ++ "_" else identifier

theorem mem_all (target : Target) : target ∈ all := by
  cases target <;> simp [all]

end Target
end ReactorGen
