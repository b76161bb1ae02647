/-!
# References

The entries of a program refer to each other by position in a table.  A
reference may point beyond its table; looking it up then fails with a
`DanglingReference`, which says what was missing.
-/

namespace ReactorGen

/-- The position of a reactor class in the program. -/
structure ClassId where
  index : Nat
deriving DecidableEq, Repr

/-- The position of a reactor instance in the tree. -/
structure InstanceId where
  index : Nat
deriving DecidableEq, Repr

/-- The position of a mode in the tree. -/
structure ModeId where
  index : Nat
deriving DecidableEq, Repr

/-- The number of a federate. -/
structure FederateId where
  index : Nat
deriving DecidableEq, Repr

/-- A reference to an entry that does not exist. -/
inductive DanglingReference
  /-- No such instance. -/
  | reactor (id : InstanceId)
  /-- No such class. -/
  | reactorClass (id : ClassId)
  /-- No such mode. -/
  | mode (id : ModeId)
  /-- No such federate. -/
  | federate (id : FederateId)
  /-- The class has no such reaction. -/
  | reaction (index : Nat)
  /-- The instance is reached from itself, so its path has no end. -/
  | cycle (id : InstanceId)
  /-- A bank has more places than there are numbers of 64 bits. -/
  | place
deriving DecidableEq, Repr

/-- Look a value up, or fail with the reference that has no value. -/
def orDangling
    (reference : DanglingReference)
    (value? : Option α) : Except DanglingReference α :=
  match value? with
  | some value => .ok value
  | none => .error reference

@[simp] theorem orDangling_some (reference : DanglingReference) (value : α) :
    orDangling reference (some value) = .ok value := rfl

@[simp] theorem orDangling_none (reference : DanglingReference) :
    orDangling (α := α) reference none = .error reference := rfl

end ReactorGen
