/-!
# Names that ignore letter case

Targets, properties, option words and units are looked up by name with the case
of the letters A to Z ignored.  A table is searched in its own order, so the
entry declared first wins.
-/

namespace ReactorGen
namespace Text

/-- Whether two texts are equal but for the case of the letters A to Z. -/
def sameName (left right : String) : Bool :=
  left.toList.map Char.toLower == right.toList.map Char.toLower

/-- The first candidate called `name`. -/
def lookupNamed
    (nameOf : α -> String)
    (name : String)
    (candidates : List α) : Option α :=
  candidates.find? fun candidate => sameName (nameOf candidate) name

/-- The position of the first candidate called `name`. -/
def positionNamed
    (nameOf : α -> String)
    (name : String)
    (candidates : List α) : Option Nat :=
  candidates.findIdx? fun candidate => sameName (nameOf candidate) name

@[simp] theorem sameName_self (name : String) : sameName name name = true := by
  simp [sameName]

theorem sameName_comm (left right : String) :
    sameName left right = sameName right left := by
  simp [sameName, Bool.beq_comm]

theorem sameName_congr
    {left right : String}
    (same : sameName left right = true)
    (other : String) :
    sameName other left = sameName other right := by
  have equal : left.toList.map Char.toLower = right.toList.map Char.toLower := by
    simpa [sameName] using same
  rw [sameName, sameName, equal]

@[simp] theorem lookupNamed_nil (nameOf : α -> String) (name : String) :
    lookupNamed nameOf name [] = none := rfl

/-- Among candidates that are found by their own names, whichever has a name in some
letter case is the one that is found by it. -/
theorem lookupNamed_eq_some
    {nameOf : α -> String}
    {candidates : List α}
    {candidate : α}
    {name : String}
    (distinct : lookupNamed nameOf (nameOf candidate) candidates = some candidate)
    (same : sameName (nameOf candidate) name = true) :
    lookupNamed nameOf name candidates = some candidate := by
  rw [lookupNamed, ← distinct, lookupNamed]
  congr 1
  funext other
  exact (sameName_congr same _).symm

end Text
end ReactorGen
