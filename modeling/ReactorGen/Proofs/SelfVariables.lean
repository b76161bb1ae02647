import Mathlib.Data.List.Forall2
import ReactorGen.Naming
import ReactorGen.Proofs.Results

/-!
# Self variables

The self variable of an instance is named after the path of the instance: the names
on the path, joined by underscores.  Neither the position inside a bank nor the
place where one name ends and the next begins is kept, so instances collide exactly
when their names are joined alike.
-/

namespace ReactorGen

/-- The names on the path from the main reactor to an instance. -/
def ReactorTree.pathNames (tree : ReactorTree) (id : InstanceId) :
    Except DanglingReference (List String) := do
  let ancestry ← tree.ancestry id
  return ancestry.reverse.map fun entry => entry.2.name

namespace Naming

/-- Names as one identifier. -/
def joined (names : List String) : String :=
  "_".intercalate (names.map Text.underscored)

theorem underscored_append (left right : String) :
    Text.underscored (left ++ right) = Text.underscored left ++ Text.underscored right := by
  unfold Text.underscored
  rw [String.toList_append, List.map_append, String.ofList_append]

theorem underscored_intercalate (names : List String) :
    Text.underscored (".".intercalate names) = joined names := by
  unfold joined
  induction names with
  | nil => rfl
  | cons name rest inductionHypothesis =>
    cases rest with
    | nil => rw [String.intercalate_singleton, List.map_singleton, String.intercalate_singleton]
    | cons next rest =>
      rw [String.intercalate_cons_cons, underscored_append, underscored_append,
        inductionHypothesis]
      simp only [List.map_cons, String.intercalate_cons_cons]
      rfl

theorem selfVariable_eq_ok
    {tree : ReactorTree}
    {id : InstanceId}
    {variableName : String} :
    selfVariable tree id = .ok variableName ↔
      ∃ names, tree.pathNames id = .ok names ∧ joined names ++ "_self" = variableName := by
  simp only [selfVariable, flatPath, ReactorTree.fullName, ReactorTree.pathNames,
    Result.bind_eq_ok, Result.pure_eq_ok]
  constructor
  · rintro ⟨_, ⟨_, ⟨ancestry, ancestry_eq, rfl⟩, rfl⟩, rfl⟩
    refine ⟨_, ⟨ancestry, ancestry_eq, rfl⟩, ?_⟩
    rw [underscored_intercalate]
  · rintro ⟨_, ⟨ancestry, ancestry_eq, rfl⟩, rfl⟩
    refine ⟨_, ⟨_, ⟨ancestry, ancestry_eq, rfl⟩, rfl⟩, ?_⟩
    rw [underscored_intercalate]

end Naming

namespace ReactorTree

/-- Two instances whose names are joined alike. -/
def Collide (tree : ReactorTree) (first second : InstanceId) : Prop :=
  ∃ firstNames secondNames,
    tree.pathNames first = .ok firstNames ∧
      tree.pathNames second = .ok secondNames ∧
      Naming.joined firstNames = Naming.joined secondNames

theorem collide_iff
    {tree : ReactorTree}
    {first second : InstanceId}
    {firstVariable secondVariable : String}
    (first_eq : Naming.selfVariable tree first = .ok firstVariable)
    (second_eq : Naming.selfVariable tree second = .ok secondVariable) :
    tree.Collide first second ↔ firstVariable = secondVariable := by
  obtain ⟨firstNames, firstPath, rfl⟩ := Naming.selfVariable_eq_ok.mp first_eq
  obtain ⟨secondNames, secondPath, rfl⟩ := Naming.selfVariable_eq_ok.mp second_eq
  rw [String.append_left_inj]
  constructor
  · rintro ⟨_, _, firstAgain, secondAgain, alike⟩
    rw [firstPath, Except.ok.injEq] at firstAgain
    rw [secondPath, Except.ok.injEq] at secondAgain
    rw [firstAgain, secondAgain, alike]
  · intro alike
    exact ⟨firstNames, secondNames, firstPath, secondPath, alike⟩

end ReactorTree
end ReactorGen
