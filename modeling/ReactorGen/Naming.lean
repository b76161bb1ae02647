import ReactorGen.Model.Tree
import ReactorGen.Text.Lowercase
import ReactorGen.Text.Pattern

/-!
# Names in generated code

How the generated code spells what the program names.  Names in the native code
start with the lowercase name of the reactor class; what belongs to an instance
starts with the path of that instance.
-/

namespace ReactorGen
namespace Naming

/-- The type of a port or an action of a class. -/
def aliasType (className name : String) : String :=
  Text.lowercase className ++ "_" ++ name ++ "_t"

/-- The type of the self struct of a class. -/
def selfType (className : String) : String :=
  Text.lowercase className ++ "_self_t"

/-- The function that makes a self struct. -/
def constructor (className : String) : String :=
  "new_" ++ Text.lowercase className

/-- The native function of a reaction. -/
def reactionFunction (className : String) (index : Nat) : String :=
  "_" ++ Text.lowercase className ++ "reaction_function_" ++ toString index

/-- The native function that runs when a deadline is missed. -/
def deadlineFunction (className : String) (index : Nat) : String :=
  "_" ++ Text.lowercase className ++ "_deadline_function" ++ toString index

/-- The method of a reaction. -/
def reactionMethod (index : Nat) : String :=
  "reaction_function_" ++ toString index

/-- The method that runs when a deadline is missed. -/
def deadlineMethod (index : Nat) : String :=
  "deadline_function_" ++ toString index

/-- The member of the self struct that holds the method of a reaction. -/
def reactionCallable (index : Nat) : String :=
  "_lf_py_" ++ reactionMethod index

/-- The member of the self struct that holds the method of a deadline. -/
def deadlineCallable (index : Nat) : String :=
  "_lf_py_" ++ deadlineMethod index

/-- The path of an instance as one identifier. -/
def flatPath (tree : ReactorTree) (id : InstanceId) :
    Except DanglingReference String := do
  let path ← tree.fullName id
  return Text.underscored path

/-- The variable that holds the self struct of an instance. -/
def selfVariable (tree : ReactorTree) (id : InstanceId) :
    Except DanglingReference String := do
  let path ← flatPath tree id
  return path ++ "_self"

/-- The list that holds the members of the bank of an instance. -/
def instanceList (tree : ReactorTree) (id : InstanceId) :
    Except DanglingReference String := do
  let path ← flatPath tree id
  return path ++ "_lf"

/-- The trigger called `name` in the self struct that a variable holds. -/
def trigger (selfVariable name : String) : String :=
  selfVariable ++ "->_lf__" ++ name

/-- The module that the native code of a federate is built as. -/
def extensionModule (topLevelName : String) : String :=
  "LinguaFranca" ++ topLevelName

end Naming
end ReactorGen
