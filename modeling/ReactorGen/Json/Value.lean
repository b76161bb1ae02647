/-!
# JSON values

Values of the JSON data model.  Numbers are integers, since nothing here counts
in fractions, and an object is the list of its members in the order in which
they are written.
-/

namespace ReactorGen

/-- A JSON value. -/
inductive Json
  | null
  | bool (value : Bool)
  | number (value : Int)
  | string (text : String)
  | array (items : List Json)
  | object (members : List (String × Json))
deriving Repr, Inhabited

namespace Json

/-- The member of an object with the given name. -/
def member? (value : Json) (name : String) : Option Json :=
  match value with
  | object members => members.lookup name
  | _ => none

end Json
end ReactorGen
