import ReactorGen.Diagnostic
import ReactorGen.Element

/-!
# Types of properties

The types that a target property can have: single values, lists of one type,
unions of words and types of which the first that fits counts, and dictionaries
with fixed keys.  `accepts` decides whether an element belongs to a type, and
`check` reports everything that keeps it from belonging, with the path to the
part at fault.
-/

namespace ReactorGen

/-- The kinds of single values. -/
inductive ValueKind
  | boolean
  | integer
  | nonNegativeInteger
  | time
  | string
  | file
deriving DecidableEq, Repr

namespace ValueKind

/-- What a value of the kind is, as messages put it. -/
def description : ValueKind -> String
  | boolean => "'true' or 'false'"
  | integer => "an integer"
  | nonNegativeInteger => "a non-negative integer"
  | time => "a time value with units"
  | string => "a string"
  | file => "a path to a file"

/-- Whether an element is a value of the kind. -/
def accepts (kind : ValueKind) (element : Element) : Bool :=
  match kind with
  | boolean => Text.sameName element.text "true" || Text.sameName element.text "false"
  | integer => element.isLiteral && element.integer?.isSome
  | nonNegativeInteger =>
    element.isLiteral && element.integer?.any fun value => 0 ≤ value.toInt
  | time => element.time?.isSome
  | string => element.isLiteral || element.isId
  | file => element.isLiteral || element.isId

end ValueKind

mutual

/-- The type of a property. -/
inductive PropertyType
  /-- A single value. -/
  | value (kind : ValueKind)
  /-- A list whose items all have one type. -/
  | array (item : PropertyType)
  /-- Alternatives in order, with the position of the one that is the default. -/
  | union (options : List UnionOption) (default : Option Nat)
  /-- A dictionary with the given keys. -/
  | dictionary (entries : List (String × PropertyType))

/-- An alternative of a union. -/
inductive UnionOption
  /-- A fixed word in any letter case. -/
  | word (word : String)
  /-- Every element of a type. -/
  | type (type : PropertyType)

end

/-- The error of a value that is not what its property requires. -/
def typeMismatch (name description : String) : Diagnostic :=
  .error .propertyTypeMismatch name
    ("Target property '" ++ name ++ "' is required to be " ++ description ++ ".")

mutual

/-- What an element of the type is, as messages put it. -/
def PropertyType.description : PropertyType -> String
  | .value kind => kind.description
  | .array item => "an array of which each element is " ++ item.description
  | .union options default =>
    "one of the following: " ++ ", ".intercalate (describeOptions default 0 options)
  | .dictionary entries =>
    "a dictionary with one or more of the following keys: " ++
      ", ".intercalate (entries.map Prod.fst)

/-- What an element of the alternative is. -/
def UnionOption.description : UnionOption -> String
  | .word word => word
  | .type type => type.description

/-- The descriptions of alternatives of which the first has the given position. -/
def describeOptions (default : Option Nat) (position : Nat) :
    List UnionOption -> List String
  | [] => []
  | option :: rest =>
    (if default = some position then option.description ++ " (default)"
      else option.description) :: describeOptions default (position + 1) rest

end

mutual

/-- Whether an element belongs to the type. -/
def PropertyType.accepts (element : Element) : PropertyType -> Bool
  | .value kind => kind.accepts element
  | .array item =>
    match element with
    | .array items => items.all fun element => item.accepts element
    | _ => false
  | .union options _ => anyAccepts element options
  | .dictionary _ => element.entries?.isSome

/-- Whether an element belongs to the alternative. -/
def UnionOption.accepts (element : Element) : UnionOption -> Bool
  | .word word =>
    (element.isId || element.isLiteral) && Text.sameName element.text word
  | .type type => type.accepts element

/-- Whether an element belongs to one of the alternatives. -/
def anyAccepts (element : Element) : List UnionOption -> Bool
  | [] => false
  | option :: rest => option.accepts element || anyAccepts element rest

end

/-- What a file check reports when the file is not there. -/
def checkFile
    (fileExists : String -> Bool)
    (name : String)
    (element : Element) : List Diagnostic :=
  if fileExists element.text then []
  else [.warning .fileNotFound name ("Could not find file: '" ++ element.text ++ "'.")]

/-- The report on a single value. -/
def ValueKind.check
    (fileExists : String -> Bool)
    (name : String)
    (element : Element)
    (kind : ValueKind) : List Diagnostic :=
  if kind.accepts element then
    if kind = .file then checkFile fileExists name element else []
  else [typeMismatch name kind.description]

/-- The error of a dictionary key that the type does not have. -/
def unknownKey (name key description : String) : Diagnostic :=
  .error .propertyTypeMismatch (name ++ "." ++ key)
    ("Unknown key '" ++ key ++ "'. Target property '" ++ name ++
      "' is required to be " ++ description ++ ".")

mutual

/-- Everything that keeps an element from belonging to the type, attributed to
the property or the part of it called `name`. -/
def PropertyType.check
    (fileExists : String -> Bool)
    (name : String)
    (element : Element) : PropertyType -> List Diagnostic
  | .value kind => kind.check fileExists name element
  | .array item =>
    match element with
    | .array items =>
      items.zipIdx.flatMap fun (element, position) =>
        item.check fileExists (name ++ "[" ++ toString position ++ "]") element
    | _ => [typeMismatch name (PropertyType.array item).description]
  | .union options default =>
    (checkOptions fileExists name element options).getD
      [typeMismatch name (PropertyType.union options default).description]
  | .dictionary entries =>
    match element with
    | .dictionary pairs =>
      pairs.flatMap fun (key, element) =>
        (checkKey fileExists (name ++ "." ++ key) key element entries).getD
          [unknownKey name key (PropertyType.dictionary entries).description]
    | _ => [typeMismatch name (PropertyType.dictionary entries).description]

/-- The report of an alternative that accepts the element. -/
def UnionOption.check
    (fileExists : String -> Bool)
    (name : String)
    (element : Element) : UnionOption -> List Diagnostic
  | .word _ => []
  | .type type => type.check fileExists name element

/-- The report of the first alternative that accepts the element, if one does. -/
def checkOptions
    (fileExists : String -> Bool)
    (name : String)
    (element : Element) : List UnionOption -> Option (List Diagnostic)
  | [] => none
  | option :: rest =>
    if option.accepts element then some (option.check fileExists name element)
    else checkOptions fileExists name element rest

/-- The report of the first entry called `key`, if there is one. -/
def checkKey
    (fileExists : String -> Bool)
    (name key : String)
    (element : Element) : List (String × PropertyType) -> Option (List Diagnostic)
  | [] => none
  | (entry, type) :: rest =>
    if Text.sameName entry key then some (type.check fileExists name element)
    else checkKey fileExists name key element rest

end

namespace UnionOption

/-- The word of an alternative that is one. -/
def word? : UnionOption -> Option String
  | .word spelling => some spelling
  | .type _ => none

end UnionOption

namespace PropertyType

/-- The alternatives of a union. -/
def options : PropertyType -> List UnionOption
  | union options _ => options
  | _ => []

/-- The first alternative that an element belongs to. -/
def matchOption? (type : PropertyType) (element : Element) : Option UnionOption :=
  type.options.find? (·.accepts element)

/-- The alternative that is the default. -/
def defaultOption? : PropertyType -> Option UnionOption
  | union options (some position) => options[position]?
  | _ => none

/-- The first word among the alternatives that has the given spelling in any
letter case. -/
def wordNamed? (type : PropertyType) (name : String) : Option String :=
  Text.lookupNamed id name (type.options.filterMap UnionOption.word?)

/-- The first entry of a dictionary that has the given key in any letter case. -/
def entryNamed? (type : PropertyType) (key : String) :
    Option (String × PropertyType) :=
  match type with
  | dictionary entries => Text.lookupNamed Prod.fst key entries
  | _ => none

end PropertyType
end ReactorGen
