import ReactorGen.Text.Blank
import ReactorGen.Text.Integer
import ReactorGen.Text.Name
import ReactorGen.Time

/-!
# Elements

An element is the value of a `key: value` pair inside a target declaration, as
it was written.  It has no type yet; this module only gives the readings that
any element has, of which a typed property picks one.
-/

namespace ReactorGen

/-- A value as it was written in a target declaration. -/
inductive Element
  /-- A literal with its quotes: `"gcc"`, `42`, `true`. -/
  | literal (source : String)
  /-- A bare identifier or path. -/
  | id (name : String)
  /-- A number that may be followed by a unit. -/
  | time (magnitude : UInt64) (unit : Option TimeUnit)
  /-- A list of elements. -/
  | array (items : List Element)
  /-- A dictionary, in the order of its entries. -/
  | dictionary (entries : List (String × Element))
deriving Repr

namespace Element

/-- Whether both ends of a text are the given quote. -/
def isQuotedBy (quote : Char) (chars : List Char) : Bool :=
  chars.head? == some quote && chars.getLast? == some quote

/-- A literal without white space around it and without its quotes. -/
def unquote (source : String) : String :=
  let chars := Text.trimChars source.toList
  if 2 ≤ chars.length && (isQuotedBy '"' chars || isQuotedBy '\x27' chars) then
    String.ofList (chars.drop 1).dropLast
  else String.ofList chars

/-- The element as text.  Lists and dictionaries have none. -/
def text : Element -> String
  | literal source => unquote source
  | id name => name
  | time magnitude (some unit) => TimeValue.text ⟨magnitude, unit⟩
  | time magnitude none => toString magnitude.toNat
  | array _ => ""
  | dictionary _ => ""

/-- Whether the element is a literal. -/
def isLiteral : Element -> Bool
  | literal _ => true
  | _ => false

/-- Whether the element is an identifier. -/
def isId : Element -> Bool
  | id _ => true
  | _ => false

/-- The items of a list. -/
def items? : Element -> Option (List Element)
  | array items => some items
  | _ => none

/-- The entries of a dictionary. -/
def entries? : Element -> Option (List (String × Element))
  | dictionary entries => some entries
  | _ => none

/-- The truth value of an element: only the word `true` is true. -/
def bool (element : Element) : Bool :=
  Text.sameName element.text "true"

/-- The integer that the element's text denotes. -/
def integer? (element : Element) : Option Int32 :=
  Text.integer? element.text

/-- The time value of a time element.  Only zero needs no unit. -/
def time? : Element -> Option TimeValue
  | time magnitude (some unit) => some ⟨magnitude, unit⟩
  | time magnitude none => if magnitude = 0 then some .zero else none
  | _ => none

/-- The text of every item of a list; any other element is its own only item. -/
def texts : Element -> List String
  | array items => items.map text
  | element => [element.text]

end Element
end ReactorGen
