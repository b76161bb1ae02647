import ReactorGen.Model.Program
import ReactorGen.Naming
import ReactorGen.Text.Lines

/-!
# Tokens

Payloads of dynamic size travel in tokens, which the runtime reclaims at the end
of every step.  It finds them in a table that the generated code declares with
one row for each registered trigger, and fills while it initializes them.
-/

namespace ReactorGen

/-- One row of the runtime's table. -/
structure TokenEntry where
  /-- The address of the token. -/
  tokenRef : String
  /-- The address of the status of the trigger. -/
  statusRef : String
  /-- Whether the presence of the trigger is cleared at the start of a step. -/
  resetsPresence : Bool
deriving DecidableEq, Repr

/-- The row of a trigger. -/
def TokenEntry.ofTrigger (trigger : String) : TokenEntry :=
  ⟨"&" ++ trigger ++ ".token", "&" ++ trigger ++ ".status", true⟩

/-- The triggers whose tokens are reclaimed, each once. -/
structure TokenTable where
  entries : List TokenEntry
  /-- The addresses by which a token is known to be registered. -/
  registered : List String
deriving DecidableEq, Repr

namespace TokenTable

/-- No tokens. -/
def empty : TokenTable := ⟨[], []⟩

/-- How many tokens there are. -/
def size (table : TokenTable) : Nat :=
  table.entries.length

/-- Whether a token is registered. -/
def contains (table : TokenTable) (tokenRef : String) : Bool :=
  table.registered.contains tokenRef

/-- Add a row unless its token is registered. -/
def insert (table : TokenTable) (entry : TokenEntry) : TokenTable :=
  if table.contains entry.tokenRef then table
  else ⟨table.entries ++ [entry], table.registered ++ [entry.tokenRef]⟩

/-- The table of a list of rows, of which the first for each token counts. -/
def ofList (entries : List TokenEntry) : TokenTable :=
  entries.foldl insert empty

/-- Whether the token of a trigger is not registered yet. -/
def isNew (table : TokenTable) (trigger : String) : Bool :=
  !table.contains (TokenEntry.ofTrigger trigger).tokenRef

/-- Add the row of a trigger unless its token is registered. -/
def register (table : TokenTable) (trigger : String) : TokenTable :=
  table.insert (.ofTrigger trigger)

/-- The length that the table is declared with, which must not be zero. -/
def declaredLength (table : TokenTable) : Nat :=
  max table.size 1

/-- The declaration of the table and of its counter. -/
def declaration (table : TokenTable) : String :=
  "token_present_t _lf_tokens_with_ref_count[" ++ toString table.declaredLength ++
    "];\nint _lf_tokens_with_ref_count_count = 0;"

@[simp] theorem insert_of_contains
    (table : TokenTable)
    (entry : TokenEntry)
    (contained : table.contains entry.tokenRef = true) :
    table.insert entry = table := by
  simp [insert, contained]

@[simp] theorem insert_of_not_contains
    (table : TokenTable)
    (entry : TokenEntry)
    (absent : table.contains entry.tokenRef = false) :
    table.insert entry =
      ⟨table.entries ++ [entry], table.registered ++ [entry.tokenRef]⟩ := by
  simp [insert, absent]

end TokenTable

/-- The statements that make the token of a trigger and enter it into the
table. -/
structure TokenInitializer where
  /-- The trigger that holds the token. -/
  trigger : String
  /-- The size of what the token holds. -/
  payloadSize : String
deriving DecidableEq, Repr

namespace TokenInitializer

/-- The next free row of the table. -/
def row : String := "_lf_tokens_with_ref_count[_lf_tokens_with_ref_count_count]"

/-- The statements in order. -/
def statements (initializer : TokenInitializer) : List String :=
  let trigger := initializer.trigger
  [
    trigger ++ ".token = _lf_create_token(" ++ initializer.payloadSize ++ ");",
    trigger ++ ".status = absent;",
    row ++ ".token = &" ++ trigger ++ ".token;",
    row ++ ".status = &" ++ trigger ++ ".status;",
    "_lf_tokens_with_ref_count[_lf_tokens_with_ref_count_count++]" ++
      ".reset_is_present = true;"
  ]

/-- The statements as one text. -/
def text (initializer : TokenInitializer) : String :=
  Text.joinLines initializer.statements

end TokenInitializer

/-- The size of what the token of an action holds.  A payload without a type is
an object of the interpreter. -/
def ActionInstance.payloadSize (action : ActionInstance) : String :=
  match action.payloadType with
  | none => "sizeof(PyObject*)"
  | some type =>
    let held := if action.isToken then TypeName.element type else Text.trim type
    "sizeof(" ++ held ++ ")"

end ReactorGen
