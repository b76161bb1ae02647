import ReactorGen.Proofs.ConnectionBodies

/-!
# The encodings of messages

A message is encoded in one of two ways.  Either `dumps` pickles the value and `loads` reads
it back, or the value writes itself by `SerializeToString` and its class reads it back by
`FromString`.  The bodies of a connection differ in nothing else, so what stands behind the
encoding is the same text for both, and the way that a body takes can be read from it.
-/

namespace ReactorGen

open Text

namespace NetworkConnection

/-! ## Sending -/

/-- A body that sends on a connection and encodes the value of the port by a statement.  The
comment in front may say anything. -/
def SendsBy
    (connection : NetworkConnection)
    (coordination : Coordination)
    (encoding body : String) : Prop :=
  ∃ comment, body = comment ++ "\n" ++ presenceGuard connection.sendingPort ++ "\n" ++
    encoding ++ "\n" ++ bufferText ++ "\n" ++ connection.sendCall coordination ++ "\n" ++
    releaseText

/-- A body that pickles the value. -/
def Dumps
    (connection : NetworkConnection)
    (coordination : Coordination)
    (body : String) : Prop :=
  connection.SendsBy coordination
    ("PyObject* serialized_pyobject = PyObject_CallMethod(global_pickler, \"dumps\", \"O\", " ++
      connection.sendingPort.flat ++ "->value);")
    body

/-- A body that has the value write itself. -/
def SerializesToString
    (connection : NetworkConnection)
    (coordination : Coordination)
    (body : String) : Prop :=
  connection.SendsBy coordination
    ("PyObject* serialized_pyobject = PyObject_CallMethod(" ++
      connection.sendingPort.flat ++ "->value, \"SerializeToString\", NULL);")
    body

variable
  {connection : NetworkConnection}
  {coordination : Coordination}
  {settings : Settings}
  {serializer : Serializer}
  {body : String}

theorem sendsBy_joinLines
    (connection : NetworkConnection)
    (serializer : Serializer)
    (coordination : Coordination)
    (comment : String) :
    connection.SendsBy coordination (encodeCall serializer connection.sendingPort.flat)
      (joinLines (comment :: connection.sendLines serializer coordination)) :=
  ⟨comment, connection.joinLines_sendLines serializer coordination comment⟩

/-- No body encodes its value in both ways. -/
theorem Dumps.not_serializesToString
    (dumps : connection.Dumps coordination body) :
    ¬connection.SerializesToString coordination body := by
  obtain ⟨comment, rfl⟩ := dumps
  rintro ⟨other, equal⟩
  have differ (before after : String) :
      before ++ "->value);" ≠ after ++ "->value, \"SerializeToString\", NULL);" :=
    append_ne_append 5 (by decide +kernel) (by decide +kernel) (by decide +kernel) _ _
  rw [String.append_left_inj, String.append_left_inj, String.append_left_inj,
    String.append_left_inj, String.append_left_inj, String.append_left_inj] at equal
  simp only [← String.append_assoc] at equal
  exact differ _ _ equal

theorem encodeCall_of_ne (notProtocol : serializer ≠ .proto) (port : String) :
    encodeCall serializer port =
      "PyObject* serialized_pyobject = PyObject_CallMethod(global_pickler, \"dumps\", \"O\", " ++
        port ++ "->value);" := by
  have opening :
      "PyObject* serialized_pyobject = PyObject_CallMethod(global_pickler, " ++
          "\"dumps\", \"O\", " =
        "PyObject* serialized_pyobject = PyObject_CallMethod(global_pickler, \"dumps\", \"O\", " :=
    by decide +kernel
  cases serializer with
  | proto => exact absurd rfl notProtocol
  | native | ros2 => exact congrArg (· ++ port ++ "->value);") opening

/-- Only protocol buffers keep a value from being pickled. -/
theorem dumps_joinLines_iff {comment : String} :
    connection.Dumps coordination
        (joinLines (comment :: connection.sendLines serializer coordination)) ↔
      serializer ≠ .proto := by
  have sends := connection.sendsBy_joinLines serializer coordination comment
  constructor
  · rintro dumps rfl
    exact dumps.not_serializesToString sends
  · intro notProtocol
    rwa [encodeCall_of_ne notProtocol] at sends

theorem serializesToString_joinLines_iff {comment : String} :
    connection.SerializesToString coordination
        (joinLines (comment :: connection.sendLines serializer coordination)) ↔
      serializer = .proto := by
  constructor
  · intro serializes
    by_contra notProtocol
    exact (dumps_joinLines_iff.mpr notProtocol).not_serializesToString serializes
  · rintro rfl
    exact connection.sendsBy_joinLines .proto coordination comment

/-! ## Receiving -/

/-- The lines in front of the decoding. -/
def messageText (connection : NetworkConnection) : String :=
  joinLines (takeInterpreter ++ [
    "PyObject* message_byte_array = PyBytes_FromStringAndSize((char*)" ++
      connection.receivingAction ++ "->token->value, " ++ connection.receivingAction ++
      "->token->length);"])

/-- The lines behind the decoding. -/
def setText (connection : NetworkConnection) : String :=
  joinLines ([
    "if (deserialized_message == NULL) \x7b",
    "    if (PyErr_Occurred()) PyErr_Print();",
    "    error_print_and_exit(\"Could not deserialize deserialized_message.\");",
    "\x7d",
    "Py_XDECREF(message_byte_array);",
    "SET(" ++ connection.receivingPort.flat ++ ", deserialized_message);"
  ] ++ releaseInterpreter)

/-- A body that receives on a connection and decodes the message by some statements.  The
comment in front may say anything. -/
def ReceivesBy (connection : NetworkConnection) (decoding body : String) : Prop :=
  ∃ comment, body = comment ++ "\n" ++ connection.messageText ++ "\n" ++ decoding ++ "\n" ++
    connection.setText

/-- A body that reads back a pickled value. -/
def Loads (connection : NetworkConnection) (body : String) : Prop :=
  connection.ReceivesBy
    ("PyObject* deserialized_message = PyObject_CallMethod(global_pickler, " ++
      "\"loads\", \"O\", message_byte_array);")
    body

/-- A body that has the class of the value read it back. -/
def ParsesFromString
    (connection : NetworkConnection)
    (settings : Settings)
    (body : String) : Prop :=
  connection.ReceivesBy
    ("PyObject* proto_module = PyImport_ImportModule(\"" ++
      (connection.protocolClass settings).1 ++ "_pb2\");\n" ++
      "PyObject* proto_class = PyObject_GetAttrString(proto_module, \"" ++
      (connection.protocolClass settings).2 ++ "\");\n" ++
      "PyObject* deserialized_message = PyObject_CallMethod(proto_class, " ++
      "\"FromString\", \"O\", message_byte_array);")
    body

/-- No body decodes a message in both ways. -/
theorem Loads.not_parsesFromString
    (loads : connection.Loads body) :
    ¬connection.ParsesFromString settings body := by
  obtain ⟨comment, rfl⟩ := loads
  rintro ⟨other, equal⟩
  have differ (before after : String) :
      before ++ "\"loads\", \"O\", message_byte_array);" ≠
        after ++ "\"FromString\", \"O\", message_byte_array);" :=
    append_ne_append 29 (by decide +kernel) (by decide +kernel) (by decide +kernel) _ _
  rw [String.append_left_inj, String.append_left_inj] at equal
  simp only [← String.append_assoc] at equal
  exact differ _ _ equal

/-- A message that does not travel in protocol buffers is unpickled. -/
theorem loads_joinLines
    (notProtocol : serializer ≠ .proto)
    (comment : String) :
    connection.Loads (joinLines (comment :: connection.receiveLines serializer settings)) := by
  have decodeLines_eq : connection.decodeLines serializer settings =
      ["PyObject* deserialized_message = PyObject_CallMethod(global_pickler, " ++
        "\"loads\", \"O\", message_byte_array);"] := by
    cases serializer with
    | proto => exact absurd rfl notProtocol
    | native | ros2 => rfl
  refine ⟨comment, ?_⟩
  simp only [receiveLines, decodeLines_eq, messageText, setText, takeInterpreter,
    releaseInterpreter, joinLines, List.cons_append, List.nil_append,
    String.intercalate_cons_cons, String.intercalate_singleton, String.append_assoc]

/-- A message that travels in protocol buffers is read back by its class. -/
theorem parsesFromString_joinLines (comment : String) :
    connection.ParsesFromString settings
      (joinLines (comment :: connection.receiveLines .proto settings)) := by
  refine ⟨comment, ?_⟩
  have moduleFeed : "_pb2\");\n" = "_pb2\");" ++ "\n" := by decide
  have classFeed : "\");\n" = "\");" ++ "\n" := by decide
  simp only [receiveLines, decodeLines, moduleFeed, classFeed, messageText, setText,
    takeInterpreter, releaseInterpreter, joinLines, List.cons_append, List.nil_append,
    String.intercalate_cons_cons, String.intercalate_singleton, String.append_assoc]

/-- Only protocol buffers keep a message from being unpickled. -/
theorem loads_joinLines_iff {comment : String} :
    connection.Loads (joinLines (comment :: connection.receiveLines serializer settings)) ↔
      serializer ≠ .proto := by
  constructor
  · rintro loads rfl
    exact loads.not_parsesFromString (parsesFromString_joinLines comment)
  · exact fun notProtocol => loads_joinLines notProtocol comment

theorem parsesFromString_joinLines_iff {comment : String} :
    connection.ParsesFromString settings
        (joinLines (comment :: connection.receiveLines serializer settings)) ↔
      serializer = .proto := by
  constructor
  · intro parses
    by_contra notProtocol
    exact (loads_joinLines notProtocol comment).not_parsesFromString parses
  · rintro rfl
    exact parsesFromString_joinLines comment

end NetworkConnection
end ReactorGen
