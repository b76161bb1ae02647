import ReactorGen.Network.Serialization
import ReactorGen.Text.Lines

/-!
# Messages between federates

The native code on both sides of a connection: the sending reaction encodes the
value of its port and sends it, the receiving reaction decodes the message and
sets its port.
-/

namespace ReactorGen

/-- The comment that says where messages come from and where they go. -/
def Program.routeComment
    (program : Program)
    (verb : String)
    (connection : NetworkConnection) : Except DanglingReference String := do
  let sender ← program.federateAt connection.sendingFederate
  let receiver ← program.federateAt connection.receivingFederate
  return "// " ++ verb ++ " from " ++ connection.sendingPort.dotted ++
    " in federate " ++ sender.name ++ " to " ++ connection.receivingPort.dotted ++
    " in federate " ++ receiver.name

/-- Lines that give other threads the interpreter back. -/
def releaseInterpreter : List String := [
  "/* Release the thread. No Python API allowed beyond this point. */",
  "PyGILState_Release(gstate);"
]

/-- Lines that take the interpreter. -/
def takeInterpreter : List String := [
  "PyGILState_STATE gstate;",
  "gstate = PyGILState_Ensure();"
]

/-- The call that encodes the value of a port. -/
def encodeCall (serializer : Serializer) (port : String) : String :=
  match serializer with
  | .proto =>
    "PyObject* serialized_pyobject = PyObject_CallMethod(" ++ port ++
      "->value, \"SerializeToString\", NULL);"
  | _ =>
    "PyObject* serialized_pyobject = PyObject_CallMethod(global_pickler, " ++
      "\"dumps\", \"O\", " ++ port ++ "->value);"

/-- Lines that end the program when a condition says that encoding failed. -/
def encodeGuard (condition : String) : List String := [
  "if (" ++ condition ++ ") \x7b",
  "    if (PyErr_Occurred()) PyErr_Print();",
  "    error_print_and_exit(\"Could not serialize serialized_pyobject.\");",
  "\x7d"
]

/-- The call that sends the encoded value.  Messages of logical connections carry
a tag and go through the central coordinator if there is one. -/
def NetworkConnection.sendCall
    (connection : NetworkConnection)
    (coordination : Coordination) : String :=
  let receiver := toString connection.receivingFederate.index
  let route (via : String) : String :=
    toString connection.receivingPortId ++ ", " ++ receiver ++
      ", \"federate " ++ receiver ++ via ++ "\", " ++
      "message_length, (unsigned char*)serialized_pyobject_buffer.buf);"
  if connection.isPhysical then
    "send_message(MSG_TYPE_P2P_MESSAGE, " ++ route ""
  else
    let delay := (connection.delay.map TimeValue.expression).getD "NEVER"
    match coordination with
    | .decentralized =>
      "send_timed_message(" ++ delay ++ ", MSG_TYPE_P2P_TAGGED_MESSAGE, " ++ route ""
    | .centralized =>
      "send_timed_message(" ++ delay ++ ", MSG_TYPE_TAGGED_MESSAGE, " ++
        route " via the RTI"

/-- The lines of a sending reaction after the comment. -/
def NetworkConnection.sendLines
    (connection : NetworkConnection)
    (serializer : Serializer)
    (coordination : Coordination) : List String :=
  let port := connection.sendingPort.flat
  ["if (!" ++ port ++ "->is_present) \x7b", "    return;", "\x7d"] ++
  takeInterpreter ++
  [encodeCall serializer port] ++
  encodeGuard "serialized_pyobject == NULL" ++
  [
    "Py_buffer serialized_pyobject_buffer;",
    "int returnValue = PyObject_GetBuffer(serialized_pyobject, " ++
      "&serialized_pyobject_buffer, PyBUF_SIMPLE);"
  ] ++
  encodeGuard "returnValue == -1" ++
  [
    "size_t message_length = serialized_pyobject_buffer.len;",
    connection.sendCall coordination,
    "PyBuffer_Release(&serialized_pyobject_buffer);",
    "Py_XDECREF(serialized_pyobject);"
  ] ++
  releaseInterpreter

/-- The module and the class that describe the values of a connection.  A type
without module belongs to the first one that is configured. -/
def NetworkConnection.protocolClass
    (connection : NetworkConnection)
    (settings : Settings) : String × String :=
  let type := connection.type.getD "Message"
  match Text.splitAtLast? '.' type with
  | some parts => parts
  | none => ((settings.protoFiles.head?.map protocolModule).getD "", type)

/-- The lines that decode a message. -/
def NetworkConnection.decodeLines
    (connection : NetworkConnection)
    (serializer : Serializer)
    (settings : Settings) : List String :=
  match serializer with
  | .proto =>
    let (module, name) := connection.protocolClass settings
    [
      "PyObject* proto_module = PyImport_ImportModule(\"" ++ module ++ "_pb2\");",
      "PyObject* proto_class = PyObject_GetAttrString(proto_module, \"" ++ name ++
        "\");",
      "PyObject* deserialized_message = PyObject_CallMethod(proto_class, " ++
        "\"FromString\", \"O\", message_byte_array);"
    ]
  | _ =>
    [
      "PyObject* deserialized_message = PyObject_CallMethod(global_pickler, " ++
        "\"loads\", \"O\", message_byte_array);"
    ]

/-- The lines of a receiving reaction after the comment. -/
def NetworkConnection.receiveLines
    (connection : NetworkConnection)
    (serializer : Serializer)
    (settings : Settings) : List String :=
  let action := connection.receivingAction
  takeInterpreter ++
  [
    "PyObject* message_byte_array = PyBytes_FromStringAndSize((char*)" ++ action ++
      "->token->value, " ++ action ++ "->token->length);"
  ] ++
  connection.decodeLines serializer settings ++
  [
    "if (deserialized_message == NULL) \x7b",
    "    if (PyErr_Occurred()) PyErr_Print();",
    "    error_print_and_exit(\"Could not deserialize deserialized_message.\");",
    "\x7d",
    "Py_XDECREF(message_byte_array);",
    "SET(" ++ connection.receivingPort.flat ++ ", deserialized_message);"
  ] ++
  releaseInterpreter

namespace Program

/-- The body of the reaction that sends on a connection. -/
def senderBody
    (program : Program)
    (settings : Settings)
    (connection : NetworkConnection) : Except Failure String := do
  let serializer ← program.resolveSerializer settings connection
  let comment ← program.routeComment "Sending" connection
  return Text.joinLines
    (comment :: connection.sendLines serializer settings.coordination)

/-- The body of the reaction that receives on a connection. -/
def receiverBody
    (program : Program)
    (settings : Settings)
    (connection : NetworkConnection) : Except Failure String := do
  let serializer ← program.resolveSerializer settings connection
  let comment ← program.routeComment "Receiving" connection
  return Text.joinLines (comment :: connection.receiveLines serializer settings)

end Program
end ReactorGen
