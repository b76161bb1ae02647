import ReactorGen.Network.Message
import ReactorGen.Proofs.TextCuts

/-!
# What a sending reaction says

The body of a reaction that sends on a connection is written from the message that
the connection carries, and the message can be read from the body: two connections
from one port have the same body exactly when they carry the same message.  The
body is read from its end, where the names of the program do not stand in the way.
-/

namespace ReactorGen

open Text

/-- What a connection carries, apart from the value. -/
@[ext] structure Message where
  receiver : FederateId
  /-- The port at the receiver. -/
  port : String
  /-- The number of the port at the receiver. -/
  portId : Nat
  /-- The delay of a logical connection. -/
  delay : Option String
  /-- Whether the value is encoded by protocol buffers. -/
  isProtocol : Bool
deriving DecidableEq

namespace NetworkConnection

/-- The delay as a sending reaction gives it. -/
def delayText (connection : NetworkConnection) : String :=
  (connection.delay.map TimeValue.expression).getD "NEVER"

/-- What the connection carries. -/
def message (connection : NetworkConnection) : Message where
  receiver := connection.receivingFederate
  port := connection.receivingPort.dotted
  portId := connection.receivingPortId
  delay := if connection.isPhysical then none else some connection.delayText
  isProtocol := connection.requestedSerializer = .proto

theorem underscore_not_mem_delayText (connection : NetworkConnection) :
    '_' ∉ connection.delayText.toList := by
  rw [delayText]
  cases connection.delay with
  | none => decide
  | some time =>
    simp only [Option.map_some, Option.getD_some, TimeValue.expression]
    have digits : '_' ∉ (toString time.magnitude.toNat).toList := not_mem_toString rfl _
    split
    · decide
    · rw [String.toList_append, String.toList_append, String.toList_append]
      have unitFree : '_' ∉ time.unit.conversion.toList := by
        cases time.unit <;> decide
      simp only [List.mem_append, digits, unitFree, or_false, false_or]
      decide

/-- No delay holds an underscore. -/
theorem underscore_not_mem_delay
    (connection : NetworkConnection)
    {delay : String}
    (delayed : connection.message.delay = some delay) :
    '_' ∉ delay.toList := by
  simp only [message] at delayed
  split at delayed
  · exact absurd delayed (Option.some_ne_none _).symm
  · rw [← Option.some.inj delayed]
    exact connection.underscore_not_mem_delayText

end NetworkConnection

/-! ## The call that sends -/

namespace Coordination

/-- The kind of a message that carries a tag. -/
def taggedMessage : Coordination -> String
  | decentralized => ", MSG_TYPE_P2P_TAGGED_MESSAGE, "
  | centralized => ", MSG_TYPE_TAGGED_MESSAGE, "

/-- How the call that sends starts. -/
def callOpening (coordination : Coordination) : Option String -> String
  | none => "send_message(MSG_TYPE_P2P_MESSAGE, "
  | some delay => "send_timed_message(" ++ delay ++ coordination.taggedMessage

@[simp] theorem callOpening_none (coordination : Coordination) :
    coordination.callOpening none = "send_message(MSG_TYPE_P2P_MESSAGE, " := rfl

@[simp] theorem callOpening_some (coordination : Coordination) (delay : String) :
    coordination.callOpening (some delay) =
      "send_timed_message(" ++ delay ++ coordination.taggedMessage := rfl

/-- What the call that sends says about a coordinator. -/
def callVia (coordination : Coordination) : Option String -> String
  | none => ""
  | some _ =>
    match coordination with
    | decentralized => ""
    | centralized => " via the RTI"

theorem endsIn_callOpening (coordination : Coordination) (delay : Option String) :
    EndsIn ' ' (coordination.callOpening delay) := by
  have tagged : EndsIn ' ' coordination.taggedMessage := by
    cases coordination <;> decide
  cases delay with
  | none =>
    simp only [callOpening_none]
    decide
  | some delay =>
    simp only [callOpening_some]
    exact tagged.append _

theorem callVia_cases (coordination : Coordination) (delay : Option String) :
    coordination.callVia delay = "" ∨ coordination.callVia delay = " via the RTI" := by
  cases delay with
  | none => exact .inl rfl
  | some delay =>
    cases coordination with
    | centralized => exact .inr rfl
    | decentralized => exact .inl rfl

/-- A coordinator can be told from a number. -/
theorem append_callVia_inj
    {coordination : Coordination}
    {leftDelay rightDelay : Option String}
    {first second : String}
    {leftNumber rightNumber : Nat}
    (firstEnds : EndsIn ' ' first)
    (secondEnds : EndsIn ' ' second)
    (equal :
      first ++ toString leftNumber ++ coordination.callVia leftDelay =
        second ++ toString rightNumber ++ coordination.callVia rightDelay) :
    first ++ toString leftNumber = second ++ toString rightNumber := by
  have notNumber (before other : String) (number : Nat) (ends : EndsIn ' ' other) :
      before ++ " via the RTI" ≠ other ++ toString number := by
    intro same
    have cut : before ++ " via the RTI" = before ++ " via the " ++ "RTI" := by
      rw [String.append_assoc]
      rfl
    rw [cut] at same
    obtain ⟨_, word_eq⟩ := append_inj_of_endsIn (EndsIn.append (by decide) _) ends
      (by decide) (not_mem_toString rfl _) same
    have letter : 'R' ∈ (toString number).toList := by
      rw [← word_eq]
      decide
    exact not_mem_toString rfl _ letter
  rcases coordination.callVia_cases leftDelay with leftVia | leftVia
  · rcases coordination.callVia_cases rightDelay with rightVia | rightVia
    · rwa [leftVia, rightVia, String.append_left_inj] at equal
    · rw [leftVia, rightVia, String.append_empty] at equal
      exact absurd equal.symm (notNumber _ _ _ firstEnds)
  · rcases coordination.callVia_cases rightDelay with rightVia | rightVia
    · rw [leftVia, rightVia, String.append_empty] at equal
      exact absurd equal (notNumber _ _ _ secondEnds)
    · rwa [leftVia, rightVia, String.append_left_inj] at equal

/-- Whether and how a message is delayed can be read from the start of its call. -/
theorem append_callOpening_inj
    {coordination : Coordination}
    {leftDelay rightDelay : Option String}
    {first second : String}
    (leftFree : ∀ delay, leftDelay = some delay -> '_' ∉ delay.toList)
    (rightFree : ∀ delay, rightDelay = some delay -> '_' ∉ delay.toList)
    (equal :
      first ++ coordination.callOpening leftDelay =
        second ++ coordination.callOpening rightDelay) :
    first = second ∧ leftDelay = rightDelay := by
  have notTagged (delay before other : String) :
      before ++ "send_message(MSG_TYPE_P2P_MESSAGE, " ≠
        other ++ ("send_timed_message(" ++ delay ++ coordination.taggedMessage) := by
    rw [← String.append_assoc]
    cases coordination with
    | centralized => exact append_ne_append 11 (by decide) (by decide) (by decide) _ _
    | decentralized => exact append_ne_append 11 (by decide) (by decide) (by decide) _ _
  have cut (before delay : String) :
      before ++ "send_timed_message(" ++ delay =
        (before ++ "send_timed_") ++ ("message(" ++ delay) := by
    simp only [String.append_assoc, String.append_right_inj]
    rw [← String.append_assoc]
    rfl
  have callFree (delay : String) (delayFree : '_' ∉ delay.toList) :
      '_' ∉ ("message(" ++ delay).toList := by
    rw [String.toList_append, List.mem_append]
    rintro (inCall | inDelay)
    · revert inCall
      decide
    · exact delayFree inDelay
  cases leftDelay with
  | none =>
    cases rightDelay with
    | none => exact ⟨(String.append_left_inj _).mp equal, rfl⟩
    | some delay =>
      simp only [callOpening_none, callOpening_some] at equal
      exact absurd equal (notTagged _ _ _)
  | some left =>
    cases rightDelay with
    | none =>
      simp only [callOpening_none, callOpening_some] at equal
      exact absurd equal.symm (notTagged _ _ _)
    | some right =>
      simp only [callOpening_some, ← String.append_assoc, String.append_left_inj] at equal
      rw [cut, cut] at equal
      obtain ⟨before_eq, call_eq⟩ := append_inj_of_endsIn (EndsIn.append (by decide) _)
        (EndsIn.append (by decide) _) (callFree left (leftFree left rfl))
        (callFree right (rightFree right rfl)) equal
      rw [String.append_left_inj] at before_eq
      rw [String.append_right_inj] at call_eq
      exact ⟨before_eq, congrArg some call_eq⟩

end Coordination

/-- The numbers of a route can be read from its end. -/
theorem route_inj
    {first second : String}
    {leftPort rightPort leftFederate rightFederate : Nat}
    (firstEnds : EndsIn ' ' first)
    (secondEnds : EndsIn ' ' second)
    (equal :
      first ++ toString leftPort ++ ", " ++ toString leftFederate ++ ", \"federate " ++
          toString leftFederate =
        second ++ toString rightPort ++ ", " ++ toString rightFederate ++
          ", \"federate " ++ toString rightFederate) :
    first = second ∧ leftPort = rightPort ∧ leftFederate = rightFederate := by
  have separated : EndsIn ' ' ", \"federate " := by decide
  obtain ⟨beforeEqual, federateEqual⟩ :=
    append_inj_of_endsIn (separated.append _) (separated.append _)
      (not_mem_toString rfl _) (not_mem_toString rfl _) equal
  rw [toString_inj] at federateEqual
  subst federateEqual
  rw [String.append_left_inj, String.append_left_inj, String.append_left_inj]
    at beforeEqual
  obtain ⟨firstEqual, portEqual⟩ :=
    append_inj_of_endsIn firstEnds secondEnds (not_mem_toString rfl _)
      (not_mem_toString rfl _) beforeEqual
  exact ⟨firstEqual, toString_inj.mp portEqual, rfl⟩

/-- The call that sends a message. -/
def Message.call (message : Message) (coordination : Coordination) : String :=
  coordination.callOpening message.delay ++ toString message.portId ++ ", " ++
    toString message.receiver.index ++ ", \"federate " ++
    toString message.receiver.index ++ coordination.callVia message.delay ++ "\", " ++
    "message_length, (unsigned char*)serialized_pyobject_buffer.buf);"

/-- The call of a connection depends on the message only. -/
theorem NetworkConnection.sendCall_eq
    (connection : NetworkConnection)
    (coordination : Coordination) :
    connection.sendCall coordination = connection.message.call coordination := by
  cases physical : connection.isPhysical with
  | true =>
    simp only [sendCall, Message.call, message, physical, if_true,
      Coordination.callOpening_none, Coordination.callVia, String.append_assoc,
      String.append_empty]
  | false =>
    cases coordination with
    | centralized =>
      simp only [sendCall, Message.call, message, delayText, physical,
        Bool.false_eq_true, if_false, Coordination.callOpening_some,
        Coordination.callVia, Coordination.taggedMessage, String.append_assoc]
    | decentralized =>
      simp only [sendCall, Message.call, message, delayText, physical,
        Bool.false_eq_true, if_false, Coordination.callOpening_some,
        Coordination.callVia, Coordination.taggedMessage, String.append_assoc,
        String.append_empty]

/-- All of a message but the receiving port and the encoding can be read from the
end of the call. -/
theorem Message.append_call_inj
    {left right : Message}
    {coordination : Coordination}
    {first second : String}
    (leftFree : ∀ delay, left.delay = some delay -> '_' ∉ delay.toList)
    (rightFree : ∀ delay, right.delay = some delay -> '_' ∉ delay.toList)
    (equal : first ++ left.call coordination = second ++ right.call coordination) :
    first = second ∧ left.receiver = right.receiver ∧ left.portId = right.portId ∧
      left.delay = right.delay := by
  have separated : EndsIn ' ' ", \"federate " := by decide
  simp only [call, ← String.append_assoc, String.append_left_inj] at equal
  have routes := Coordination.append_callVia_inj (separated.append _)
    (separated.append _) equal
  obtain ⟨openings, ports, federates⟩ :=
    route_inj ((coordination.endsIn_callOpening left.delay).append _)
      ((coordination.endsIn_callOpening right.delay).append _) routes
  obtain ⟨before_eq, delay_eq⟩ :=
    Coordination.append_callOpening_inj leftFree rightFree openings
  have receiver_eq : left.receiver = right.receiver := by
    cases leftReceiver : left.receiver
    cases rightReceiver : right.receiver
    rw [leftReceiver, rightReceiver] at federates
    exact congrArg FederateId.mk federates
  exact ⟨before_eq, receiver_eq, ports, delay_eq⟩

/-! ## The call that encodes -/

/-- How the call that encodes starts. -/
def encodeOpening (isProtocol : Bool) : String :=
  if isProtocol then "PyObject* serialized_pyobject = PyObject_CallMethod("
  else
    "PyObject* serialized_pyobject = PyObject_CallMethod(global_pickler, " ++
      "\"dumps\", \"O\", "

/-- How the call that encodes ends. -/
def encodeClosing (isProtocol : Bool) : String :=
  if isProtocol then "->value, \"SerializeToString\", NULL);" else "->value);"

theorem encodeCall_eq (serializer : Serializer) (port : String) :
    encodeCall serializer port =
      encodeOpening (serializer = .proto) ++ port ++
        encodeClosing (serializer = .proto) := by
  cases serializer with
  | proto => rfl
  | native => rfl
  | ros2 => rfl

/-- Whether a value is encoded by protocol buffers can be read from the end of the
call that encodes it. -/
theorem append_encodeCall_inj
    {left right : Bool}
    {port first second : String}
    (equal :
      first ++ (encodeOpening left ++ port ++ encodeClosing left) =
        second ++ (encodeOpening right ++ port ++ encodeClosing right)) :
    first = second ∧ left = right := by
  have notProtocol (before other : String) :
      before ++ encodeClosing true ≠ other ++ encodeClosing false :=
    append_ne_append 5 (by decide +kernel) (by decide +kernel) (by decide +kernel) _ _
  simp only [← String.append_assoc] at equal
  cases left with
  | true =>
    cases right with
    | true => simpa only [String.append_left_inj, and_true] using equal
    | false => exact absurd equal (notProtocol _ _)
  | false =>
    cases right with
    | true => exact absurd equal.symm (notProtocol _ _)
    | false => simpa only [String.append_left_inj, and_true] using equal

/-! ## The body -/

/-- The comment of a sending reaction. -/
def Message.comment (message : Message) (port : VarRef) (sender receiver : String) :
    String :=
  "// Sending from " ++ port.dotted ++ " in federate " ++ sender ++ " to " ++
    message.port ++ " in federate " ++ receiver

/-- The lines between the comment and the encoding. -/
def presenceGuard (port : VarRef) : String :=
  joinLines (["if (!" ++ port.flat ++ "->is_present) \x7b", "    return;", "\x7d"] ++
    takeInterpreter)

/-- The lines between the encoding and the call. -/
def bufferText : String :=
  joinLines (
    encodeGuard "serialized_pyobject == NULL" ++
    [
      "Py_buffer serialized_pyobject_buffer;",
      "int returnValue = PyObject_GetBuffer(serialized_pyobject, " ++
        "&serialized_pyobject_buffer, PyBUF_SIMPLE);"
    ] ++
    encodeGuard "returnValue == -1" ++
    ["size_t message_length = serialized_pyobject_buffer.len;"])

/-- The lines behind the call. -/
def releaseText : String :=
  joinLines (
    [
      "PyBuffer_Release(&serialized_pyobject_buffer);",
      "Py_XDECREF(serialized_pyobject);"
    ] ++
    releaseInterpreter)

/-- The body of a reaction that sends a message from a port. -/
def Message.senderText
    (message : Message)
    (coordination : Coordination)
    (port : VarRef)
    (sender receiver : String) : String :=
  message.comment port sender receiver ++ "\n" ++ presenceGuard port ++ "\n" ++
    (encodeOpening message.isProtocol ++ port.flat ++ encodeClosing message.isProtocol) ++
    "\n" ++ bufferText ++ "\n" ++ message.call coordination ++ "\n" ++ releaseText

/-- The encoding stands between the guard and the call. -/
theorem NetworkConnection.joinLines_sendLines
    (connection : NetworkConnection)
    (serializer : Serializer)
    (coordination : Coordination)
    (comment : String) :
    joinLines (comment :: connection.sendLines serializer coordination) =
      comment ++ "\n" ++ presenceGuard connection.sendingPort ++ "\n" ++
        encodeCall serializer connection.sendingPort.flat ++ "\n" ++ bufferText ++ "\n" ++
        connection.sendCall coordination ++ "\n" ++ releaseText := by
  simp only [sendLines, presenceGuard, bufferText, releaseText, takeInterpreter,
    encodeGuard, releaseInterpreter, joinLines, List.cons_append, List.nil_append,
    String.intercalate_cons_cons, String.intercalate_singleton, String.append_assoc]

/-- The lines of a sending reaction depend on the message and the port only. -/
theorem NetworkConnection.sendLines_eq
    (connection : NetworkConnection)
    (coordination : Coordination)
    (sender receiver : String) :
    joinLines (connection.message.comment connection.sendingPort sender receiver ::
        connection.sendLines connection.requestedSerializer coordination) =
      connection.message.senderText coordination connection.sendingPort sender
        receiver := by
  rw [joinLines_sendLines, sendCall_eq, encodeCall_eq]
  rfl

/-- The message can be read from the body. -/
theorem Message.senderText_inj
    {left right : Message}
    (leftFree : ∀ delay, left.delay = some delay -> '_' ∉ delay.toList)
    (rightFree : ∀ delay, right.delay = some delay -> '_' ∉ delay.toList)
    {sender leftReceiver rightReceiver : String}
    (sameReceiver : left.receiver = right.receiver -> leftReceiver = rightReceiver)
    {coordination : Coordination}
    {port : VarRef} :
    left.senderText coordination port sender leftReceiver =
        right.senderText coordination port sender rightReceiver ↔
      left = right := by
  constructor
  · intro equal
    rw [senderText, senderText, String.append_left_inj, String.append_left_inj] at equal
    obtain ⟨beforeCall, receivers, portIds, delays⟩ :=
      append_call_inj leftFree rightFree equal
    rw [String.append_left_inj, String.append_left_inj, String.append_left_inj]
      at beforeCall
    obtain ⟨beforeEncoding, protocols⟩ := append_encodeCall_inj beforeCall
    rw [String.append_left_inj, String.append_left_inj, String.append_left_inj,
      sameReceiver receivers] at beforeEncoding
    unfold comment at beforeEncoding
    rw [String.append_left_inj, String.append_left_inj, String.append_right_inj]
      at beforeEncoding
    exact Message.ext receivers beforeEncoding portIds delays protocols
  · intro equal
    rw [equal, sameReceiver (congrArg receiver equal)]

end ReactorGen
