import ReactorGen.Proofs.Results
import ReactorGen.Proofs.SenderBodies
import ReactorGen.ReactionCode.Reactions

/-!
# The bodies of connections

What the two bodies of a connection start with, and what the native body of a
delayed connection starts with instead: no body is taken for another kind of body.
-/

namespace ReactorGen

open Text

namespace Program

variable
  {program : Program}
  {settings : Settings}
  {connection : NetworkConnection}
  {sender receiver : Federate}

theorem resolveSerializer_of_supports
    (supported :
      settings.supportsSerializer connection.requestedSerializer = true) :
    program.resolveSerializer settings connection =
      .ok connection.requestedSerializer := by
  simp only [resolveSerializer, supported, if_true]
  rfl

theorem routeComment_eq
    (senderKnown : program.federateAt connection.sendingFederate = .ok sender)
    (receiverKnown : program.federateAt connection.receivingFederate = .ok receiver)
    (verb : String) :
    program.routeComment verb connection =
      .ok ("// " ++ verb ++ " from " ++ connection.sendingPort.dotted ++
        " in federate " ++ sender.name ++ " to " ++ connection.receivingPort.dotted ++
        " in federate " ++ receiver.name) := by
  rw [routeComment, senderKnown, Result.ok_bind, receiverKnown, Result.ok_bind]
  rfl

theorem senderBody_of_routeComment
    (supported :
      settings.supportsSerializer connection.requestedSerializer = true)
    {comment : String}
    (commented : program.routeComment "Sending" connection = .ok comment) :
    program.senderBody settings connection =
      .ok (joinLines (comment ::
        connection.sendLines connection.requestedSerializer settings.coordination)) := by
  rw [senderBody, resolveSerializer_of_supports supported, Result.ok_bind, commented]
  rfl

theorem receiverBody_of_routeComment
    (supported :
      settings.supportsSerializer connection.requestedSerializer = true)
    {comment : String}
    (commented : program.routeComment "Receiving" connection = .ok comment) :
    program.receiverBody settings connection =
      .ok (joinLines (comment ::
        connection.receiveLines connection.requestedSerializer settings)) := by
  rw [receiverBody, resolveSerializer_of_supports supported, Result.ok_bind, commented]
  rfl

/-- The body that sends on a connection is written from its message. -/
theorem senderBody_eq
    (supported :
      settings.supportsSerializer connection.requestedSerializer = true)
    (senderKnown : program.federateAt connection.sendingFederate = .ok sender)
    (receiverKnown : program.federateAt connection.receivingFederate = .ok receiver) :
    program.senderBody settings connection =
      .ok (connection.message.senderText settings.coordination connection.sendingPort
        sender.name receiver.name) := by
  have commented : program.routeComment "Sending" connection =
      .ok (connection.message.comment connection.sendingPort sender.name
        receiver.name) := by
    have opening : "// " ++ "Sending" ++ " from " = "// Sending from " := by decide
    rw [routeComment_eq senderKnown receiverKnown, opening]
    rfl
  rw [senderBody_of_routeComment supported commented, NetworkConnection.sendLines_eq]

/-- What a text of lines starts with. -/
theorem exists_joinLines (opening first : String) (rest : List String) :
    ∃ after, joinLines ((opening ++ first) :: rest) = opening ++ after := by
  cases rest with
  | nil => exact ⟨first, by rw [joinLines, String.intercalate_singleton]⟩
  | cons second others =>
    rw [joinLines, String.intercalate_cons_cons, String.append_assoc, String.append_assoc]
    exact ⟨_, rfl⟩

/-- What a body that sends starts with. -/
theorem exists_senderBody
    (supported :
      settings.supportsSerializer connection.requestedSerializer = true)
    (senderKnown : program.federateAt connection.sendingFederate = .ok sender)
    (receiverKnown : program.federateAt connection.receivingFederate = .ok receiver) :
    ∃ rest, program.senderBody settings connection = .ok ("// Sending" ++ rest) := by
  have commented := routeComment_eq senderKnown receiverKnown "Sending"
  have opening : "// " ++ "Sending" = "// Sending" := by decide
  simp only [opening, String.append_assoc] at commented
  rw [senderBody_of_routeComment supported commented]
  obtain ⟨rest, text_eq⟩ := exists_joinLines "// Sending" _ _
  exact ⟨rest, congrArg Except.ok text_eq⟩

/-- What a body that receives starts with. -/
theorem exists_receiverBody
    (supported :
      settings.supportsSerializer connection.requestedSerializer = true)
    (senderKnown : program.federateAt connection.sendingFederate = .ok sender)
    (receiverKnown : program.federateAt connection.receivingFederate = .ok receiver) :
    ∃ rest, program.receiverBody settings connection = .ok ("// Receiving" ++ rest) := by
  have commented := routeComment_eq senderKnown receiverKnown "Receiving"
  have opening : "// " ++ "Receiving" = "// Receiving" := by decide
  simp only [opening, String.append_assoc] at commented
  rw [receiverBody_of_routeComment supported commented]
  obtain ⟨rest, text_eq⟩ := exists_joinLines "// Receiving" _ _
  exact ⟨rest, congrArg Except.ok text_eq⟩

end Program

/-- A blank text has no comment. -/
theorem ne_comment_of_isBlankText
    {text : String}
    (blank : isBlankText text = true)
    (rest : String) :
    text ≠ "/" ++ rest := by
  intro equal
  rw [isBlankText, List.all_eq_true] at blank
  have slash : '/' ∈ text.toList := by
    rw [equal, String.toList_append]
    exact List.mem_append_left _ (by decide)
  have notBlank : isBlank '/' = false := by decide
  rw [blank '/' slash] at notBlank
  exact Bool.noConfusion notBlank

theorem exists_forwardBody (action port : String) (isToken : Bool) :
    ∃ rest, forwardBody action port isToken = "SET" ++ rest := by
  have token : "SET" ++ "_TOKEN(" = "SET_TOKEN(" := by decide
  have value : "SET" ++ "(" = "SET(" := by decide
  cases isToken with
  | true =>
    rw [forwardBody, if_pos rfl, ← token]
    simp only [String.append_assoc]
    exact ⟨_, rfl⟩
  | false =>
    rw [forwardBody, if_neg Bool.false_ne_true, ← value]
    simp only [String.append_assoc]
    exact ⟨_, rfl⟩

theorem exists_delayBody (action port : String) (isToken : Bool) :
    (∃ rest, delayBody action port isToken = "if (" ++ rest) ∨
      ∃ rest, delayBody action port isToken = "// Create" ++ rest := by
  cases isToken with
  | true =>
    refine .inl ?_
    rw [delayBody, if_pos rfl, String.append_assoc]
    exact Program.exists_joinLines "if (" _ _
  | false =>
    have opening : "// Create" ++ " a token." = "// Create a token." := by decide
    refine .inr ?_
    rw [delayBody, if_neg Bool.false_ne_true, ← opening]
    exact Program.exists_joinLines "// Create" _ _

namespace ReactorClass

/-- A class of a delayed connection never says that a message is sent or received. -/
theorem delayedConnectionBody_ne
    {reaction : Reaction}
    (blank : isBlankText reaction.body = true)
    (reactorClass : ReactorClass)
    (layout : SelfStruct)
    (rest : String) :
    reactorClass.delayedConnectionBody layout reaction ≠ "// Sending" ++ rest ∧
      reactorClass.delayedConnectionBody layout reaction ≠ "// Receiving" ++ rest := by
  have sending : "// Sending" = "/" ++ "/ Sending" := by decide
  have receiving : "// Receiving" = "/" ++ "/ Receiving" := by decide
  unfold delayedConnectionBody
  split
  · rename_i action port _ _
    obtain ⟨after, body_eq⟩ := exists_forwardBody action.flat port.flat
      (reactorClass.actionCarriesToken action)
    rw [body_eq]
    exact ⟨append_ne_append_of_take 1 (by decide) (by decide) (by decide) _ _,
      append_ne_append_of_take 1 (by decide) (by decide) (by decide) _ _⟩
  · split
    · rename_i port action _ _
      rcases exists_delayBody action.flat port.flat
        (reactorClass.actionCarriesToken action) with ⟨after, body_eq⟩ | ⟨after, body_eq⟩
      · rw [body_eq]
        exact ⟨append_ne_append_of_take 1 (by decide) (by decide) (by decide) _ _,
          append_ne_append_of_take 1 (by decide) (by decide) (by decide) _ _⟩
      · rw [body_eq]
        exact ⟨append_ne_append_of_take 4 (by decide) (by decide) (by decide) _ _,
          append_ne_append_of_take 4 (by decide) (by decide) (by decide) _ _⟩
    · rw [sending, receiving, String.append_assoc, String.append_assoc]
      exact ⟨ne_comment_of_isBlankText blank _, ne_comment_of_isBlankText blank _⟩

end ReactorClass
end ReactorGen
