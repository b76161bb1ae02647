import ReactorGen.Proofs.ConnectionBodies

/-!
# How connections are served

The main reactor of a federated program has reactions without bodies, and each of
them is to serve one connection of the federate.  A reaction gets the body of the
first connection that its trigger belongs to, so a connection is served by the
reaction that stands ready for it exactly when no earlier connection is taken for
it: connections from one port have to carry the same message, and no federate may
send from a port that is called like an action it receives with.
-/

namespace ReactorGen

open Text

/-- The function of a reaction at a position, as generation makes it. -/
def Program.reactionCodeAt
    (program : Program)
    (settings : Settings)
    (federate : Federate)
    (reactorClass : ReactorClass)
    (layout : SelfStruct)
    (index : Nat) : Except Failure ReactionCode :=
  if program.classIsNative reactorClass then
    program.nativeReaction settings federate reactorClass layout index
  else interpreterShim reactorClass layout index

/-- The connection at a position is one that a federate sends on. -/
def Program.SendsAt
    (program : Program)
    (federate : Federate)
    (position : Nat)
    (connection : NetworkConnection) : Prop :=
  program.connections[position]? = some connection ∧
    connection.sendingFederate = federate.id

/-- The connection at a position is one that a federate receives on. -/
def Program.ReceivesAt
    (program : Program)
    (federate : Federate)
    (position : Nat)
    (connection : NetworkConnection) : Prop :=
  program.connections[position]? = some connection ∧
    connection.receivingFederate = federate.id

/-- A federate is concerned with what it sends or receives on. -/
theorem NetworkConnection.concerns_iff
    {connection : NetworkConnection}
    {federate : Federate} :
    connection.concerns federate = true ↔
      connection.sendingFederate = federate.id ∨
        connection.receivingFederate = federate.id := by
  rw [concerns, Bool.or_eq_true, decide_eq_true_eq, decide_eq_true_eq]

namespace Program

theorem exists_sendsAt
    {program : Program}
    {federate : Federate}
    {connection : NetworkConnection}
    (member : connection ∈ program.connections)
    (sends : connection.sendingFederate = federate.id) :
    ∃ position, program.SendsAt federate position connection := by
  obtain ⟨position, at_⟩ := List.mem_iff_getElem?.mp member
  exact ⟨position, at_, sends⟩

theorem exists_receivesAt
    {program : Program}
    {federate : Federate}
    {connection : NetworkConnection}
    (member : connection ∈ program.connections)
    (receives : connection.receivingFederate = federate.id) :
    ∃ position, program.ReceivesAt federate position connection := by
  obtain ⟨position, at_⟩ := List.mem_iff_getElem?.mp member
  exact ⟨position, at_, receives⟩

/-- The first connection that a federate sends from a port. -/
def firstSent?
    (program : Program)
    (federate : Federate)
    (port : VarRef) : Option NetworkConnection :=
  program.connections.find? fun connection =>
    connection.sendingFederate = federate.id && connection.sendingPort = port

/-- The first connection that a federate receives with an action. -/
def firstReceived?
    (program : Program)
    (federate : Federate)
    (action : VarRef) : Option NetworkConnection :=
  program.connections.find? fun connection =>
    connection.receivingFederate = federate.id &&
      .own connection.receivingAction = action

/-- The first connection from a port is one of the connections from that port. -/
theorem firstSent?_eq_some
    {program : Program}
    {federate : Federate}
    {port : VarRef}
    {first : NetworkConnection}
    (found : program.firstSent? federate port = some first) :
    first ∈ program.connections ∧ first.sendingFederate = federate.id ∧
      first.sendingPort = port := by
  have property := List.find?_some found
  simp only [Bool.and_eq_true, decide_eq_true_eq] at property
  exact ⟨List.mem_of_find?_eq_some found, property⟩

theorem exists_firstSent?
    {program : Program}
    {federate : Federate}
    {connection : NetworkConnection}
    (member : connection ∈ program.connections)
    (sends : connection.sendingFederate = federate.id) :
    ∃ first, program.firstSent? federate connection.sendingPort = some first := by
  rw [← Option.isSome_iff_exists, firstSent?, List.find?_isSome]
  exact ⟨connection, member, by simp [sends]⟩

theorem firstReceived?_eq_some
    {program : Program}
    {federate : Federate}
    {action : String}
    {first : NetworkConnection}
    (found : program.firstReceived? federate (.own action) = some first) :
    first ∈ program.connections ∧ first.receivingFederate = federate.id ∧
      first.receivingAction = action := by
  have property := List.find?_some found
  simp only [Bool.and_eq_true, decide_eq_true_eq, VarRef.own, VarRef.mk.injEq, true_and]
    at property
  exact ⟨List.mem_of_find?_eq_some found, property⟩

theorem exists_firstReceived?
    {program : Program}
    {federate : Federate}
    {connection : NetworkConnection}
    (member : connection ∈ program.connections)
    (receives : connection.receivingFederate = federate.id) :
    ∃ first,
      program.firstReceived? federate (.own connection.receivingAction) = some first := by
  rw [← Option.isSome_iff_exists, firstReceived?, List.find?_isSome]
  exact ⟨connection, member, by simp [receives]⟩

end Program

/-- The main reactor of a federated program in one of its federates. -/
structure MainReactor (program : Program) (federate : Federate) where
  node : ReactorInstance
  reactorClass : ReactorClass
  /-- The self struct of the main reactor in the federate. -/
  layout : SelfStruct
  node_eq : program.tree.node ReactorTree.root = .ok node
  isRoot : node.parent = none
  class_eq : program.classAt node.reactorClass = .ok reactorClass
  layout_eq : program.selfStruct federate node.reactorClass = .ok layout
  isMain : reactorClass.isMain = true
  isFederated : program.isFederated = true

namespace MainReactor

variable
  {program : Program}
  {federate : Federate}

/-- Whether a reaction belongs to the federate and is generated with a native
body. -/
def Generates
    (main : MainReactor program federate)
    (settings : Settings)
    (index : Nat)
    (body : String) : Prop :=
  (∃ positions, program.classReactions federate main.node.reactorClass = .ok positions ∧
    index ∈ positions) ∧
  ∃ code,
    program.reactionCodeAt settings federate main.reactorClass main.layout index =
        .ok code ∧
      code.reaction.body = .native body

/-- A reaction that stands ready to serve what one variable triggers. -/
structure ReadyReaction
    (main : MainReactor program federate)
    (trigger : VarRef)
    (index : Nat) where
  reaction : Reaction
  reaction_eq : main.reactorClass.reactions[index]? = some reaction
  assigned : index ∈ federate.networkReactions
  blank : isBlankText reaction.body = true
  triggers : reaction.triggers = [.var trigger]
  resolves : ∀ ref ∈ reaction.variables,
    (main.layout.binding? ref).isSome = true

/-- A reaction for each end of a connection that a federate has. -/
structure ConnectionAssignment
    (main : MainReactor program federate)
    (settings : Settings) where
  /-- The reaction that is to send on the connection at a position. -/
  sender : Nat -> Nat
  /-- The reaction that is to receive on the connection at a position. -/
  receiver : Nat -> Nat
  sends : ∀ position connection, program.SendsAt federate position connection ->
    ReadyReaction main connection.sendingPort (sender position)
  receives : ∀ position connection, program.ReceivesAt federate position connection ->
    ReadyReaction main (.own connection.receivingAction) (receiver position)
  /-- No two connections are to be served by one reaction. -/
  sender_injective : ∀ first second left right,
    program.SendsAt federate first left -> program.SendsAt federate second right ->
    sender first = sender second -> first = second
  receiver_injective : ∀ first second left right,
    program.ReceivesAt federate first left -> program.ReceivesAt federate second right ->
    receiver first = receiver second -> first = second
  sender_ne_receiver : ∀ first second left right,
    program.SendsAt federate first left -> program.ReceivesAt federate second right ->
    sender first ≠ receiver second
  /-- Connections that the federate receives on have actions of their own. -/
  distinctActions : ∀ first second left right,
    program.ReceivesAt federate first left -> program.ReceivesAt federate second right ->
    left.receivingAction = right.receivingAction -> first = second
  supported : ∀ connection ∈ program.connections, connection.concerns federate = true ->
    settings.supportsSerializer connection.requestedSerializer = true
  /-- Both ends of a connection exist. -/
  known : ∀ connection ∈ program.connections, connection.concerns federate = true ->
    ∃ sender receiver,
      program.federateAt connection.sendingFederate = .ok sender ∧
        program.federateAt connection.receivingFederate = .ok receiver

/-- Every reaction is generated with the body of the connection that it is to
serve. -/
structure ConnectionAssignment.Serves
    {main : MainReactor program federate}
    {settings : Settings}
    (assignment : ConnectionAssignment main settings) : Prop where
  sends : ∀ position connection, program.SendsAt federate position connection ->
    ∃ body, program.senderBody settings connection = .ok body ∧
      main.Generates settings (assignment.sender position) body
  receives : ∀ position connection, program.ReceivesAt federate position connection ->
    ∃ body, program.receiverBody settings connection = .ok body ∧
      main.Generates settings (assignment.receiver position) body

/-- The connections of a federate can be told apart by what triggers their
reactions. -/
structure KeepsConnectionsApart (main : MainReactor program federate) : Prop where
  /-- The main reactor does not implement a delayed connection. -/
  notDelay : ∀ connection ∈ program.connections, connection.concerns federate = true ->
    main.reactorClass.isDelay = false
  /-- Connections from one port carry the same message. -/
  samePort : ∀ left ∈ program.connections, ∀ right ∈ program.connections,
    left.sendingFederate = federate.id -> right.sendingFederate = federate.id ->
    left.sendingPort = right.sendingPort -> left.message = right.message
  /-- No port that the federate sends from is called like an action that it receives
  with. -/
  otherPort : ∀ left ∈ program.connections, ∀ right ∈ program.connections,
    left.sendingFederate = federate.id -> right.receivingFederate = federate.id ->
    left.sendingPort ≠ .own right.receivingAction

/-! ## The body of a ready reaction -/

section

variable
  {main : MainReactor program federate}
  {settings : Settings}
  {trigger : VarRef}
  {index : Nat}

/-- The reactions of the main reactor are native. -/
theorem classIsNative (main : MainReactor program federate) :
    program.classIsNative main.reactorClass = true := by
  rw [Program.classIsNative, main.isMain, main.isFederated]
  exact Bool.or_true _

/-- The main reactor asks only for the list of the federate. -/
theorem containsReaction_root
    (main : MainReactor program federate)
    {index : Nat}
    (assigned : index ∈ federate.networkReactions) :
    federate.containsReaction program.tree ReactorTree.root index = .ok true := by
  rw [Federate.containsReaction, main.node_eq, Result.ok_bind, main.isRoot]
  split
  · rfl
  · simp [assigned, pure, Except.pure]

theorem exists_containsReaction_root (main : MainReactor program federate) (index : Nat) :
    ∃ answer,
      federate.containsReaction program.tree ReactorTree.root index = .ok answer := by
  rw [Federate.containsReaction, main.node_eq, Result.ok_bind, main.isRoot]
  split
  · exact ⟨_, rfl⟩
  · exact ⟨_, rfl⟩

namespace ReadyReaction

/-- A reaction that is listed for the federate belongs to it. -/
theorem mem_classReactions (ready : ReadyReaction main trigger index) :
    ∃ positions,
      program.classReactions federate main.node.reactorClass = .ok positions ∧
        index ∈ positions := by
  have rootClass : program.rootClass = .ok main.node.reactorClass := by
    rw [Program.rootClass, main.node_eq]
    rfl
  have tested : ∀ position ∈ List.range main.reactorClass.reactions.length,
      ∃ answer,
        federate.containsReaction program.tree ReactorTree.root position = .ok answer :=
    fun position _ => main.exists_containsReaction_root position
  have selected : program.classReactions federate main.node.reactorClass =
      .ok ((List.range main.reactorClass.reactions.length).filter fun position =>
        Result.holds
          (federate.containsReaction program.tree ReactorTree.root position)) := by
    rw [Program.classReactions, rootClass]
    simp only [Result.ok_bind, main.class_eq, if_true]
    exact Result.filterM_eq_ok.mpr ⟨tested, rfl⟩
  refine ⟨_, selected, ?_⟩
  obtain ⟨inRange, _⟩ := List.getElem?_eq_some_iff.mp ready.reaction_eq
  rw [List.mem_filter, List.mem_range, main.containsReaction_root ready.assigned]
  exact ⟨inRange, rfl⟩

/-- What generation makes of a body that is blank. -/
def bodyResult (ready : ReadyReaction main trigger index) (settings : Settings) :
    Except Failure String :=
  if main.reactorClass.isDelay then
    .ok (main.reactorClass.delayedConnectionBody main.layout ready.reaction)
  else program.federatedBody settings federate ready.reaction

/-- The variables of a ready reaction have bindings. -/
theorem exists_resolve (ready : ReadyReaction main trigger index) :
    ∃ bindings,
      main.layout.resolve main.reactorClass index ready.reaction = .ok bindings := by
  apply Result.exists_mapM
  intro ref member
  obtain ⟨binding, found⟩ := Option.isSome_iff_exists.mp (ready.resolves ref member)
  exact ⟨binding, by rw [found]⟩

/-- A ready reaction is generated with the body that generation makes for it. -/
theorem generates_iff
    (ready : ReadyReaction main trigger index)
    {body : String} :
    main.Generates settings index body ↔ ready.bodyResult settings = .ok body := by
  obtain ⟨bindings, resolved⟩ := ready.exists_resolve
  have found : main.reactorClass.reaction index = .ok ready.reaction := by
    rw [ReactorClass.reaction, ready.reaction_eq]
    rfl
  have belongs := ready.mem_classReactions
  simp only [Generates, belongs, true_and, Program.reactionCodeAt, main.classIsNative,
    if_true, Program.nativeReaction, found, Result.liftM_ok, Result.ok_bind, resolved,
    bodyResult]
  cases main.reactorClass.isDelay with
  | true =>
    simp only [if_true, pure_bind, Result.pure_eq_ok, Except.ok.injEq]
    constructor
    · rintro ⟨code, rfl, body_eq⟩
      exact FunctionBody.native.inj body_eq
    · rintro rfl
      exact ⟨_, rfl, rfl⟩
  | false =>
    simp only [Bool.false_eq_true, if_false, Result.bind_eq_ok, Result.pure_eq_ok]
    constructor
    · rintro ⟨code, ⟨generated, generated_eq, rfl⟩, body_eq⟩
      rw [generated_eq, FunctionBody.native.inj body_eq]
    · intro generated_eq
      exact ⟨_, ⟨body, generated_eq, rfl⟩, rfl⟩

/-- A reaction with one trigger is triggered by nothing else. -/
theorem triggeredBy_eq (ready : ReadyReaction main trigger index) (ref : VarRef) :
    ready.reaction.triggeredBy ref = decide (ref = trigger) := by
  rw [Reaction.triggeredBy, ready.triggers]
  simp

theorem sentBy?_eq (ready : ReadyReaction main trigger index) :
    program.sentBy? federate ready.reaction = program.firstSent? federate trigger := by
  simp only [Program.sentBy?, Program.firstSent?, ready.triggeredBy_eq]

theorem receivedBy?_eq (ready : ReadyReaction main trigger index) :
    program.receivedBy? federate ready.reaction =
      program.firstReceived? federate trigger := by
  simp only [Program.receivedBy?, Program.firstReceived?, ready.triggeredBy_eq]

/-- A ready reaction sends on the first connection from its trigger. -/
theorem bodyResult_of_sent
    (ready : ReadyReaction main trigger index)
    (notDelay : main.reactorClass.isDelay = false)
    {first : NetworkConnection}
    (found : program.firstSent? federate trigger = some first) :
    ready.bodyResult settings = program.senderBody settings first := by
  simp only [bodyResult, notDelay, Bool.false_eq_true, if_false, Program.federatedBody,
    ready.blank, Bool.not_true, ready.sentBy?_eq, found]

/-- A ready reaction receives on the first connection with its trigger, unless it
sends. -/
theorem bodyResult_of_received
    (ready : ReadyReaction main trigger index)
    (notDelay : main.reactorClass.isDelay = false)
    (notSent : program.firstSent? federate trigger = none)
    {first : NetworkConnection}
    (found : program.firstReceived? federate trigger = some first) :
    ready.bodyResult settings = program.receiverBody settings first := by
  simp only [bodyResult, notDelay, Bool.false_eq_true, if_false, Program.federatedBody,
    ready.blank, Bool.not_true, ready.sentBy?_eq, notSent, ready.receivedBy?_eq, found]

theorem bodyResult_of_isDelay
    (ready : ReadyReaction main trigger index)
    (isDelay : main.reactorClass.isDelay = true) :
    ready.bodyResult settings =
      .ok (main.reactorClass.delayedConnectionBody main.layout ready.reaction) := by
  rw [bodyResult, if_pos isDelay]

end ReadyReaction

end

/-! ## When connections are served -/

namespace ConnectionAssignment

variable
  {main : MainReactor program federate}
  {settings : Settings}
  (assignment : ConnectionAssignment main settings)

/-- No body of a main reactor that implements a delayed connection serves. -/
theorem not_isDelay_of_generates
    {trigger : VarRef}
    {index : Nat}
    (ready : ReadyReaction main trigger index)
    {opening rest : String}
    (isOpening : opening = "// Sending" ∨ opening = "// Receiving")
    (generates : main.Generates settings index (opening ++ rest)) :
    main.reactorClass.isDelay = false := by
  cases isDelay : main.reactorClass.isDelay with
  | false => rfl
  | true =>
    rw [ready.generates_iff, ready.bodyResult_of_isDelay isDelay] at generates
    have different := main.reactorClass.delayedConnectionBody_ne ready.blank main.layout rest
    rcases isOpening with rfl | rfl
    · exact absurd (Except.ok.inj generates) different.1
    · exact absurd (Except.ok.inj generates) different.2

include assignment

theorem exists_senderBody
    {connection : NetworkConnection}
    (member : connection ∈ program.connections)
    (concerns : connection.concerns federate = true) :
    ∃ rest, program.senderBody settings connection = .ok ("// Sending" ++ rest) := by
  obtain ⟨sender, receiver, senderKnown, receiverKnown⟩ :=
    assignment.known connection member concerns
  exact Program.exists_senderBody (assignment.supported connection member concerns)
    senderKnown receiverKnown

theorem exists_receiverBody
    {connection : NetworkConnection}
    (member : connection ∈ program.connections)
    (concerns : connection.concerns federate = true) :
    ∃ rest, program.receiverBody settings connection = .ok ("// Receiving" ++ rest) := by
  obtain ⟨sender, receiver, senderKnown, receiverKnown⟩ :=
    assignment.known connection member concerns
  exact Program.exists_receiverBody (assignment.supported connection member concerns)
    senderKnown receiverKnown

/-- Connections from one port have the same body exactly when they carry the same
message. -/
theorem senderBody_eq_iff
    {left right : NetworkConnection}
    (leftMember : left ∈ program.connections)
    (rightMember : right ∈ program.connections)
    (leftSends : left.sendingFederate = federate.id)
    (rightSends : right.sendingFederate = federate.id)
    (samePort : left.sendingPort = right.sendingPort) :
    program.senderBody settings left = program.senderBody settings right ↔
      left.message = right.message := by
  have leftConcerns := NetworkConnection.concerns_iff.mpr (.inl leftSends)
  have rightConcerns := NetworkConnection.concerns_iff.mpr (.inl rightSends)
  obtain ⟨leftSender, leftReceiver, leftSenderKnown, leftReceiverKnown⟩ :=
    assignment.known left leftMember leftConcerns
  obtain ⟨rightSender, rightReceiver, rightSenderKnown, rightReceiverKnown⟩ :=
    assignment.known right rightMember rightConcerns
  have sameSender : leftSender = rightSender := by
    rw [leftSends, ← rightSends, rightSenderKnown] at leftSenderKnown
    exact (Except.ok.inj leftSenderKnown).symm
  have sameReceiver (equal : left.message.receiver = right.message.receiver) :
      leftReceiver.name = rightReceiver.name := by
    change left.receivingFederate = right.receivingFederate at equal
    rw [equal, rightReceiverKnown] at leftReceiverKnown
    rw [Except.ok.inj leftReceiverKnown]
  rw [Program.senderBody_eq (assignment.supported left leftMember leftConcerns)
      leftSenderKnown leftReceiverKnown,
    Program.senderBody_eq (assignment.supported right rightMember rightConcerns)
      rightSenderKnown rightReceiverKnown,
    sameSender, samePort, Except.ok.injEq]
  exact Message.senderText_inj (fun _ => left.underscore_not_mem_delay)
    (fun _ => right.underscore_not_mem_delay) sameReceiver

/-- A main reactor whose connections are served implements no delayed connection. -/
theorem isDelay_of_serves
    (serves : assignment.Serves)
    {connection : NetworkConnection}
    (member : connection ∈ program.connections)
    (concerns : connection.concerns federate = true) :
    main.reactorClass.isDelay = false := by
  rcases NetworkConnection.concerns_iff.mp concerns with sends | receives
  · obtain ⟨position, sendsAt⟩ := Program.exists_sendsAt member sends
    obtain ⟨rest, body_eq⟩ := assignment.exists_senderBody member concerns
    obtain ⟨body, sent, generates⟩ := serves.sends position connection sendsAt
    rw [body_eq] at sent
    rw [← Except.ok.inj sent] at generates
    exact not_isDelay_of_generates (assignment.sends position connection sendsAt)
      (.inl rfl) generates
  · obtain ⟨position, receivesAt⟩ := Program.exists_receivesAt member receives
    obtain ⟨rest, body_eq⟩ := assignment.exists_receiverBody member concerns
    obtain ⟨body, received, generates⟩ := serves.receives position connection receivesAt
    rw [body_eq] at received
    rw [← Except.ok.inj received] at generates
    exact not_isDelay_of_generates (assignment.receives position connection receivesAt)
      (.inr rfl) generates

/-- A connection that is served has the body of the first connection from its port. -/
theorem senderBody_eq_of_serves
    (serves : assignment.Serves)
    {connection first : NetworkConnection}
    (member : connection ∈ program.connections)
    (sends : connection.sendingFederate = federate.id)
    (found : program.firstSent? federate connection.sendingPort = some first) :
    program.senderBody settings first = program.senderBody settings connection := by
  obtain ⟨position, sendsAt⟩ := Program.exists_sendsAt member sends
  obtain ⟨body, body_eq, generates⟩ := serves.sends position connection sendsAt
  have ready := assignment.sends position connection sendsAt
  have notDelay := assignment.isDelay_of_serves serves member
    (NetworkConnection.concerns_iff.mpr (.inl sends))
  rw [ready.generates_iff, ready.bodyResult_of_sent notDelay found] at generates
  rw [generates, body_eq]

/-- The reaction of a connection that is served and that the federate receives on is not
triggered by a port that it sends from. -/
theorem sendingPort_ne_of_serves
    (serves : assignment.Serves)
    {left right : NetworkConnection}
    (leftMember : left ∈ program.connections)
    (rightMember : right ∈ program.connections)
    (leftSends : left.sendingFederate = federate.id)
    (rightReceives : right.receivingFederate = federate.id) :
    left.sendingPort ≠ .own right.receivingAction := by
  intro samePort
  have rightConcerns := NetworkConnection.concerns_iff.mpr (.inr rightReceives)
  obtain ⟨first, found⟩ := Program.exists_firstSent? leftMember leftSends
  obtain ⟨firstMember, firstSends, _⟩ := Program.firstSent?_eq_some found
  obtain ⟨sending, sending_eq⟩ := assignment.exists_senderBody firstMember
    (NetworkConnection.concerns_iff.mpr (.inl firstSends))
  obtain ⟨receiving, receiving_eq⟩ :=
    assignment.exists_receiverBody rightMember rightConcerns
  obtain ⟨position, receivesAt⟩ := Program.exists_receivesAt rightMember rightReceives
  obtain ⟨body, body_eq, generates⟩ := serves.receives position right receivesAt
  have ready := assignment.receives position right receivesAt
  have notDelay := assignment.isDelay_of_serves serves rightMember rightConcerns
  rw [samePort] at found
  rw [ready.generates_iff, ready.bodyResult_of_sent notDelay found, sending_eq,
    ← body_eq, receiving_eq, Except.ok.injEq] at generates
  exact append_ne_append_of_take 4 (by decide) (by decide) (by decide) _ _ generates

/-- Where every connection is served, connections can be told apart. -/
theorem keepsConnectionsApart_of_serves (serves : assignment.Serves) :
    KeepsConnectionsApart main := by
  constructor
  case notDelay =>
    intro connection member concerns
    exact assignment.isDelay_of_serves serves member concerns
  case samePort =>
    intro left leftMember right rightMember leftSends rightSends samePort
    obtain ⟨first, found⟩ := Program.exists_firstSent? leftMember leftSends
    have leftServed := assignment.senderBody_eq_of_serves serves leftMember leftSends found
    rw [samePort] at found
    have rightServed :=
      assignment.senderBody_eq_of_serves serves rightMember rightSends found
    rw [← assignment.senderBody_eq_iff leftMember rightMember leftSends rightSends samePort,
      ← leftServed, rightServed]
  case otherPort =>
    intro left leftMember right rightMember leftSends rightReceives
    exact assignment.sendingPort_ne_of_serves serves leftMember rightMember leftSends
      rightReceives

/-- Where connections can be told apart, every connection is served. -/
theorem serves_of_keepsConnectionsApart (apart : KeepsConnectionsApart main) :
    assignment.Serves := by
  refine ⟨?_, ?_⟩
  · intro position connection sendsAt
    have member := List.mem_of_getElem? sendsAt.1
    have concerns := NetworkConnection.concerns_iff.mpr (.inl sendsAt.2)
    obtain ⟨rest, body_eq⟩ := assignment.exists_senderBody member concerns
    obtain ⟨first, found⟩ := Program.exists_firstSent? member sendsAt.2
    obtain ⟨firstMember, firstSends, samePort⟩ := Program.firstSent?_eq_some found
    have sameMessage := apart.samePort first firstMember connection member firstSends
      sendsAt.2 samePort
    have sameBody := (assignment.senderBody_eq_iff firstMember member firstSends sendsAt.2
      samePort).mpr sameMessage
    have ready := assignment.sends position connection sendsAt
    refine ⟨_, body_eq, ?_⟩
    rw [ready.generates_iff,
      ready.bodyResult_of_sent (apart.notDelay connection member concerns) found, sameBody,
      body_eq]
  · intro position connection receivesAt
    have member := List.mem_of_getElem? receivesAt.1
    have concerns := NetworkConnection.concerns_iff.mpr (.inr receivesAt.2)
    obtain ⟨rest, body_eq⟩ := assignment.exists_receiverBody member concerns
    have notSent :
        program.firstSent? federate (.own connection.receivingAction) = none := by
      rw [Option.eq_none_iff_forall_ne_some]
      intro sent found
      obtain ⟨sentMember, sentSends, samePort⟩ := Program.firstSent?_eq_some found
      exact apart.otherPort sent sentMember connection member sentSends receivesAt.2 samePort
    obtain ⟨first, found⟩ := Program.exists_firstReceived? member receivesAt.2
    obtain ⟨firstMember, firstReceives, sameAction⟩ := Program.firstReceived?_eq_some found
    obtain ⟨firstPosition, firstAt⟩ := List.mem_iff_getElem?.mp firstMember
    have samePosition := assignment.distinctActions firstPosition position first connection
      ⟨firstAt, firstReceives⟩ receivesAt sameAction
    have same : first = connection := by
      rw [samePosition, receivesAt.1] at firstAt
      exact (Option.some.inj firstAt).symm
    rw [same] at found
    have ready := assignment.receives position connection receivesAt
    refine ⟨_, body_eq, ?_⟩
    rw [ready.generates_iff, ready.bodyResult_of_received
      (apart.notDelay connection member concerns) notSent found, body_eq]

/-- Every connection of a federate is served by the reaction that stands ready for it
exactly when the connections can be told apart by what triggers their reactions: a
second message from one port is lost, and the first one is sent twice. -/
theorem serves_iff_keepsConnectionsApart :
    assignment.Serves ↔ KeepsConnectionsApart main :=
  ⟨assignment.keepsConnectionsApart_of_serves, assignment.serves_of_keepsConnectionsApart⟩

end ConnectionAssignment
end MainReactor

/-! ## A port with two receivers -/

namespace FanOut

/-- The port that both connections leave from. -/
def port : VarRef := ⟨some "source", "out"⟩

/-- A reaction without a body. -/
def relay (trigger : VarRef) (effects : List VarRef) : Reaction :=
  ⟨[.var trigger], [], effects, "", none, none⟩

def mainClass : ReactorClass :=
  { ReactorClass.ofName "Main" with
    reactions := [relay port [], relay port []]
    isMain := true
    isFederated := true }

def sourceClass : ReactorClass :=
  { ReactorClass.ofName "Source" with outputs := [⟨"out", none, none⟩] }

/-- A connection from the port to a receiver. -/
def connection (receiver : Nat) (container action : String) : NetworkConnection where
  sendingFederate := ⟨0⟩
  sendingPort := port
  receivingFederate := ⟨receiver⟩
  receivingPort := ⟨some container, "in"⟩
  receivingPortId := 0
  receivingAction := action
  type := none
  isPhysical := false
  delay := none
  serializer := none

def toFirst : NetworkConnection := connection 1 "first" "toFirst"

def toSecond : NetworkConnection := connection 2 "second" "toSecond"

def source : Federate :=
  { Federate.ofInstances ⟨0⟩ "source" [⟨1⟩] with networkReactions := [0, 1] }

def mainNode : ReactorInstance :=
  { ReactorInstance.ofName "Main" ⟨0⟩ none with children := [⟨1⟩] }

def program : Program where
  name := "FanOut"
  target := "Python"
  properties := []
  preambles := []
  classes := [mainClass, sourceClass]
  tree := ⟨[mainNode, .ofName "source" ⟨1⟩ (some ⟨0⟩)], []⟩
  federates := [source, .ofInstances ⟨1⟩ "first" [], .ofInstances ⟨2⟩ "second" []]
  connections := [toFirst, toSecond]

def layout : SelfStruct :=
  match program.selfStruct source ⟨0⟩ with
  | .ok layout => layout
  | .error _ => ⟨"", [], [], []⟩

def main : MainReactor program source where
  node := mainNode
  reactorClass := mainClass
  layout := layout
  node_eq := rfl
  isRoot := rfl
  class_eq := rfl
  layout_eq := rfl
  isMain := rfl
  isFederated := rfl

/-- Both reactions stand ready for the port. -/
def ready (index : Nat) (inRange : index < 2) : main.ReadyReaction port index where
  reaction := relay port []
  reaction_eq := by
    match index, inRange with
    | 0, _ => rfl
    | 1, _ => rfl
  assigned := by
    match index, inRange with
    | 0, _ => decide
    | 1, _ => decide
  blank := rfl
  triggers := rfl
  resolves := by decide

theorem not_receivesAt (position : Nat) (connection : NetworkConnection) :
    ¬ program.ReceivesAt source position connection := by
  have notReceiver : ∀ connection ∈ program.connections,
      connection.receivingFederate ≠ source.id := by decide
  rintro ⟨at_, receives⟩
  exact notReceiver connection (List.mem_of_getElem? at_) receives

/-- The reactions in the order of the connections. -/
def assignment : main.ConnectionAssignment (.ofTarget .python) where
  sender := id
  receiver := id
  sends position connection sendsAt :=
    match position with
    | 0 => Option.some.inj sendsAt.1 ▸ ready 0 (by decide)
    | 1 => Option.some.inj sendsAt.1 ▸ ready 1 (by decide)
    | _ + 2 => nomatch sendsAt.1
  receives position connection receivesAt :=
    absurd receivesAt (not_receivesAt position connection)
  sender_injective _ _ _ _ _ _ same := same
  receiver_injective _ _ _ _ _ _ same := same
  sender_ne_receiver _ second _ right _ receivesAt :=
    absurd receivesAt (not_receivesAt second right)
  distinctActions first _ left _ receivesAt :=
    absurd receivesAt (not_receivesAt first left)
  supported := by decide
  known connection member _ := by
    simp only [program, List.mem_cons, List.not_mem_nil, or_false] at member
    rcases member with rfl | rfl
    · exact ⟨_, _, rfl, rfl⟩
    · exact ⟨_, _, rfl, rfl⟩

/-- The second connection is lost: the reaction that is to send on it sends to the
first receiver once more. -/
theorem not_serves : ¬ assignment.Serves := by
  intro serves
  obtain ⟨body, body_eq, generates⟩ := serves.sends 1 toSecond ⟨rfl, rfl⟩
  have ready := assignment.sends 1 toSecond ⟨rfl, rfl⟩
  have found : program.firstSent? source toSecond.sendingPort = some toFirst := rfl
  have firstMember : toFirst ∈ program.connections := by decide
  have secondMember : toSecond ∈ program.connections := by decide
  rw [ready.generates_iff, ready.bodyResult_of_sent rfl found, ← body_eq] at generates
  have sameMessage : toFirst.message = toSecond.message :=
    (assignment.senderBody_eq_iff firstMember secondMember rfl rfl rfl).mp generates
  exact absurd sameMessage (by decide)

end FanOut
end ReactorGen
