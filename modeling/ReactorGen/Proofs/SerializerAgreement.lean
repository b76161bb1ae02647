import ReactorGen.Proofs.EnabledSerializers
import ReactorGen.Proofs.MessageEncodings

/-!
# The serializers of connections

Support code, sending bodies and receiving bodies all ask for the serializer of a
connection on their own, and they all get the one that the connection requests.  A
federate gets no code exactly if one of its own connections requests a serializer that
is not served; otherwise it gets the support for what its connections request, and the
two bodies of every connection speak the same encoding, wherever they are written.
-/

namespace ReactorGen

open Text

/-! ## Served connections -/

namespace NetworkConnection

/-- Whether a connection requests a serializer that the settings do not provide for:
one that is not there at all, or protocol buffers that no file describes. -/
def IsUnserved (connection : NetworkConnection) (settings : Settings) : Prop :=
  connection.serializer = some .ros2 ∨
    connection.serializer = some .proto ∧ settings.protoFiles = []

instance (connection : NetworkConnection) (settings : Settings) :
    Decidable (connection.IsUnserved settings) :=
  inferInstanceAs (Decidable (_ ∨ _))

theorem supportsSerializer_iff
    {connection : NetworkConnection}
    {settings : Settings} :
    settings.supportsSerializer connection.requestedSerializer = true ↔
      ¬connection.IsUnserved settings := by
  unfold requestedSerializer IsUnserved
  cases connection.serializer with
  | none => simp [Settings.supportsSerializer]
  | some serializer =>
    cases serializer with
    | native => simp [Settings.supportsSerializer]
    | proto => simp [Settings.supportsSerializer]
    | ros2 => simp [Settings.supportsSerializer]

/-- A connection that is served requests one of two serializers. -/
theorem requestedSerializer_eq_native_iff
    {connection : NetworkConnection}
    {settings : Settings}
    (served : ¬connection.IsUnserved settings) :
    connection.requestedSerializer = .native ↔ connection.requestedSerializer ≠ .proto := by
  have supported := supportsSerializer_iff.mpr served
  cases requested : connection.requestedSerializer with
  | native => decide
  | proto => decide
  | ros2 =>
    rw [requested] at supported
    exact absurd supported Bool.false_ne_true

end NetworkConnection

namespace Program

variable
  {program : Program}
  {settings : Settings}
  {connection : NetworkConnection}

/-- Whether both ends of the connections of a federate are federates of the program. -/
def KnowsEnds (program : Program) (federate : Federate) : Prop :=
  ∀ connection ∈ program.connections, connection.concerns federate = true ->
    ∃ sender receiver,
      program.federateAt connection.sendingFederate = .ok sender ∧
      program.federateAt connection.receivingFederate = .ok receiver

/-- The fault of a connection that is not served, with the names of its ends. -/
def FaultOf
    (program : Program)
    (connection : NetworkConnection)
    (failure : Failure) : Prop :=
  ∃ sender receiver,
    program.federateAt connection.sendingFederate = .ok sender ∧
    program.federateAt connection.receivingFederate = .ok receiver ∧
    failure = .fault (.missingSerializer connection.requestedSerializer
      (sender.name ++ "." ++ connection.sendingPort.dotted)
      (receiver.name ++ "." ++ connection.receivingPort.dotted))

/-- A serializer that was found is the one that the connection requests. -/
theorem resolveSerializer_eq_ok
    {serializer : Serializer} :
    program.resolveSerializer settings connection = .ok serializer ↔
      ¬connection.IsUnserved settings ∧ connection.requestedSerializer = serializer := by
  rw [← NetworkConnection.supportsSerializer_iff]
  cases supported : settings.supportsSerializer connection.requestedSerializer with
  | true =>
    rw [resolveSerializer_of_supports supported, Except.ok.injEq]
    exact (and_iff_right rfl).symm
  | false =>
    have fails : ∀ found, program.resolveSerializer settings connection ≠ .ok found := by
      intro found found_eq
      simp only [resolveSerializer, supported, Bool.false_eq_true, if_false,
        Result.bind_eq_ok] at found_eq
      obtain ⟨_, _, _, _, thrown⟩ := found_eq
      exact absurd thrown (by simp [throw, throwThe, MonadExceptOf.throw])
    simp [fails]

/-- A connection that is not served has its fault. -/
theorem resolveSerializer_eq_error
    {sender receiver : Federate}
    (senderKnown : program.federateAt connection.sendingFederate = .ok sender)
    (receiverKnown : program.federateAt connection.receivingFederate = .ok receiver)
    {failure : Failure} :
    program.resolveSerializer settings connection = .error failure ↔
      connection.IsUnserved settings ∧ program.FaultOf connection failure := by
  by_cases unserved : connection.IsUnserved settings
  · have unsupported :
        settings.supportsSerializer connection.requestedSerializer = false := by
      rw [← Bool.not_eq_true, NetworkConnection.supportsSerializer_iff, not_not]
      exact unserved
    have thrown : program.resolveSerializer settings connection =
        .error (.fault (.missingSerializer connection.requestedSerializer
          (sender.name ++ "." ++ connection.sendingPort.dotted)
          (receiver.name ++ "." ++ connection.receivingPort.dotted))) := by
      simp only [resolveSerializer, unsupported, senderName, receiverName, senderKnown,
        receiverKnown, Bool.false_eq_true, if_false]
      rfl
    rw [thrown, Except.error.injEq]
    constructor
    · rintro rfl
      exact ⟨unserved, sender, receiver, senderKnown, receiverKnown, rfl⟩
    · rintro ⟨_, otherSender, otherReceiver, sender_eq, receiver_eq, rfl⟩
      rw [Except.ok.inj (senderKnown.symm.trans sender_eq),
        Except.ok.inj (receiverKnown.symm.trans receiver_eq)]
  · rw [resolveSerializer_eq_ok.mpr ⟨unserved, rfl⟩]
    simp [unserved]

/-! ## The support of a federate -/

/-- The serializers of a federate are missing like that of its first connection that is
not served. -/
theorem enabledSerializers_eq_error
    {federate : Federate}
    (known : program.KnowsEnds federate)
    {failure : Failure} :
    program.enabledSerializers settings federate = .error failure ↔
      ∃ before connection after,
        program.connections = before ++ connection :: after ∧
        (∀ earlier ∈ before, earlier.concerns federate = true ->
          ¬earlier.IsUnserved settings) ∧
        connection.concerns federate = true ∧
        connection.IsUnserved settings ∧
        program.FaultOf connection failure := by
  have traversal : program.enabledSerializers settings federate = .error failure ↔
      (program.federateConnections federate).mapM (program.resolveSerializer settings) =
        .error failure := by
    rw [enabledSerializers, Result.bind_eq_error]
    simp [pure, Except.pure]
  rw [traversal, Result.mapM_eq_error, federateConnections]
  have resolves : ∀ {connection}, connection ∈ program.connections ->
      connection.concerns federate = true ->
        (program.resolveSerializer settings connection = .error failure ↔
          connection.IsUnserved settings ∧ program.FaultOf connection failure) := by
    intro connection member concerned
    obtain ⟨sender, receiver, senderKnown, receiverKnown⟩ := known connection member concerned
    exact resolveSerializer_eq_error senderKnown receiverKnown
  constructor
  · rintro ⟨before, connection, after, split, served, fails⟩
    obtain ⟨first, rest, connections_eq, before_eq, rest_eq⟩ :=
      List.filter_eq_append_iff.mp split
    obtain ⟨skipped, later, rest_eq', irrelevant, concerned, _⟩ :=
      List.filter_eq_cons_iff.mp rest_eq
    have isConnection : connection ∈ program.connections := by
      rw [connections_eq, rest_eq']
      simp
    obtain ⟨unserved, isFault⟩ := (resolves isConnection concerned).mp fails
    refine ⟨first ++ skipped, connection, later, ?_, ?_, concerned, unserved, isFault⟩
    · rw [connections_eq, rest_eq', List.append_assoc]
    · intro earlier member earlierConcerned
      rcases List.mem_append.mp member with inFirst | inSkipped
      · have inBefore : earlier ∈ before := by
          rw [← before_eq, List.mem_filter]
          exact ⟨inFirst, earlierConcerned⟩
        obtain ⟨serializer, serializer_eq⟩ := served earlier inBefore
        exact (resolveSerializer_eq_ok.mp serializer_eq).1
      · exact absurd earlierConcerned (irrelevant earlier inSkipped)
  · rintro ⟨before, connection, after, connections_eq, served, concerned, unserved, isFault⟩
    have isConnection : connection ∈ program.connections := by
      rw [connections_eq]
      simp
    refine ⟨before.filter (·.concerns federate), connection,
      after.filter (·.concerns federate), ?_, ?_, ?_⟩
    · rw [connections_eq, List.filter_append, List.filter_cons, if_pos concerned]
    · intro earlier member
      obtain ⟨inBefore, earlierConcerned⟩ := List.mem_filter.mp member
      exact ⟨_, resolveSerializer_eq_ok.mpr ⟨served earlier inBefore earlierConcerned, rfl⟩⟩
    · exact (resolves isConnection concerned).mpr ⟨unserved, isFault⟩

end Program

/-- What protocol buffers add in an environment, whatever the program is: imports,
commands and packages. -/
def Environment.protocolAdditions (environment : Environment) :
    List String × List (List String) × List String :=
  let files := environment.settings.protoFiles
  match environment.tools protocolCompiler with
  | none => (files.map protocolImport, [], [])
  | some compiler =>
    (files.map protocolImport,
      files.map fun file => [compiler, "--python_out=.", environment.protocolInput file],
      [protocolRequirement])

/-- What a federate gets for its serializers. -/
structure SupportsConnections
    (program : Program)
    (environment : Environment)
    (federate : Federate)
    (support : SerializationSupport) : Prop where
  sorted : support.enabled.Pairwise fun first second => first.rank < second.rank
  mem_enabled : ∀ serializer, serializer ∈ support.enabled ↔
    (∃ connection ∈ program.connections, connection.concerns federate = true ∧
      connection.requestedSerializer = serializer) ∨
    serializer = .proto ∧ environment.settings.protoFiles ≠ []
  /-- They come out as if they were collected connection by connection. -/
  collected : support.enabled = Serializer.collectInOrder
    ((program.federateConnections federate).map (·.requestedSerializer))
    !environment.settings.protoFiles.isEmpty
  native : support.nativePreamble =
    if .native ∈ support.enabled then nativeEncodingPreamble else []
  protocol : (support.modulePreamble, support.preBuild, support.requirements) =
    if .proto ∈ support.enabled then environment.protocolAdditions else ([], [], [])

/-- Writing lines of the log has no result. -/
theorem Generation.result_forIn_log
    (level : LogLevel)
    (textOf : α -> String)
    (items : List α) :
    (forIn items PUnit.unit fun item _ => do
      Generation.log level (textOf item)
      pure (ForInStep.yield PUnit.unit) : Generation PUnit).run.result = .ok () := by
  induction items with
  | nil => rfl
  | cons first rest inductionHypothesis =>
    rw [List.forIn_cons]
    simp only [Report.result_run_bind, Generation.result_log, Result.ok_bind,
      Report.result_run_pure]
    exact inductionHypothesis

/-- Protocol buffers never stop the generation, and they change the support only by
what they add. -/
theorem result_protocolSupport
    {support : SerializationSupport}
    (environment : Environment)
    (noCommands : support.preBuild = [])
    (noPackages : support.requirements = []) :
    (protocolSupport environment support).run.result = .ok { support with
      modulePreamble := environment.protocolAdditions.1
      preBuild := environment.protocolAdditions.2.1
      requirements := environment.protocolAdditions.2.2 } := by
  obtain ⟨enabled, native, module, commands, packages⟩ := support
  obtain rfl : commands = [] := noCommands
  obtain rfl : packages = [] := noPackages
  unfold protocolSupport Environment.protocolAdditions
  cases environment.tools protocolCompiler with
  | none => rfl
  | some compiler =>
    simp only [Report.result_run_bind, Generation.result_forIn_log, Result.ok_bind,
      Report.result_run_pure, List.map_map]
    rfl

/-- A federate whose serializers are all served gets their support. -/
theorem supports_of_enableSerializers
    {program : Program}
    {environment : Environment}
    {federate : Federate}
    {support : SerializationSupport}
    (support_eq :
      (program.enableSerializers environment federate).run.result = .ok support) :
    SupportsConnections program environment federate support := by
  rw [Program.enableSerializers, Report.result_run_bind, Generation.result_ofExcept,
    Result.bind_eq_ok] at support_eq
  obtain ⟨enabled, enabled_eq, support_eq⟩ := support_eq
  have shape : support = {
      enabled := enabled
      nativePreamble := if .native ∈ enabled then nativeEncodingPreamble else []
      modulePreamble := (if .proto ∈ enabled then environment.protocolAdditions
        else ([], [], [])).1
      preBuild := (if .proto ∈ enabled then environment.protocolAdditions
        else ([], [], [])).2.1
      requirements := (if .proto ∈ enabled then environment.protocolAdditions
        else ([], [], [])).2.2 } := by
    simp only [List.contains_iff_mem] at support_eq
    by_cases protocol : Serializer.proto ∈ enabled
    · rw [if_pos protocol, result_protocolSupport environment rfl rfl] at support_eq
      simp only [if_pos protocol]
      exact (Except.ok.inj support_eq).symm
    · rw [if_neg protocol] at support_eq
      simp only [if_neg protocol]
      exact (Except.ok.inj support_eq).symm
  subst shape
  rw [Program.enabledSerializers_eq, Result.bind_eq_ok] at enabled_eq
  obtain ⟨used, used_eq, enabled_eq⟩ := enabled_eq
  obtain rfl : (program.federateConnections federate).map (·.requestedSerializer) = used := by
    rw [← List.forall₂_eq_eq_eq, List.forall₂_map_left_iff]
    exact (Result.mapM_eq_ok.mp used_eq).imp fun _ _ resolved =>
      (Program.resolveSerializer_eq_ok.mp resolved).2
  obtain rfl := Result.pure_eq_ok.mp enabled_eq
  constructor
  case sorted =>
    rw [← Serializer.filter_all_eq]
    exact Serializer.pairwise_all.sublist List.filter_sublist
  case mem_enabled =>
    intro serializer
    rw [← Serializer.filter_all_eq, List.mem_filter]
    simp [Serializer.mem_all, Program.federateConnections, and_assoc]
  case collected => rfl
  case native => rfl
  case protocol => rfl

/-! ## The bodies -/

/-- Whether the two bodies of a connection use the serializer that it requests: they pickle
the value and load it, or they have it written and read back by protocol buffers. -/
def NetworkConnection.Exchanges
    (connection : NetworkConnection)
    (settings : Settings)
    (sent received : String) : Prop :=
  connection.requestedSerializer = .native ∧
      connection.Dumps settings.coordination sent ∧ connection.Loads received ∨
    connection.requestedSerializer = .proto ∧
      connection.SerializesToString settings.coordination sent ∧
      connection.ParsesFromString settings received

namespace Program

variable
  {program : Program}
  {settings : Settings}
  {connection : NetworkConnection}
  {body : String}

/-- A body that sends encodes with the requested serializer. -/
theorem encodes_of_senderBody
    (body_eq : program.senderBody settings connection = .ok body) :
    (connection.Dumps settings.coordination body ↔
        connection.requestedSerializer = .native) ∧
      (connection.SerializesToString settings.coordination body ↔
        connection.requestedSerializer = .proto) := by
  rw [senderBody, Result.bind_eq_ok] at body_eq
  obtain ⟨serializer, serializer_eq, body_eq⟩ := body_eq
  obtain ⟨served, rfl⟩ := resolveSerializer_eq_ok.mp serializer_eq
  obtain ⟨comment, _, body_eq⟩ := Result.bind_eq_ok.mp body_eq
  rw [← Result.pure_eq_ok.mp body_eq,
    NetworkConnection.requestedSerializer_eq_native_iff served]
  exact ⟨NetworkConnection.dumps_joinLines_iff,
    NetworkConnection.serializesToString_joinLines_iff⟩

/-- A body that receives decodes with the requested serializer. -/
theorem decodes_of_receiverBody
    (body_eq : program.receiverBody settings connection = .ok body) :
    (connection.Loads body ↔ connection.requestedSerializer = .native) ∧
      (connection.ParsesFromString settings body ↔
        connection.requestedSerializer = .proto) := by
  rw [receiverBody, Result.bind_eq_ok] at body_eq
  obtain ⟨serializer, serializer_eq, body_eq⟩ := body_eq
  obtain ⟨served, rfl⟩ := resolveSerializer_eq_ok.mp serializer_eq
  obtain ⟨comment, _, body_eq⟩ := Result.bind_eq_ok.mp body_eq
  rw [← Result.pure_eq_ok.mp body_eq,
    NetworkConnection.requestedSerializer_eq_native_iff served]
  exact ⟨NetworkConnection.loads_joinLines_iff,
    NetworkConnection.parsesFromString_joinLines_iff⟩

/-! ## The agreement -/

variable
  {environment : Environment}
  {federate : Federate}

/-- Only a missing serializer keeps a federate from its support. -/
theorem enableSerializers_eq_error
    {failure : Failure} :
    (program.enableSerializers environment federate).run.result = .error failure ↔
      program.enabledSerializers environment.settings federate = .error failure := by
  rw [enableSerializers, Report.result_run_bind, Generation.result_ofExcept,
    Result.bind_eq_error]
  constructor
  · rintro (missing | ⟨enabled, _, failed⟩)
    · exact missing
    · by_cases protocol : enabled.contains .proto = true
      · simp only [protocol, if_true, result_protocolSupport environment] at failed
        exact absurd failed (by simp)
      · simp only [protocol] at failed
        exact absurd failed (by simp)
  · exact .inl

/-- Where a federate gets support, both bodies of each of its connections are written
with a serializer that is enabled. -/
theorem exists_bodies_of_supports
    (known : program.KnowsEnds federate)
    {support : SerializationSupport}
    (supports : SupportsConnections program environment federate support)
    (enabled_eq : ∃ enabled,
      program.enabledSerializers environment.settings federate = .ok enabled)
    (isConnection : connection ∈ program.connections)
    (concerned : connection.concerns federate = true) :
    connection.requestedSerializer ∈ support.enabled ∧
    ∃ sent received,
      program.senderBody environment.settings connection = .ok sent ∧
      program.receiverBody environment.settings connection = .ok received ∧
      connection.Exchanges environment.settings sent received := by
  obtain ⟨enabled, enabled_eq⟩ := enabled_eq
  obtain ⟨used, used_eq, _⟩ := Result.bind_eq_ok.mp enabled_eq
  obtain ⟨serializer, _, resolved⟩ := Result.exists_mem_of_mapM used_eq
    (List.mem_filter.mpr ⟨isConnection, concerned⟩)
  have served := (resolveSerializer_eq_ok.mp resolved).1
  have supported := NetworkConnection.supportsSerializer_iff.mpr served
  obtain ⟨sender, receiver, senderKnown, receiverKnown⟩ :=
    known connection isConnection concerned
  have sent_eq := senderBody_of_routeComment supported
    (routeComment_eq senderKnown receiverKnown "Sending")
  have received_eq := receiverBody_of_routeComment supported
    (routeComment_eq senderKnown receiverKnown "Receiving")
  have encodes := encodes_of_senderBody sent_eq
  have decodes := decodes_of_receiverBody received_eq
  refine ⟨(supports.mem_enabled _).mpr (.inl ⟨connection, isConnection, concerned, rfl⟩),
    _, _, sent_eq, received_eq, ?_⟩
  by_cases protocol : connection.requestedSerializer = .proto
  · exact .inr ⟨protocol, encodes.2.mpr protocol, decodes.2.mpr protocol⟩
  · have native := (NetworkConnection.requestedSerializer_eq_native_iff served).mpr protocol
    exact .inl ⟨native, encodes.1.mpr native, decodes.1.mpr native⟩

/-- A federate gets no support exactly if one of its connections is not served, and
then the first of them is reported.  Otherwise it gets the support for what its
connections request, and both bodies of each of them use a serializer that is enabled.
The two bodies of a connection speak the same encoding. -/
theorem serializers_agree
    (known : program.KnowsEnds federate) :
    (∀ failure,
      (program.enableSerializers environment federate).run.result = .error failure ↔
        ∃ before connection after,
          program.connections = before ++ connection :: after ∧
          (∀ earlier ∈ before, earlier.concerns federate = true ->
            ¬earlier.IsUnserved environment.settings) ∧
          connection.concerns federate = true ∧
          connection.IsUnserved environment.settings ∧
          program.FaultOf connection failure) ∧
    (∀ support,
      (program.enableSerializers environment federate).run.result = .ok support ->
        SupportsConnections program environment federate support ∧
        ∀ connection ∈ program.connections, connection.concerns federate = true ->
          connection.requestedSerializer ∈ support.enabled ∧
          ∃ sent received,
            program.senderBody environment.settings connection = .ok sent ∧
            program.receiverBody environment.settings connection = .ok received ∧
            connection.Exchanges environment.settings sent received) ∧
    ∀ (connection : NetworkConnection) (sendingSettings receivingSettings : Settings)
      (sent received : String),
      program.senderBody sendingSettings connection = .ok sent ->
      program.receiverBody receivingSettings connection = .ok received ->
        (connection.Dumps sendingSettings.coordination sent ↔ connection.Loads received) ∧
        (connection.SerializesToString sendingSettings.coordination sent ↔
          connection.ParsesFromString receivingSettings received) ∧
        (connection.Dumps sendingSettings.coordination sent ↔
          connection.requestedSerializer = .native) ∧
        (connection.SerializesToString sendingSettings.coordination sent ↔
          connection.requestedSerializer = .proto) := by
  refine ⟨?_, ?_, ?_⟩
  · intro failure
    rw [enableSerializers_eq_error]
    exact enabledSerializers_eq_error known
  · intro support support_eq
    have supports := supports_of_enableSerializers support_eq
    have enabled_eq : ∃ enabled,
        program.enabledSerializers environment.settings federate = .ok enabled := by
      rw [enableSerializers, Report.result_run_bind, Generation.result_ofExcept,
        Result.bind_eq_ok] at support_eq
      obtain ⟨enabled, enabled_eq, _⟩ := support_eq
      exact ⟨enabled, enabled_eq⟩
    refine ⟨supports, ?_⟩
    intro connection isConnection concerned
    exact exists_bodies_of_supports known supports enabled_eq isConnection concerned
  · intro connection sendingSettings receivingSettings sent received sent_eq received_eq
    obtain ⟨dumps_iff, serializes_iff⟩ := encodes_of_senderBody sent_eq
    obtain ⟨loads_iff, parses_iff⟩ := decodes_of_receiverBody received_eq
    exact ⟨dumps_iff.trans loads_iff.symm, serializes_iff.trans parses_iff.symm, dumps_iff,
      serializes_iff⟩

end Program

namespace Relay

def connection
    (sender receiver : Nat)
    (serializer : Option Serializer) : NetworkConnection where
  sendingFederate := ⟨sender⟩
  sendingPort := ⟨some "from", "out"⟩
  receivingFederate := ⟨receiver⟩
  receivingPort := ⟨some "to", "in"⟩
  receivingPortId := 0
  receivingAction := "message"
  type := none
  isPhysical := false
  delay := none
  serializer := serializer

def source : Federate := .ofInstances ⟨0⟩ "source" []

def relay : Federate := .ofInstances ⟨1⟩ "relay" []

def sink : Federate := .ofInstances ⟨2⟩ "sink" []

/-- A relay gets values from a source, and hands them on to a sink in protocol
buffers. -/
def program : Program where
  name := "Relay"
  target := "Python"
  properties := []
  preambles := []
  classes := []
  tree := .ofRoot "Relay" ⟨0⟩
  federates := [source, relay, sink]
  connections := [connection 0 1 none, connection 1 2 (some .proto)]

/-- No file describes protocol buffers. -/
def environment : Environment := ⟨.ofTarget .python, fun _ => none, none⟩

theorem knowsEnds (federate : Federate) : program.KnowsEnds federate := by
  intro connection isConnection _
  rcases List.mem_pair.mp isConnection with rfl | rfl
  · exact ⟨source, relay, rfl, rfl⟩
  · exact ⟨relay, sink, rfl, rfl⟩

/-- The source is not concerned by the connection that is not served; the sink is. -/
theorem program_agrees :
    (∃ support,
      (program.enableSerializers environment source).run.result = .ok support ∧
        SupportsConnections program environment source support ∧
        support.enabled = [.native]) ∧
      (program.enableSerializers environment sink).run.result =
        .error (.fault (.missingSerializer .proto "relay.from.out" "sink.to.in")) := by
  constructor
  · obtain ⟨support, support_eq, enabled_eq⟩ : ∃ support,
        (program.enableSerializers environment source).run.result = .ok support ∧
          support.enabled = [.native] := ⟨_, rfl, rfl⟩
    obtain ⟨supports, _⟩ :=
      (Program.serializers_agree (knowsEnds source)).2.1 support support_eq
    exact ⟨support, support_eq, supports, enabled_eq⟩
  · refine ((Program.serializers_agree (knowsEnds sink)).1 _).mpr ?_
    exact ⟨[connection 0 1 none], connection 1 2 (some .proto), [], rfl, by decide, by decide,
      by decide, relay, sink, rfl, rfl, rfl⟩

end Relay
end ReactorGen
