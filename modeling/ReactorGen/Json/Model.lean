import ReactorGen.Json.Diagnostic
import ReactorGen.Json.Element
import ReactorGen.Model.Program

/-!
# Programs as JSON

References are written as the positions they hold.
-/

namespace ReactorGen

open JsonFormat

instance : JsonFormat ClassId where
  write id := write id.index
  readWith leniency json := (readWith leniency json).map ClassId.mk

instance : JsonFormat InstanceId where
  write id := write id.index
  readWith leniency json := (readWith leniency json).map InstanceId.mk

instance : JsonFormat ModeId where
  write id := write id.index
  readWith leniency json := (readWith leniency json).map ModeId.mk

instance : JsonFormat FederateId where
  write id := write id.index
  readWith leniency json := (readWith leniency json).map FederateId.mk

instance : JsonFormat ParameterDecl where
  write parameter := .object [
    ("name", write parameter.name),
    ("default", write parameter.default)
  ]
  readWith := readRecord do
    let name ← field String "name"
    let default ← field String "default"
    return ⟨name, default⟩

instance : JsonFormat StateVarDecl where
  write state := .object [
    ("name", write state.name),
    ("init", write state.init)
  ]
  readWith := readRecord do
    let name ← field String "name"
    let init ← optionalField String "init"
    return ⟨name, init⟩

instance : JsonFormat PortDecl where
  write port := .object [
    ("name", write port.name),
    ("type_name", write port.type),
    ("width", write port.width)
  ]
  readWith := readRecord do
    let name ← field String "name"
    let type ← optionalField String "type_name"
    let width ← optionalField UInt32 "width"
    return ⟨name, type, width⟩

/-- The spelling of an origin. -/
def ActionOrigin.name : ActionOrigin -> String
  | logical => "logical"
  | physical => "physical"

instance : JsonFormat ActionOrigin where
  write origin := .string origin.name
  readWith := readNamed ActionOrigin.name [.logical, .physical]

instance : JsonFormat ActionDecl where
  write action := .object [
    ("name", write action.name),
    ("origin", write action.origin),
    ("type_name", write action.type)
  ]
  readWith := readRecord do
    let name ← field String "name"
    let origin ← field ActionOrigin "origin"
    let type ← optionalField String "type_name"
    return ⟨name, origin, type⟩

instance : JsonFormat VarRef where
  write ref := .object [
    ("container", write ref.container),
    ("variable", write ref.name)
  ]
  readWith := readRecord do
    let container ← optionalField String "container"
    let name ← field String "variable"
    return ⟨container, name⟩

instance : JsonFormat TriggerRef where
  write
    | .startup => .string "startup"
    | .shutdown => .string "shutdown"
    | .var ref => .object [("var", write ref)]
  readWith leniency json :=
    match tagged json with
    | some ("startup", payload) =>
      if saysNothing leniency payload then some .startup else none
    | some ("shutdown", payload) =>
      if saysNothing leniency payload then some .shutdown else none
    | some ("var", payload) => (readWith leniency payload).map TriggerRef.var
    | _ => none

instance : JsonFormat Deadline where
  write deadline := .object [
    ("delay", write deadline.delay),
    ("body", write deadline.body)
  ]
  readWith := readRecord do
    let delay ← field TimeValue "delay"
    let body ← field String "body"
    return ⟨delay, body⟩

instance : JsonFormat Reaction where
  write reaction := .object ([
      ("triggers", write reaction.triggers),
      ("sources", write reaction.sources),
      ("effects", write reaction.effects),
      ("body", write reaction.body),
      ("deadline", write reaction.deadline)
    ] ++ whenPresent "span" reaction.span)
  readWith := readRecord do
    let triggers ← field (List TriggerRef) "triggers"
    let sources ← field (List VarRef) "sources"
    let effects ← field (List VarRef) "effects"
    let body ← field String "body"
    let deadline ← optionalField Deadline "deadline"
    let span ← optionalField Span "span"
    return ⟨triggers, sources, effects, body, deadline, span⟩

instance : JsonFormat ReactorClass where
  write reactorClass := .object ([
      ("name", write reactorClass.name),
      ("parameters", write reactorClass.parameters),
      ("state_vars", write reactorClass.stateVars),
      ("inputs", write reactorClass.inputs),
      ("outputs", write reactorClass.outputs),
      ("actions", write reactorClass.actions),
      ("timers", write reactorClass.timers),
      ("reactions", write reactorClass.reactions),
      ("modes", write reactorClass.modes),
      ("preambles", write reactorClass.preambles),
      ("is_main", write reactorClass.isMain),
      ("is_federated", write reactorClass.isFederated)
    ] ++ whenPresent "span" reactorClass.span)
  readWith := readRecord do
    let name ← field String "name"
    let parameters ← field (List ParameterDecl) "parameters"
    let stateVars ← field (List StateVarDecl) "state_vars"
    let inputs ← field (List PortDecl) "inputs"
    let outputs ← field (List PortDecl) "outputs"
    let actions ← field (List ActionDecl) "actions"
    let timers ← field (List String) "timers"
    let reactions ← field (List Reaction) "reactions"
    let modes ← field (List String) "modes"
    let preambles ← field (List String) "preambles"
    let isMain ← field Bool "is_main"
    let isFederated ← field Bool "is_federated"
    let span ← optionalField Span "span"
    return ⟨name, parameters, stateVars, inputs, outputs, actions, timers, reactions,
      modes, preambles, isMain, isFederated, span⟩

instance : JsonFormat ActionInstance where
  write action := .object ([
      ("name", write action.name),
      ("min_delay", write action.minDelay),
      ("min_spacing", write action.minSpacing),
      ("is_shutdown", write action.isShutdown),
      ("mode", write action.mode),
      ("is_token_type", write action.isToken),
      ("payload_type", write action.payloadType)
    ] ++ whenPresent "span" action.span)
  readWith := readRecord do
    let name ← field String "name"
    let minDelay ← field TimeValue "min_delay"
    let minSpacing ← optionalField TimeValue "min_spacing"
    let isShutdown ← field Bool "is_shutdown"
    let mode ← optionalField ModeId "mode"
    let isToken ← field Bool "is_token_type"
    let payloadType ← optionalField String "payload_type"
    let span ← optionalField Span "span"
    return ⟨name, minDelay, minSpacing, isShutdown, mode, isToken, payloadType, span⟩

instance : JsonFormat TimerInstance where
  write timer := .object [
    ("name", write timer.name),
    ("offset", write timer.offset),
    ("period", write timer.period),
    ("mode", write timer.mode)
  ]
  readWith := readRecord do
    let name ← field String "name"
    let offset ← field TimeValue "offset"
    let period ← optionalField TimeValue "period"
    let mode ← optionalField ModeId "mode"
    return ⟨name, offset, period, mode⟩

instance : JsonFormat ModeInstance where
  write mode := .object [
    ("name", write mode.name),
    ("owner", write mode.owner)
  ]
  readWith := readRecord do
    let name ← field String "name"
    let owner ← field InstanceId "owner"
    return ⟨name, owner⟩

instance : JsonFormat ReactorInstance where
  write node := .object [
    ("name", write node.name),
    ("class", write node.reactorClass),
    ("parent", write node.parent),
    ("children", write node.children),
    ("actions", write node.actions),
    ("timers", write node.timers),
    ("modes", write node.modes),
    ("parameter_values", write node.parameterValues),
    ("bank_index", write node.bankIndex)
  ]
  readWith := readRecord do
    let name ← field String "name"
    let reactorClass ← field ClassId "class"
    let parent ← optionalField InstanceId "parent"
    let children ← field (List InstanceId) "children"
    let actions ← field (List ActionInstance) "actions"
    let timers ← field (List TimerInstance) "timers"
    let modes ← field (List ModeId) "modes"
    let parameterValues ← field (List (String × String)) "parameter_values"
    let bankIndex ← field UInt64 "bank_index"
    return ⟨name, reactorClass, parent, children, actions, timers, modes,
      parameterValues, bankIndex⟩

instance : JsonFormat ReactorTree where
  write tree := .object [
    ("instances", write tree.instances),
    ("modes", write tree.modes)
  ]
  readWith := readRecord do
    let instances ← field (List ReactorInstance) "instances"
    let modes ← field (List ModeInstance) "modes"
    return ⟨instances, modes⟩

instance : JsonFormat Federate where
  write federate := .object [
    ("id", write federate.id),
    ("name", write federate.name),
    ("instances", write federate.instances),
    ("network_actions", write federate.networkActions),
    ("network_reactions", write federate.networkReactions),
    ("is_singleton", write federate.isSingleton),
    ("host", write federate.host)
  ]
  readWith := readRecord do
    let id ← field FederateId "id"
    let name ← field String "name"
    let instances ← field (List InstanceId) "instances"
    let networkActions ← field (List String) "network_actions"
    let networkReactions ← field (List Nat) "network_reactions"
    let isSingleton ← field Bool "is_singleton"
    let host ← optionalField String "host"
    return ⟨id, name, instances, networkActions, networkReactions, isSingleton, host⟩

instance : JsonFormat Serializer where
  write serializer := .string serializer.name
  readWith := readNamed Serializer.name Serializer.all

instance : JsonFormat NetworkConnection where
  write connection := .object [
    ("sending_federate", write connection.sendingFederate),
    ("sending_port", write connection.sendingPort),
    ("receiving_federate", write connection.receivingFederate),
    ("receiving_port", write connection.receivingPort),
    ("receiving_port_id", write connection.receivingPortId),
    ("receiving_action", write connection.receivingAction),
    ("type_name", write connection.type),
    ("is_physical", write connection.isPhysical),
    ("delay", write connection.delay),
    ("serializer", write connection.serializer)
  ]
  readWith := readRecord do
    let sendingFederate ← field FederateId "sending_federate"
    let sendingPort ← field VarRef "sending_port"
    let receivingFederate ← field FederateId "receiving_federate"
    let receivingPort ← field VarRef "receiving_port"
    let receivingPortId ← field Nat "receiving_port_id"
    let receivingAction ← field String "receiving_action"
    let type ← optionalField String "type_name"
    let isPhysical ← field Bool "is_physical"
    let delay ← optionalField TimeValue "delay"
    let serializer ← optionalField Serializer "serializer"
    return ⟨sendingFederate, sendingPort, receivingFederate, receivingPort,
      receivingPortId, receivingAction, type, isPhysical, delay, serializer⟩

/-- The named elements that a JSON array stands for. -/
def readNamedElements (leniency : Leniency) : Json -> Option (List (String × Element)) :=
  readItems (readNamedElement leniency)

instance : JsonFormat Program where
  write program := .object [
    ("name", write program.name),
    ("target", write program.target),
    ("properties", .array (program.properties.map writeNamedElement)),
    ("preambles", write program.preambles),
    ("classes", write program.classes),
    ("tree", write program.tree),
    ("federates", write program.federates),
    ("network_connections", write program.connections)
  ]
  readWith := readRecord do
    let name ← field String "name"
    let target ← field String "target"
    let properties ← readField readNamedElements none "properties"
    let preambles ← field (List String) "preambles"
    let classes ← field (List ReactorClass) "classes"
    let tree ← field ReactorTree "tree"
    let federates ← field (List Federate) "federates"
    let connections ← field (List NetworkConnection) "network_connections"
    return ⟨name, target, properties, preambles, classes, tree, federates, connections⟩

end ReactorGen
