import UntitledOJ.ApiBinding
import UntitledOJ.JobDocument

/-!
# The payload of a topology job

The planners write the payload of a job as a JSON document and the worker reads
it back with the derived reader, which refuses members that it does not know and
fills in the ones that may be missing.
-/

namespace UntitledOJ

open Value (readVariant readString readU64)

namespace Value

def orDefault {α : Type} (document : Value) (name : String) (read : Value → Except String α)
    (fallback : α) : Except String α :=
  match document.get name with
  | some value => read value
  | none => .ok fallback

def readBool : Value → Except String Bool
  | .bool value => .ok value
  | _ => .error "invalid type: expected a boolean"

def readItems {α : Type} (read : Value → Except String α) : List Value → Except String (List α)
  | [] => .ok []
  | value :: rest => do
      let item ← read value
      let items ← readItems read rest
      return item :: items

def readList {α : Type} (read : Value → Except String α) : Value → Except String (List α)
  | .array values => readItems read values
  | _ => .error "invalid type: expected a sequence"

def denyUnknownFields (document : Value) (names : List String) : Except String Unit :=
  match document with
  | .object members =>
    match members.find? fun member => !names.contains member.1 with
    | some member => .error ("unknown field " ++ member.1)
    | none => .ok ()
  | _ => .error "invalid type: expected a map"

@[simp] theorem readBool_bool (value : Bool) : readBool (.bool value) = .ok value := rfl

@[simp] theorem readOption_nat (value : Option Nat) :
    readOption readU64 (writeOption writeNat value) = .ok value := by
  cases value with
  | none => rfl
  | some value => simp [writeOption, writeNat, readOption, readU64, Except.map]

section

variable {α : Type} {read : Value → Except String α} {write : α → Value}
  (inverse : ∀ item, read (write item) = .ok item) (items : List α)
include inverse

theorem readItems_map : readItems read (items.map write) = .ok items := by
  induction items with
  | nil => rfl
  | cons item rest ih =>
    simp only [List.map_cons, readItems, inverse, ih]
    rfl

theorem readList_map : readList read (.array (items.map write)) = .ok items :=
  readItems_map inverse items

end

@[simp] theorem readList_strings (texts : List String) :
    readList readString (.array (texts.map .string)) = .ok texts :=
  readList_map readString_string texts

end Value

def ApiBindingState.all : List ApiBindingState :=
  [.pending, .resolved, .active, .unbound, .revoked, .error]

def ApiBindingState.text : ApiBindingState → String
  | .pending => "PENDING"
  | .resolved => "RESOLVED"
  | .active => "ACTIVE"
  | .unbound => "UNBOUND"
  | .revoked => "REVOKED"
  | .error => "ERROR"

def ApiBindingDesiredState.all : List ApiBindingDesiredState :=
  [.active, .revoked]

def ApiBindingDesiredState.text : ApiBindingDesiredState → String
  | .active => "ACTIVE"
  | .revoked => "REVOKED"

def ApiBindingObservedState.all : List ApiBindingObservedState :=
  [.pending, .resolved, .active, .revoked, .error]

def ApiBindingObservedState.text : ApiBindingObservedState → String
  | .pending => "PENDING"
  | .resolved => "RESOLVED"
  | .active => "ACTIVE"
  | .revoked => "REVOKED"
  | .error => "ERROR"

def ApiBindingHealth.all : List ApiBindingHealth :=
  [.unknown, .healthy, .unhealthy, .degraded]

def ApiBindingHealth.text : ApiBindingHealth → String
  | .unknown => "UNKNOWN"
  | .healthy => "HEALTHY"
  | .unhealthy => "UNHEALTHY"
  | .degraded => "DEGRADED"

@[simp] theorem readVariant_bindingState (state : ApiBindingState) :
    readVariant ApiBindingState.all ApiBindingState.text (.string state.text) = .ok state := by
  cases state <;> rfl

@[simp] theorem readVariant_desiredState (state : ApiBindingDesiredState) :
    readVariant ApiBindingDesiredState.all ApiBindingDesiredState.text (.string state.text) =
      .ok state := by
  cases state <;> rfl

@[simp] theorem readVariant_observedState (state : ApiBindingObservedState) :
    readVariant ApiBindingObservedState.all ApiBindingObservedState.text
      (.string state.text) = .ok state := by
  cases state <;> rfl

@[simp] theorem readVariant_health (health : ApiBindingHealth) :
    readVariant ApiBindingHealth.all ApiBindingHealth.text (.string health.text) = .ok health := by
  cases health <;> rfl

namespace ApiBinding

def toDocument (binding : ApiBinding) : Value :=
  .object
    [("binding_id", .string binding.bindingId),
      ("requirement_name", .string binding.requirementName),
      ("api_id", .string binding.apiId),
      ("api_version", .string binding.apiVersion),
      ("consumer_deployment_id", .string binding.consumerDeploymentId),
      ("consumer_service_id", .string binding.consumerServiceId),
      ("consumer_node_id", .string binding.consumerNodeId),
      ("consumer_endpoint", .string binding.consumerEndpoint),
      ("provider_deployment_id", .string binding.providerDeploymentId),
      ("provider_service_id", .string binding.providerServiceId),
      ("provider_node_id", .string binding.providerNodeId),
      ("provider_endpoint", .string binding.providerEndpoint),
      ("provider_path", .string binding.providerPath),
      ("virtual_endpoint", .string binding.virtualEndpoint),
      ("protocol", .string binding.protocol),
      ("methods", .array (binding.methods.map .string)),
      ("auth_mode", .string binding.authMode),
      ("provider_auth_mode", .string binding.providerAuthMode),
      ("permission", .string binding.permission),
      ("timeout_ms", .writeOption .writeNat binding.timeoutMs),
      ("topology_id", .string binding.topologyId),
      ("topology_revision_id", .string binding.topologyRevisionId),
      ("link_source_endpoint", .string binding.linkSourceEndpoint),
      ("link_target_endpoint", .string binding.linkTargetEndpoint),
      ("credential_ref", .string binding.credentialRef),
      ("credential_generation", .writeNat binding.credentialGeneration),
      ("context_generation", .writeNat binding.contextGeneration),
      ("desired_state", .string binding.desiredState.text),
      ("observed_state", .string binding.observedState.text),
      ("health", .string binding.health.text),
      ("drift", .array (binding.drift.map .string)),
      ("last_operation_id", .string binding.lastOperationId),
      ("state", .string binding.state.text),
      ("optional", .bool binding.isOptional),
      ("reason", .string binding.reason),
      ("created_at", .string binding.createdAt),
      ("updated_at", .string binding.updatedAt)]

def fieldNames : List String :=
  ["binding_id", "requirement_name", "api_id", "api_version", "consumer_deployment_id",
    "consumer_service_id", "consumer_node_id", "consumer_endpoint", "provider_deployment_id",
    "provider_service_id", "provider_node_id", "provider_endpoint", "provider_path",
    "virtual_endpoint", "protocol", "methods", "auth_mode", "provider_auth_mode", "permission",
    "timeout_ms", "topology_id", "topology_revision_id", "link_source_endpoint",
    "link_target_endpoint", "credential_ref", "credential_generation", "context_generation",
    "desired_state", "observed_state", "health", "drift", "last_operation_id", "state",
    "optional", "reason", "created_at", "updated_at"]

def ofDocument (document : Value) : Except String ApiBinding := do
  document.denyUnknownFields fieldNames
  return {
    bindingId := ← document.required "binding_id" readString
    requirementName := ← document.required "requirement_name" readString
    apiId := ← document.required "api_id" readString
    apiVersion := ← document.orDefault "api_version" readString ""
    consumerDeploymentId := ← document.required "consumer_deployment_id" readString
    consumerServiceId := ← document.required "consumer_service_id" readString
    consumerNodeId := ← document.required "consumer_node_id" readString
    consumerEndpoint := ← document.orDefault "consumer_endpoint" readString ""
    providerDeploymentId := ← document.orDefault "provider_deployment_id" readString ""
    providerServiceId := ← document.orDefault "provider_service_id" readString ""
    providerNodeId := ← document.orDefault "provider_node_id" readString ""
    providerEndpoint := ← document.orDefault "provider_endpoint" readString ""
    providerPath := ← document.orDefault "provider_path" readString ""
    virtualEndpoint := ← document.orDefault "virtual_endpoint" readString ""
    protocol := ← document.orDefault "protocol" readString ""
    methods := ← document.orDefault "methods" (Value.readList readString) []
    authMode := ← document.orDefault "auth_mode" readString ""
    providerAuthMode := ← document.orDefault "provider_auth_mode" readString ""
    permission := ← document.orDefault "permission" readString ""
    timeoutMs := ← document.optional "timeout_ms" readU64
    topologyId := ← document.orDefault "topology_id" readString ""
    topologyRevisionId := ← document.orDefault "topology_revision_id" readString ""
    linkSourceEndpoint := ← document.orDefault "link_source_endpoint" readString ""
    linkTargetEndpoint := ← document.orDefault "link_target_endpoint" readString ""
    credentialRef := ← document.orDefault "credential_ref" readString ""
    credentialGeneration := ← document.orDefault "credential_generation" readU64 1
    contextGeneration := ← document.orDefault "context_generation" readU64 1
    desiredState := ← document.orDefault "desired_state"
      (readVariant ApiBindingDesiredState.all ApiBindingDesiredState.text) .active
    observedState := ← document.orDefault "observed_state"
      (readVariant ApiBindingObservedState.all ApiBindingObservedState.text) .pending
    health := ← document.orDefault "health"
      (readVariant ApiBindingHealth.all ApiBindingHealth.text) .unknown
    drift := ← document.orDefault "drift" (Value.readList readString) []
    lastOperationId := ← document.orDefault "last_operation_id" readString ""
    state := ← document.required "state"
      (readVariant ApiBindingState.all ApiBindingState.text)
    isOptional := ← document.orDefault "optional" Value.readBool false
    reason := ← document.orDefault "reason" readString ""
    createdAt := ← document.required "created_at" readString
    updatedAt := ← document.required "updated_at" readString }

theorem ofDocument_toDocument (binding : ApiBinding) :
    ofDocument binding.toDocument = .ok binding := by
  have known : binding.toDocument.denyUnknownFields fieldNames = .ok () := rfl
  simp only [ofDocument, known]
  simp [toDocument, Value.required, Value.optional, Value.orDefault, Value.get]
  rfl

end ApiBinding

inductive TopologyApplyPhase where
  | full | stage | prepare | finalize | finalizeGroup | abort
  deriving DecidableEq, Repr

def TopologyApplyPhase.all : List TopologyApplyPhase :=
  [.full, .stage, .prepare, .finalize, .finalizeGroup, .abort]

def TopologyApplyPhase.text : TopologyApplyPhase → String
  | .full => "FULL"
  | .stage => "STAGE"
  | .prepare => "PREPARE"
  | .finalize => "FINALIZE"
  | .finalizeGroup => "FINALIZE_GROUP"
  | .abort => "ABORT"

@[simp] theorem readVariant_phase (phase : TopologyApplyPhase) :
    readVariant TopologyApplyPhase.all TopologyApplyPhase.text (.string phase.text) =
      .ok phase := by
  cases phase <;> rfl

structure TopologyApplyGroupPayloadMember where
  (topologyId revisionId : String)
  deriving DecidableEq

namespace TopologyApplyGroupPayloadMember

def toDocument (member : TopologyApplyGroupPayloadMember) : Value :=
  .object
    [("topology_id", .string member.topologyId),
      ("revision_id", .string member.revisionId)]

def ofDocument (document : Value) : Except String TopologyApplyGroupPayloadMember := do
  document.denyUnknownFields ["topology_id", "revision_id"]
  return {
    topologyId := ← document.required "topology_id" readString
    revisionId := ← document.required "revision_id" readString }

theorem ofDocument_toDocument (member : TopologyApplyGroupPayloadMember) :
    ofDocument member.toDocument = .ok member := by
  rfl

end TopologyApplyGroupPayloadMember

structure TopologyApplyPayload where
  (topologyId revisionId : String)
  phase : TopologyApplyPhase
  (bindings previousBindings : List ApiBinding)
  group : List TopologyApplyGroupPayloadMember
  deriving DecidableEq

namespace TopologyApplyPayload

/-- The document that a planner writes: the group of a group phase, or else the
topology, the revision and the bindings. -/
def toDocument (payload : TopologyApplyPayload) : Value :=
  match payload.phase with
  | .finalizeGroup =>
    .object
      [("phase", .string payload.phase.text),
        ("group", .array (payload.group.map TopologyApplyGroupPayloadMember.toDocument))]
  | _ =>
    .object
      [("topology_id", .string payload.topologyId),
        ("revision_id", .string payload.revisionId),
        ("phase", .string payload.phase.text),
        ("bindings", .array (payload.bindings.map ApiBinding.toDocument)),
        ("previous_bindings", .array (payload.previousBindings.map ApiBinding.toDocument))]

def ofDocument (document : Value) : Except String TopologyApplyPayload := do
  document.denyUnknownFields
    ["topology_id", "revision_id", "phase", "bindings", "previous_bindings", "group"]
  return {
    topologyId := ← document.orDefault "topology_id" readString ""
    revisionId := ← document.orDefault "revision_id" readString ""
    phase := ← document.orDefault "phase"
      (readVariant TopologyApplyPhase.all TopologyApplyPhase.text) .full
    bindings := ← document.orDefault "bindings" (Value.readList ApiBinding.ofDocument) []
    previousBindings := ← document.orDefault "previous_bindings"
      (Value.readList ApiBinding.ofDocument) []
    group := ← document.orDefault "group"
      (Value.readList TopologyApplyGroupPayloadMember.ofDocument) [] }

/-- The members that a planner does not write are the ones that it leaves empty. -/
def Planned (payload : TopologyApplyPayload) : Prop :=
  if payload.phase = .finalizeGroup then
    payload.topologyId = "" ∧ payload.revisionId = "" ∧ payload.bindings = [] ∧
      payload.previousBindings = []
  else payload.group = []

theorem ofDocument_toDocument {payload : TopologyApplyPayload} (planned : payload.Planned) :
    ofDocument payload.toDocument = .ok payload := by
  obtain ⟨_, _, phase, _, _, group⟩ := payload
  have readBindings (items : List ApiBinding) :
      Value.readList ApiBinding.ofDocument (.array (items.map ApiBinding.toDocument)) = .ok items :=
    Value.readList_map ApiBinding.ofDocument_toDocument items
  have readGroup (items : List TopologyApplyGroupPayloadMember) :
      Value.readList TopologyApplyGroupPayloadMember.ofDocument
        (.array (items.map TopologyApplyGroupPayloadMember.toDocument)) = .ok items :=
    Value.readList_map TopologyApplyGroupPayloadMember.ofDocument_toDocument items
  cases phase with
  | finalizeGroup =>
    obtain ⟨rfl, rfl, rfl, rfl⟩ := planned
    simp [ofDocument, toDocument, Value.denyUnknownFields, Value.orDefault, Value.get, readGroup]
    rfl
  | _ =>
    obtain rfl : group = [] := planned
    simp [ofDocument, toDocument, Value.denyUnknownFields, Value.orDefault, Value.get, readBindings]
    rfl

end TopologyApplyPayload

end UntitledOJ
