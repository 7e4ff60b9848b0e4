import UntitledOJ.TopologyRevision

/-!
# API bindings

A binding grants a consumer's requirement to a provider.  An apply stages it, the end of the
apply activates it, and a later revision that does not want it revokes it.
-/

namespace UntitledOJ

inductive ApiBindingState where
  | pending | resolved | active | unbound | revoked | error
  deriving DecidableEq, Repr

def ApiBindingState.name : ApiBindingState → String
  | .pending => "Pending"
  | .resolved => "Resolved"
  | .active => "Active"
  | .unbound => "Unbound"
  | .revoked => "Revoked"
  | .error => "Error"

inductive ApiBindingDesiredState where
  | active
  | revoked
  deriving DecidableEq, Repr

inductive ApiBindingObservedState where
  | pending | resolved | active | revoked | error
  deriving DecidableEq, Repr

inductive ApiBindingHealth where
  | unknown | healthy | unhealthy | degraded
  deriving DecidableEq, Repr

structure ApiBinding where
  (bindingId requirementName apiId apiVersion consumerDeploymentId consumerServiceId consumerNodeId
    consumerEndpoint providerDeploymentId providerServiceId providerNodeId providerEndpoint
    providerPath virtualEndpoint protocol : String)
  methods : List String
  (authMode providerAuthMode permission : String)
  timeoutMs : Option Nat
  (topologyId topologyRevisionId linkSourceEndpoint linkTargetEndpoint credentialRef : String)
  credentialGeneration : Nat
  contextGeneration : Nat
  desiredState : ApiBindingDesiredState
  observedState : ApiBindingObservedState
  health : ApiBindingHealth
  drift : List String
  lastOperationId : String
  state : ApiBindingState
  isOptional : Bool
  (reason createdAt updatedAt : String)
  deriving DecidableEq

namespace ApiBinding

def derivedState (binding : ApiBinding) : ApiBindingState :=
  match binding.desiredState, binding.observedState with
  | .active, .pending => .pending
  | .active, .resolved => .resolved
  | .active, .active => .active
  | .active, .revoked => if binding.isOptional then .unbound else .error
  | .active, .error | .revoked, .error => .error
  | .revoked, .revoked => .revoked
  | .revoked, _ => .pending

def isStable (value : String) : Bool :=
  match value.toList with
  | [] => false
  | first :: rest =>
    first.isAlphanum &&
      rest.all fun c => c.isAlphanum || c = '_' || c = '.' || c = ':' || c = '-'

def requireFilled (message : String → String) :
    List (String × String) → Except String Unit
  | [] => .ok ()
  | (name, value) :: rest => do
      require (!isBlank value) (message name)
      requireFilled message rest

def requireStable : List (String × String) → Except String Unit
  | [] => .ok ()
  | (name, value) :: rest => do
      require (isStable value) ("API binding " ++ name ++ " is invalid")
      requireStable rest

def validate (binding : ApiBinding) : Except String Unit := do
  requireFilled (fun name => "API binding " ++ name ++ " must not be empty")
    [("binding_id", binding.bindingId),
      ("requirement_name", binding.requirementName),
      ("api_id", binding.apiId),
      ("consumer_deployment_id", binding.consumerDeploymentId),
      ("consumer_service_id", binding.consumerServiceId),
      ("consumer_node_id", binding.consumerNodeId),
      ("created_at", binding.createdAt),
      ("updated_at", binding.updatedAt)]
  requireStable
    [("binding_id", binding.bindingId),
      ("requirement_name", binding.requirementName),
      ("api_id", binding.apiId)]
  require (binding.credentialGeneration ≠ 0 && binding.contextGeneration ≠ 0)
    "API binding credential_generation and context_generation must be positive"
  require (binding.state = binding.derivedState)
    ("API binding compatibility state " ++ binding.state.name ++
      " disagrees with derived state " ++ binding.derivedState.name)
  if binding.state = .resolved ∨ binding.state = .active then
    requireFilled (fun name => "resolved API binding " ++ name ++ " must not be empty")
      [("provider_deployment_id", binding.providerDeploymentId),
        ("provider_service_id", binding.providerServiceId),
        ("provider_node_id", binding.providerNodeId),
        ("provider_endpoint", binding.providerEndpoint),
        ("protocol", binding.protocol),
        ("auth_mode", binding.authMode)]
    require (!((binding.protocol = "http" || binding.protocol = "https") &&
        (binding.providerPath.toList.head? ≠ some '/' || binding.methods.isEmpty)))
      "resolved HTTP API binding requires provider_path and methods"
  require (!(binding.state = .unbound && !binding.isOptional))
    "only optional API bindings may be UNBOUND"
  require (binding.topologyRevisionId.isEmpty || !binding.topologyId.isEmpty)
    "topology_revision_id requires topology_id"
  require (binding.linkSourceEndpoint.isEmpty = binding.linkTargetEndpoint.isEmpty)
    "link source and target endpoints must be set together"

end ApiBinding

structure TopologyApplyGroupMember where
  (topologyId revisionId : String)
  activeBindings : List ApiBinding
  deriving DecidableEq

/-- The bindings of `validate_prepared_bindings` in order, with the generation of
each consumer and the requirements seen before. -/
def validatePrepared (topologyId revisionId operationId : String)
    (generations : List (String × Nat)) (requirements : List (String × String)) :
    List ApiBinding → Except String Unit
  | [] => .ok ()
  | binding :: rest => do
      binding.validate
      require (binding.topologyId = topologyId && binding.topologyRevisionId = revisionId &&
          binding.lastOperationId = operationId && binding.state = .pending)
        ("prepared binding " ++ binding.bindingId ++
          " does not belong to the applying revision/operation or is not PENDING")
      require (binding.credentialGeneration = binding.contextGeneration)
        ("prepared binding " ++ binding.bindingId ++
          " has split credential/context generations")
      let generation :=
        (generations.lookup binding.consumerDeploymentId).getD binding.credentialGeneration
      require (generation = binding.credentialGeneration)
        ("consumer " ++ binding.consumerDeploymentId ++
          " bindings do not share one deployment-wide generation")
      require ((binding.consumerDeploymentId, binding.requirementName) ∉ requirements)
        ("consumer " ++ binding.consumerDeploymentId ++ " requirement " ++
          binding.requirementName ++ " is repeated")
      validatePrepared topologyId revisionId operationId
        ((binding.consumerDeploymentId, generation) :: generations)
        ((binding.consumerDeploymentId, binding.requirementName) :: requirements) rest

def validatePreparedBindings (bindings : List ApiBinding)
    (topologyId revisionId operationId : String) : Except String Unit :=
  validatePrepared topologyId revisionId operationId [] [] bindings

def ApiBinding.activated (observedAt : String) (binding : ApiBinding) : ApiBinding :=
  if binding.desiredState = .active then
    { binding with
      state := .active
      observedState := .active
      health := .healthy
      reason := ""
      updatedAt := observedAt }
  else
    { binding with
      state := .revoked
      observedState := .revoked
      health := .unknown
      reason := "removed or disabled by applied Topology revision"
      updatedAt := observedAt }

def activateStagedBindings (bindings : List ApiBinding) (observedAt : String) :
    List ApiBinding :=
  bindings.map (ApiBinding.activated observedAt)

def requirementOwners (members : List TopologyApplyGroupMember)
    (requirement : String × String) : List (String × ApiBindingState) :=
  members.flatMap fun member =>
    (member.activeBindings.filter fun binding =>
      (binding.consumerDeploymentId, binding.requirementName) = requirement).map fun binding =>
        (member.topologyId, binding.state)

/-- A requirement that one topology of the group gives up and another takes. -/
def isOneOwnerMove (owners : List (String × ApiBindingState)) : Bool :=
  match owners with
  | [first, second] =>
    first.1 ≠ second.1 &&
      owners.countP (fun owner => owner.2 = .active) = 1 &&
      owners.countP (fun owner => owner.2 = .revoked) = 1
  | _ => false

def normalizeGroupBindingMoves (members : List TopologyApplyGroupMember) :
    List TopologyApplyGroupMember :=
  members.map fun member =>
    { member with
      activeBindings := member.activeBindings.filter fun binding =>
        binding.state ≠ .revoked ||
          !isOneOwnerMove (requirementOwners members
            (binding.consumerDeploymentId, binding.requirementName)) }

end UntitledOJ
