import UntitledOJ.ControlPlaneJob
import Mathlib.Data.List.Sort

/-!
# Topology specifications

A topology names the endpoints of a deployment and the links between them.  Specifications are
validated field by field, brought into a canonical order and hashed.
-/

namespace UntitledOJ

/-- `OrchestratorError`, as far as topologies raise it. -/
inductive OrchestratorError where
  | invalidManifest (message : String)
  | blocked (message : String)
  deriving DecidableEq, Repr

def OrchestratorError.text : OrchestratorError → String
  | .invalidManifest message => "invalid manifest: " ++ message
  | .blocked message => "operation blocked: " ++ message

/-- The standard library's reading of IP addresses. -/
class AddressSyntax where
  isIpAddr : String → Bool

namespace OrchestratorError

def invalid {α : Type} (message : String) : Except OrchestratorError α :=
  .error (.invalidManifest message)

def ensure (condition : Bool) (message : String) : Except OrchestratorError Unit :=
  if condition then .ok () else invalid message

end OrchestratorError

open OrchestratorError (invalid ensure)

def maxTopologyIdLen : Nat := 63

def maxTextLen : Nat := 512

def maxJsonBytes : Nat := 64 * 1024

def topologySpecVersion : String := "v1"

/-- `value != value.trim()`. -/
def hasSurroundingWhitespace (value : String) : Bool :=
  value.toList.head?.any isTrimmed || value.toList.getLast?.any isTrimmed

def isControl (character : Char) : Bool :=
  character.toNat ≤ 0x1F || (0x7F ≤ character.toNat && character.toNat ≤ 0x9F)

def validateOptionalText (name value : String) (maxLen : Nat) :
    Except OrchestratorError Unit := do
  ensure (!hasSurroundingWhitespace value) (name ++ " must not have surrounding whitespace")
  ensure (value.utf8ByteSize ≤ maxLen) (name ++ " exceeds " ++ toString maxLen ++ " bytes")
  ensure (!value.toList.any isControl) (name ++ " contains control characters")

def validateRequiredText (name value : String) (maxLen : Nat) :
    Except OrchestratorError Unit := do
  ensure (!value.isEmpty) (name ++ " is required")
  validateOptionalText name value maxLen

def validateOptionalIdentifier (name : String) : Option String → Except OrchestratorError Unit
  | none => .ok ()
  | some value => validateRequiredText name value maxTextLen

def validateCharacters (value : String) (first later : Char → Bool)
    (missing badFirst badLater : String) : Except OrchestratorError Unit :=
  match value.toList with
  | [] => invalid missing
  | head :: tail => do
      ensure (first head) badFirst
      ensure (tail.all later) badLater

def validateTopologyId (value : String) : Except OrchestratorError Unit := do
  validateRequiredText "topology_id" value maxTopologyIdLen
  validateCharacters value (fun c => c.isLower || c.isDigit)
    (fun c => c.isLower || c.isDigit || c = '-' || c = '.' || c = '_')
    "topology_id is required" "topology_id must start with a lowercase letter or digit"
    "topology_id contains unsupported characters"

def validateServiceId (value : String) : Except OrchestratorError Unit := do
  validateRequiredText "service_id" value maxTextLen
  validateCharacters value (fun c => c.isLower || c.isDigit)
    (fun c => c.isLower || c.isDigit || c = '-')
    "service_id is required" "service_id must start with a lowercase letter or digit"
    "service_id contains unsupported characters"

def validateToken (name value : String) (maxLen : Nat) : Except OrchestratorError Unit := do
  validateRequiredText name value maxLen
  validateCharacters value Char.isLower
    (fun c => c.isLower || c.isDigit || c = '-' || c = '.' || c = '+')
    (name ++ " is required") (name ++ " must start with a lowercase letter")
    (name ++ " contains unsupported characters")

def validateProtocol (value : String) : Except OrchestratorError Unit :=
  validateToken "protocol" value 32

/-- `validate_binding_name`; both character classes fail with one message. -/
def validateBindingName (value : String) : Except OrchestratorError Unit := do
  validateRequiredText "link api binding name" value maxTextLen
  validateCharacters value Char.isAlphanum
    (fun c => c.isAlphanum || c = '-' || c = '_' || c = '.' || c = ':')
    "link api binding name is required" "link api binding name contains unsupported characters"
    "link api binding name contains unsupported characters"

def validateJsonObject [Digests] (name : String) (value : Value) :
    Except OrchestratorError Unit := do
  match value with
  | .null | .object _ => pure ()
  | _ => invalid (name ++ " must be an object or null")
  ensure ((Digests.toVec value).utf8ByteSize ≤ maxJsonBytes)
    (name ++ " exceeds " ++ toString maxJsonBytes ++ " bytes")

def rsplitOnce (separator : Char) (text : String) : Option (String × String) :=
  let reversed := text.toList.reverse
  match reversed.dropWhile (· ≠ separator) with
  | [] => none
  | _ :: before =>
    some (String.ofList before.reverse,
      String.ofList (reversed.takeWhile (· ≠ separator)).reverse)

structure EndpointIdentity where
  (host port serviceName : String)
  deriving DecidableEq, Repr

def parseEndpointId (value : String) : Except OrchestratorError EndpointIdentity :=
  match rsplitOnce ':' value with
  | none => invalid "endpoint must be ip:port:service-name"
  | some (hostAndPort, serviceName) =>
    match rsplitOnce ':' hostAndPort with
    | none => invalid "endpoint must be ip:port:service-name"
    | some (host, port) =>
      if isBlank host || isBlank port || isBlank serviceName then
        invalid "endpoint must be ip:port:service-name"
      else .ok { host, port, serviceName }

/-- `port.parse::<u16>()`: digits after an optional sign. -/
def parsePort (port : String) : Option Nat :=
  let digits :=
    match port.toList with
    | '+' :: rest => rest
    | digits => digits
  if digits.isEmpty || !digits.all Char.isDigit then none
  else
    let number := digits.foldl (fun number digit => number * 10 + (digit.toNat - '0'.toNat)) 0
    if number < 2 ^ 16 then some number else none

def validateEndpointId [AddressSyntax] (value : String) : Except OrchestratorError Unit := do
  let identity ← parseEndpointId value
  ensure (AddressSyntax.isIpAddr identity.host) "endpoint IP is invalid"
  match parsePort identity.port with
  | none => invalid "endpoint port is invalid"
  | some port =>
    ensure (0 < port) "endpoint port is invalid"
    validateCharacters identity.serviceName (fun c => c.isLower || c.isDigit)
      (fun c => c.isLower || c.isDigit || c = '-') "endpoint service name is invalid"
      "endpoint service name is invalid" "endpoint service name is invalid"

structure TopologyAuthoritySpec where
  (rootEndpoint exposurePolicy : String)
  deriving DecidableEq

structure TopologyEndpointSpec where
  (endpoint serviceId protocol healthPath displayName note : String)
  config : Value
  deriving DecidableEq

structure TopologyApiBindingSpec where
  (requirementName apiId version : String)
  isOptional : Bool
  (providerDeploymentId selection : String)
  deriving DecidableEq

structure TopologyLinkSpec where
  (sourceEndpoint targetEndpoint protocol authMode scope : String)
  enabled : Bool
  (configRef secretRef : String)
  policy : Value
  apiBindings : List TopologyApiBindingSpec
  deriving DecidableEq

structure TopologySpec where
  (apiVersion topologyId rootEndpoint : String)
  authority : TopologyAuthoritySpec
  endpoints : List TopologyEndpointSpec
  links : List TopologyLinkSpec
  deriving DecidableEq

section

variable [Digests] [AddressSyntax]

def validateEndpointSpec (endpoint : TopologyEndpointSpec) : Except OrchestratorError Unit := do
  validateEndpointId endpoint.endpoint
  validateServiceId endpoint.serviceId
  let identity ← parseEndpointId endpoint.endpoint
  ensure (identity.serviceName = endpoint.serviceId)
    ("endpoint " ++ endpoint.endpoint ++ " service name must match service_id " ++
      endpoint.serviceId)
  validateProtocol endpoint.protocol
  validateOptionalText "endpoint display_name" endpoint.displayName maxTextLen
  validateOptionalText "endpoint note" endpoint.note maxTextLen
  if !endpoint.healthPath.isEmpty then
    ensure (endpoint.healthPath.toList.head? = some '/') "endpoint health_path must start with /"
    validateRequiredText "endpoint health_path" endpoint.healthPath maxTextLen
  validateJsonObject "endpoint config" endpoint.config

def validateApiBindingSpec (link : TopologyLinkSpec) (names : List String)
    (binding : TopologyApiBindingSpec) : Except OrchestratorError Unit := do
  validateBindingName binding.requirementName
  validateToken "link api binding api_id" binding.apiId maxTextLen
  ensure (binding.requirementName ∉ names)
    ("link " ++ link.sourceEndpoint ++ " -> " ++ link.targetEndpoint ++
      " has duplicate API binding name " ++ binding.requirementName)
  if !binding.version.isEmpty then
    validateRequiredText "link api binding version" binding.version maxTextLen
  if !binding.providerDeploymentId.isEmpty then
    validateToken "link api binding provider_deployment_id" binding.providerDeploymentId maxTextLen
  ensure (binding.selection ∈ ["nearest-healthy", "same-node", "explicit"])
    ("link API binding " ++ binding.requirementName ++ " has unsupported selection policy " ++
      binding.selection)
  ensure (binding.selection ≠ "explicit" || !binding.providerDeploymentId.isEmpty)
    ("explicit link API binding " ++ binding.requirementName ++
      " requires provider_deployment_id")

def validateApiBindingSpecs (link : TopologyLinkSpec) (names : List String) :
    List TopologyApiBindingSpec → Except OrchestratorError Unit
  | [] => .ok ()
  | binding :: rest => do
      validateApiBindingSpec link names binding
      validateApiBindingSpecs link (binding.requirementName :: names) rest

def validateLinkSpec (link : TopologyLinkSpec) (endpoints : List String) :
    Except OrchestratorError Unit := do
  validateEndpointId link.sourceEndpoint
  validateEndpointId link.targetEndpoint
  ensure (link.sourceEndpoint ≠ link.targetEndpoint)
    "link source and target must be different endpoints"
  ensure (link.sourceEndpoint ∈ endpoints)
    ("link source endpoint " ++ link.sourceEndpoint ++ " is not registered")
  ensure (link.targetEndpoint ∈ endpoints)
    ("link target endpoint " ++ link.targetEndpoint ++ " is not registered")
  validateProtocol link.protocol
  validateToken "link auth_mode" link.authMode maxTextLen
  validateToken "link scope" link.scope maxTextLen
  validateOptionalText "link config_ref" link.configRef maxTextLen
  validateOptionalText "link secret_ref" link.secretRef maxTextLen
  ensure (link.authMode ≠ "secret-ref" || !link.secretRef.isEmpty)
    "secret-ref link auth_mode requires secret_ref"
  validateApiBindingSpecs link [] link.apiBindings
  validateJsonObject "link policy" link.policy

def validateEndpoints (seen : List String) :
    List TopologyEndpointSpec → Except OrchestratorError (List String)
  | [] => .ok seen
  | endpoint :: rest => do
      validateEndpointSpec endpoint
      ensure (endpoint.endpoint ∉ seen) ("duplicate endpoint " ++ endpoint.endpoint)
      validateEndpoints (endpoint.endpoint :: seen) rest

instance lawfulPairs : LawfulBEq (String × String) := inferInstance

/-- The consumer requirements that an enabled link binds. -/
def bindRequirements (source : String) (requirements : List (String × String)) :
    List TopologyApiBindingSpec → Except OrchestratorError (List (String × String))
  | [] => .ok requirements
  | binding :: rest => do
      ensure ((source, binding.requirementName) ∉ requirements)
        ("consumer endpoint " ++ source ++ " binds requirement " ++ binding.requirementName ++
          " more than once")
      bindRequirements source ((source, binding.requirementName) :: requirements) rest

def validateLinks (endpoints : List String) (seen requirements : List (String × String)) :
    List TopologyLinkSpec → Except OrchestratorError Unit
  | [] => .ok ()
  | link :: rest => do
      validateLinkSpec link endpoints
      ensure ((link.sourceEndpoint, link.targetEndpoint) ∉ seen)
        ("duplicate link " ++ link.sourceEndpoint ++ " -> " ++ link.targetEndpoint)
      let bound ←
        if link.enabled then bindRequirements link.sourceEndpoint requirements link.apiBindings
        else .ok requirements
      validateLinks endpoints ((link.sourceEndpoint, link.targetEndpoint) :: seen) bound rest

def TopologySpec.validate (spec : TopologySpec) : Except OrchestratorError Unit := do
  validateTopologyId spec.topologyId
  ensure (spec.apiVersion = topologySpecVersion)
    ("topology api_version must be " ++ topologySpecVersion)
  validateEndpointId spec.rootEndpoint
  ensure (spec.authority.rootEndpoint = spec.rootEndpoint)
    "authority root_endpoint must match topology root_endpoint"
  validateToken "authority exposure_policy" spec.authority.exposurePolicy maxTextLen
  let endpoints ← validateEndpoints [] spec.endpoints
  ensure (spec.rootEndpoint ∈ endpoints) "topology root_endpoint must be present in endpoints"
  validateLinks endpoints [] [] spec.links

end

def TopologyApiBindingSpec.order (left right : TopologyApiBindingSpec) : Bool :=
  ((compare left.requirementName right.requirementName).then
    ((compare left.apiId right.apiId).then
      ((compare left.version right.version).then
        ((compare left.isOptional.toNat right.isOptional.toNat).then
          ((compare left.providerDeploymentId right.providerDeploymentId).then
            (compare left.selection right.selection)))))).isLE

def TopologyLinkSpec.order (left right : TopologyLinkSpec) : Bool :=
  ((compare left.sourceEndpoint right.sourceEndpoint).then
    (compare left.targetEndpoint right.targetEndpoint)).isLE

/-- The canonical order of endpoints, links and their API bindings. -/
def TopologySpec.sorted (spec : TopologySpec) : TopologySpec :=
  { spec with
    endpoints := spec.endpoints.insertionSort fun left right => left.endpoint ≤ right.endpoint
    links :=
      (spec.links.map fun link =>
        { link with
          apiBindings := link.apiBindings.insertionSort fun left right =>
            left.order right }).insertionSort fun left right => left.order right }

def TopologySpec.canonicalized [Digests] [AddressSyntax] (spec : TopologySpec) :
    Except OrchestratorError TopologySpec := do
  spec.validate
  return spec.sorted

def TopologyAuthoritySpec.toDocument (authority : TopologyAuthoritySpec) : Value :=
  .object
    [("root_endpoint", .string authority.rootEndpoint),
      ("exposure_policy", .string authority.exposurePolicy)]

def TopologyEndpointSpec.toDocument (endpoint : TopologyEndpointSpec) : Value :=
  .object
    [("endpoint", .string endpoint.endpoint),
      ("service_id", .string endpoint.serviceId),
      ("protocol", .string endpoint.protocol),
      ("health_path", .string endpoint.healthPath),
      ("display_name", .string endpoint.displayName),
      ("note", .string endpoint.note),
      ("config", endpoint.config)]

def TopologyApiBindingSpec.toDocument (binding : TopologyApiBindingSpec) : Value :=
  .object
    [("requirement", .string binding.requirementName),
      ("api_id", .string binding.apiId),
      ("version", .string binding.version),
      ("optional", .bool binding.isOptional),
      ("provider_deployment_id", .string binding.providerDeploymentId),
      ("selection", .string binding.selection)]

/-- An empty list of API bindings is not written. -/
def TopologyLinkSpec.toDocument (link : TopologyLinkSpec) : Value :=
  .object (
    [("source_endpoint", .string link.sourceEndpoint),
      ("target_endpoint", .string link.targetEndpoint),
      ("protocol", .string link.protocol),
      ("auth_mode", .string link.authMode),
      ("scope", .string link.scope),
      ("enabled", .bool link.enabled),
      ("config_ref", .string link.configRef),
      ("secret_ref", .string link.secretRef),
      ("policy", link.policy)] ++
    if link.apiBindings.isEmpty then []
    else [("api_bindings", .array (link.apiBindings.map TopologyApiBindingSpec.toDocument))])

def TopologySpec.toDocument (spec : TopologySpec) : Value :=
  .object
    [("api_version", .string spec.apiVersion),
      ("topology_id", .string spec.topologyId),
      ("root_endpoint", .string spec.rootEndpoint),
      ("authority", spec.authority.toDocument),
      ("endpoints", .array (spec.endpoints.map TopologyEndpointSpec.toDocument)),
      ("links", .array (spec.links.map TopologyLinkSpec.toDocument))]

def TopologySpec.contentSha256 [Digests] [AddressSyntax] (spec : TopologySpec) :
    Except OrchestratorError String := do
  let canonical ← spec.canonicalized
  return Digests.sha256Hex (Digests.toVec canonical.toDocument)

end UntitledOJ
