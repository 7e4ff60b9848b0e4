import UntitledOJ.GoText
import UntitledOJ.KeyedTable
import UntitledOJ.Transactions

/-!
# Topology projections at the providers

Gateway and Auth each keep one document per topology and change it on requests of the
control plane.  `PlanApply` fences a restore by the operation and the revision that are
stored; it does not fence an apply, and nothing fences a delete.
-/

namespace UntitledOJ
namespace TopologyProjection

inductive Action where
  | apply | restorePrevious | delete
  deriving DecidableEq

structure BindingRoute where
  (bindingId requirementName consumerDeploymentId consumerServiceId consumerNodeId : String)
  credentialGeneration : Nat
  (apiId providerDeploymentId providerServiceId providerNodeId providerEndpoint upstreamBase
    providerPath virtualPath authMode providerAuthMode permission : String)
  methods : List String
  timeoutMs : Nat
  deriving DecidableEq

structure BindingGrant where
  (bindingId requirementName consumerDeploymentId consumerServiceId consumerNodeId : String)
  credentialGeneration : Nat
  (apiId permission : String)
  deriving DecidableEq

/-- A request; a spec that is missing is `null`. -/
structure Request where
  (apiVersion provider : String)
  action : Action
  (topologyId attemptedRevisionId : String)
  (desiredRevisionId desiredContentSha256 : Option String)
  operationId : String
  spec : Value
  routes : List BindingRoute
  grants : List BindingGrant

structure Document where
  (provider topologyId revisionId contentSha256 operationId : String)
  spec : Value
  routes : List BindingRoute
  grants : List BindingGrant
  updatedAt : String

/-- `json.Unmarshal` of a topology spec, as far as its `topology_id`, and the test that
`url.Parse` finds an http origin or base URL. -/
class ProjectionSyntax where
  specTopologyId : Value → Option String
  isBaseUrl : String → Bool

section

def validToken (value : String) : Bool :=
  let value := trimSpace value
  value ≠ "" && value.utf8ByteSize ≤ 512 &&
    value.toList.all fun c => 0x21 ≤ c.toNat && c.toNat ≠ 0x7f

def validSha256 (value : String) : Bool :=
  value.utf8ByteSize = 64 && value.toList.all fun c =>
    ('0' ≤ c && c ≤ '9') || ('a' ≤ c && c ≤ 'f')

def validMethod (value : String) : Bool :=
  value = "*" || value = "ANY" ||
    (value ≠ "" && value.toList.all fun c => 'A' ≤ c && c ≤ 'Z')

def requireTokens (fields : List (String × String)) : Except String Unit :=
  fields.forM fun field => require (validToken field.2) (field.1 ++ " is required")

def BindingGrant.validate (grant : BindingGrant) : Except String Unit := do
  requireTokens [("binding_id", grant.bindingId), ("requirement_name", grant.requirementName),
    ("consumer_deployment_id", grant.consumerDeploymentId),
    ("consumer_service_id", grant.consumerServiceId), ("consumer_node_id", grant.consumerNodeId),
    ("api_id", grant.apiId), ("permission", grant.permission)]
  require (grant.credentialGeneration ≠ 0) "credential_generation must be positive"

variable [ProjectionSyntax]

def BindingRoute.validate (route : BindingRoute) : Except String Unit := do
  requireTokens [("binding_id", route.bindingId), ("requirement_name", route.requirementName),
    ("consumer_deployment_id", route.consumerDeploymentId),
    ("consumer_service_id", route.consumerServiceId), ("consumer_node_id", route.consumerNodeId),
    ("api_id", route.apiId), ("provider_deployment_id", route.providerDeploymentId),
    ("provider_service_id", route.providerServiceId), ("provider_node_id", route.providerNodeId),
    ("provider_endpoint", route.providerEndpoint), ("provider_path", route.providerPath),
    ("virtual_path", route.virtualPath), ("permission", route.permission)]
  require (route.credentialGeneration ≠ 0 && route.timeoutMs ≠ 0)
    "credential_generation and timeout_ms must be positive"
  require (route.authMode = "workload") "binding route auth_mode must be workload"
  require (route.providerAuthMode = "workload" || route.providerAuthMode = "public")
    "binding route provider_auth_mode must be workload or public"
  require ("/".toList.isPrefixOf route.providerPath.toList &&
      "/internal/apis/".toList.isPrefixOf route.virtualPath.toList)
    "binding route paths are invalid"
  require (ProjectionSyntax.isBaseUrl route.upstreamBase)
    "upstream_base must be an http(s) origin/base URL"
  require (!route.methods.isEmpty) "binding route methods are required"
  route.methods.forM fun method => require (validMethod method) ("invalid method " ++ method)

def BindingRoute.grant (route : BindingRoute) : BindingGrant :=
  { route with }

namespace Request

variable (request : Request)

/-- The route at an index, given the routes before it. -/
def validateRoute (entry : BindingRoute × Nat) : Except String Unit := do
  let (route, index) := entry
  let earlier := request.routes.take index
  route.validate.mapError ("route " ++ toString index ++ ": " ++ ·)
  require (!earlier.any (·.bindingId = route.bindingId))
    ("duplicate route binding_id " ++ route.bindingId)
  require (!earlier.any fun other => other.consumerDeploymentId = route.consumerDeploymentId &&
      other.requirementName = route.requirementName)
    ("consumer " ++ route.consumerDeploymentId ++ " has multiple routes for requirement " ++
      route.requirementName)

def validateGrant (entry : BindingGrant × Nat) : Except String Unit := do
  let (grant, index) := entry
  grant.validate.mapError ("grant " ++ toString index ++ ": " ++ ·)
  require (!(request.grants.take index).any (·.bindingId = grant.bindingId))
    ("duplicate grant binding_id " ++ grant.bindingId)
  match request.routes.find? (·.bindingId = grant.bindingId) with
  | none => .error ("grant " ++ grant.bindingId ++ " has no corresponding route")
  | some route =>
    require (route.grant = grant) ("grant " ++ grant.bindingId ++
      " does not exactly match its route identity")

def validate (expectedProvider pathTopologyId : String) : Except String Unit := do
  require (request.apiVersion = "v1" && request.provider = expectedProvider &&
    request.topologyId = pathTopologyId) "provider request identity does not match the resource"
  require (validToken request.topologyId && validToken request.attemptedRevisionId &&
    validToken request.operationId) "topology, revision and operation identifiers are required"
  if request.action = .delete then
    require (request.desiredRevisionId = none && request.desiredContentSha256 = none &&
        request.spec = .null && request.routes.isEmpty && request.grants.isEmpty)
      "delete request must describe an absent projection"
  else
    require (request.desiredRevisionId.any validToken &&
        request.desiredContentSha256.any validSha256 && request.spec ≠ .null)
      "apply/restore requires revision, content hash and topology spec"
    require (request.action ≠ .apply ||
      request.desiredRevisionId = some request.attemptedRevisionId)
      "apply desired revision must equal the attempted revision"
    require (request.action ≠ .restorePrevious ||
        request.desiredRevisionId ≠ some request.attemptedRevisionId)
      "restore desired revision must differ from the attempted revision"
    require (ProjectionSyntax.specTopologyId request.spec = some request.topologyId)
      "topology spec is invalid or belongs to another resource"
    request.routes.zipIdx.forM request.validateRoute
    request.grants.zipIdx.forM request.validateGrant
    require (request.routes.length = request.grants.length)
      "every route must have one exact grant"

def document (now : String) : Document where
  provider := request.provider
  topologyId := request.topologyId
  revisionId := request.desiredRevisionId.getD ""
  contentSha256 := request.desiredContentSha256.getD ""
  operationId := request.operationId
  spec := request.spec
  routes := request.routes.insertionSort (·.bindingId ≤ ·.bindingId)
  grants := request.grants.insertionSort (·.bindingId ≤ ·.bindingId)
  updatedAt := now

end Request

end

def sameDocumentState (current desired : Document) : Bool :=
  current.provider = desired.provider && current.topologyId = desired.topologyId &&
    current.revisionId = desired.revisionId && current.contentSha256 = desired.contentSha256 &&
    current.operationId = desired.operationId && current.spec = desired.spec &&
    current.routes = desired.routes && current.grants = desired.grants

def planApply (current : Option Document) (request : Request) (now : String) :
    Except String Bool :=
  match current with
  | none =>
    if request.action = .restorePrevious then
      .error ("operation " ++ request.operationId ++ " cannot restore absent topology " ++
        request.topologyId)
    else .ok true
  | some current =>
    if current.provider ≠ request.provider || current.topologyId ≠ request.topologyId then
      .error "persisted topology projection identity does not match the request"
    else if sameDocumentState current (request.document now) then .ok false
    else if request.action = .restorePrevious then
      if current.operationId ≠ request.operationId ||
          current.revisionId ≠ request.attemptedRevisionId then
        .error ("operation " ++ request.operationId ++ " cannot restore topology " ++
          request.topologyId ++ " because attempted revision " ++ request.attemptedRevisionId ++
          " is not current")
      else .ok true
    else if current.operationId = request.operationId then
      .error ("operation " ++ request.operationId ++ " was already used for another projection")
    else .ok true

/-- The documents in Redis by topology, and the index of topologies. -/
structure GatewayStore where
  documents : Std.TreeMap String Document
  index : Std.TreeSet String

/-- The tables `auth_topology_projections` and `auth_topology_binding_grants`. -/
structure AuthStore where
  projections : Std.TreeMap String Document
  grants : List (String × BindingGrant)
  references : ∀ row ∈ grants, projections.contains row.1 = true

def GatewayStore.apply (store : GatewayStore) (request : Request) (now : String) :
    Except String GatewayStore :=
  match planApply store.documents[request.topologyId]? request now with
  | .error refusal => .error ("persist Gateway topology projection: " ++ refusal)
  | .ok false => .ok store
  | .ok true => .ok ⟨store.documents.insert request.topologyId (request.document now),
      store.index.insert request.topologyId⟩

def GatewayStore.delete (store : GatewayStore) (topologyId : String) : GatewayStore :=
  ⟨store.documents.erase topologyId, store.index.erase topologyId⟩

def AuthStore.replace (store : AuthStore) (document : Document) : AuthStore where
  projections := store.projections.insert document.topologyId document
  grants := store.grants.filter (·.1 ≠ document.topologyId) ++
    document.grants.map (document.topologyId, ·)
  references := by
    intro row member
    obtain kept | ⟨grant, -, rfl⟩ := by simpa using member
    · simp [Std.TreeMap.contains_insert, store.references row kept.1]
    · simp

def AuthStore.apply (store : AuthStore) (request : Request) (now : String) :
    Except String AuthStore :=
  match planApply store.projections[request.topologyId]? request now with
  | .error refusal => .error refusal
  | .ok false => .ok store
  | .ok true => do
    (request.document now).grants.forM fun grant => require
      (!store.grants.any fun row => row.1 ≠ request.topologyId &&
        (row.2.bindingId = grant.bindingId ||
          (row.2.consumerDeploymentId = grant.consumerDeploymentId &&
            row.2.requirementName = grant.requirementName)))
      ("persist Auth binding grant " ++ grant.bindingId ++ ": duplicate key")
    return store.replace (request.document now)

/-- The grants go with the projection that they reference. -/
def AuthStore.delete (store : AuthStore) (topologyId : String) : AuthStore where
  projections := store.projections.erase topologyId
  grants := store.grants.filter (·.1 ≠ topologyId)
  references := by
    intro row member
    obtain ⟨kept, other⟩ := by simpa using member
    simp [Std.TreeMap.contains_erase, store.references row kept, Ne.symm other]

inductive ProviderStore where
  | gateway (store : GatewayStore)
  | auth (store : AuthStore)

namespace ProviderStore

def name : ProviderStore → String
  | gateway _ => "gateway"
  | auth _ => "auth"

def stored (topologyId : String) : ProviderStore → Option Document
  | gateway store => store.documents[topologyId]?
  | auth store => store.projections[topologyId]?

def projection (topologyId : String) (store : ProviderStore) :
    Option Document × List BindingGrant :=
  (store.stored topologyId, match store with
    | gateway _ => []
    | auth store => (store.grants.filter (·.1 = topologyId)).map (·.2))

def apply (store : ProviderStore) (request : Request) (now : String) :
    Except String ProviderStore :=
  match store with
  | gateway store => do return gateway (← store.apply request now)
  | auth store => do return auth (← store.apply request now)

def delete (topologyId : String) : ProviderStore → ProviderStore
  | gateway store => gateway (store.delete topologyId)
  | auth store => auth (store.delete topologyId)

theorem stored_delete (store : ProviderStore) (topologyId : String) :
    (store.delete topologyId).stored topologyId = none := by
  cases store <;> simp [delete, stored, GatewayStore.delete, AuthStore.delete]

variable {store : ProviderStore} {topologyId : String}

theorem projection_delete (absent : store.stored topologyId = none) (other : String) :
    (store.delete topologyId).projection other = store.projection other := by
  by_cases same : other = topologyId
  · subst same
    refine Prod.ext ((stored_delete store other).trans absent.symm) ?_
    cases store with
    | gateway store => rfl
    | auth store =>
      -- a grant of the topology would reference a projection that is not there
      have unreferenced : ∀ row ∈ store.grants, row.1 ≠ other := by
        rintro row member rfl
        have present := store.references row member
        simp [stored] at absent
        simp [absent] at present
      simp only [projection, delete, AuthStore.delete, List.filter_filter]
      congr 1
      refine List.filter_congr fun row member => ?_
      simp [unreferenced row member]
  · cases store with
    | gateway store =>
      simp [projection, stored, delete, GatewayStore.delete, Std.TreeMap.getElem?_erase,
        Ne.symm same]
    | auth store =>
      simp only [projection, stored, delete, AuthStore.delete, List.filter_filter,
        Std.TreeMap.getElem?_erase]
      simp only [Std.LawfulEqCmp.compare_eq_iff_eq, Ne.symm same, if_false, Prod.mk.injEq, true_and]
      congr 1
      refine List.filter_congr fun row _ => ?_
      by_cases own : row.1 = other <;> simp [own, same]

variable {request : Request} {now : String}

/-- A store applies a request by its plan: it is refused, it is stored already, or it
takes the place of what is stored. -/
theorem apply_plan {after : ProviderStore} (applied : store.apply request now = .ok after) :
    after = store ∨ planApply (store.stored request.topologyId) request now = .ok true ∧
      after.stored request.topologyId = some (request.document now) := by
  cases store with
  | gateway store =>
    obtain ⟨written, applies, returned⟩ := ok_of_bind applied
    obtain rfl : gateway written = after := Except.ok.inj returned
    simp only [GatewayStore.apply] at applies
    split at applies
    case h_1 => cases applies
    case h_2 => exact .inl (congrArg gateway (Except.ok.inj applies).symm)
    case h_3 planned =>
      obtain rfl := Except.ok.inj applies
      exact .inr ⟨planned, by simp [stored]⟩
  | auth store =>
    obtain ⟨written, applies, returned⟩ := ok_of_bind applied
    obtain rfl : auth written = after := Except.ok.inj returned
    simp only [AuthStore.apply] at applies
    split at applies
    case h_1 => cases applies
    case h_2 => exact .inl (congrArg auth (Except.ok.inj applies).symm)
    case h_3 planned =>
      obtain ⟨-, -, replaced⟩ := ok_of_bind applies
      obtain rfl := Except.ok.inj replaced
      exact .inr ⟨planned, by simp [stored, AuthStore.replace, Request.document]⟩

/-- The provider stores what the delivery asked for. -/
def Reflects (topologyId : String) (store : ProviderStore) (delivery : Request × String) : Prop :=
  if delivery.1.action = .delete then store.stored topologyId = none
  else ∃ document, store.stored topologyId = some document ∧
    sameDocumentState document (delivery.1.document delivery.2) = true

theorem planApply_same {document : Document}
    (same : sameDocumentState document (request.document now) = true) :
    planApply (some document) request now ≠ .ok true := by
  simp only [planApply, same, if_true]
  split <;> simp

/-- A restore is planned over its own operation's document only. -/
theorem planApply_restore {current : Option Document} (restores : request.action = .restorePrevious)
    (fenced : ∀ document ∈ current, document.operationId ≠ request.operationId) :
    planApply current request now ≠ .ok true := by
  cases current with
  | none => simp [planApply, restores]
  | some document =>
    have other := fenced document rfl
    simp only [planApply, restores]
    split
    · simp
    · split <;> simp [other]

/-- What an operation is kept from: what is stored is none of its own. -/
def FencedFrom (older topologyId : String) (store : ProviderStore) : Prop :=
  ∀ document ∈ store.stored topologyId, document.operationId ≠ older

variable {older : String}

theorem fencedFrom_of_reflects {delivery : Request × String}
    (installed : store.Reflects topologyId delivery) (newer : delivery.1.operationId ≠ older) :
    store.FencedFrom older topologyId := by
  intro document stored
  unfold Reflects at installed
  split at installed
  · simp [installed] at stored
  · obtain ⟨held, holds, same⟩ := installed
    obtain rfl : held = document := by simpa [holds] using stored
    simp only [sameDocumentState, Bool.and_eq_true, decide_eq_true_eq] at same
    exact same.1.1.1.2 ▸ newer

variable [ProjectionSyntax]

/-- A request arrives for a topology; whatever is refused changes nothing. -/
def deliver (topologyId : String) (store : ProviderStore) (delivery : Request × String) :
    ProviderStore :=
  match delivery.1.validate store.name topologyId with
  | .error _ => store
  | .ok () =>
    if delivery.1.action = .delete then store.delete topologyId
    else (store.apply delivery.1 delivery.2).toOption.getD store

def run (topologyId : String) (store : ProviderStore) (deliveries : List (Request × String)) :
    ProviderStore :=
  deliveries.foldl (deliver topologyId) store

theorem topologyId_of_validate {provider : String}
    (valid : request.validate provider topologyId = .ok ()) : request.topologyId = topologyId := by
  have identity := (ok_of_require_bind valid).1
  simp only [Bool.and_eq_true, decide_eq_true_eq] at identity
  exact identity.2

variable {delivery : Request × String}

theorem deliver_cases (topologyId : String) (store : ProviderStore) (delivery : Request × String) :
    store.deliver topologyId delivery = store ∨
      delivery.1.action = .delete ∧ store.deliver topologyId delivery = store.delete topologyId ∨
      delivery.1.action ≠ .delete ∧
        planApply (store.stored topologyId) delivery.1 delivery.2 = .ok true ∧
        (store.deliver topologyId delivery).stored topologyId =
          some (delivery.1.document delivery.2) := by
  cases valid : delivery.1.validate store.name topologyId with
  | error refusal => exact .inl (by simp [deliver, valid])
  | ok _ =>
    by_cases deletes : delivery.1.action = .delete
    · exact .inr (.inl ⟨deletes, by simp [deliver, valid, deletes]⟩)
    · have identity := topologyId_of_validate valid
      cases applied : store.apply delivery.1 delivery.2 with
      | error refusal =>
        exact .inl (by simp [deliver, valid, deletes, applied, Except.toOption])
      | ok after =>
        have delivered : store.deliver topologyId delivery = after := by
          simp [deliver, valid, deletes, applied, Except.toOption]
        rw [delivered]
        obtain same | ⟨planned, written⟩ := apply_plan applied
        · exact .inl same
        · rw [identity] at planned written
          exact .inr (.inr ⟨deletes, planned, written⟩)

section

variable (fenced : store.FencedFrom older topologyId)
include fenced

theorem deliver_restore (late : delivery.1.operationId = older)
    (restores : delivery.1.action = .restorePrevious) :
    store.deliver topologyId delivery = store := by
  obtain same | ⟨deletes, -⟩ | ⟨-, planned, -⟩ := deliver_cases topologyId store delivery
  · exact same
  · simp [restores] at deletes
  · exact absurd planned (planApply_restore restores fun document stored =>
      late ▸ fenced document stored)

theorem deliver_fenced
    (restores : delivery.1.operationId = older → delivery.1.action = .restorePrevious) :
    (store.deliver topologyId delivery).FencedFrom older topologyId := by
  by_cases late : delivery.1.operationId = older
  · rw [deliver_restore fenced late (restores late)]
    exact fenced
  · intro document stored
    obtain same | ⟨-, deleted⟩ | ⟨-, -, written⟩ := deliver_cases topologyId store delivery
    · exact fenced document (same ▸ stored)
    · simp [deleted, stored_delete] at stored
    · obtain rfl : delivery.1.document delivery.2 = document := by simpa [written] using stored
      exact late

theorem run_fenced {deliveries : List (Request × String)} (restores : ∀ delivery ∈ deliveries,
      delivery.1.operationId = older → delivery.1.action = .restorePrevious) :
    (store.run topologyId deliveries).FencedFrom older topologyId := by
  induction deliveries generalizing store with
  | nil => exact fenced
  | cons delivery later fencedLater =>
    exact fencedLater (deliver_fenced fenced (restores delivery (by simp)))
      fun other member => restores other (by simp [member])

end

theorem projection_deliver_of_reflects (installed : store.Reflects topologyId delivery)
    (other : String) :
    (store.deliver topologyId delivery).projection other = store.projection other := by
  unfold Reflects at installed
  obtain same | ⟨deletes, deleted⟩ | ⟨keeps, planned, -⟩ :=
    deliver_cases topologyId store delivery
  · rw [same]
  · rw [if_pos deletes] at installed
    rw [deleted, projection_delete installed]
  · rw [if_neg keeps] at installed
    obtain ⟨_, holds, same⟩ := installed
    exact absurd (holds ▸ planned) (planApply_same same)

/-- Once a request of a newer operation is installed, the restores of an older one leave the
store as it is, if nothing else of it arrives; and a request whose result is stored changes
nothing. -/
theorem restores_never_overwrite (topologyId older : String) (store : ProviderStore)
    (newer : Request × String) (isNewer : newer.1.operationId ≠ older)
    (installed : store.Reflects topologyId newer) (deliveries : List (Request × String))
    (restores : ∀ delivery ∈ deliveries,
      delivery.1.operationId = older → delivery.1.action = .restorePrevious) :
    (∀ before delivery, before ++ [delivery] <+: deliveries → delivery.1.operationId = older →
      store.run topologyId (before ++ [delivery]) = store.run topologyId before) ∧
    ∀ delivery, (store.run topologyId deliveries).Reflects topologyId delivery →
      ∀ other, (store.run topologyId (deliveries ++ [delivery])).projection other =
        (store.run topologyId deliveries).projection other := by
  have run_append (before : List (Request × String)) (delivery : Request × String) :
      store.run topologyId (before ++ [delivery]) =
        (store.run topologyId before).deliver topologyId delivery := by
    simp [run]
  constructor
  · intro before delivery arrives late
    have arrived := arrives.subset
    rw [run_append]
    refine deliver_restore ?_ late (restores delivery (arrived (by simp)) late)
    exact run_fenced (fencedFrom_of_reflects installed isNewer)
      fun other member => restores other (arrived (by simp [member]))
  · intro delivery stored other
    rw [run_append]
    exact projection_deliver_of_reflects stored other

end ProviderStore

@[reducible] def plainSyntax : ProjectionSyntax where
  specTopologyId value := match value with
    | .object [("topology_id", .string topologyId)] => some topologyId
    | _ => none
  isBaseUrl value := "http://".toList.isPrefixOf value.toList

def sampleRequest (operation : String) (action : Action) : Request where
  apiVersion := "v1"
  provider := "gateway"
  action := action
  topologyId := "t"
  attemptedRevisionId := operation
  desiredRevisionId := some (if action = .apply then operation else "0")
  desiredContentSha256 := some
    "0000000000000000000000000000000000000000000000000000000000000000"
  operationId := operation
  spec := .object [("topology_id", .string "t")]
  routes := []
  grants := []

open ProviderStore

theorem sample_tokens : validToken "t" = true ∧ validToken "a" = true ∧ validToken "b" = true := by
  refine ⟨?_, ?_, ?_⟩ <;>
    (simp [validToken, trimSpace, isTrimmed, List.rdropWhile]; decide)

variable {operation : String}

theorem sampleRequest_valid (token : validToken operation = true) :
    @Request.validate plainSyntax (sampleRequest operation .apply) "gateway" "t" = .ok () := by
  have digest : validSha256
      "0000000000000000000000000000000000000000000000000000000000000000" = true := by
    rfl
  have spec : @ProjectionSyntax.specTopologyId plainSyntax
      (.object [("topology_id", .string "t")]) = some "t" := rfl
  simp [Request.validate, sampleRequest, require, ok_then, token, sample_tokens, digest, spec]

theorem sampleRequest_deliver (store : GatewayStore) (now : String)
    (token : validToken operation = true)
    (free : ∀ document ∈ store.documents["t"]?, document.provider = "gateway" ∧
      document.topologyId = "t" ∧ document.operationId ≠ operation) : ∃ after,
      @deliver plainSyntax "t" (.gateway store) (sampleRequest operation .apply, now) =
        .gateway after ∧
      after.documents["t"]? = some ((sampleRequest operation .apply).document now) := by
  have planned : planApply store.documents["t"]? (sampleRequest operation .apply) now =
      .ok true := by
    cases held : store.documents["t"]? with
    | none => simp [planApply, sampleRequest]
    | some document =>
      obtain ⟨provider, topology, other⟩ := free document held
      simp [planApply, sampleRequest, sameDocumentState, Request.document, provider, topology,
        other]
  have applied : store.apply (sampleRequest operation .apply) now =
      .ok ⟨store.documents.insert "t" ((sampleRequest operation .apply).document now),
        store.index.insert "t"⟩ := by
    have topology : (sampleRequest operation .apply).topologyId = "t" := rfl
    simp only [GatewayStore.apply, topology, planned]
  have valid := sampleRequest_valid token
  refine ⟨⟨store.documents.insert "t" _, store.index.insert "t"⟩, ?_,
    Std.TreeMap.getElem?_insert_self⟩
  simp only [deliver, name, valid, ProviderStore.apply, applied]
  rfl

/-- The Gateway after operations `a` and `b` have applied their revisions. -/
def sampleStore : ProviderStore :=
  @run plainSyntax "t" (.gateway ⟨∅, ∅⟩)
    [(sampleRequest "a" .apply, "1"), (sampleRequest "b" .apply, "2")]

theorem sampleStore_eq : ∃ store, sampleStore = .gateway store ∧
    store.documents["t"]? = some ((sampleRequest "b" .apply).document "2") := by
  obtain ⟨first, delivered, held⟩ := sampleRequest_deliver ⟨∅, ∅⟩ "1" sample_tokens.2.1 (by simp)
  obtain ⟨second, deliveredNext, heldNext⟩ :=
    sampleRequest_deliver first "2" sample_tokens.2.2 (by
      simp [held, sampleRequest, Request.document])
  refine ⟨second, ?_, heldNext⟩
  simp only [sampleStore, run, List.foldl_cons, List.foldl_nil, delivered, deliveredNext]

theorem sampleStore_reflects : sampleStore.Reflects "t" (sampleRequest "b" .apply, "2") := by
  obtain ⟨_, ran, held⟩ := sampleStore_eq
  have keeps : (sampleRequest "b" .apply).action ≠ .delete := by simp [sampleRequest]
  rw [ran, Reflects, if_neg keeps]
  exact ⟨_, held, by simp [sameDocumentState]⟩

/-- An apply that is delivered once more brings the older operation back. -/
theorem late_apply_overwrites : sampleStore.Reflects "t" (sampleRequest "b" .apply, "2") ∧
      (@deliver plainSyntax "t" sampleStore (sampleRequest "a" .apply, "3")).stored "t" =
        some ((sampleRequest "a" .apply).document "3") ∧
      (sampleRequest "a" .apply).document "3" ≠ (sampleRequest "b" .apply).document "2" := by
  refine ⟨sampleStore_reflects, ?_, by simp [sampleRequest, Request.document]⟩
  obtain ⟨store, ran, held⟩ := sampleStore_eq
  obtain ⟨_, delivered, overwritten⟩ :=
    sampleRequest_deliver store "3" sample_tokens.2.1 (by
      simp [held, sampleRequest, Request.document])
  rw [ran, delivered]
  exact overwritten

theorem late_restore_ignored :
    @run plainSyntax "t" sampleStore [(sampleRequest "a" .restorePrevious, "3")] = sampleStore := by
  have fenced := (@restores_never_overwrite plainSyntax "t" "a" sampleStore
    (sampleRequest "b" .apply, "2") (by simp [sampleRequest]) sampleStore_reflects
    [(sampleRequest "a" .restorePrevious, "3")] (by simp [sampleRequest])).1
  exact fenced [] _ (by simp) rfl

end TopologyProjection
end UntitledOJ
