import UntitledOJ.TopologyCalls
import UntitledOJ.TopologyPayload
import UntitledOJ.DurableOperation
import UntitledOJ.AtomicProgram

/-!
# The state that topology operations share

The topology tables, the job store, what was asked of the Gateway and Auth
providers, and the plan of every operation.  Workers, recovery and requests act on
it by the calls below, each of which is atomic.
-/

namespace UntitledOJ

def JobError.text : JobError → String
  | .persistence message => "job persistence error: " ++ message
  | .notFound jobId => "job not found: " ++ jobId
  | .idempotencyConflict => "idempotency key already belongs to a different payload"
  | .staleLease => "lease is stale or does not belong to this worker"
  | .invalidTransition source target =>
    "invalid job transition from " ++ source.debugName ++ " to " ++ target
  | .eventConflict sequence =>
    "event sequence " ++ toString sequence ++ " conflicts with an existing event"
  | .jobIdConflict jobId => "job id already exists: " ++ jobId
  | .invalidJob message => "invalid job: " ++ message

def StorageError.text : StorageError → String
  | .conflict message => "optimistic concurrency conflict: " ++ message
  | .invariant message => "storage invariant failed: " ++ message
  | .domain message => "domain validation failed: " ++ message
  | .sqlite message => "sqlite error: " ++ message
  | .json message => "json error: " ++ message

def topologyJobResolutionError : JobError → StorageError
  | .persistence message => .invariant message
  | other => .conflict other.text

inductive TopologyProviderApplyState where
  | succeeded | failed | degraded
  deriving DecidableEq, Repr

inductive TopologyProviderStage where
  | validation | gatewayApply | authApply | authCompensation | gatewayCompensation
  deriving DecidableEq, Repr

/-- `GatewayCompensation` and `AuthCompensation`, which have the same variants. -/
inductive ProviderCompensation where
  | notRequired | restoredPrevious | deletedTopology | failed
  deriving DecidableEq, Repr

structure TopologyProviderApplyReceipt where
  state : TopologyProviderApplyState
  (topologyId revisionId operationId : String)
  deriving DecidableEq

structure TopologyProviderApplyFailure where
  state : TopologyProviderApplyState
  failedStage : TopologyProviderStage
  (authCompensation gatewayCompensation : ProviderCompensation)
  detail : String
  deriving DecidableEq

def TopologyProviderApplyState.text : TopologyProviderApplyState → String
  | .succeeded => "SUCCEEDED"
  | .failed => "FAILED"
  | .degraded => "DEGRADED"

def TopologyProviderApplyState.debugName : TopologyProviderApplyState → String
  | .succeeded => "Succeeded"
  | .failed => "Failed"
  | .degraded => "Degraded"

def TopologyProviderStage.text : TopologyProviderStage → String
  | .validation => "VALIDATION"
  | .gatewayApply => "GATEWAY_APPLY"
  | .authApply => "AUTH_APPLY"
  | .authCompensation => "AUTH_COMPENSATION"
  | .gatewayCompensation => "GATEWAY_COMPENSATION"

def TopologyProviderStage.debugName : TopologyProviderStage → String
  | .validation => "Validation"
  | .gatewayApply => "GatewayApply"
  | .authApply => "AuthApply"
  | .authCompensation => "AuthCompensation"
  | .gatewayCompensation => "GatewayCompensation"

def ProviderCompensation.text : ProviderCompensation → String
  | .notRequired => "NOT_REQUIRED"
  | .restoredPrevious => "RESTORED_PREVIOUS"
  | .deletedTopology => "DELETED_TOPOLOGY"
  | .failed => "FAILED"

def TopologyProviderApplyReceipt.toDocument (receipt : TopologyProviderApplyReceipt) : Value :=
  .object
    [("state", .string receipt.state.text),
      ("topology_id", .string receipt.topologyId),
      ("revision_id", .string receipt.revisionId),
      ("operation_id", .string receipt.operationId)]

def TopologyProviderApplyFailure.toDocument (failure : TopologyProviderApplyFailure) : Value :=
  .object
    [("state", .string failure.state.text),
      ("failed_stage", .string failure.failedStage.text),
      ("auth_compensation", .string failure.authCompensation.text),
      ("gateway_compensation", .string failure.gatewayCompensation.text),
      ("detail", .string failure.detail)]

def TopologyProviderApplyFailure.text (failure : TopologyProviderApplyFailure) : String :=
  "topology provider apply " ++ failure.state.debugName ++ " at " ++
    failure.failedStage.debugName ++ ": " ++ failure.detail

inductive TopologyProviderObservedState where
  | present | absent | unreachable
  deriving DecidableEq, Repr

structure TopologyProviderObservation where
  state : TopologyProviderObservedState
  (observedRevisionId observedContentSha256 observedProjectionSha256 : Option String)

def TopologyProviderObservation.matches (observation : TopologyProviderObservation)
    (revisionId contentSha256 projectionSha256 : String) : Bool :=
  observation.state = .present && observation.observedRevisionId = some revisionId &&
    observation.observedContentSha256 = some contentSha256 &&
    observation.observedProjectionSha256 = some projectionSha256

structure TopologyProvidersObservation where
  (gateway auth : TopologyProviderObservation)

/-- A call to the providers with its outcome: `apply_with_bindings` or
`compensate_applied_revision`. -/
inductive ProviderCall where
  | apply (topologyId revisionId : String) (spec : TopologySpec) (bindings : List ApiBinding)
      (previous : Option TopologyRevision) (previousBindings : List ApiBinding)
      (operationId : String)
      (outcome : Except TopologyProviderApplyFailure TopologyProviderApplyReceipt)
  | compensate (topologyId revisionId : String) (previous : Option TopologyRevision)
      (previousBindings : List ApiBinding) (operationId : String) (outcome : Except String Unit)

namespace ProviderCall

def isFor (topologyId operationId : String) : ProviderCall → Bool
  | .apply topology _ _ _ _ _ operation _ => topology = topologyId && operation = operationId
  | .compensate topology _ _ _ operation _ => topology = topologyId && operation = operationId

def isApply : ProviderCall → Bool
  | .apply .. => true
  | .compensate .. => false

/-- The providers serve again what they served before: a successful compensation, or a failed apply
that proved its own. -/
def isRestoring : ProviderCall → Bool
  | .apply _ _ _ _ _ _ _ (.ok _) => false
  | .apply _ _ _ _ _ _ _ (.error failure) => failure.state ≠ .degraded
  | .compensate _ _ _ _ _ (.ok _) => true
  | .compensate _ _ _ _ _ (.error _) => false

end ProviderCall

structure StoreTopologyApplyPlan where
  (topologyId revisionId : String)
  (stagedBindings previousBindings : List ApiBinding)
  deriving DecidableEq

/-- The topologies of an operation, and the bindings with which a replacement that provides and
consumes starts a topology. -/
structure ApplyPlan where
  topologies : List StoreTopologyApplyPlan
  bootstraps : List (String × List ApiBinding)
  deriving DecidableEq

namespace ApplyPlan

def topology? (plan : ApplyPlan) (topologyId : String) : Option StoreTopologyApplyPlan :=
  plan.topologies.find? fun topology => topology.topologyId = topologyId

def payloadOf (topology : StoreTopologyApplyPlan) (phase : TopologyApplyPhase)
    (bindings : List ApiBinding) : TopologyApplyPayload :=
  { topologyId := topology.topologyId
    revisionId := topology.revisionId
    phase
    bindings
    previousBindings := topology.previousBindings
    group := [] }

def groupPayload (plan : ApplyPlan) : TopologyApplyPayload :=
  { topologyId := ""
    revisionId := ""
    phase := .finalizeGroup
    bindings := []
    previousBindings := []
    group := plan.topologies.map fun topology => ⟨topology.topologyId, topology.revisionId⟩ }

/-- The payloads of the jobs that the planners write for an operation. -/
def payloads (plan : ApplyPlan) : List TopologyApplyPayload :=
  plan.groupPayload :: plan.topologies.flatMap fun topology =>
    payloadOf topology .prepare
        ((plan.bootstraps.lookup topology.topologyId).getD topology.stagedBindings) ::
      [TopologyApplyPhase.prepare, .finalize, .abort].map fun phase =>
        payloadOf topology phase topology.stagedBindings

end ApplyPlan

structure Plane where
  topology : TopologyTables
  jobs : MemoryJobStore
  /-- What the providers were asked, the latest first. -/
  providerCalls : List ProviderCall
  /-- The plan of every operation. -/
  plans : Std.TreeMap String ApplyPlan
  /-- How the latest finished apply of a topology ended. -/
  outcomes : Std.TreeMap String TopologyApplyOutcome

inductive PlaneCall where
  | claim (request : ClaimRequest)
  | heartbeat (request : HeartbeatRequest)
  | complete (request : CompleteRequest)
  | expiredLeases (nowMs : Int)
  | recoverJobs (nowMs : Int)
  | heads (topologyId : String)
  | listHeads
  | revision (topologyId revisionId : String)
  | bindings (topologyId : String)
  | status (topologyId : String)
  | topology (call : TopologyCall)
  | provider (call : ProviderCall)
  | resolveExpiredGroupSuccess (members : List TopologyApplyGroupMember)
      (operationId jobId : String) (nowMs : Int) (result : Value)
  | plan (operationId : String) (plan : ApplyPlan)

namespace PlaneCall

def Reply : PlaneCall → Type
  | .claim _ => Except JobError (Option Job)
  | .heartbeat _ | .complete _ => Except JobError Job
  | .expiredLeases _ | .recoverJobs _ => List Job
  | .heads _ => Option TopologyHeads
  | .listHeads => List TopologyHeads
  | .revision .. => Except StorageError (Option TopologyRevision)
  | .bindings _ => Except StorageError (List ApiBinding)
  | .status _ => Option TopologyStatus
  | .topology call => Except StorageError call.Result
  | .provider _ => Unit
  | .resolveExpiredGroupSuccess .. => Except StorageError (Option Job)
  | .plan .. => Bool

end PlaneCall

def TopologyCall.endings : TopologyCall → List (String × TopologyApplyOutcome)
  | .finish topologyId _ _ outcome _ | .finishFenced topologyId _ _ outcome _ _ =>
    [(topologyId, outcome)]
  | .finishGroup members _ _ | .finishGroupFenced members _ _ _ =>
    members.map fun member => (member.topologyId, .succeeded)
  | .compensateCompleted topologyId .. | .completeAbort topologyId .. => [(topologyId, .failed)]
  | _ => []

namespace Plane

def empty : Plane :=
  ⟨.empty, .empty, [], ∅, ∅⟩

def leaseEvidence (plane : Plane) (jobId : String) :
    Except StorageError (Option LeaseEvidence) :=
  .ok ((plane.jobs.get jobId).map fun job => ⟨statusText job.status, job.leaseExpiresAtMs, job⟩)

def recordEndings (outcomes : Std.TreeMap String TopologyApplyOutcome)
    (endings : List (String × TopologyApplyOutcome)) :
    Std.TreeMap String TopologyApplyOutcome :=
  endings.foldl (fun outcomes ending => outcomes.insert ending.1 ending.2) outcomes

/-- The head shows that the member was applied by the operation. -/
def showsApplied (tables : TopologyTables) (operationId : String)
    (member : TopologyApplyGroupMember) : Bool :=
  tables.heads[member.topologyId]?.any fun heads =>
    heads.applyingRevisionId.isNone && heads.applyingOperationId.isNone &&
      heads.appliedRevisionId = some member.revisionId &&
      heads.lastOperationId = some operationId

variable [Digests] [AddressSyntax]

/-- `resolve_expired_topology_apply_group_success`: the job succeeds only when
every head shows it. -/
def resolveExpiredGroupSuccess (plane : Plane) (members : List TopologyApplyGroupMember)
    (operationId jobId : String) (nowMs : Int) (result : Value) :
    Except StorageError (Option Job) × Plane :=
  match TopologyTables.validateApplyGroup members operationId with
  | .error error => (.error error, plane)
  | .ok () =>
    match plane.jobs.resolveExpiredSuccess ⟨jobId, nowMs, result⟩ with
    | (.error error, _) => (.error (topologyJobResolutionError error), plane)
    | (.ok job, resolved) =>
      if job.jobId = jobId ∧ job.operationId = operationId ∧
          members.all (showsApplied plane.topology operationId) then
        (.ok (some job), { plane with jobs := resolved })
      else (.ok none, plane)

/-- The plan of an operation never changes; planning it again succeeds for the
same plan. -/
def recordPlan (plane : Plane) (operationId : String) (plan : ApplyPlan) : Bool × Plane :=
  match plane.plans[operationId]? with
  | some existing => (existing = plan, plane)
  | none =>
    if (plan.topologies.map (·.topologyId)).Nodup then
      (true, { plane with plans := plane.plans.insert operationId plan })
    else (false, plane)

def exec : (call : PlaneCall) → Plane → call.Reply × Plane
  | .claim request, plane =>
    let (reply, jobs) := plane.jobs.claim request
    (reply, { plane with jobs })
  | .heartbeat request, plane =>
    let (reply, jobs) := plane.jobs.heartbeat request
    (reply, { plane with jobs })
  | .complete request, plane =>
    let (reply, jobs) := plane.jobs.complete request
    (reply, { plane with jobs })
  | .expiredLeases nowMs, plane => (plane.jobs.expiredLeases nowMs, plane)
  | .recoverJobs nowMs, plane =>
    let (reply, jobs) := plane.jobs.recoverExpired nowMs
    (reply, { plane with jobs })
  | .heads topologyId, plane => (plane.topology.heads[topologyId]?, plane)
  | .listHeads, plane => (plane.topology.heads.toList.map Prod.snd, plane)
  | .revision topologyId revisionId, plane =>
    (plane.topology.loadRevision topologyId revisionId, plane)
  | .bindings topologyId, plane => (plane.topology.apiBindingsForTopology topologyId, plane)
  | .status topologyId, plane => (plane.topology.status[topologyId]?, plane)
  | .topology call, plane =>
    match plane.topology.exec plane.leaseEvidence call with
    | (.ok result, topology) =>
      (.ok result,
        { plane with topology, outcomes := recordEndings plane.outcomes call.endings })
    | (.error error, _) => (.error error, plane)
  | .provider call, plane => ((), { plane with providerCalls := call :: plane.providerCalls })
  | .resolveExpiredGroupSuccess members operationId jobId nowMs result, plane =>
    plane.resolveExpiredGroupSuccess members operationId jobId nowMs result
  | .plan operationId plan, plane => plane.recordPlan operationId plan

end Plane

end UntitledOJ
