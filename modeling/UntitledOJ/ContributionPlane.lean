import UntitledOJ.ContributionStore
import UntitledOJ.DurableOperation
import UntitledOJ.AtomicProgram

/-!
# The state that contribution jobs share

The contribution tables and jobs, and what the control plane reads elsewhere.  Workers, the
recovery of expired leases and the acknowledgement endpoint act on it by atomic calls.  The clock
is not modelled: a held lease may be found expired at any time.
-/

namespace UntitledOJ

open Contribution

/-- A runtime instance as far as the gates read it. -/
structure RuntimeInstanceRow where
  serviceId : String
  /-- `canonical_artifact_digest` of the artifact. -/
  artifactDigest : Option Sha256
  (desiredRunning observedRunning healthy : Bool)
  lastObservedAtMs : Int
  (drifted managed runtimeAttested : Bool)
  /-- `runtime_upstream_base` of the endpoint. -/
  upstreamBase : Option String
  deriving DecidableEq

/-- What is read outside the contribution tables. -/
structure ContributionWorld where
  runtimeInstance : String → Option RuntimeInstanceRow
  /-- The instance through `runtime_with_current_evidence`. -/
  currentRuntime : String → Option RuntimeInstanceRow
  operation : String → Option DurableOperation
  job : String → Option Job

inductive ContributionJobPhase where
  | prepare | commit | ackGate | abort
  deriving DecidableEq, Repr

/-- `ContributionJobPayloadV1`; the controller name is the one that selects these jobs. -/
structure ContributionJobPayloadV1 where
  phase : ContributionJobPhase
  activationId : String
  revision : ContributionRevisionV1
  expectedHeadEtag : Option Sha256
  restoreRuntimeGateStepId : Option String
  deriving DecidableEq

structure ContributionJob where
  operationId : String
  payload : ContributionJobPayloadV1
  status : JobStatus
  attempt : Nat
  maxAttempts : Nat
  /-- The lease, if one is held, has run out. -/
  expired : Bool
  deriving DecidableEq

namespace ContributionJob

def queued (operationId : String) (payload : ContributionJobPayloadV1) (maxAttempts : Nat) :
    ContributionJob :=
  ⟨operationId, payload, .queued, 0, maxAttempts, false⟩

def claimed (job : ContributionJob) : ContributionJob :=
  { job with status := .leased, attempt := job.attempt + 1, expired := false }

def isExecuting (job : ContributionJob) : Bool :=
  job.status.isHeld && !job.expired

def isOverdue (job : ContributionJob) : Bool :=
  job.status.isHeld && job.expired

/-- `recover_expired_job`: a contribution job is not retried after its lease expired. -/
def recovered (job : ContributionJob) : ContributionJob :=
  { job with status := .needsAttention }

def completed (job : ContributionJob) : CompletionStatus → ContributionJob
  | .succeeded => { job with status := .succeeded }
  | .failed => { job with status := .failed }
  | .cancelled => { job with status := .cancelled }
  | .needsAttention => { job with status := .needsAttention }
  | .retryableFailure =>
    { job with status := if job.attempt < job.maxAttempts then .retryWait else .failed }

def cancelled (job : ContributionJob) : ContributionJob :=
  match job.status with
  | .queued | .retryWait => { job with status := .cancelled }
  | .leased => { job with status := .cancelRequested }
  | _ => job

end ContributionJob

structure ContributionPlane where
  tables : ContributionTables
  jobs : Std.TreeMap String ContributionJob
  world : ContributionWorld

inductive ContributionPlaneCall where
  | repository (call : ContributionCall)
  | runtimeInstance (deploymentId : String)
  | currentRuntime (deploymentId : String)
  | operation (operationId : String)
  | job (jobId : String)
  | claim (jobId : String)
  | checkpoint (jobId : String)
  | complete (jobId : String) (status : CompletionStatus)
  | expiredLease (jobId : String)
  | resolveExpiredSuccess (jobId : String)
  | recoverExpired (jobId : String)

namespace ContributionPlaneCall

def Reply : ContributionPlaneCall → Type
  | .repository call => call.Reply
  | .runtimeInstance _ | .currentRuntime _ => Option RuntimeInstanceRow
  | .operation _ => Option DurableOperation
  | .job _ => Option Job
  | .claim _ | .expiredLease _ => Option ContributionJob
  | .checkpoint _ | .complete .. | .resolveExpiredSuccess _ => Except JobError Unit
  | .recoverExpired _ => Unit

end ContributionPlaneCall

namespace ContributionPlane

def putJob (plane : ContributionPlane) (jobId : String) (job : ContributionJob) :
    ContributionPlane :=
  { plane with jobs := plane.jobs.insert jobId job }

def findJob (plane : ContributionPlane) (jobId : String) (test : ContributionJob → Bool) :
    Option ContributionJob :=
  plane.jobs[jobId]?.filter test

def claim (plane : ContributionPlane) (jobId : String) :
    Option ContributionJob × ContributionPlane :=
  match plane.findJob jobId (·.status.isClaimable) with
  | some job => (some job.claimed, plane.putJob jobId job.claimed)
  | none => (none, plane)

/-- An expired lease is recovered on the way; otherwise only its holder completes a job. -/
def complete (plane : ContributionPlane) (jobId : String) (status : CompletionStatus) :
    Except JobError Unit × ContributionPlane :=
  match plane.jobs[jobId]? with
  | none => (.error (.notFound jobId), plane)
  | some job =>
    if job.isOverdue then (.error .staleLease, plane.putJob jobId job.recovered)
    else if job.isExecuting then (.ok (), plane.putJob jobId (job.completed status))
    else (.error .staleLease, plane)

def resolveExpiredSuccess (plane : ContributionPlane) (jobId : String) :
    Except JobError Unit × ContributionPlane :=
  match plane.findJob jobId (·.isOverdue) with
  | some job => (.ok (), plane.putJob jobId (job.completed .succeeded))
  | none => (.error .staleLease, plane)

def recoverExpired (plane : ContributionPlane) (jobId : String) : ContributionPlane :=
  match plane.findJob jobId (·.isOverdue) with
  | some job => plane.putJob jobId job.recovered
  | none => plane

variable [RecordDigests] [VersionSyntax]

/-- Perform a call; the durable store of contributions is the database. -/
def exec : (call : ContributionPlaneCall) → ContributionPlane → call.Reply × ContributionPlane
  | .repository call, plane =>
    let answer := call.exec .sqlite plane.tables
    (answer.1, { plane with tables := answer.2 })
  | .runtimeInstance deploymentId, plane => (plane.world.runtimeInstance deploymentId, plane)
  | .currentRuntime deploymentId, plane => (plane.world.currentRuntime deploymentId, plane)
  | .operation operationId, plane => (plane.world.operation operationId, plane)
  | .job jobId, plane => (plane.world.job jobId, plane)
  | .claim jobId, plane => plane.claim jobId
  | .checkpoint jobId, plane =>
    (if (plane.findJob jobId (·.isExecuting)).isSome then .ok () else .error .staleLease, plane)
  | .complete jobId status, plane => plane.complete jobId status
  | .expiredLease jobId, plane => (plane.findJob jobId (·.isOverdue), plane)
  | .resolveExpiredSuccess jobId, plane => plane.resolveExpiredSuccess jobId
  | .recoverExpired jobId, plane => ((), plane.recoverExpired jobId)

end ContributionPlane

abbrev ContributionProgram (Error : Type) := Program Error ContributionPlaneCall.Reply

namespace ContributionProgram

variable {Error α : Type}

def getRevision (revisionId : Sha256) :
    ContributionProgram Error (Option ContributionRevisionV1) :=
  Program.perform (ContributionPlaneCall.repository (.getRevision revisionId))

def listRevisions (scopeId : String) (serviceId : Option String) :
    ContributionProgram Error (List ContributionRevisionV1) :=
  Program.perform (ContributionPlaneCall.repository (.listRevisions scopeId serviceId))

def getHead (scopeId serviceId : String) :
    ContributionProgram Error (Option ContributionHeadV1) :=
  Program.perform (ContributionPlaneCall.repository (.getHead scopeId serviceId))

def getActivation (activationId : String) :
    ContributionProgram Error (Option ContributionActivationV1) :=
  Program.perform (ContributionPlaneCall.repository (.getActivation activationId))

def listActivations (scopeId : String) :
    ContributionProgram Error (List ContributionActivationV1) :=
  Program.perform (ContributionPlaneCall.repository (.listActivations scopeId))

def listReceipts (activationId : String) :
    ContributionProgram Error (List ProjectionReceiptV1) :=
  Program.perform (ContributionPlaneCall.repository (.listReceipts activationId))

def write (call : ContributionCall) : ContributionProgram Error call.Reply :=
  Program.perform (ContributionPlaneCall.repository call)

def runtimeInstance (deploymentId : String) :
    ContributionProgram Error (Option RuntimeInstanceRow) :=
  Program.perform (ContributionPlaneCall.runtimeInstance deploymentId)

def currentRuntime (deploymentId : String) :
    ContributionProgram Error (Option RuntimeInstanceRow) :=
  Program.perform (ContributionPlaneCall.currentRuntime deploymentId)

def operation (operationId : String) : ContributionProgram Error (Option DurableOperation) :=
  Program.perform (ContributionPlaneCall.operation operationId)

def job (jobId : String) : ContributionProgram Error (Option Job) :=
  Program.perform (ContributionPlaneCall.job jobId)

def checkpoint (jobId : String) : ContributionProgram Error (Except JobError Unit) :=
  Program.perform (ContributionPlaneCall.checkpoint jobId)

def complete (jobId : String) (status : CompletionStatus) :
    ContributionProgram Error (Except JobError Unit) :=
  Program.perform (ContributionPlaneCall.complete jobId status)

def expiredLease (jobId : String) : ContributionProgram Error (Option ContributionJob) :=
  Program.perform (ContributionPlaneCall.expiredLease jobId)

def resolveExpiredSuccess (jobId : String) : ContributionProgram Error (Except JobError Unit) :=
  Program.perform (ContributionPlaneCall.resolveExpiredSuccess jobId)

def recoverExpired (jobId : String) : ContributionProgram Error Unit :=
  Program.perform (ContributionPlaneCall.recoverExpired jobId)

def orFail {Other : Type} (report : Other → Error) :
    Except Other α → ContributionProgram Error α
  | .ok result => .done result
  | .error error => .fail (report error)

def orMissing (error : Error) : Option α → ContributionProgram Error α
  | some value => .done value
  | none => .fail error

def ensure (condition : Bool) (error : Error) : ContributionProgram Error Unit :=
  if condition then .done () else .fail error

end ContributionProgram

section

open ContributionProgram

inductive ContributionProjectionExpectedStateV1 where
  | active
  | restored
  deriving DecidableEq, Repr

/-- The obligation to confirm one published or restored head. -/
structure ContributionProjectionAcknowledgementV1 where
  (activationId serviceId : String)
  candidateRevisionId : Sha256
  candidateGeneration : Nat
  expectedState : ContributionProjectionExpectedStateV1
  observedRevisionId : Sha256
  observedGeneration : Nat
  deriving DecidableEq, Repr

inductive ContributionSnapshotError where
  | invariant (message : String)
  deriving DecidableEq, Repr

def ContributionSnapshotError.text : ContributionSnapshotError → String
  | .invariant message => "active contribution invariant failed: " ++ message

/-- A published revision with its head and what is known of its runtime. -/
structure PublishedRevision where
  revision : ContributionRevisionV1
  head : ContributionHeadV1
  runtimeReady : Bool
  upstreamBase : Option String
  deriving DecidableEq

/-- The document that is published.  Its lists of surfaces, routes, permissions and
modules are functions of the revisions. -/
structure ContributionProjection where
  scopeId : String
  acknowledgements : List ContributionProjectionAcknowledgementV1
  revisions : List PublishedRevision
  deriving DecidableEq

/-- The digests of the published document and of what a target projects. -/
class ProjectionDigests where
  projectionDigest : ContributionProjection → Sha256
  targetDigest : Sha256 → ProjectionTargetV1 → Sha256

export ProjectionDigests (projectionDigest targetDigest)

structure ContributionSnapshot where
  digest : Sha256
  projection : ContributionProjection

def runtimeReady (revision : ContributionRevisionV1) (runtime : RuntimeInstanceRow) : Bool :=
  runtime.serviceId = revision.serviceId && runtime.desiredRunning && runtime.observedRunning &&
    runtime.healthy && !runtime.drifted && (!runtime.managed || runtime.runtimeAttested)

/-- What the state of an activation lets the consumers confirm. -/
def expectedState : ContributionActivationStateV1 → Option ContributionProjectionExpectedStateV1
  | .committing => some .active
  | .compensating => some .restored
  | _ => none

def publicationVisible (expected : ContributionProjectionExpectedStateV1)
    (candidateRevisionId : Sha256) (head : ContributionHeadV1) : Bool :=
  match expected with
  | .active => head.activeRevisionId = candidateRevisionId
  | .restored => head.activeRevisionId ≠ candidateRevisionId

variable {Error : Type} (failed : ContributionSnapshotError → Error) (scopeId : String)

def headNaming (revision : ContributionRevisionV1) :
    ContributionProgram Error (Option (ContributionRevisionV1 × ContributionHeadV1)) := do
  let head ← getHead scopeId revision.serviceId
  return (head.filter fun head => head.activeRevisionId = revision.revisionId).map
    fun head => (revision, head)

def publishedRevision (entry : ContributionRevisionV1 × ContributionHeadV1) :
    ContributionProgram Error PublishedRevision := do
  let runtime ← currentRuntime entry.1.deploymentId
  return ⟨entry.1, entry.2, runtime.any (runtimeReady entry.1), runtime.bind (·.upstreamBase)⟩

def obligation (activation : ContributionActivationV1)
    (expected : ContributionProjectionExpectedStateV1) :
    ContributionProgram Error (Option ContributionProjectionAcknowledgementV1) := do
  let stored ← getRevision activation.candidateRevisionId
  let candidate ← orMissing (failed (.invariant ("activation " ++ activation.activationId ++
    " candidate revision is missing"))) stored
  let head ← getHead scopeId activation.serviceId
  return (head.filter fun head => publicationVisible expected candidate.revisionId head).map
    fun head =>
      { activationId := activation.activationId
        serviceId := activation.serviceId
        candidateRevisionId := candidate.revisionId
        candidateGeneration := candidate.generation
        expectedState := expected
        observedRevisionId := head.activeRevisionId
        observedGeneration := head.generation }

def acknowledgementOf (activation : ContributionActivationV1) :
    ContributionProgram Error (Option ContributionProjectionAcknowledgementV1) :=
  match expectedState activation.state with
  | some expected => obligation failed scopeId activation expected
  | none => return none

def ContributionProjectionAcknowledgementV1.precedes
    (first second : ContributionProjectionAcknowledgementV1) : Bool :=
  ((compare first.activationId second.activationId).then
    (compare first.serviceId second.serviceId)).isLE

variable [ProjectionDigests]

def activeContributionSnapshot : ContributionProgram Error ContributionSnapshot := do
  let revisions ← listRevisions scopeId none
  let headed ← Program.forEach (headNaming scopeId)
    (revisions.filter fun revision => revision.status = .active)
  let published ← Program.forEach publishedRevision headed.reduceOption
  let activations ← listActivations scopeId
  let acknowledgements ← Program.forEach (acknowledgementOf failed scopeId) activations
  let projection : ContributionProjection :=
    { scopeId
      acknowledgements := acknowledgements.reduceOption.insertionSort
        fun first second => first.precedes second = true
      revisions := published }
  return ⟨projectionDigest projection, projection⟩

end

open ContributionProgram

/-- Whether the caller proved to be the consumer that it speaks for. -/
inductive AcknowledgementCredential where
  | unconfigured | wrong | verified
  deriving DecidableEq, Repr

/-- `ContributionProjectionAckRequestV1` with what was found out about the caller. -/
structure AcknowledgementRequest where
  internalIdentity : Bool
  credential : AcknowledgementCredential
  schemaVersion : String
  target : ProjectionTargetV1
  scopeId : String
  snapshotDigest : Sha256
  acknowledgements : List ContributionProjectionAcknowledgementV1
  deriving DecidableEq

structure AcknowledgementProblem where
  status : Nat
  (code detail : String)
  deriving DecidableEq, Repr

def contributionAckSchemaVersion : String := "ojos.dev/contribution-projection-ack/v1"

def contributionScopeId : String := "default"

def ProjectionTargetV1.isAuthoritative : ProjectionTargetV1 → Bool
  | .gateway | .auth => true
  | _ => false

/-- The checks of a request that need no storage. -/
def AcknowledgementRequest.check (request : AcknowledgementRequest) :
    Except AcknowledgementProblem Unit := do
  require request.internalIdentity
    ⟨403, "CONTRIBUTION_ACK_INTERNAL_IDENTITY_REQUIRED",
      "Contribution projection observations require the verified internal control-plane identity"⟩
  require (request.schemaVersion = contributionAckSchemaVersion)
    ⟨400, "INVALID_CONTRIBUTION_ACK",
      "unsupported Contribution projection acknowledgement schema"⟩
  require (request.scopeId = contributionScopeId)
    ⟨400, "INVALID_CONTRIBUTION_ACK",
      "only the default Contribution scope is currently published"⟩
  require request.target.isAuthoritative
    ⟨403, "CONTRIBUTION_ACK_TARGET_FORBIDDEN",
      "only the authoritative Gateway and Auth consumers may acknowledge this endpoint"⟩
  require (request.credential ≠ .unconfigured)
    ⟨503, "CONTRIBUTION_ACK_CREDENTIAL_UNAVAILABLE", "the " ++ request.target.asStr ++
      " Contribution acknowledgement credential is not configured"⟩
  require (request.credential = .verified)
    ⟨401, "CONTRIBUTION_ACK_UNAUTHORIZED",
      "the target-bound Contribution acknowledgement credential is invalid"⟩

/-- The answers 409 and 503 of `acknowledge_one`. -/
def staleAcknowledgement (detail : String) : AcknowledgementProblem :=
  ⟨409, "STALE_CONTRIBUTION_ACK", "stale: " ++ detail⟩

def ContributionRepositoryError.message : ContributionRepositoryError → String
  | .invalid message => "invalid contribution repository request: " ++ message
  | .conflict message => "contribution repository conflict: " ++ message
  | .notFound message => "contribution repository record not found: " ++ message
  | .persistence message => "contribution repository persistence failure: " ++ message

namespace ContributionProjectionExpectedStateV1

def activationState : ContributionProjectionExpectedStateV1 → ContributionActivationStateV1
  | .active => .committing
  | .restored => .compensating

def receiptState : ContributionProjectionExpectedStateV1 → ProjectionReceiptStateV1
  | .active => .active
  | .restored => .restored

end ContributionProjectionExpectedStateV1

variable (target : ProjectionTargetV1) (snapshotDigest : Sha256)
  (obligation : ContributionProjectionAcknowledgementV1)

def observeReceipt (current : ProjectionReceiptV1) :
    ContributionProgram AcknowledgementProblem Unit := do
  let observed ← orFail (fun error => staleAcknowledgement
      ("invalid receipt transition: " ++ DomainError.text error))
    (current.record obligation.expectedState.receiptState (some obligation.observedGeneration)
      current.stagedDigest (some snapshotDigest) none)
  let reply : Except ContributionRepositoryError ProjectionReceiptV1 ←
    write (.compareAndSwapReceipt current observed)
  let _ ← orFail (fun error => staleAcknowledgement
    ("receipt compare-and-swap failed: " ++ ContributionRepositoryError.message error)) reply

def observedElsewhere (current : ProjectionReceiptV1) : Bool :=
  current.state = obligation.expectedState.receiptState &&
    current.observedGeneration ≠ some obligation.observedGeneration

def observedAlready (current : ProjectionReceiptV1) : Bool :=
  current.state = obligation.expectedState.receiptState &&
    current.activeDigest = some snapshotDigest

def acknowledgeOne : ContributionProgram AcknowledgementProblem Unit := do
  let activation ← orMissing (staleAcknowledgement "activation no longer exists")
    (← getActivation obligation.activationId)
  ensure (activation.state = obligation.expectedState.activationState &&
      activation.serviceId = obligation.serviceId &&
      activation.candidateRevisionId = obligation.candidateRevisionId)
    (staleAcknowledgement "activation identity or state changed")
  let candidate ← orMissing (staleAcknowledgement "candidate revision no longer exists")
    (← getRevision obligation.candidateRevisionId)
  ensure (candidate.generation = obligation.candidateGeneration)
    (staleAcknowledgement "candidate generation changed")
  let head ← orMissing (staleAcknowledgement "observed Contribution head no longer exists")
    (← getHead activation.scopeId activation.serviceId)
  ensure (head.activeRevisionId = obligation.observedRevisionId &&
      head.generation = obligation.observedGeneration)
    (staleAcknowledgement "observed Contribution head changed")
  let receipts ← listReceipts activation.activationId
  let current ← orMissing (staleAcknowledgement "target receipt does not exist")
    (receipts.find? fun receipt => receipt.target = target)
  ensure (!observedElsewhere obligation current)
    (staleAcknowledgement "receipt contains a different observed generation")
  if observedAlready snapshotDigest obligation current then return
  observeReceipt snapshotDigest obligation current

variable [ProjectionDigests]

/-- `response` of the acknowledgement endpoint. -/
def acknowledgementResponse (request : AcknowledgementRequest) :
    ContributionProgram AcknowledgementProblem Unit := do
  orFail id request.check
  let snapshot ← activeContributionSnapshot
    (fun error => ⟨503, "CONTRIBUTION_SNAPSHOT_UNAVAILABLE", error.text⟩) request.scopeId
  ensure (request.snapshotDigest = snapshot.digest)
    ⟨409, "STALE_CONTRIBUTION_SNAPSHOT",
      "the observed snapshot is no longer the current Contribution projection"⟩
  ensure (request.acknowledgements = snapshot.projection.acknowledgements)
    ⟨409, "CONTRIBUTION_ACK_OBLIGATION_MISMATCH",
      "the acknowledgement obligations do not exactly match the observed snapshot"⟩
  ensure (decide (request.acknowledgements.map (·.activationId)).Nodup)
    ⟨400, "INVALID_CONTRIBUTION_ACK", "duplicate Contribution activation acknowledgement"⟩
  let _ ← Program.forEach (acknowledgeOne request.target request.snapshotDigest)
    request.acknowledgements

end UntitledOJ
