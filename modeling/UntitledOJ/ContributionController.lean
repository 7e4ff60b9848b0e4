import UntitledOJ.ContributionPlane
import UntitledOJ.ConcurrentPlatform

/-!
# The contribution controller

A contribution is activated by jobs of one operation: PREPARE stages the candidate, COMMIT
publishes it at the head of its service, ACK_GATE waits for the consumers, and ABORT compensates
whatever was reached.  Every job may be executed again.
-/

namespace UntitledOJ

open Contribution ContributionProgram

inductive ContributionControllerError where
  | invalid (message : String)
  | conflict (message : String)
  | notFound (message : String)
  | needsAttention (message : String)
  | retryable (message : String)
  | retryableCompensation (message : String)
  | persistence (message : String)
  deriving DecidableEq, Repr

namespace ContributionControllerError

def ofRepository : ContributionRepositoryError → ContributionControllerError
  | .invalid message => .invalid message
  | .conflict message => .conflict message
  | .notFound message => .notFound message
  | .persistence message => .persistence message

def ofDomain (error : DomainError) : ContributionControllerError :=
  .invalid error.text

def ofSnapshot (error : ContributionSnapshotError) : ContributionControllerError :=
  .persistence error.text

def text : ContributionControllerError → String
  | .invalid message => "invalid contribution controller request: " ++ message
  | .conflict message => "contribution controller conflict: " ++ message
  | .notFound message => "contribution controller record not found: " ++ message
  | .needsAttention message => "contribution controller needs attention: " ++ message
  | .retryable message => "contribution projection acknowledgement is pending: " ++ message
  | .retryableCompensation message =>
    "contribution restore acknowledgement is pending: " ++ message
  | .persistence message => "contribution persistence failed: " ++ message

def completion (job : ContributionJob) : ContributionControllerError → CompletionStatus
  | .retryable _ => .retryableFailure
  | .retryableCompensation _ =>
    if job.maxAttempts ≤ job.attempt then .needsAttention else .retryableFailure
  | .needsAttention _ => .needsAttention
  | .invalid _ | .conflict _ | .notFound _ | .persistence _ => .failed

end ContributionControllerError

abbrev Controlled := ContributionProgram ContributionControllerError

namespace ContributionJobPayloadV1

variable [RecordDigests] [VersionSyntax]

def validate (payload : ContributionJobPayloadV1) : Except ContributionControllerError Unit := do
  require (!isBlank payload.activationId) (.invalid "activation_id must not be empty")
  (payload.revision.validate).mapError .ofDomain
  require (payload.revision.status = .staged) (.invalid "job payload revision must be STAGED")
  require (payload.restoreRuntimeGateStepId.all fun step =>
      !isBlank step && step.utf8ByteSize ≤ 128)
    (.invalid "restore runtime gate step id is invalid")

end ContributionJobPayloadV1

namespace ContributionController

def commit {α : Type} (reply : Except ContributionRepositoryError α) : Controlled α :=
  orFail .ofRepository reply

def transitionRevision (revision : ContributionRevisionV1) : Controlled Unit := do
  commit (← write (.transitionRevision revision))

def putBundle (activation : ContributionActivationV1) (receipts : List ProjectionReceiptV1) :
    Controlled Unit := do
  commit (← write (.putBundle activation receipts))

def checkpoint (jobId : String) : Controlled Unit := do
  let reply ← ContributionProgram.checkpoint jobId
  orFail (fun _ => .needsAttention ("control-plane Job " ++ jobId ++
    " lease checkpoint failed: lease is stale or does not belong to this worker")) reply

def domain {α : Type} (outcome : Except DomainError α) : Controlled α :=
  orFail .ofDomain outcome

variable (payload : ContributionJobPayloadV1)

def ensurePayloadIdentity (activation : ContributionActivationV1) : Controlled Unit :=
  ensure (activation.scopeId = payload.revision.scopeId &&
      activation.serviceId = payload.revision.serviceId &&
      activation.candidateRevisionId = payload.revision.revisionId &&
      activation.expectedHeadEtag = payload.expectedHeadEtag)
    (.conflict "job payload identity does not match durable activation")

def requiredActivation : Controlled ContributionActivationV1 := do
  let activation ← orMissing (.notFound ("activation " ++ payload.activationId))
    (← getActivation payload.activationId)
  ensurePayloadIdentity payload activation
  return activation

def requiredCandidate (activation : ContributionActivationV1) :
    Controlled ContributionRevisionV1 := do
  let candidate ← orMissing (.notFound ("revision " ++ payload.revision.revisionId.text))
    (← getRevision payload.revision.revisionId)
  ensure (candidate.scopeId = payload.revision.scopeId &&
      candidate.serviceId = payload.revision.serviceId &&
      candidate.previousRevisionId = activation.previousRevisionId &&
      candidate.revisionId = payload.revision.revisionId)
    (.conflict "candidate identity does not match durable activation")
  return candidate

def receiptsComplete (receipts : List ProjectionReceiptV1) : Bool :=
  receipts.length = ProjectionTargetV1.all.length &&
    ProjectionTargetV1.all.all fun target => receipts.any fun receipt => receipt.target = target

def requiredReceipts : Controlled (List ProjectionReceiptV1) := do
  let receipts ← listReceipts payload.activationId
  ensure (receiptsComplete receipts)
    (.needsAttention "activation is missing one or more projection receipts")
  return receipts

def requiredConsumerReceiptsMatch (receipts : List ProjectionReceiptV1)
    (state : ProjectionReceiptStateV1) (snapshotDigest : Option Sha256) : Bool :=
  [ProjectionTargetV1.gateway, .auth].all fun target => receipts.any fun receipt =>
    receipt.target = target && receipt.state = state &&
      snapshotDigest.all fun digest => receipt.activeDigest = some digest

def runtimeSatisfies (candidate : ContributionRevisionV1) (minimumObservedAtMs : Option Int)
    (runtime : RuntimeInstanceRow) : Bool :=
  runtime.serviceId = candidate.serviceId &&
    runtime.artifactDigest = some candidate.releaseDigest && runtime.desiredRunning &&
    runtime.observedRunning && runtime.healthy &&
    minimumObservedAtMs.all (fun watermark => watermark ≤ runtime.lastObservedAtMs) &&
    !runtime.drifted && (!runtime.managed || runtime.runtimeAttested)

def ensureRuntimeGateAtLeast (candidate : ContributionRevisionV1)
    (minimumObservedAtMs : Option Int) : Controlled Unit := do
  let runtime ← orMissing (.conflict "candidate runtime is absent")
    (← runtimeInstance candidate.deploymentId)
  ensure (runtimeSatisfies candidate minimumObservedAtMs runtime)
    (.conflict "candidate runtime/release/health evidence does not satisfy activation gate")

def ensureRuntimeGate (candidate : ContributionRevisionV1) : Controlled Unit :=
  ensureRuntimeGateAtLeast candidate none

def observationWatermark (job : Job) : Option Int := do
  let result ← job.result
  let .number watermark ← result.get "runtime_observed_at_ms" | none
  if 0 < watermark then some watermark else none

def requiredSucceededRuntimeGate (stepId : String) : Controlled Int := do
  let operation ← orMissing
    (.needsAttention "restore runtime gate has no owning durable Operation")
    (← ContributionProgram.operation payload.activationId)
  let binding ← orMissing
    (.needsAttention ("restore runtime gate " ++ stepId ++ " has no materialized Job"))
    (operation.activeBinding stepId)
  let job ← orMissing
    (.needsAttention ("restore runtime gate Job " ++ binding.jobId ++ " is missing"))
    (← ContributionProgram.job binding.jobId)
  ensure (job.kind = .health && job.status = .succeeded)
    (.needsAttention ("restore runtime gate " ++ stepId ++ " is not a successful Health Job"))
  orMissing
    (.needsAttention ("restore runtime gate " ++ stepId ++
      " lacks a causal observation watermark"))
    (observationWatermark job)

def publishesContent (revision : ContributionRevisionV1) : Bool :=
  !(revision.apiSurfaces.isEmpty && revision.operationRoutes.isEmpty &&
    revision.permissionDefinitions.isEmpty && revision.userFrontendModules.isEmpty &&
    revision.adminFrontendModules.isEmpty)

def restoreWatermark : Controlled (Option Int) :=
  match payload.restoreRuntimeGateStepId with
  | some stepId => do
      let watermark ← requiredSucceededRuntimeGate payload stepId
      return some watermark
  | none => return none

def ensureRestoreRuntimeGate (previous : ContributionRevisionV1) : Controlled Unit := do
  if publishesContent previous then
    let watermark ← restoreWatermark payload
    (ensureRuntimeGateAtLeast previous watermark).handle fun error =>
      .fail (.needsAttention ("refusing to restore Contribution without healthy previous " ++
        "runtime evidence: " ++ error.text))
  else return

variable [RecordDigests] [VersionSyntax] [ProjectionDigests]
variable (jobId : String) (payload : ContributionJobPayloadV1)

def stageCandidate (activation : ContributionActivationV1)
    (receipts : List ProjectionReceiptV1) (known : Option ContributionRevisionV1) :
    Controlled Unit := do
  if known.isNone then
    commit (← write (.stageBundle payload.revision activation receipts))
  else return

def stagedReceipt (receipt : ProjectionReceiptV1) : Controlled ProjectionReceiptV1 := do
  checkpoint jobId
  domain (receipt.record .staged none
    (some (targetDigest payload.revision.revisionId receipt.target)) none none)

def executePrepare : Controlled (Option ContributionHeadV1) := do
  let activation ← domain (ContributionActivationV1.prepare payload.activationId payload.revision
    payload.expectedHeadEtag)
  let pending ← domain (ProjectionTargetV1.all.mapM
    (ProjectionReceiptV1.pending payload.activationId payload.revision))
  let known ← getRevision payload.revision.revisionId
  stageCandidate payload activation pending known
  let activation ← requiredActivation payload
  let receipts ← requiredReceipts payload
  if receipts.all fun receipt => receipt.state = .staged then return none
  else if activation.state ≠ .preparing then
    ensure (receipts.all fun receipt => receipt.state ≠ .pending)
      (.conflict "PREPARE replay disagrees with persisted activation state")
    return none
  else
    let staged ← Program.forEach (stagedReceipt jobId payload) receipts
    putBundle activation staged
    ensurePayloadIdentity payload activation
    return none

def publishOrRecoverCandidateHead (candidate : ContributionRevisionV1) :
    Controlled ContributionHeadV1 := do
  let head ← getHead candidate.scopeId candidate.serviceId
  match head.filter fun head => head.activeRevisionId = candidate.revisionId with
  | some published => return published
  | none =>
    ensure (head.map ContributionHeadV1.etag = payload.expectedHeadEtag &&
        candidate.status = .staged)
      (.needsAttention ("COMMITTING activation has neither its candidate head nor the " ++
        "exact pre-CAS head"))
    let active ← domain candidate.activate
    let reply : Except ContributionRepositoryError ContributionHeadV1 ←
      write (.compareAndSwapHead payload.expectedHeadEtag active)
    commit reply

def registryReceipt (receipts : List ProjectionReceiptV1) : Option ProjectionReceiptV1 :=
  receipts.find? fun receipt => receipt.target = .apiRegistry

def recordApiRegistrySnapshot (candidateGeneration : Nat) : Controlled Sha256 := do
  let snapshot ← activeContributionSnapshot .ofSnapshot payload.revision.scopeId
  let receipts ← requiredReceipts payload
  let current ← orMissing (.needsAttention "activation has no API Registry receipt")
    (registryReceipt receipts)
  if current.state = .active && current.activeDigest = some snapshot.digest then
    return snapshot.digest
  else
    let observed ← domain (current.record .active (some candidateGeneration)
      current.stagedDigest (some snapshot.digest) none)
    let reply : Except ContributionRepositoryError ProjectionReceiptV1 ←
      write (.compareAndSwapReceipt current observed)
    let _ ← commit reply
    return snapshot.digest

variable (activation : ContributionActivationV1) (candidate : ContributionRevisionV1)
  (receipts : List ProjectionReceiptV1)

/-- COMMIT of an activation that has succeeded. -/
def confirmSucceeded : Controlled (Option ContributionHeadV1) := do
  let head ← orMissing (.needsAttention "SUCCEEDED activation has no head")
    (← getHead payload.revision.scopeId payload.revision.serviceId)
  ensure (head.activeRevisionId = candidate.revisionId &&
      requiredConsumerReceiptsMatch receipts .active none)
    (.needsAttention "SUCCEEDED activation lacks matching head/receipt evidence")
  return some head

/-- COMMIT of an activation that is committing already. -/
def resumeCommit : Controlled (Option ContributionHeadV1) := do
  let head ← publishOrRecoverCandidateHead payload candidate
  let _ ← recordApiRegistrySnapshot payload candidate.generation
  return some head

/-- COMMIT of an activation that was prepared. -/
def beginCommit : Controlled (Option ContributionHeadV1) := do
  ensure (receipts.all fun receipt => receipt.state = .staged)
    (.conflict "COMMIT requires every projection receipt to be STAGED")
  ensureRuntimeGate candidate
  checkpoint jobId
  let committing ← domain activation.beginCommit
  putBundle committing receipts
  let head ← publishOrRecoverCandidateHead payload candidate
  checkpoint jobId
  let _ ← recordApiRegistrySnapshot payload candidate.generation
  return some head

def activationDebugName : ContributionActivationStateV1 → String
  | .preparing => "Preparing"
  | .committing => "Committing"
  | .compensating => "Compensating"
  | .succeeded => "Succeeded"
  | .aborted => "Aborted"
  | .needsAttention => "NeedsAttention"

def executeCommit : Controlled (Option ContributionHeadV1) :=
  match activation.state with
  | .succeeded => confirmSucceeded payload candidate receipts
  | .committing => resumeCommit payload candidate
  | .preparing => beginCommit jobId payload activation candidate receipts
  | state => .fail (.conflict ("COMMIT requires PREPARING activation, found " ++
      activationDebugName state))

def retirePrevious (previousId : Sha256) : Controlled Unit := do
  let previous ← orMissing (.notFound ("revision " ++ previousId.text)) (← getRevision previousId)
  if previous.status = .active then
    let retired ← domain previous.retire
    transitionRevision retired
  else return

def retireReplaced : Controlled Unit :=
  match candidate.previousRevisionId with
  | some previousId => retirePrevious previousId
  | none => return

/-- ACK_GATE of an activation that is committing. -/
def finishActivation (head : ContributionHeadV1) : Controlled (Option ContributionHeadV1) := do
  let snapshotDigest ← recordApiRegistrySnapshot payload candidate.generation
  let receipts ← requiredReceipts payload
  ensure (requiredConsumerReceiptsMatch receipts .active (some snapshotDigest))
    (.retryable ("Gateway/Auth have not both applied generation " ++
      toString candidate.generation ++ " snapshot " ++ snapshotDigest.text))
  let succeeded ← domain activation.succeed
  putBundle succeeded receipts
  retireReplaced candidate
  return some head

def executeAckGate : Controlled (Option ContributionHeadV1) := do
  let head ← orMissing (.needsAttention "ACK gate found no published Contribution head")
    (← getHead payload.revision.scopeId payload.revision.serviceId)
  ensure (head.activeRevisionId = candidate.revisionId)
    (.needsAttention "ACK gate head no longer names its candidate")
  match activation.state with
  | .succeeded =>
    ensure (requiredConsumerReceiptsMatch receipts .active none)
      (.needsAttention "SUCCEEDED activation lacks authoritative consumer receipts")
    return some head
  | .committing => finishActivation payload activation candidate head
  | state =>
    .fail (.conflict ("ACK gate requires COMMITTING activation, found " ++
      activationDebugName state))

def operationTerminationIntent : Controlled ContributionTerminationIntentV1 := do
  let operation ← ContributionProgram.operation payload.activationId
  return if operation.any fun operation =>
      operation.status = .cancelling || operation.status = .cancelled then .cancelled else .failed

/-- `verify_abort_evidence` for a candidate that was never published. -/
def verifyUnpublished (head : Option ContributionHeadV1) :
    Controlled (Option ContributionHeadV1) := do
  ensure (head.map ContributionHeadV1.etag = payload.expectedHeadEtag &&
      receipts.all fun receipt => receipt.state = .failed)
    (.needsAttention "unpublished ABORTED activation lacks terminal no-publication evidence")
  return head

/-- The head has moved past the candidate to a revision without content. -/
def verifyTombstone (head : Option ContributionHeadV1) :
    Controlled (Option ContributionHeadV1) := do
  let current ← orMissing
    (.needsAttention "initial ABORTED activation has no monotonic tombstone head") head
  ensure (current.activeRevisionId ≠ candidate.revisionId &&
      candidate.generation < current.generation)
    (.needsAttention "initial ABORTED activation still publishes the candidate head")
  let tombstone ← orMissing
    (.needsAttention "initial ABORTED activation tombstone revision is absent")
    (← getRevision current.activeRevisionId)
  ensure (tombstone.status = .active &&
      tombstone.previousRevisionId = some candidate.revisionId && !publishesContent tombstone)
    (.needsAttention ("initial ABORTED activation tombstone still exposes contribution " ++
      "content"))
  return head

/-- `verify_abort_evidence` for a candidate that was published. -/
def verifyRestored (head : Option ContributionHeadV1) :
    Controlled (Option ContributionHeadV1) := do
  ensure (requiredConsumerReceiptsMatch receipts .restored none &&
      receipts.all fun receipt => receipt.target ≠ .apiRegistry || receipt.state = .restored)
    (.needsAttention "ABORTED activation has unproven projection restoration")
  match candidate.previousRevisionId with
  | some previous =>
    ensure (head.map (·.activeRevisionId) = some previous)
      (.needsAttention "ABORTED activation did not restore the previous head")
    return head
  | none => verifyTombstone candidate head

def verifyAbortEvidence : Controlled (Option ContributionHeadV1) := do
  let head ← getHead payload.revision.scopeId payload.revision.serviceId
  if candidate.status = .aborted then verifyUnpublished payload receipts head
  else verifyRestored candidate receipts head

def executeUnstagedAbort : Controlled (Option ContributionHeadV1) := do
  let candidate ← getRevision payload.revision.revisionId
  ensure candidate.isNone
    (.needsAttention "candidate revision exists without its atomic activation bundle")
  getHead payload.revision.scopeId payload.revision.serviceId

/-- The activation that compensates, stored unless it was already. -/
def enterCompensation : Controlled ContributionActivationV1 := do
  let intent ← operationTerminationIntent payload
  match activation.state with
  | .preparing | .committing | .succeeded =>
    let compensating ← domain (activation.beginCompensation intent)
    putBundle compensating receipts
    return compensating
  | .compensating => return activation
  | _ => .fail (.needsAttention "activation already requires explicit reconciliation")

def abortStaged (head : Option ContributionHeadV1) : Controlled (Option ContributionHeadV1) := do
  ensure (head.map ContributionHeadV1.etag = payload.expectedHeadEtag)
    (.needsAttention "staged abort found a changed head")
  let aborted ← domain candidate.abort
  transitionRevision aborted
  return head

/-- Point the head away from a candidate that is published. -/
def withdraw (head : Option ContributionHeadV1) : Controlled (Option ContributionHeadV1) := do
  let current ← orMissing
    (.needsAttention "active candidate abort found no contribution head") head
  checkpoint jobId
  match candidate.previousRevisionId with
  | some previousId =>
    let previous ← orMissing (.needsAttention ("revision " ++ previousId.text ++
      " required for Contribution restore is missing")) (← getRevision previousId)
    ensureRestoreRuntimeGate payload previous
    let reply : Except ContributionRepositoryError ContributionHeadV1 ←
      write (.restoreHead current.etag candidate.revisionId previousId)
    let restored ← commit reply
    return some restored
  | none =>
    let reply : Except ContributionRepositoryError ContributionHeadV1 ←
      write (.clearHead current.etag candidate.revisionId)
    let cleared ← commit reply
    return some cleared

def receiptDebugName : ProjectionReceiptStateV1 → String
  | .pending => "Pending"
  | .staged => "Staged"
  | .active => "Active"
  | .restored => "Restored"
  | .failed => "Failed"
  | .unknown => "Unknown"

/-- The terminal receipt of a target that never saw the candidate published. -/
def terminalReceipt (receipt : ProjectionReceiptV1) : Controlled ProjectionReceiptV1 :=
  match receipt.state with
  | .pending =>
    domain (receipt.record .failed none none none
      (some "activation aborted before projection stage"))
  | .staged =>
    domain (receipt.record .failed none receipt.stagedDigest none
      (some "candidate projection was never published"))
  | state =>
    .fail (.needsAttention ("unpublished candidate has unexpected " ++ receiptDebugName state ++
      " projection evidence"))

def finishUnpublished (compensating : ContributionActivationV1)
    (head : Option ContributionHeadV1) : Controlled (Option ContributionHeadV1) := do
  let terminal ← Program.forEach terminalReceipt receipts
  let aborted ← domain compensating.finishAbort
  putBundle aborted terminal
  return head

def restoredReceipt (head : Option ContributionHeadV1) (snapshotDigest : Sha256)
    (receipt : ProjectionReceiptV1) : Except DomainError ProjectionReceiptV1 :=
  match receipt.state with
  | .staged | .active | .failed | .unknown =>
    receipt.record .restored (head.map (·.generation)) receipt.stagedDigest
      (some snapshotDigest) none
  | .pending =>
    receipt.record .failed none none none (some "activation aborted before projection stage")
  | .restored => .ok receipt

/-- One receipt in the loop over all of them; only the API registry is touched. -/
def restoreReceipt (head : Option ContributionHeadV1) (snapshotDigest : Sha256)
    (receipt : ProjectionReceiptV1) : Controlled (Option ProjectionReceiptV1) := do
  checkpoint jobId
  if receipt.target = .apiRegistry then
    let restored ← domain (restoredReceipt head snapshotDigest receipt)
    return some restored
  else return none

def finishRestored (compensating : ContributionActivationV1)
    (head : Option ContributionHeadV1) : Controlled (Option ContributionHeadV1) := do
  let snapshot ← activeContributionSnapshot .ofSnapshot candidate.scopeId
  let restored ← Program.forEach (restoreReceipt jobId head snapshot.digest) receipts
  let registry ← orMissing (.needsAttention "activation has no API Registry receipt")
    restored.reduceOption.getLast?
  putBundle compensating [registry]
  let restoredReceipts ← requiredReceipts payload
  ensure (requiredConsumerReceiptsMatch restoredReceipts .restored (some snapshot.digest))
    (.retryableCompensation ("Gateway/Auth have not both applied restored snapshot " ++
      snapshot.digest.text ++ "; candidate runtime is retained"))
  let aborted ← domain compensating.finishAbort
  putBundle aborted restoredReceipts
  return head

/-- The head after the candidate was taken back, by the status that it had. -/
def takeBack (head : Option ContributionHeadV1) : Controlled (Option ContributionHeadV1) :=
  match candidate.status with
  | .staged => abortStaged payload candidate head
  | .active => withdraw jobId payload candidate head
  | _ => return head

def compensate (compensating : ContributionActivationV1) :
    Controlled (Option ContributionHeadV1) := do
  checkpoint jobId
  let head ← getHead payload.revision.scopeId payload.revision.serviceId
  let restoredHead ← takeBack jobId payload candidate head
  if candidate.status = .staged then finishUnpublished receipts compensating restoredHead
  else finishRestored jobId payload candidate receipts compensating restoredHead

def executeAbort : Controlled (Option ContributionHeadV1) := do
  if activation.state = .aborted then verifyAbortEvidence payload candidate receipts
  else
    let compensating ← enterCompensation payload activation receipts
    compensate jobId payload candidate receipts compensating

def executePhase (activation : ContributionActivationV1) :
    Controlled (Option ContributionHeadV1) := do
  ensurePayloadIdentity payload activation
  let candidate ← requiredCandidate payload activation
  let receipts ← requiredReceipts payload
  match payload.phase with
  | .commit => executeCommit jobId payload activation candidate receipts
  | .ackGate => executeAckGate payload activation candidate receipts
  | .prepare | .abort => executeAbort jobId payload activation candidate receipts

/-- COMMIT, ACK_GATE and ABORT; an abort of what was never staged has nothing to do. -/
def executeStaged : Controlled (Option ContributionHeadV1) := do
  let stored ← getActivation payload.activationId
  match stored with
  | some activation =>
    let head ← executePhase jobId payload activation
    checkpoint jobId
    return head
  | none =>
    if payload.phase = .abort then executeUnstagedAbort payload
    else .fail (.notFound ("activation " ++ payload.activationId))

def executeContributionJob (operationId : String) :
    Controlled (Option ContributionHeadV1) := do
  orFail id payload.validate
  ensure (payload.activationId = operationId)
    (.invalid "activation_id must equal the durable Operation owning this Job")
  checkpoint jobId
  if payload.phase = .prepare then
    let head ← executePrepare jobId payload
    checkpoint jobId
    return head
  else executeStaged jobId payload

def headNamesCandidate : Controlled Bool := do
  let head ← getHead payload.revision.scopeId payload.revision.serviceId
  return head.any fun head => head.activeRevisionId = candidate.revisionId

def provesPhase : Controlled Bool :=
  match payload.phase with
  | .prepare => return receipts.all fun receipt =>
    receipt.state = .staged || receipt.state = .active || receipt.state = .restored
  | .commit =>
    if activation.state = .committing || activation.state = .succeeded then
      headNamesCandidate payload candidate
    else return false
  | .ackGate =>
    if activation.state = .succeeded then do
      let named ← headNamesCandidate payload candidate
      return named && requiredConsumerReceiptsMatch receipts .active none
    else return false
  | .abort =>
    if activation.state = .aborted then do
      let verified ← (verifyAbortEvidence payload candidate receipts).outcome
      return verified.isOk
    else return false

/-- `recover_expired_contribution_job`: whether the job is proved to have succeeded. -/
def recoverExpiredContributionJob : Controlled Bool := do
  orFail id payload.validate
  let stored ← getActivation payload.activationId
  match stored with
  | none =>
    let candidate ← getRevision payload.revision.revisionId
    return payload.phase = .abort && candidate.isNone
  | some activation =>
    ensurePayloadIdentity payload activation
    let candidate ← requiredCandidate payload activation
    let receipts ← requiredReceipts payload
    provesPhase payload activation candidate receipts

def completionStatus (job : ContributionJob) :
    Except ContributionControllerError (Option ContributionHeadV1) → CompletionStatus
  | .ok _ => .succeeded
  | .error error => error.completion job

def processJob (job : ContributionJob) : Controlled Unit := do
  checkpoint jobId
  let outcome ← (executeContributionJob jobId job.payload job.operationId).outcome
  let _ ← complete jobId (completionStatus job outcome)

/-- `recover_expired` for one contribution job. -/
def recoverJob : Controlled Unit := do
  let expired ← expiredLease jobId
  match expired with
  | none => return
  | some job =>
    let proved ← (recoverExpiredContributionJob job.payload).outcome
    if proved.toOption.getD false then
      let reply ← resolveExpiredSuccess jobId
      orFail (fun _ => .persistence "resolve expired contribution Job") reply
    else
      recoverExpired jobId

end ContributionController

inductive ContributionTask where
  | work (jobId : String)
  | recover (jobId : String)
  | acknowledge (request : AcknowledgementRequest)

inductive ContributionEvent where
  | enqueue (jobId operationId : String) (payload : ContributionJobPayloadV1) (maxAttempts : Nat)
  | cancel (jobId : String)
  | expire (jobId : String)
  | world (world : ContributionWorld)

namespace ContributionPlane

def updateJob (plane : ContributionPlane) (jobId : String)
    (change : ContributionJob → ContributionJob) : ContributionPlane :=
  match plane.jobs[jobId]? with
  | some job => plane.putJob jobId (change job)
  | none => plane

def enqueue (plane : ContributionPlane) (jobId : String) (job : ContributionJob) :
    ContributionPlane :=
  if plane.jobs[jobId]?.isSome then plane else plane.putJob jobId job

def react : ContributionEvent → ContributionPlane → ContributionPlane
  | .enqueue jobId operationId payload maxAttempts, plane =>
    plane.enqueue jobId (.queued operationId payload maxAttempts)
  | .cancel jobId, plane => plane.updateJob jobId (·.cancelled)
  | .expire jobId, plane => plane.updateJob jobId fun job => { job with expired := true }
  | .world world, plane => { plane with world }

end ContributionPlane

variable [RecordDigests] [VersionSyntax] [ProjectionDigests]

abbrev ContributionRequest := Option String × ContributionPlaneCall

def afterClaim (jobId : String) : Option ContributionJob →
    Program ContributionControllerError
      (fun request : ContributionRequest => request.2.Reply) Unit
  | some job => (ContributionController.processJob jobId job).labelled (some jobId)
  | none => .done ()

/-- The program of a task.  A worker claims the job before it acts for it. -/
def ContributionTask.program : ContributionTask →
    Program ContributionControllerError
      (fun request : ContributionRequest => request.2.Reply) Unit
  | .work jobId => .call (none, .claim jobId) (afterClaim jobId)
  | .recover jobId => (ContributionController.recoverJob jobId).labelled none
  | .acknowledge request =>
    Program.labelled none do
      let _ ← (acknowledgementResponse request).outcome
      return

/-- Contribution jobs, the recovery of expired leases and acknowledgements over one store. -/
def contributionPlatform : Platform where
  State := ContributionPlane
  Call := ContributionRequest
  Reply := fun request => request.2.Reply
  Error := ContributionControllerError
  exec := fun request plane => plane.exec request.2
  loads := fun _ => false
  Task := ContributionTask
  program := ContributionTask.program
  Event := ContributionEvent
  react := fun happening plane => plane.react happening

def contributionsIdle (world : ContributionWorld) : contributionPlatform.Config :=
  ⟨⟨.empty, ∅, world⟩, []⟩

end UntitledOJ
