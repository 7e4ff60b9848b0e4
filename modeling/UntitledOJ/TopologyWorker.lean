import UntitledOJ.TopologyPlane
import UntitledOJ.ProgramTraces

/-!
# The topology worker

`process_one` claims one job and runs it to its completion.  The phases of a topology apply stage
the bindings of a revision, ask the providers for it, and advance or release the head; a phase that
fails restores what was there.  An environment gives the replies of the outside world.
-/

namespace UntitledOJ

def JobKind.debugName : JobKind → String
  | .install => "Install"
  | .releasePipeline => "ReleasePipeline"
  | .upgrade => "Upgrade"
  | .start => "Start"
  | .stop => "Stop"
  | .restart => "Restart"
  | .uninstall => "Uninstall"
  | .rollback => "Rollback"
  | .health => "Health"
  | .inventory => "Inventory"
  | .bindingContextApply => "BindingContextApply"
  | .resourcePurge => "ResourcePurge"
  | .topologyApply => "TopologyApply"
  | .contributionProjection => "ContributionProjection"
  | .externalHealth => "ExternalHealth"
  | .nodeDrain => "NodeDrain"
  | .nodeRemove => "NodeRemove"

inductive RuntimeVerdict where
  | available
  | missing
  | unavailable (evidence : String)
  deriving DecidableEq

/-- The points of a pass at which the clock is read; `member` counts the members of a group. -/
inductive Reading where
  | claim | start | reacquire | providers | provided | activation | activated
  | head | fence | release | completion
  | memberStart (member : Nat) | memberSeen (member : Nat) | memberActivation (member : Nat)

inductive BindingRole where
  | provider | consumer

/-- The replies that one pass gets from outside the stores. -/
structure WorkerEnvironment where
  clock : Reading → Int
  /-- `lease_token`. -/
  leaseToken : Except String String
  /-- Whether the providers are configured. -/
  hasProvider : Bool
  /-- What the controllers of other job kinds report. -/
  delegated : Job → CompletionStatus × Value × String
  /-- The evidence for the deployments in a role; a phase on one topology is member 0. -/
  runtime : (member : Nat) → BindingRole → String → RuntimeVerdict
  /-- `resolve_topology_api_bindings`. -/
  resolved : Except String (List ApiBinding)
  /-- `apply_with_bindings`. -/
  applied : Except TopologyProviderApplyFailure TopologyProviderApplyReceipt
  /-- `compensate_applied_revision`. -/
  compensated : Except String Unit
  /-- `observe`. -/
  observed : String → TopologyProvidersObservation
  /-- `provider_projection_sha256`. -/
  projectionSha256 : List ApiBinding → Except String String

def controlPlaneNodeId : String := "control-plane"

def nowMarker (nowMs : Int) : String :=
  "unix-ms:" ++ toString nowMs

/-- A program of the control plane; an error is the text of the failed pass. -/
abbrev Worked := Program String PlaneCall.Reply

namespace Worked

def claim (request : ClaimRequest) : Worked (Except JobError (Option Job)) :=
  Program.perform (PlaneCall.claim request)

def heartbeat (request : HeartbeatRequest) : Worked (Except JobError Job) :=
  Program.perform (PlaneCall.heartbeat request)

def complete (request : CompleteRequest) : Worked (Except JobError Job) :=
  Program.perform (PlaneCall.complete request)

def heads (topologyId : String) : Worked (Option TopologyHeads) :=
  Program.perform (PlaneCall.heads topologyId)

def revision (topologyId revisionId : String) :
    Worked (Except StorageError (Option TopologyRevision)) :=
  Program.perform (PlaneCall.revision topologyId revisionId)

def bindings (topologyId : String) : Worked (Except StorageError (List ApiBinding)) :=
  Program.perform (PlaneCall.bindings topologyId)

def status (topologyId : String) : Worked (Option TopologyStatus) :=
  Program.perform (PlaneCall.status topologyId)

def topology (call : TopologyCall) : Worked (Except StorageError call.Result) :=
  Program.perform (PlaneCall.topology call)

def provider (call : ProviderCall) : Worked Unit :=
  Program.perform (PlaneCall.provider call)

def orFail {Error α : Type} (text : Error → String) : Except Error α → Worked α
  | .ok result => .done result
  | .error error => .fail (text error)

def orMissing {α : Type} (message : String) : Option α → Worked α
  | some value => .done value
  | none => .fail message

end Worked

def outcomeText {α : Type} : Except String α → String
  | .ok _ => "succeeded"
  | .error text => text

def storageText {α : Type} (outcome : Except StorageError α) : Except String α :=
  outcome.mapError StorageError.text

/-- `topology_binding_role_healthy`: the deployments in order. -/
def topologyBindingRoleHealthy (runtime : String → RuntimeVerdict) (role : String) :
    List String → Except String Unit
  | [] => .ok ()
  | deploymentId :: rest =>
    match runtime deploymentId with
    | .available => topologyBindingRoleHealthy runtime role rest
    | .missing =>
      .error (role ++ " deployment " ++ deploymentId ++
        " no longer has one exact runtime projection")
    | .unavailable evidence =>
      .error (role ++ " deployment " ++ deploymentId ++ " is unavailable: " ++ evidence)

def wantedDeployments (deployment : ApiBinding → String) (bindings : List ApiBinding) :
    List String :=
  ((bindings.filter fun binding => binding.desiredState = .active).map deployment).dedup
    |>.insertionSort (· ≤ ·)

def topologyBindingConsumersHealthy (runtime : String → RuntimeVerdict)
    (bindings : List ApiBinding) : Except String Unit :=
  topologyBindingRoleHealthy runtime "consumer"
    (wantedDeployments (·.consumerDeploymentId) bindings)

def topologyBindingProvidersHealthy (runtime : String → RuntimeVerdict)
    (bindings : List ApiBinding) : Except String Unit :=
  topologyBindingRoleHealthy runtime "provider"
    (wantedDeployments (·.providerDeploymentId) bindings)

/-- The providers and then the consumers, by two readings of the evidence. -/
def bindingsHealthy (env : WorkerEnvironment) (member : Nat) (bindings : List ApiBinding) :
    Except String Unit := do
  topologyBindingProvidersHealthy (env.runtime member .provider) bindings
  topologyBindingConsumersHealthy (env.runtime member .consumer) bindings

structure HeldJob where
  job : Job
  leaseToken : String

variable (env : WorkerEnvironment) (held : HeldJob) (payload : TopologyApplyPayload)

def checkpoint (reading : Reading) : Worked Unit := do
  let reply ← Worked.heartbeat
    { jobId := held.job.jobId
      leaseToken := held.leaseToken
      nowMs := env.clock reading
      leaseMs := defaultLeaseMs
      events := [] }
  let _ ← Worked.orFail (fun error : JobError =>
    "control-plane Job " ++ held.job.jobId ++ " lease checkpoint failed: " ++ error.text) reply

/-- `complete_and_project`, without the projection of the operation. -/
def completeAndProject (status : CompletionStatus) (result : Value) (errorMessage : String) :
    Worked Unit := do
  let reply ← Worked.complete
    { jobId := held.job.jobId
      leaseToken := held.leaseToken
      status
      result
      errorMessage
      nowMs := env.clock .completion
      events := [] }
  let _ ← Worked.orFail JobError.text reply

def compensateProviders (previous : Option TopologyRevision)
    (previousBindings : List ApiBinding) : Worked (Except String Unit) := do
  Worked.provider (.compensate payload.topologyId payload.revisionId previous
    previousBindings held.job.operationId env.compensated)
  return env.compensated

def applyProviders (spec : TopologySpec) (bindings : List ApiBinding)
    (previous : Option TopologyRevision) (previousBindings : List ApiBinding) :
    Worked (Except TopologyProviderApplyFailure TopologyProviderApplyReceipt) := do
  Worked.provider (.apply payload.topologyId payload.revisionId spec bindings previous
    previousBindings held.job.operationId env.applied)
  return env.applied

def replaceBindings (topologyId : String) (bindings : List ApiBinding) :
    Worked (Except StorageError Unit) :=
  Worked.topology (.replaceBindings topologyId bindings)

def finishApply (outcome : TopologyApplyOutcome) :
    Worked (Except StorageError TopologyHeads) :=
  Worked.topology (.finish payload.topologyId payload.revisionId held.job.operationId outcome
    (nowMarker (env.clock .release)))

def finishFenced : Worked (Except StorageError TopologyHeads) :=
  Worked.topology (.finishFenced payload.topologyId payload.revisionId held.job.operationId
    .succeeded (nowMarker (env.clock .head))
    ⟨held.job.jobId, held.leaseToken, env.clock .fence⟩)

/-- Release the head of an apply that was refused before it changed anything. -/
def rejectApply (result : Value) (detail : String) (cleanup : String → String) :
    Worked Unit := do
  let finished ← finishApply env held payload .failed
  let _ ← Worked.orFail (cleanup ∘ StorageError.text) finished
  completeAndProject env held .failed result detail

/-- Restore providers and bindings, release the head, and report how it went. -/
def compensateApply (previous : Option TopologyRevision) (previousBindings : List ApiBinding)
    (result : Value) (detail : String → String → String) (cleanup : String → String) :
    Worked Unit := do
  let providerCompensation ← compensateProviders env held payload previous previousBindings
  let bindingCompensation ← replaceBindings payload.topologyId previousBindings
  let degraded := !providerCompensation.isOk || !bindingCompensation.isOk
  let finished ← finishApply env held payload (if degraded then .degraded else .failed)
  let _ ← Worked.orFail (cleanup ∘ StorageError.text) finished
  completeAndProject env held (if degraded then .needsAttention else .failed) result
    (detail (outcomeText providerCompensation) (outcomeText (storageText bindingCompensation)))

def abandonApply (previousBindings : List ApiBinding) (failure : TopologyProviderApplyFailure)
    (cleanup : String → String) : Worked Unit := do
  let bindingCompensation ← replaceBindings payload.topologyId previousBindings
  let degraded := failure.state = .degraded || !bindingCompensation.isOk
  let finished ← finishApply env held payload (if degraded then .degraded else .failed)
  let _ ← Worked.orFail (cleanup ∘ StorageError.text) finished
  completeAndProject env held (if degraded then .needsAttention else .failed)
    failure.toDocument
    (failure.text ++ "; binding compensation: " ++ outcomeText (storageText bindingCompensation))

def rewindHead (completed : Bool) (previousRevisionId : Option String) :
    Worked (Except String Unit) :=
  match previousRevisionId with
  | none =>
    .done (.error (
      if completed then "group compensation cannot rewind an initial topology revision"
      else "an initial topology revision has no safe previous draft to restore"))
  | some previousRevisionId =>
    if completed then do
      let rewound ← Worked.topology (.compensateCompleted payload.topologyId
        payload.revisionId previousRevisionId held.job.operationId (nowMarker (env.clock .head)))
      return (storageText rewound).map fun _ => ()
    else do
      let rewound ← Worked.topology (.completeAbort payload.topologyId
        payload.revisionId previousRevisionId held.job.operationId (nowMarker (env.clock .head)))
      return (storageText rewound).map fun _ => ()

def abortPhase (completed : Bool) (previousRevisionId : Option String)
    (previous : Option TopologyRevision) : Worked Unit := do
  checkpoint env held .providers
  let providerCompensation ←
    compensateProviders env held payload previous payload.previousBindings
  checkpoint env held .provided
  let bindingCompensation ← replaceBindings payload.topologyId payload.previousBindings
  let degraded := !providerCompensation.isOk || !bindingCompensation.isOk
  let finish ←
    if degraded then
      pure (.error
        "provider or binding restoration failed; durable candidate ownership was retained")
    else rewindHead env held payload completed previousRevisionId
  let needsAttention := degraded || !finish.isOk
  let detail := "topology abort provider restore: " ++ outcomeText providerCompensation ++
    "; binding restore: " ++ outcomeText (storageText bindingCompensation) ++
    "; head release: " ++ outcomeText finish
  completeAndProject env held (if needsAttention then .needsAttention else .succeeded)
    (.object [("phase", .string "ABORT"), ("restored", .bool !needsAttention)])
    (if needsAttention then detail else "")

def finalizePhase (previous : Option TopologyRevision) : Worked Unit := do
  let stagedBindings ← Worked.orFail StorageError.text
    (← Worked.bindings payload.topologyId)
  match bindingsHealthy env 0 stagedBindings with
  | .ok _ =>
    let activeBindings := activateStagedBindings stagedBindings (nowMarker (env.clock .activation))
    match ← replaceBindings payload.topologyId activeBindings with
    | .error activationError =>
      compensateApply env held payload previous payload.previousBindings
        (.object
          [("code", .string "TOPOLOGY_BINDING_ACTIVATION_FAILED"),
            ("phase", .string "FINALIZE")])
        (fun provider binding => "binding activation failed (" ++ activationError.text ++
          "); provider compensation: " ++ provider ++ "; binding compensation: " ++ binding)
        ("finalize activation cleanup could not release ownership: " ++ ·)
    | .ok _ =>
      checkpoint env held .activated
      match ← finishFenced env held payload with
      | .error headError =>
        let providerCompensation ←
          compensateProviders env held payload previous payload.previousBindings
        let bindingCompensation ←
          replaceBindings payload.topologyId payload.previousBindings
        let _ ← finishApply env held payload .degraded
        completeAndProject env held .needsAttention
          (.object
            [("code", .string "TOPOLOGY_HEAD_ADVANCE_FAILED"),
              ("phase", .string "FINALIZE")])
          ("binding projection activated but applied head did not advance (" ++
            headError.text ++ "); provider compensation: " ++
            outcomeText providerCompensation ++ "; binding compensation: " ++
            outcomeText (storageText bindingCompensation))
      | .ok _ =>
        completeAndProject env held .succeeded
          (.object
            [("topology_id", .string payload.topologyId),
              ("revision_id", .string payload.revisionId),
              ("phase", .string "FINALIZE"),
              ("bindings", .writeNat activeBindings.length)])
          ""
  | .error health =>
    compensateApply env held payload previous payload.previousBindings
      (.object [("code", .string "TOPOLOGY_CONSUMER_UNHEALTHY"), ("phase", .string "FINALIZE")])
      (fun provider binding => "consumer health gate failed (" ++ health ++
        "); provider compensation: " ++ provider ++ "; binding compensation: " ++ binding)
      ("finalize failure could not release apply ownership: " ++ ·)

def stagePhase : Worked Unit :=
  match validatePreparedBindings payload.bindings payload.topologyId payload.revisionId
      held.job.operationId with
  | .error detail =>
    rejectApply env held payload
      (.object [("code", .string "TOPOLOGY_BINDING_STAGE_REJECTED"), ("phase", .string "STAGE")])
      detail (detail ++ "; stage validation cleanup failed: " ++ ·)
  | .ok _ => do
      match ← replaceBindings payload.topologyId payload.bindings with
      | .ok _ =>
        completeAndProject env held .succeeded
          (.object
            [("phase", .string "STAGE"), ("bindings", .writeNat payload.bindings.length)])
          ""
      | .error error =>
        rejectApply env held payload
          (.object
            [("code", .string "TOPOLOGY_BINDING_STAGE_FAILED"), ("phase", .string "STAGE")])
          error.text
          ("binding stage failed (" ++ error.text ++ "); cleanup failed: " ++ ·)

/-- What a `PREPARE` phase checks before it stages anything. -/
def prepareValidation : Except String Unit := do
  validatePreparedBindings payload.bindings payload.topologyId payload.revisionId
    held.job.operationId
  topologyBindingProvidersHealthy (env.runtime 0 .provider) payload.bindings

def preparePhase (revision : TopologyRevision) (previous : Option TopologyRevision) :
    Worked Unit :=
  match prepareValidation env held payload with
  | .error detail =>
    rejectApply env held payload
      (.object
        [("code", .string "TOPOLOGY_BINDING_PREPARE_REJECTED"), ("phase", .string "PREPARE")])
      detail (detail ++ "; prepare validation cleanup failed: " ++ ·)
  | .ok _ => do
      let staged ← replaceBindings payload.topologyId payload.bindings
      Worked.orFail (fun error : StorageError =>
        "prepare could not stage bindings: " ++ error.text) staged
      checkpoint env held .providers
      let providerResult ← applyProviders env held payload revision.spec payload.bindings
        previous payload.previousBindings
      checkpoint env held .provided
      match providerResult with
      | .ok receipt =>
        completeAndProject env held .succeeded
          (.object [("phase", .string "PREPARE"), ("receipt", receipt.toDocument)]) ""
      | .error failure =>
        abandonApply env held payload payload.previousBindings failure
          ("prepare failure could not release apply ownership: " ++ ·)

def fullPhase (revision : TopologyRevision) (previous : Option TopologyRevision)
    (previousBindings : List ApiBinding) : Worked Unit :=
  match env.resolved with
  | .error error =>
    let detail := "topology binding resolution failed: " ++ error
    rejectApply env held payload (.object [("code", .string "TOPOLOGY_API_BINDING_INVALID")])
      detail (detail ++ "; apply ownership cleanup failed: " ++ ·)
  | .ok stagedBindings => do
      match ← replaceBindings payload.topologyId stagedBindings with
      | .error error =>
        let detail := "topology bindings could not be staged atomically: " ++ error.text
        rejectApply env held payload
          (.object [("code", .string "TOPOLOGY_BINDING_STAGE_FAILED")])
          detail (detail ++ "; apply ownership cleanup failed: " ++ ·)
      | .ok _ =>
        checkpoint env held .providers
        let providerResult ← applyProviders env held payload revision.spec stagedBindings
          previous previousBindings
        checkpoint env held .provided
        match providerResult with
        | .error failure =>
          abandonApply env held payload previousBindings failure
            ("provider failure could not be persisted in topology status: " ++ ·)
        | .ok receipt =>
          match bindingsHealthy env 0 stagedBindings with
          | .error healthFailure =>
            compensateApply env held payload previous previousBindings
              (.object [("code", .string "TOPOLOGY_CONSUMER_UNHEALTHY")])
              (fun provider binding => "consumer health gate failed (" ++ healthFailure ++
                "); provider compensation: " ++ provider ++
                "; binding compensation: " ++ binding)
              ("health-gate failure could not be persisted: " ++ ·)
          | .ok _ =>
            let activeBindings :=
              activateStagedBindings stagedBindings (nowMarker (env.clock .activation))
            match ← replaceBindings payload.topologyId activeBindings with
            | .error activationError =>
              compensateApply env held payload previous previousBindings
                (.object [("code", .string "TOPOLOGY_BINDING_ACTIVATION_FAILED")])
                (fun provider binding => "binding activation failed (" ++
                  activationError.text ++ "); provider compensation: " ++ provider ++
                  "; storage compensation: " ++ binding)
                ("binding activation failure could not be persisted: " ++ ·)
            | .ok _ =>
              checkpoint env held .activated
              let advanced ← finishFenced env held payload
              let _ ← Worked.orFail (fun error : StorageError =>
                "providers accepted topology but durable head did not advance: " ++
                  error.text) advanced
              completeAndProject env held .succeeded receipt.toDocument ""

section

variable [Digests] [AddressSyntax] (env : WorkerEnvironment) (held : HeldJob)

def identityOrder (first second : String × String) : Bool :=
  ((compare first.1 second.1).then (compare first.2 second.2)).isLE

/-- `windows(2).any(|pair| pair[0].0 == pair[1].0)`. -/
def repeatsTopology : List (String × String) → Bool
  | first :: second :: rest => first.1 = second.1 || repeatsTopology (second :: rest)
  | _ => false

def groupIdentities (group : List TopologyApplyGroupPayloadMember) : List (String × String) :=
  (group.map fun member => (member.topologyId, member.revisionId)).insertionSort
    fun first second => identityOrder first second

/-- Some identity of the group is blank, or a topology occurs twice. -/
def malformedIdentities (identities : List (String × String)) : Bool :=
  identities.any (fun identity => isBlank identity.1 || isBlank identity.2) ||
    repeatsTopology identities

def prepareGroupMember (identity : (String × String) × Nat) :
    Worked TopologyApplyGroupMember := do
  let ((topologyId, revisionId), index) := identity
  let operationId := held.job.operationId
  checkpoint env held (.memberStart index)
  let heads ← Worked.orMissing ("topology " ++ topologyId ++ " disappeared")
    (← Worked.heads topologyId)
  if heads.applyingRevisionId ≠ some revisionId ∨
      heads.applyingOperationId ≠ some operationId then
    .fail ("topology " ++ topologyId ++ " no longer owns revision " ++ revisionId ++
      " for operation " ++ operationId)
  else
    let found ← Worked.orFail StorageError.text (← Worked.revision topologyId revisionId)
    let revision ← Worked.orMissing ("topology revision " ++ revisionId ++ " disappeared") found
    let stagedBindings ← Worked.orFail StorageError.text (← Worked.bindings topologyId)
    Worked.orFail id (validatePreparedBindings stagedBindings topologyId revisionId operationId)
    Worked.orFail id (bindingsHealthy env index stagedBindings)
    let contentSha256 ← Worked.orFail OrchestratorError.text revision.spec.contentSha256
    let projectionSha256 ← Worked.orFail id (env.projectionSha256 stagedBindings)
    let observed := env.observed topologyId
    checkpoint env held (.memberSeen index)
    if !observed.gateway.matches revisionId contentSha256 projectionSha256 ||
        !observed.auth.matches revisionId contentSha256 projectionSha256 then
      .fail ("topology " ++ topologyId ++
        " provider evidence does not acknowledge revision " ++ revisionId)
    else
      return {
        topologyId
        revisionId
        activeBindings :=
          activateStagedBindings stagedBindings (nowMarker (env.clock (.memberActivation index))) }

/-- Prepare every member and advance all heads in one transaction. -/
def finishGroup (group : List TopologyApplyGroupPayloadMember) :
    Worked (List TopologyApplyGroupMember) := do
  let identities := groupIdentities group
  if group.isEmpty then
    .fail "FINALIZE_GROUP requires at least one topology member"
  else if malformedIdentities identities then
    .fail "FINALIZE_GROUP members must have unique non-empty topology identities"
  else
    let prepared ← Program.forEach (prepareGroupMember env held) identities.zipIdx
    let members := normalizeGroupBindingMoves prepared
    checkpoint env held .activated
    let finished ← Worked.topology (.finishGroupFenced members held.job.operationId
      (nowMarker (env.clock .head)) ⟨held.job.jobId, held.leaseToken, env.clock .fence⟩)
    let _ ← Worked.orFail StorageError.text finished
    return members

def finalizeTopologyGroup (group : List TopologyApplyGroupPayloadMember) : Worked Unit := do
  match ← (finishGroup env held group).attempt with
  | .ok members =>
    completeAndProject env held .succeeded
      (.object
        [("phase", .string "FINALIZE_GROUP"),
          ("topologies", .array (members.map fun member => .object
            [("topology_id", .string member.topologyId),
              ("revision_id", .string member.revisionId),
              ("bindings", .writeNat member.activeBindings.length)]))])
      ""
  | .error detail =>
    completeAndProject env held .failed
      (.object
        [("code", .string "TOPOLOGY_GROUP_FINALIZE_REJECTED"),
          ("phase", .string "FINALIZE_GROUP")])
      detail

end

def markDegraded (topologyId operationId detail updatedAt : String) : Worked Unit := do
  let status ← Worked.orMissing ("topology " ++ topologyId ++ " has no status")
    (← Worked.status topologyId)
  let degraded : TopologyStatus :=
    { status with
      state := .degraded
      lastOperationId := some operationId
      updatedAt
      drift := [
        { resourceKind := .authority
          resourceId := topologyId
          kind := .unreachable
          detail }] }
  let written ← Worked.topology (.putStatus degraded)
  Worked.orFail StorageError.text written

def finishUnknownTopologyApply (topologyId revisionId operationId detail updatedAt : String) :
    Worked Unit := do
  let finished ← Worked.topology (.finish topologyId revisionId operationId .degraded
    updatedAt)
  let _ ← Worked.orFail (fun error : StorageError =>
    "unknown topology apply outcome could not release durable ownership: " ++ error.text) finished
  markDegraded topologyId operationId detail updatedAt

section

variable [Digests] [AddressSyntax] (env : WorkerEnvironment) (held : HeldJob)

def storedRevision (topologyId revisionId missing : String) : Worked TopologyRevision := do
  let found ← Worked.orFail StorageError.text (← Worked.revision topologyId revisionId)
  Worked.orMissing missing found

def previousRevision (topologyId : String) : Option String → Worked (Option TopologyRevision)
  | none => .done none
  | some revisionId => do
      let revision ← storedRevision topologyId revisionId
        ("applied topology revision " ++ revisionId ++ " disappeared")
      return some revision

def storedHeads (topologyId : String) : Worked TopologyHeads := do
  Worked.orMissing ("topology " ++ topologyId ++ " disappeared") (← Worked.heads topologyId)

/-- Take the head again when a retried job finds it free. -/
def reacquireHead (payload : TopologyApplyPayload) (heads : TopologyHeads) :
    Worked TopologyHeads :=
  if (payload.phase = .full ∨ payload.phase = .prepare) ∧ heads.applyingRevisionId = none ∧
      heads.draftRevisionId = payload.revisionId ∧
      heads.appliedRevisionId ≠ some payload.revisionId then do
    let begun ← Worked.topology (.beginApply payload.topologyId payload.revisionId
      held.job.operationId (nowMarker (env.clock .reacquire)))
    let _ ← Worked.orFail (fun error : StorageError =>
      "retry could not reacquire topology apply: " ++ error.text) begun
    storedHeads payload.topologyId
  else .done heads

/-- The abort finds its revision applied by its own operation. -/
def abortsCompleted (payload : TopologyApplyPayload) (operationId : String)
    (heads : TopologyHeads) : Bool :=
  payload.phase = .abort && heads.applyingRevisionId = none &&
    heads.appliedRevisionId = some payload.revisionId &&
    heads.lastOperationId = some operationId

def ownsApply (payload : TopologyApplyPayload) (operationId : String) (heads : TopologyHeads) :
    Bool :=
  heads.applyingRevisionId = some payload.revisionId &&
    heads.applyingOperationId = some operationId

/-- A failed apply released the head and kept the candidate as the draft. -/
def keptRetryableDraft (payload : TopologyApplyPayload) (heads : TopologyHeads) : Bool :=
  heads.draftRevisionId = payload.revisionId &&
    heads.appliedRevisionId ≠ some payload.revisionId

def restoredPreviousDraft (payload : TopologyApplyPayload) (heads : TopologyHeads) : Bool :=
  heads.appliedRevisionId = some heads.draftRevisionId &&
    heads.appliedRevisionId ≠ some payload.revisionId

/-- An abort finds that there is nothing left to restore. -/
def replaysAbort (payload : TopologyApplyPayload) (operationId : String)
    (heads : TopologyHeads) : Bool :=
  payload.phase = .abort && heads.applyingRevisionId = none &&
    heads.lastOperationId = some operationId &&
    (keptRetryableDraft payload heads || restoredPreviousDraft payload heads)

/-- A job that does not own the head. -/
def disownedPhase (payload : TopologyApplyPayload) (heads : TopologyHeads) : Worked Unit :=
  if replaysAbort payload held.job.operationId heads then
    completeAndProject env held .succeeded
      (.object
        [("phase", .string "ABORT"),
          ("restored", .bool true),
          ("replayed", .bool true),
          ("retryable_draft", .bool (keptRetryableDraft payload heads))])
      ""
  else
    completeAndProject env held .needsAttention .null
      "topology apply ownership no longer matches the durable head"

/-- The phases other than `FINALIZE_GROUP`. -/
def processPhase (payload : TopologyApplyPayload) : Worked Unit := do
  let found ← storedHeads payload.topologyId
  let heads ← reacquireHead env held payload found
  let completed := abortsCompleted payload held.job.operationId heads
  if !ownsApply payload held.job.operationId heads && !completed then
    disownedPhase env held payload heads
  else
    let revision ← storedRevision payload.topologyId payload.revisionId
      ("topology revision " ++ payload.revisionId ++ " disappeared")
    let previousRevisionId :=
      if completed then revision.parentRevisionId else heads.appliedRevisionId
    let previous ← previousRevision payload.topologyId previousRevisionId
    match payload.phase with
    | .abort => abortPhase env held payload completed previousRevisionId previous
    | .finalize => finalizePhase env held payload previous
    | phase =>
      let previousBindings ← Worked.orFail StorageError.text
        (← Worked.bindings payload.topologyId)
      match phase with
      | .stage => stagePhase env held payload
      | .prepare => preparePhase env held payload revision previous
      | _ => fullPhase env held payload revision previous previousBindings

def isContributionJob (job : Job) : Bool :=
  job.kind = .contributionProjection &&
    job.payload.get "controller" = some (.string "ojos.dev/contribution-job/v1")

def isDelegated (job : Job) : Bool :=
  isContributionJob job || job.kind = .nodeDrain || job.kind = .nodeRemove ||
    job.kind = .externalHealth

def refuseWithoutProvider : Worked Unit := do
  let detail := "Topology providers are unavailable after the apply job was durably accepted"
  completeAndProject env held .needsAttention .null detail
  match TopologyApplyPayload.ofDocument held.job.payload with
  | .error _ => pure ()
  | .ok payload =>
    if payload.phase = .finalizeGroup then pure ()
    else
      finishUnknownTopologyApply payload.topologyId payload.revisionId held.job.operationId
        detail (nowMarker (env.clock .release))

def processJob : Worked Unit := do
  checkpoint env held .start
  if isDelegated held.job then
    let (status, result, detail) := env.delegated held.job
    completeAndProject env held status result detail
  else if held.job.kind ≠ .topologyApply then
    completeAndProject env held .needsAttention .null
      ("control-plane queue received unsupported job kind " ++ held.job.kind.debugName)
  else if !env.hasProvider then refuseWithoutProvider env held
  else
    let payload ← Worked.orFail ("invalid topology apply payload: " ++ ·)
      (TopologyApplyPayload.ofDocument held.job.payload)
    if payload.phase = .finalizeGroup then finalizeTopologyGroup env held payload.group
    else processPhase env held payload

end

variable [Digests] [AddressSyntax] (env : WorkerEnvironment)

def claimRequest (leaseToken : String) : ClaimRequest :=
  { nodeId := controlPlaneNodeId
    instanceId := "single-active-control-plane"
    leaseToken
    nowMs := env.clock .claim
    leaseMs := defaultLeaseMs }

def processOne : Worked Bool := do
  let leaseToken ← Worked.orFail id env.leaseToken
  match ← Worked.orFail JobError.text (← Worked.claim (claimRequest env leaseToken)) with
  | none => return false
  | some job =>
    let leaseToken ← Worked.orMissing "claimed topology job has no lease token" job.leaseToken
    let _ ← Worked.orMissing "claimed topology job has no lease expiry" job.leaseExpiresAtMs
    processJob env ⟨job, leaseToken⟩
    return true

end UntitledOJ
