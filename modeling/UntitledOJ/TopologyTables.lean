import UntitledOJ.ApiBinding
import UntitledOJ.SqliteJobStore

/-!
# The topology tables

Revisions are only ever inserted.  The head of a topology names its draft, the revision that was
applied last, and the one that an operation is applying; updates compare the columns they depend on.
The columns of a row repeat its JSON payload, so that a row is the record itself.
-/

namespace UntitledOJ

inductive StorageError where
  | conflict (message : String)
  | invariant (message : String)
  | domain (message : String)
  | sqlite (message : String)
  | json (message : String)
  deriving DecidableEq, Repr

def domain {α : Type} : Except OrchestratorError α → Except StorageError α
  | .ok result => .ok result
  | .error error => .error (.domain error.text)

structure TopologyHeads where
  (topologyId draftRevisionId : String)
  (appliedRevisionId applyingRevisionId applyingOperationId lastOperationId : Option String)
  deriving DecidableEq, Repr

inductive TopologyApplyOutcome where
  | succeeded | failed | degraded
  deriving DecidableEq, Repr

def TopologyApplyOutcome.reported : TopologyApplyOutcome → TopologyReconciliationState
  | .succeeded => .inSync
  | .failed => .failed
  | .degraded => .degraded

/-- The tables `orchestrator_topology_revisions`, `orchestrator_topology_heads`,
`orchestrator_topology_status` and `orchestrator_api_bindings`. -/
structure TopologyTables where
  revisions : List TopologyRevision
  heads : Std.TreeMap String TopologyHeads
  status : Std.TreeMap String TopologyStatus
  bindings : List ApiBinding

variable (tables : TopologyTables)

namespace TopologyTables

def empty : TopologyTables :=
  ⟨[], ∅, ∅, []⟩

def revision? (topologyId revisionId : String) :
    Option TopologyRevision :=
  tables.revisions.find? fun revision =>
    revision.topologyId = topologyId && revision.revisionId = revisionId

def references (revisionId : Option String) :
    Except StorageError Unit :=
  require (revisionId.all fun id => tables.revisions.any fun row => row.revisionId = id)
    (.sqlite "FOREIGN KEY constraint failed")

def writeHeads (topologyId : String) (heads : TopologyHeads) :
    Except StorageError TopologyTables := do
  tables.references (some heads.draftRevisionId)
  tables.references heads.appliedRevisionId
  tables.references heads.applyingRevisionId
  require (heads.applyingRevisionId.isNone = heads.applyingOperationId.isNone)
    (.sqlite "CHECK constraint failed: orchestrator_topology_heads")
  return { tables with heads := tables.heads.insert topologyId heads }

/-- `UPDATE orchestrator_topology_heads … WHERE topology_id = ?1 AND …`, which
must change one row. -/
def updateHeads (topologyId : String) (matching : TopologyHeads → Bool)
    (change : TopologyHeads → TopologyHeads) (unchanged : StorageError) :
    Except StorageError TopologyTables :=
  match tables.heads[topologyId]? with
  | none => .error unchanged
  | some heads =>
    if matching heads then tables.writeHeads topologyId (change heads) else .error unchanged

def upsertStatus (status : TopologyStatus) :
    Except StorageError TopologyTables := do
  tables.references status.desiredRevisionId
  tables.references status.observedRevisionId
  return { tables with status := tables.status.insert status.topologyId status }

variable [Digests] [AddressSyntax]

def loadRevision (topologyId revisionId : String) :
    Except StorageError (Option TopologyRevision) :=
  match tables.revision? topologyId revisionId with
  | none => .ok none
  | some revision => do
      domain revision.verify
      return some revision

def requiredRevision (topologyId revisionId : String) (missing : StorageError) :
    Except StorageError TopologyRevision := do
  match ← tables.loadRevision topologyId revisionId with
  | some revision => return revision
  | none => .error missing

def requiredHeads (topologyId : String) (missing : String) :
    Except StorageError TopologyHeads :=
  match tables.heads[topologyId]? with
  | some heads => .ok heads
  | none => .error (.invariant missing)

/-- `insert_revision`, under the keys and the check of the table. -/
def insertRevision (revision : TopologyRevision) :
    Except StorageError TopologyTables := do
  domain revision.verify
  require (revision.revisionNumber ≤ i64Max)
    (.invariant "revision number exceeds SQLite INTEGER range")
  require (0 < revision.revisionNumber)
    (.sqlite "CHECK constraint failed: revision_number > 0")
  require (!tables.revisions.any fun row =>
      row.topologyId = revision.topologyId && row.revisionNumber = revision.revisionNumber)
    (.sqlite ("UNIQUE constraint failed: orchestrator_topology_revisions.topology_id, " ++
      "orchestrator_topology_revisions.revision_number"))
  require (!tables.revisions.any fun row => row.revisionId = revision.revisionId)
    (.sqlite "UNIQUE constraint failed: orchestrator_topology_revisions.revision_id")
  tables.references revision.parentRevisionId
  tables.references revision.rollbackOfRevisionId
  return { tables with revisions := tables.revisions ++ [revision] }

def nextPersistedRevisionNumber (topologyId : String) :
    Except StorageError Nat :=
  match ((tables.revisions.filter fun row => row.topologyId = topologyId).map
      (·.revisionNumber)).max? with
  | none => .error (.invariant ("topology " ++ topologyId ++ " has no revision history"))
  | some maximum =>
    if maximum < u64Max then .ok (maximum + 1)
    else .error (.invariant "topology revision number overflow")

def ensureMutableHead (heads : TopologyHeads) (expected : String) : Except StorageError Unit := do
  require (heads.draftRevisionId = expected)
    (.conflict ("expected draft " ++ expected ++ ", current draft is " ++ heads.draftRevisionId))
  require heads.applyingRevisionId.isNone
    (.conflict ("topology " ++ heads.topologyId ++ " has an apply in progress"))

def createInitialTopologyRevision (spec : TopologySpec) (note : RevisionNote) :
    Except StorageError TopologyRevision × TopologyTables :=
  transact tables do
    let revision ← domain (TopologyRevision.initial spec note)
    require (!tables.heads.contains revision.topologyId)
      (.conflict ("topology " ++ revision.topologyId ++ " already exists"))
    let inserted ← tables.insertRevision revision
    let headed ← inserted.writeHeads revision.topologyId
      { topologyId := revision.topologyId
        draftRevisionId := revision.revisionId
        appliedRevisionId := none
        applyingRevisionId := none
        applyingOperationId := none
        lastOperationId := none }
    let status ← domain (TopologyStatus.draft revision.topologyId (some revision.revisionId)
      revision.createdAt)
    let reported ← headed.upsertStatus status
    return (revision, reported)

/-- Renumber a revision that does not follow its parent's number. -/
def renumbered (validated : TopologyRevision) (revisionNumber : Nat) (parentRevisionId : String)
    (rollbackOfRevisionId : Option String) : Except StorageError TopologyRevision :=
  if validated.revisionNumber = revisionNumber then .ok validated
  else
    domain (TopologyRevision.fromParts revisionNumber (some parentRevisionId)
      rollbackOfRevisionId validated.spec
      { createdAt := validated.createdAt
        createdBy := validated.createdBy
        message := validated.message })

def publishDraft (topologyId expectedDraftRevisionId : String) (revision : TopologyRevision) :
    Except StorageError (TopologyRevision × TopologyTables) := do
  let inserted ← tables.insertRevision revision
  let moved ← inserted.updateHeads topologyId
    (fun heads => heads.draftRevisionId = expectedDraftRevisionId &&
      heads.applyingRevisionId.isNone)
    (fun heads => { heads with draftRevisionId := revision.revisionId })
    (.conflict ("topology " ++ topologyId ++ " draft changed concurrently"))
  let status ← domain (TopologyStatus.draft topologyId (some revision.revisionId)
    revision.createdAt)
  let reported ← moved.upsertStatus status
  return (revision, reported)

def createNextTopologyRevision (topologyId expectedDraftRevisionId : String) (spec : TopologySpec)
    (note : RevisionNote) :
    Except StorageError TopologyRevision × TopologyTables :=
  transact tables do
    let heads ← tables.requiredHeads topologyId ("topology " ++ topologyId ++ " does not exist")
    ensureMutableHead heads expectedDraftRevisionId
    let current ← tables.requiredRevision topologyId expectedDraftRevisionId
      (.invariant ("draft revision " ++ expectedDraftRevisionId ++ " is missing"))
    let validated ← domain (current.next spec note)
    let revisionNumber ← tables.nextPersistedRevisionNumber topologyId
    let revision ← renumbered validated revisionNumber current.revisionId none
    tables.publishDraft topologyId expectedDraftRevisionId revision

def createTopologyRollbackRevision (topologyId expectedDraftRevisionId targetRevisionId : String)
    (note : RevisionNote) :
    Except StorageError TopologyRevision × TopologyTables :=
  transact tables do
    let heads ← tables.requiredHeads topologyId ("topology " ++ topologyId ++ " does not exist")
    ensureMutableHead heads expectedDraftRevisionId
    let current ← tables.requiredRevision topologyId expectedDraftRevisionId
      (.invariant ("draft revision " ++ expectedDraftRevisionId ++ " is missing"))
    let target ← tables.requiredRevision topologyId targetRevisionId
      (.invariant ("rollback target " ++ targetRevisionId ++ " is missing"))
    let validated ← domain (current.rollbackTo target note)
    let revisionNumber ← tables.nextPersistedRevisionNumber topologyId
    let revision ← renumbered validated revisionNumber current.revisionId (some target.revisionId)
    tables.publishDraft topologyId expectedDraftRevisionId revision

def beginTopologyApply (topologyId expectedDraftRevisionId operationId updatedAt : String) :
    Except StorageError TopologyRevision × TopologyTables :=
  transact tables do
    require (!isBlank operationId) (.invariant "operation_id must not be empty")
    let revision ← tables.requiredRevision topologyId expectedDraftRevisionId
      (.invariant ("draft revision " ++ expectedDraftRevisionId ++ " is missing"))
    let moved ← tables.updateHeads topologyId
      (fun heads => heads.draftRevisionId = expectedDraftRevisionId &&
        heads.applyingRevisionId.isNone)
      (fun heads =>
        { heads with
          applyingRevisionId := some expectedDraftRevisionId
          applyingOperationId := some operationId
          lastOperationId := some operationId })
      (.conflict ("topology " ++ topologyId ++ " is already applying or its draft changed"))
    let draft ← domain (TopologyStatus.draft topologyId (some expectedDraftRevisionId) updatedAt)
    let status := { draft with state := .reconciling, lastOperationId := some operationId }
    domain status.validate
    let reported ← moved.upsertStatus status
    return (revision, reported)

def report (topologyId : String) (desiredRevisionId observedRevisionId : Option String)
    (state : TopologyReconciliationState) (operationId updatedAt : String) :
    Except StorageError TopologyTables := do
  let status : TopologyStatus :=
    { topologyId
      desiredRevisionId
      observedRevisionId
      state
      drift := []
      lastOperationId := some operationId
      updatedAt }
  domain status.validate
  tables.upsertStatus status

def resultingHeads (topologyId : String) :
    Except StorageError TopologyHeads :=
  tables.requiredHeads topologyId ("topology " ++ topologyId ++ " head disappeared")

def finishTransaction (topologyId revisionId operationId : String) (outcome : TopologyApplyOutcome)
    (updatedAt : String) :
    Except StorageError (TopologyHeads × TopologyTables) := do
  let heads ← tables.requiredHeads topologyId ("topology " ++ topologyId ++ " does not exist")
  require (heads.applyingRevisionId = some revisionId &&
      heads.applyingOperationId = some operationId)
    (.conflict ("topology " ++ topologyId ++ " apply lease does not match operation " ++
      operationId))
  let appliedRevision :=
    if outcome = .succeeded then some revisionId else heads.appliedRevisionId
  let moved ← tables.updateHeads topologyId
    (fun heads => heads.applyingRevisionId = some revisionId &&
      heads.applyingOperationId = some operationId)
    (fun heads =>
      { heads with
        appliedRevisionId := appliedRevision
        applyingRevisionId := none
        applyingOperationId := none
        lastOperationId := some operationId })
    (.conflict ("topology " ++ topologyId ++ " apply completion raced with another writer"))
  let reported ← moved.report topologyId (some revisionId) appliedRevision
    outcome.reported operationId updatedAt
  let completed ← reported.resultingHeads topologyId
  return (completed, reported)

def finishTopologyApply (topologyId revisionId operationId : String)
    (outcome : TopologyApplyOutcome) (updatedAt : String) :
    Except StorageError TopologyHeads × TopologyTables :=
  transact tables (tables.finishTransaction topologyId revisionId operationId outcome updatedAt)

end TopologyTables

/-- What the fence of a topology job reads of it: the indexed columns and the
decoded payload. -/
structure LeaseEvidence where
  status : String
  leaseExpiresAtMs : Option Int
  job : Job

def staleTopologyJobLease (jobId : String) : StorageError :=
  .conflict ("topology apply job " ++ jobId ++ " lease is stale or does not match")

def ensureActiveTopologyJobLease (evidence : Except StorageError (Option LeaseEvidence))
    (jobId operationId leaseToken : String) (nowMs : Int) : Except StorageError Unit := do
  require (!isBlank jobId && !isBlank leaseToken)
    (.invariant "job_id and lease_token must not be empty")
  match ← evidence with
  | none => .error (staleTopologyJobLease jobId)
  | some evidence =>
    require (evidence.job.jobId = jobId && evidence.job.operationId = operationId &&
        evidence.job.status.isHeld &&
        (evidence.status = "LEASED" || evidence.status = "CANCEL_REQUESTED") &&
        evidence.status = statusText evidence.job.status &&
        evidence.job.leaseToken = some leaseToken &&
        evidence.job.leaseExpiresAtMs = evidence.leaseExpiresAtMs &&
        evidence.job.leaseExpiresAtMs.any (nowMs < ·))
      (staleTopologyJobLease jobId)

/-- The job and the lease that fence a finishing call. -/
structure JobFence where
  (jobId leaseToken : String)
  nowMs : Int

/-- `ensure_active_topology_job_lease` with the arguments of the fence. -/
def JobFence.check (fence : JobFence)
    (evidence : String → Except StorageError (Option LeaseEvidence)) (operationId : String) :
    Except StorageError Unit :=
  ensureActiveTopologyJobLease (evidence fence.jobId) fence.jobId operationId fence.leaseToken
    fence.nowMs

def JobTables.leaseEvidence {Text : Type} [JsonText Text] (tables : JobTables Text)
    (jobId : String) : Except StorageError (Option LeaseEvidence) :=
  match tables.jobs[jobId]? with
  | none => .ok none
  | some row =>
    match JsonText.fromText row.payload >>= Job.ofDocument with
    | .ok job => .ok (some ⟨row.status, row.leaseExpiresAtMs, job⟩)
    | .error message => .error (.json message)

namespace TopologyTables

def validateGroupBinding (member : TopologyApplyGroupMember) (operationId : String)
    (bindingIds : List String) (requirements : List (String × String)) (binding : ApiBinding) :
    Except StorageError Unit := do
  match binding.validate with
  | .error message => .error (.invariant message)
  | .ok () => .ok ()
  let terminalStateMatches : Bool :=
    match binding.desiredState with
    | .active =>
      binding.state = .active && binding.observedState = .active && binding.health = .healthy
    | .revoked => binding.state = .revoked && binding.observedState = .revoked
  require (binding.topologyId = member.topologyId &&
      binding.topologyRevisionId = member.revisionId && terminalStateMatches &&
      binding.lastOperationId = operationId &&
      binding.credentialGeneration = binding.contextGeneration &&
      binding.bindingId ∉ bindingIds &&
      (binding.consumerDeploymentId, binding.requirementName) ∉ requirements)
    (.invariant ("topology apply group contains a mismatched, non-terminal, unstaged, " ++
      "or duplicate binding"))

def validateGroupBindings (member : TopologyApplyGroupMember) (operationId : String)
    (bindingIds : List String) (requirements : List (String × String)) :
    List ApiBinding → Except StorageError (List String × List (String × String))
  | [] => .ok (bindingIds, requirements)
  | binding :: rest => do
      validateGroupBinding member operationId bindingIds requirements binding
      validateGroupBindings member operationId (binding.bindingId :: bindingIds)
        ((binding.consumerDeploymentId, binding.requirementName) :: requirements) rest

def validateGroupMembers (operationId : String) (topologyIds bindingIds : List String)
    (requirements : List (String × String)) :
    List TopologyApplyGroupMember → Except StorageError Unit
  | [] => .ok ()
  | member :: rest => do
      require (!isBlank member.topologyId && !isBlank member.revisionId &&
          member.topologyId ∉ topologyIds)
        (.invariant "topology apply group members must have unique non-empty identities")
      let (bindingIds, requirements) ←
        validateGroupBindings member operationId bindingIds requirements member.activeBindings
      validateGroupMembers operationId (member.topologyId :: topologyIds) bindingIds
        requirements rest

def validateApplyGroup (members : List TopologyApplyGroupMember) (operationId : String) :
    Except StorageError Unit := do
  require (!members.isEmpty && !isBlank operationId)
    (.invariant "topology apply group and operation_id must not be empty")
  validateGroupMembers operationId [] [] [] members

def deleteBindings (topologyId : String) : TopologyTables :=
  { tables with bindings := tables.bindings.filter fun row => row.topologyId ≠ topologyId }

/-- Insert a binding, under its primary key and the unique consumer requirement. -/
def insertBinding (binding : ApiBinding) :
    Except StorageError TopologyTables := do
  require (!tables.bindings.any fun row => row.bindingId = binding.bindingId)
    (.sqlite "UNIQUE constraint failed: orchestrator_api_bindings.binding_id")
  require (!tables.bindings.any fun row =>
      row.consumerDeploymentId = binding.consumerDeploymentId &&
        row.requirementName = binding.requirementName)
    (.sqlite ("UNIQUE constraint failed: orchestrator_api_bindings.consumer_deployment_id, " ++
      "orchestrator_api_bindings.requirement_name"))
  return { tables with bindings := tables.bindings ++ [binding] }

def insertBindings (tables : TopologyTables) :
    List ApiBinding → Except StorageError TopologyTables
  | [] => .ok tables
  | binding :: rest => do
      let inserted ← tables.insertBinding binding
      inserted.insertBindings rest

/-- The set checks of `validate_topology_set` in order, with what was seen
before. -/
def validateTopologySet (topologyId : String) (ids : List String)
    (requirements : List (String × String)) : List ApiBinding → Except StorageError Unit
  | [] => .ok ()
  | binding :: rest => do
      match binding.validate with
      | .error message => .error (.invariant message)
      | .ok () => .ok ()
      require (binding.topologyId = topologyId)
        (.invariant ("API binding " ++ binding.bindingId ++ " belongs to topology " ++
          binding.topologyId ++ ", expected " ++ topologyId))
      require (binding.bindingId ∉ ids &&
          (binding.consumerDeploymentId, binding.requirementName) ∉ requirements)
        (.invariant "topology API binding set contains duplicate ids or consumer requirements")
      validateTopologySet topologyId (binding.bindingId :: ids)
        ((binding.consumerDeploymentId, binding.requirementName) :: requirements) rest

def replaceTopologyApiBindings (topologyId : String) (bindings : List ApiBinding) :
    Except StorageError Unit × TopologyTables :=
  transact tables do
    require (!isBlank topologyId) (.invariant "API binding topology_id must not be empty")
    validateTopologySet topologyId [] [] bindings
    let replaced ← (tables.deleteBindings topologyId).insertBindings bindings
    return ((), replaced)

def bindingsOf (topologyId : String) : List ApiBinding :=
  tables.bindings.filter fun row => row.topologyId = topologyId

/-- `ORDER BY consumer_deployment_id, binding_id`. -/
def bindingOrder (first second : ApiBinding) : Bool :=
  ((compare first.consumerDeploymentId second.consumerDeploymentId).then
    (compare first.bindingId second.bindingId)).isLE

/-- Decode the rows: the indexed state is the derived one. -/
def decodeBindings : List ApiBinding → Except StorageError (List ApiBinding)
  | [] => .ok []
  | binding :: rest => do
      match binding.validate with
      | .error message => .error (.invariant message)
      | .ok () => .ok ()
      let others ← decodeBindings rest
      return binding :: others

def apiBindingsForTopology (topologyId : String) :
    Except StorageError (List ApiBinding) :=
  decodeBindings ((tables.bindingsOf topologyId).insertionSort fun first second =>
    bindingOrder first second)

section

variable [Digests] [AddressSyntax]

def checkGroupLeases (tables : TopologyTables) (operationId : String) :
    List TopologyApplyGroupMember → Except StorageError Unit
  | [] => .ok ()
  | member :: rest => do
      let heads ← tables.requiredHeads member.topologyId
        ("topology " ++ member.topologyId ++ " does not exist")
      require (heads.applyingRevisionId = some member.revisionId &&
          heads.applyingOperationId = some operationId)
        (.conflict ("topology " ++ member.topologyId ++
          " group apply lease does not match operation " ++ operationId))
      tables.checkGroupLeases operationId rest

def deleteGroupBindings (members : List TopologyApplyGroupMember) :
    TopologyTables :=
  members.foldl (fun tables member => tables.deleteBindings member.topologyId) tables

def insertGroupBindings (tables : TopologyTables) :
    List TopologyApplyGroupMember → Except StorageError TopologyTables
  | [] => .ok tables
  | member :: rest => do
      let inserted ← tables.insertBindings member.activeBindings
      inserted.insertGroupBindings rest

def finishGroupHeads (tables : TopologyTables) (operationId updatedAt : String) :
    List TopologyApplyGroupMember → Except StorageError (List TopologyHeads × TopologyTables)
  | [] => .ok ([], tables)
  | member :: rest => do
      let moved ← tables.updateHeads member.topologyId
        (fun heads => heads.applyingRevisionId = some member.revisionId &&
          heads.applyingOperationId = some operationId)
        (fun heads =>
          { heads with
            appliedRevisionId := some member.revisionId
            applyingRevisionId := none
            applyingOperationId := none
            lastOperationId := some operationId })
        (.conflict ("topology " ++ member.topologyId ++
          " group completion raced with another writer"))
      let reported ← moved.report member.topologyId (some member.revisionId)
        (some member.revisionId) .inSync operationId updatedAt
      let completed ← reported.resultingHeads member.topologyId
      let (others, after) ← reported.finishGroupHeads operationId updatedAt rest
      return (completed :: others, after)

def finishGroupTransaction (members : List TopologyApplyGroupMember)
    (operationId updatedAt : String) :
    Except StorageError (List TopologyHeads × TopologyTables) := do
  tables.checkGroupLeases operationId members
  let inserted ← (tables.deleteGroupBindings members).insertGroupBindings members
  inserted.finishGroupHeads operationId updatedAt members

def finishTopologyApplyGroup (members : List TopologyApplyGroupMember)
    (operationId updatedAt : String) :
    Except StorageError (List TopologyHeads) × TopologyTables :=
  transact tables do
    validateApplyGroup members operationId
    tables.finishGroupTransaction members operationId updatedAt

def finishTopologyApplyFenced (evidence : String → Except StorageError (Option LeaseEvidence))
    (topologyId revisionId operationId : String) (outcome : TopologyApplyOutcome)
    (updatedAt : String) (fence : JobFence) :
    Except StorageError TopologyHeads × TopologyTables :=
  transact tables do
    fence.check evidence operationId
    tables.finishTransaction topologyId revisionId operationId outcome updatedAt

def finishTopologyApplyGroupFenced (evidence : String → Except StorageError (Option LeaseEvidence))
    (members : List TopologyApplyGroupMember) (operationId updatedAt : String) (fence : JobFence) :
    Except StorageError (List TopologyHeads) × TopologyTables :=
  transact tables do
    validateApplyGroup members operationId
    fence.check evidence operationId
    tables.finishGroupTransaction members operationId updatedAt

end

section

variable [Digests] [AddressSyntax]

def ensureCompensationRevisions
    (topologyId candidateRevisionId previousRevisionId operationId : String) :
    Except StorageError Unit := do
  require (!isBlank topologyId && !isBlank candidateRevisionId && !isBlank previousRevisionId &&
      !isBlank operationId && candidateRevisionId ≠ previousRevisionId)
    (.invariant ("compensated topology abort requires distinct non-empty candidate/previous " ++
      "revisions and a non-empty operation_id"))
  let _ ← tables.requiredRevision topologyId candidateRevisionId
    (.invariant ("candidate topology revision " ++ candidateRevisionId ++ " is missing"))
  let _ ← tables.requiredRevision topologyId previousRevisionId
    (.invariant ("previous topology revision " ++ previousRevisionId ++
      " is missing; an initial topology apply cannot be automatically rewound"))

/-- The compensating update of the heads that the test admits. -/
def compensateHeads
    (topologyId candidateRevisionId previousRevisionId operationId updatedAt : String)
    (matching : TopologyHeads → Bool) (unchanged : StorageError) :
    Except StorageError (TopologyHeads × TopologyTables) := do
  tables.ensureCompensationRevisions topologyId candidateRevisionId previousRevisionId operationId
  let moved ← tables.updateHeads topologyId matching
    (fun heads =>
      { heads with
        draftRevisionId := previousRevisionId
        appliedRevisionId := some previousRevisionId
        applyingRevisionId := none
        applyingOperationId := none
        lastOperationId := some operationId })
    unchanged
  let reported ← moved.report topologyId (some previousRevisionId) (some previousRevisionId)
    .inSync operationId updatedAt
  let completed ← reported.resultingHeads topologyId
  return (completed, reported)

def compensateCompletedTopologyApply
    (topologyId revisionId previousRevisionId operationId updatedAt : String) :
    Except StorageError TopologyHeads × TopologyTables :=
  transact tables (tables.compensateHeads topologyId revisionId previousRevisionId operationId
    updatedAt
    (fun heads => heads.draftRevisionId = revisionId && heads.appliedRevisionId = some revisionId &&
      heads.applyingRevisionId.isNone && heads.applyingOperationId.isNone &&
      heads.lastOperationId = some operationId)
    (.conflict ("topology " ++ topologyId ++ " completed apply no longer belongs to operation " ++
      operationId)))

def completeCompensatedTopologyAbort
    (topologyId candidateRevisionId previousRevisionId operationId updatedAt : String) :
    Except StorageError TopologyHeads × TopologyTables :=
  transact tables (tables.compensateHeads topologyId candidateRevisionId previousRevisionId
    operationId updatedAt
    (fun heads => heads.draftRevisionId = candidateRevisionId &&
      heads.applyingRevisionId = some candidateRevisionId &&
      heads.applyingOperationId = some operationId &&
      heads.appliedRevisionId = some previousRevisionId)
    (.conflict ("topology " ++ topologyId ++ " compensated abort no longer owns candidate " ++
      candidateRevisionId ++ " for operation " ++ operationId)))

end

variable [Digests] [AddressSyntax]

def ensureStatusRevision (topologyId : String) :
    Option String → Except StorageError Unit
  | none => .ok ()
  | some revisionId => do
      let _ ← tables.requiredRevision topologyId revisionId
        (.invariant ("status references revision " ++ revisionId ++ " outside topology " ++
          topologyId))

def putTopologyStatus (status : TopologyStatus) :
    Except StorageError Unit × TopologyTables :=
  transact tables do
    domain status.validate
    tables.ensureStatusRevision status.topologyId status.desiredRevisionId
    tables.ensureStatusRevision status.topologyId status.observedRevisionId
    let reported ← tables.upsertStatus status
    return ((), reported)

end TopologyTables

end UntitledOJ
