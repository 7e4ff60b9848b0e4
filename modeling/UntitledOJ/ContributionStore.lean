import UntitledOJ.ContributionActivation
import UntitledOJ.KeyedTable

/-!
# The contribution repository

Revisions, heads, activations and receipts are four tables, and every call is one transaction.  The
in-memory and the SQLite store differ in the constraints that the database adds and in how they
report a domain error.

Field names that look like secrets are refused.  No field of these records is one of them
(`storedFields_secretFree`), so the check is left out.
-/

namespace UntitledOJ

open Contribution

inductive ContributionRepositoryError where
  | invalid (message : String)
  | conflict (message : String)
  | notFound (message : String)
  | persistence (message : String)
  deriving DecidableEq, Repr

inductive ContributionBackend where
  | memory
  | sqlite
  deriving DecidableEq, Repr

structure ContributionTables where
  revisions : Std.TreeMap Sha256 ContributionRevisionV1
  heads : Std.TreeMap (String × String) ContributionHeadV1 pairOrder
  activations : Std.TreeMap String ContributionActivationV1
  receipts : Std.TreeMap (String × ProjectionTargetV1) ProjectionReceiptV1 pairOrder

namespace ContributionBackend

def headError (backend : ContributionBackend) (error : DomainError) :
    ContributionRepositoryError :=
  match backend with
  | .memory => .invalid error.text
  | .sqlite => .conflict error.text

def constraint (backend : ContributionBackend) (holds : Bool) (message : String) :
    Except ContributionRepositoryError Unit :=
  match backend with
  | .memory => .ok ()
  | .sqlite => require holds (.conflict message)

def generationExists (backend : ContributionBackend) (message : String) :
    ContributionRepositoryError :=
  match backend with
  | .memory => .conflict message
  | .sqlite => .conflict ("UNIQUE constraint failed: " ++
      "orchestrator_contribution_revisions.scope_id, " ++
      "orchestrator_contribution_revisions.service_id, " ++
      "orchestrator_contribution_revisions.generation")

/-- `sqlite_generation`. -/
def storableGeneration (backend : ContributionBackend) (generation : Nat) :
    Except ContributionRepositoryError Unit :=
  match backend with
  | .memory => .ok ()
  | .sqlite => require (generation < 2 ^ 63) (.invalid "generation exceeds SQLite INTEGER")

end ContributionBackend

def asInvalid {α : Type} : Except DomainError α → Except ContributionRepositoryError α
  | .ok result => .ok result
  | .error error => .error (.invalid error.text)

def asHeadError {α : Type} (backend : ContributionBackend) :
    Except DomainError α → Except ContributionRepositoryError α
  | .ok result => .ok result
  | .error error => .error (backend.headError error)

def found {α : Type} (row : Option α) (missing : String) :
    Except ContributionRepositoryError α :=
  match row with
  | some value => .ok value
  | none => .error (.notFound missing)

section

variable [RecordDigests] [VersionSyntax]

def validateStagedRevision (revision : ContributionRevisionV1) :
    Except ContributionRepositoryError Unit := do
  asInvalid revision.validate
  require (revision.status = .staged) (.invalid "new contribution revisions must be STAGED")

/-- `validate_activation_bundle`; the metadata of a record are its own fields. -/
def validateActivationBundle (activation : ContributionActivationV1)
    (receipts : List ProjectionReceiptV1) : Except ContributionRepositoryError Unit := do
  asInvalid activation.validate
  let rec checkReceipts : List ProjectionTargetV1 → List ProjectionReceiptV1 →
      Except ContributionRepositoryError Unit
    | _, [] => .ok ()
    | seen, receipt :: rest => do
        asInvalid receipt.validate
        require (!seen.contains receipt.target)
          (.invalid ("activation bundle contains duplicate projection target " ++
            receipt.target.asStr))
        require (receipt.activationId = activation.activationId &&
            receipt.candidateRevisionId = activation.candidateRevisionId &&
            receipt.previousRevisionId = activation.previousRevisionId)
          (.invalid "projection receipt identity does not match activation")
        checkReceipts (receipt.target :: seen) rest
  checkReceipts [] receipts

def validateActivationRevision (activation : ContributionActivationV1)
    (revision : ContributionRevisionV1) : Except ContributionRepositoryError Unit :=
  require (activation.scopeId = revision.scopeId && activation.serviceId = revision.serviceId &&
      activation.candidateRevisionId = revision.revisionId &&
      activation.previousRevisionId = revision.previousRevisionId)
    (.invalid "activation identity does not match candidate revision")

def validateReceiptMetadata (activation : ContributionActivationV1)
    (receipt : ProjectionReceiptV1) (revision : ContributionRevisionV1) :
    Except ContributionRepositoryError Unit :=
  require (receipt.activationId = activation.activationId &&
      receipt.candidateRevisionId = activation.candidateRevisionId &&
      receipt.previousRevisionId = activation.previousRevisionId &&
      receipt.candidateGeneration = revision.generation)
    (.invalid "projection receipt does not match activation candidate revision")

def validateStageBundle (revision : ContributionRevisionV1)
    (activation : ContributionActivationV1) (receipts : List ProjectionReceiptV1) :
    Except ContributionRepositoryError Unit := do
  validateStagedRevision revision
  validateActivationBundle activation receipts
  validateActivationRevision activation revision
  require (activation.state = .preparing)
    (.invalid "staged contribution activation must be PREPARING")
  receipts.forM fun receipt => do
    asInvalid receipt.validate
    validateReceiptMetadata activation receipt revision
    require (receipt.state = .pending) (.invalid "staged contribution receipts must be PENDING")

def historicalGeneration (serviceId : String) (live : List ContributionRevisionV1) : Nat :=
  ((live.filter fun existing => existing.serviceId = serviceId).map (·.generation)).foldl max 0

/-- The candidate has the next generation and follows the head. -/
def extendsHistory (head : Option ContributionHeadV1) (revision : ContributionRevisionV1)
    (expectedGeneration : Nat) : Bool :=
  match head with
  | none => revision.generation = expectedGeneration && revision.previousRevisionId.isNone
  | some head => revision.generation = expectedGeneration &&
      revision.generation > head.generation &&
      revision.previousRevisionId = some head.activeRevisionId

def validateStageAgainstState (revision : ContributionRevisionV1)
    (activation : ContributionActivationV1) (head : Option ContributionHeadV1)
    (live : List ContributionRevisionV1) : Except ContributionRepositoryError Unit :=
  match checkedSucc (historicalGeneration revision.serviceId live) with
  | none => .error (.conflict "contribution generation is exhausted")
  | some expectedGeneration => do
      require (extendsHistory head revision expectedGeneration)
        (.conflict "candidate does not extend the current contribution head")
      require (activation.expectedHeadEtag = head.map ContributionHeadV1.etag)
        (.conflict "activation expected_head_etag does not match the current head")
      let collisions ← asInvalid (stageRouteCollisions revision live)
      require collisions.isEmpty
        (.conflict (toString collisions.length ++ " live route collision(s) in scope " ++
          revision.scopeId))

def validateRevisionTransition (existing candidate : ContributionRevisionV1) :
    Except ContributionRepositoryError Unit := do
  asInvalid existing.validate
  asInvalid candidate.validate
  if existing = candidate then return
  require (existing.revisionId = candidate.revisionId)
    (.conflict "revision identity cannot change")
  require (ContributionRevisionV1.mayBecome existing.status candidate.status)
    (.conflict "illegal or non-idempotent revision transition")
  let expected ← asInvalid (existing.transitionTo candidate.status)
  require (expected = candidate)
    (.conflict "revision immutable content changed during transition")

/-- `validate_activation_transition`: only the state and the intent may change. -/
def validateActivationTransition (existing candidate : ContributionActivationV1) :
    Except ContributionRepositoryError Unit := do
  if existing = candidate then return
  asInvalid existing.validate
  asInvalid candidate.validate
  require ({ existing with
        state := candidate.state, terminationIntent := candidate.terminationIntent } = candidate &&
      existing.state.mayBecome candidate.state)
    (.conflict ("illegal activation transition " ++ existing.state.asStr ++ " -> " ++
      candidate.state.asStr))

/-- `validate_receipt_transition`: only the observations may change. -/
def validateReceiptTransition (existing candidate : ProjectionReceiptV1) :
    Except ContributionRepositoryError Unit := do
  if existing = candidate then return
  asInvalid existing.validate
  asInvalid candidate.validate
  require (existing.observed candidate.state candidate.observedGeneration candidate.stagedDigest
        candidate.activeDigest candidate.lastError = candidate &&
      existing.state.mayBecome candidate.state)
    (.conflict ("illegal projection receipt transition " ++ existing.state.asStr ++ " -> " ++
      candidate.state.asStr))

end

namespace ContributionTables

def empty : ContributionTables := ⟨∅, ∅, ∅, ∅⟩

variable (tables : ContributionTables)

def listedBefore (first second : ContributionRevisionV1) : Bool :=
  ((compare first.serviceId second.serviceId).then
    ((compare first.generation second.generation).then
      (compare first.revisionId second.revisionId))).isLE

def contributionRevisions (scopeId : String) (serviceId : Option String) :
    List ContributionRevisionV1 :=
  ((tableRows tables.revisions).filter fun revision =>
    revision.scopeId = scopeId && serviceId.all (revision.serviceId = ·)).insertionSort
      fun first second => listedBefore first second = true

def contributionHead (scopeId serviceId : String) :
    Option ContributionHeadV1 :=
  tables.heads[(scopeId, serviceId)]?

def contributionActivations (scopeId : String) :
    List ContributionActivationV1 :=
  (tableRows tables.activations).filter fun activation => activation.scopeId = scopeId

def contributionProjectionReceipts (activationId : String) :
    List ProjectionReceiptV1 :=
  (tables.receipts.toList.filter fun entry => entry.1.1 = activationId).map Prod.snd

def staging (backend : ContributionBackend) (scopeId : String) :
    List ContributionRevisionV1 :=
  match backend with
  | .memory => tableRows tables.revisions
  | .sqlite => tables.contributionRevisions scopeId none

def generationTaken (revision : ContributionRevisionV1) : Bool :=
  (tableRows tables.revisions).any fun existing =>
    existing.scopeId = revision.scopeId && existing.serviceId = revision.serviceId &&
      existing.generation = revision.generation

def putRevision (revision : ContributionRevisionV1) :
    ContributionTables :=
  { tables with revisions := tables.revisions.insert revision.revisionId revision }

def putHead (head : ContributionHeadV1) : ContributionTables :=
  { tables with heads := tables.heads.insert (head.scopeId, head.serviceId) head }

def putBundle (activation : ContributionActivationV1) (receipts : List ProjectionReceiptV1) :
    ContributionTables :=
  { tables with
    activations := tables.activations.insert activation.activationId activation
    receipts := receipts.foldl (fun stored receipt =>
      stored.insert (activation.activationId, receipt.target) receipt) tables.receipts }

/-- Insert a new revision, whose predecessor the database wants to see. -/
def insertRevision (backend : ContributionBackend) (revision : ContributionRevisionV1)
    (taken : String) :
    Except ContributionRepositoryError ContributionTables := do
  backend.storableGeneration revision.generation
  require (!tables.generationTaken revision) (backend.generationExists taken)
  backend.constraint (revision.previousRevisionId.all fun previous =>
      tables.revisions[previous]?.isSome) "FOREIGN KEY constraint failed"
  return tables.putRevision revision

variable [RecordDigests] [VersionSyntax]

def insertContributionRevision (backend : ContributionBackend) (revision : ContributionRevisionV1) :
    Except ContributionRepositoryError (Unit × ContributionTables) := do
  validateStagedRevision revision
  match tables.revisions[revision.revisionId]? with
  | some existing =>
    require (existing = revision)
      (.conflict "revision identity already contains different content")
    return ((), tables)
  | none =>
    let inserted ← tables.insertRevision backend revision
      ("scope " ++ revision.scopeId ++ " service " ++ revision.serviceId ++ " generation " ++
        toString revision.generation ++ " already exists")
    return ((), inserted)

def holdsBundle (activation : ContributionActivationV1) (receipts : List ProjectionReceiptV1) :
    Bool :=
  tables.activations[activation.activationId]? = some activation &&
    (tables.contributionProjectionReceipts activation.activationId).length = receipts.length &&
    receipts.all fun receipt =>
      tables.receipts[(activation.activationId, receipt.target)]? = some receipt

/-- `stage_contribution_bundle`.  The in-memory store would replace an activation of
the same name; the database refuses it. -/
def stageContributionBundle (backend : ContributionBackend) (revision : ContributionRevisionV1)
    (activation : ContributionActivationV1) (receipts : List ProjectionReceiptV1) :
    Except ContributionRepositoryError (Unit × ContributionTables) := do
  validateStageBundle revision activation receipts
  match tables.revisions[revision.revisionId]? with
  | some existing =>
    require (existing = revision && tables.holdsBundle activation receipts)
      (.conflict "staged contribution bundle identity contains different content")
    return ((), tables)
  | none =>
    validateStageAgainstState revision activation
      (tables.contributionHead revision.scopeId revision.serviceId)
      (tables.staging backend revision.scopeId)
    let inserted ← tables.insertRevision backend revision
      "scope/service contribution generation already exists"
    backend.constraint tables.activations[activation.activationId]?.isNone
      "UNIQUE constraint failed: orchestrator_contribution_activations.activation_id"
    backend.constraint (!(tableRows tables.activations).any fun other =>
        other.candidateRevisionId = activation.candidateRevisionId)
      "UNIQUE constraint failed: orchestrator_contribution_activations.candidate_revision_id"
    return ((), inserted.putBundle activation receipts)

def transitionContributionRevision (revision : ContributionRevisionV1) :
    Except ContributionRepositoryError (Unit × ContributionTables) := do
  asInvalid revision.validate
  let existing ← found tables.revisions[revision.revisionId]?
    ("revision " ++ revision.revisionId.text)
  validateRevisionTransition existing revision
  require (!(revision.status = .retired && (tableRows tables.heads).any fun head =>
      head.activeRevisionId = revision.revisionId))
    (.conflict "cannot retire the revision currently referenced by a head")
  return ((), tables.putRevision revision)

def compareAndSwapHead (backend : ContributionBackend) (expectedEtag : Option Sha256)
    (activeRevision : ContributionRevisionV1) :
    Except ContributionRepositoryError (ContributionHeadV1 × ContributionTables) := do
  asInvalid activeRevision.validate
  backend.constraint (activeRevision.status = .active) "head CAS requires an ACTIVE revision"
  let next ← asHeadError backend (compareAndSwapContributionHead
    (tables.contributionHead activeRevision.scopeId activeRevision.serviceId) expectedEtag
    activeRevision)
  let stored ← found tables.revisions[activeRevision.revisionId]?
    ("revision " ++ activeRevision.revisionId.text)
  validateRevisionTransition stored activeRevision
  backend.storableGeneration next.generation
  return (next, (tables.putRevision activeRevision).putHead next)

def restoreHead (backend : ContributionBackend)
    (expectedCandidateEtag candidateRevisionId previousRevisionId : Sha256) :
    Except ContributionRepositoryError (ContributionHeadV1 × ContributionTables) := do
  let candidate ← found tables.revisions[candidateRevisionId]?
    ("revision " ++ candidateRevisionId.text)
  let previous ← found tables.revisions[previousRevisionId]?
    ("revision " ++ previousRevisionId.text)
  let current ← found (tables.contributionHead candidate.scopeId candidate.serviceId)
    ("head " ++ candidate.scopeId ++ "/" ++ candidate.serviceId)
  let restored ← asHeadError backend
    (restoreContributionHead current expectedCandidateEtag candidate previous)
  backend.storableGeneration restored.head.generation
  return (restored.head,
    ((tables.putRevision restored.retiredCandidate).putRevision restored.restoredRevision).putHead
      restored.head)

/-- `clear_initial_contribution_head`.  The in-memory store would replace a tombstone
that is stored already. -/
def clearHead (backend : ContributionBackend) (expectedCandidateEtag candidateRevisionId : Sha256) :
    Except ContributionRepositoryError (ContributionHeadV1 × ContributionTables) := do
  let candidate ← found tables.revisions[candidateRevisionId]?
    ("revision " ++ candidateRevisionId.text)
  let current ← found (tables.contributionHead candidate.scopeId candidate.serviceId)
    ("head " ++ candidate.scopeId ++ "/" ++ candidate.serviceId)
  let cleared ← asHeadError backend
    (clearInitialContributionHead current expectedCandidateEtag candidate)
  let tombstone := cleared.tombstoneRevision
  backend.storableGeneration tombstone.generation
  backend.constraint tables.revisions[tombstone.revisionId]?.isNone
    "UNIQUE constraint failed: orchestrator_contribution_revisions.revision_id"
  require (!(tableRows tables.revisions).any fun existing =>
      existing.scopeId = tombstone.scopeId && existing.serviceId = tombstone.serviceId &&
        existing.generation = tombstone.generation && existing.revisionId ≠ tombstone.revisionId)
    (backend.generationExists "tombstone contribution generation already exists")
  return (cleared.head,
    ((tables.putRevision cleared.retiredCandidate).putRevision tombstone).putHead cleared.head)

def validateReceiptWrite (activation : ContributionActivationV1) (revision : ContributionRevisionV1)
    (receipt : ProjectionReceiptV1) :
    Except ContributionRepositoryError Unit := do
  asInvalid receipt.validate
  if let some existing := tables.receipts[(activation.activationId, receipt.target)]? then
    validateReceiptTransition existing receipt
  validateReceiptMetadata activation receipt revision

def putContributionActivationBundle (backend : ContributionBackend)
    (activation : ContributionActivationV1) (receipts : List ProjectionReceiptV1) :
    Except ContributionRepositoryError (Unit × ContributionTables) := do
  validateActivationBundle activation receipts
  let revision ← found tables.revisions[activation.candidateRevisionId]?
    ("revision " ++ activation.candidateRevisionId.text)
  validateActivationRevision activation revision
  match tables.activations[activation.activationId]? with
  | some existing => validateActivationTransition existing activation
  | none =>
    backend.constraint (!(tableRows tables.activations).any fun other =>
        other.candidateRevisionId = activation.candidateRevisionId)
      "UNIQUE constraint failed: orchestrator_contribution_activations.candidate_revision_id"
  receipts.forM (tables.validateReceiptWrite activation revision)
  return ((), tables.putBundle activation receipts)

/-- The database loads the activation and the revision to check a receipt. -/
def validateObservation (backend : ContributionBackend) (expected observed : ProjectionReceiptV1) :
    Except ContributionRepositoryError Unit :=
  match backend with
  | .memory => .ok ()
  | .sqlite => do
      let activation ← found tables.activations[expected.activationId]? "contribution activation"
      let revision ← found tables.revisions[expected.candidateRevisionId]?
        ("revision " ++ expected.candidateRevisionId.text)
      tables.validateReceiptWrite activation revision observed

def compareAndSwapReceipt (backend : ContributionBackend)
    (expected observed : ProjectionReceiptV1) :
    Except ContributionRepositoryError (ProjectionReceiptV1 × ContributionTables) := do
  validateReceiptTransition expected observed
  let current ← found tables.receipts[(expected.activationId, expected.target)]?
    "projection receipt"
  if current = observed then return (current, tables)
  require (current = expected)
    (.conflict "projection receipt changed before consumer acknowledgement")
  tables.validateObservation backend expected observed
  return (observed,
    { tables with
      receipts := tables.receipts.insert (expected.activationId, expected.target) observed })

end ContributionTables

inductive ContributionCall where
  | insertRevision (revision : ContributionRevisionV1)
  | stageBundle (revision : ContributionRevisionV1) (activation : ContributionActivationV1)
      (receipts : List ProjectionReceiptV1)
  | transitionRevision (revision : ContributionRevisionV1)
  | compareAndSwapHead (expectedEtag : Option Sha256) (activeRevision : ContributionRevisionV1)
  | restoreHead (expectedCandidateEtag candidateRevisionId previousRevisionId : Sha256)
  | clearHead (expectedCandidateEtag candidateRevisionId : Sha256)
  | putBundle (activation : ContributionActivationV1) (receipts : List ProjectionReceiptV1)
  | compareAndSwapReceipt (expected observed : ProjectionReceiptV1)
  | getRevision (revisionId : Sha256)
  | listRevisions (scopeId : String) (serviceId : Option String)
  | getHead (scopeId serviceId : String)
  | getActivation (activationId : String)
  | listActivations (scopeId : String)
  | listReceipts (activationId : String)

namespace ContributionCall

def Reply : ContributionCall → Type
  | .insertRevision .. | .stageBundle .. | .transitionRevision .. | .putBundle .. =>
    Except ContributionRepositoryError Unit
  | .compareAndSwapHead .. | .restoreHead .. | .clearHead .. =>
    Except ContributionRepositoryError ContributionHeadV1
  | .compareAndSwapReceipt .. => Except ContributionRepositoryError ProjectionReceiptV1
  | .getRevision _ => Option ContributionRevisionV1
  | .listRevisions .. => List ContributionRevisionV1
  | .getHead .. => Option ContributionHeadV1
  | .getActivation _ => Option ContributionActivationV1
  | .listActivations _ => List ContributionActivationV1
  | .listReceipts _ => List ProjectionReceiptV1

variable [RecordDigests] [VersionSyntax]

def exec (backend : ContributionBackend) :
    (call : ContributionCall) → ContributionTables → call.Reply × ContributionTables
  | .insertRevision revision, tables =>
    transact tables (tables.insertContributionRevision backend revision)
  | .stageBundle revision activation receipts, tables =>
    transact tables (tables.stageContributionBundle backend revision activation receipts)
  | .transitionRevision revision, tables =>
    transact tables (tables.transitionContributionRevision revision)
  | .compareAndSwapHead expectedEtag activeRevision, tables =>
    transact tables (tables.compareAndSwapHead backend expectedEtag activeRevision)
  | .restoreHead expectedCandidateEtag candidateRevisionId previousRevisionId, tables =>
    transact tables (tables.restoreHead backend expectedCandidateEtag candidateRevisionId
      previousRevisionId)
  | .clearHead expectedCandidateEtag candidateRevisionId, tables =>
    transact tables (tables.clearHead backend expectedCandidateEtag candidateRevisionId)
  | .putBundle activation receipts, tables =>
    transact tables (tables.putContributionActivationBundle backend activation receipts)
  | .compareAndSwapReceipt expected observed, tables =>
    transact tables (tables.compareAndSwapReceipt backend expected observed)
  | .getRevision revisionId, tables => (tables.revisions[revisionId]?, tables)
  | .listRevisions scopeId serviceId, tables =>
    (tables.contributionRevisions scopeId serviceId, tables)
  | .getHead scopeId serviceId, tables => (tables.contributionHead scopeId serviceId, tables)
  | .getActivation activationId, tables => (tables.activations[activationId]?, tables)
  | .listActivations scopeId, tables => (tables.contributionActivations scopeId, tables)
  | .listReceipts activationId, tables =>
    (tables.contributionProjectionReceipts activationId, tables)

end ContributionCall

end UntitledOJ
