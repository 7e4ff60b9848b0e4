import UntitledOJ.TopologySpec
import UntitledOJ.Transactions

/-!
# Topology revisions

A revision is an immutable, numbered specification with its content hash and its
lineage.  Its identity is computed from the topology, the number and the hash, and
every reading of a stored revision verifies it again.
-/

namespace UntitledOJ

open OrchestratorError (invalid ensure)

def u64Max : Nat := 2 ^ 64 - 1

structure TopologyRevision where
  topologyId : String
  revisionNumber : Nat
  revisionId : String
  (parentRevisionId rollbackOfRevisionId : Option String)
  contentSha256 : String
  spec : TopologySpec
  (createdAt createdBy message : String)
  deriving DecidableEq

def revisionIdOf (topologyId : String) (revisionNumber : Nat) (contentSha256 : String) : String :=
  topologyId ++ ":r" ++ toString revisionNumber ++ ":" ++ contentSha256

def validateRevisionLineage (revisionNumber : Nat)
    (parentRevisionId rollbackOfRevisionId : Option String) : Except OrchestratorError Unit := do
  ensure (revisionNumber ≠ 0) "revision_number must be greater than zero"
  ensure (!(revisionNumber = 1 && parentRevisionId.isSome)) "initial revision cannot have a parent"
  ensure (!(revisionNumber = 1 && rollbackOfRevisionId.isSome))
    "initial revision cannot be a rollback"
  ensure (!(1 < revisionNumber && parentRevisionId.isNone))
    "non-initial revision requires parent_revision_id"
  validateOptionalIdentifier "parent_revision_id" parentRevisionId
  validateOptionalIdentifier "rollback_of_revision_id" rollbackOfRevisionId
  ensure (!(rollbackOfRevisionId.isSome && rollbackOfRevisionId = parentRevisionId))
    "rollback target cannot be the current parent revision"

structure RevisionNote where
  (createdAt createdBy message : String)

namespace TopologyRevision

variable [Digests] [AddressSyntax]

def verify (revision : TopologyRevision) : Except OrchestratorError Unit := do
  revision.spec.validate
  ensure (revision.spec.topologyId = revision.topologyId)
    "revision topology_id must match spec topology_id"
  let canonical ← revision.spec.canonicalized
  ensure (revision.spec = canonical)
    "revision spec must use canonical endpoint and link ordering"
  validateRevisionLineage revision.revisionNumber revision.parentRevisionId
    revision.rollbackOfRevisionId
  validateRequiredText "revision created_at" revision.createdAt maxTextLen
  validateRequiredText "revision created_by" revision.createdBy maxTextLen
  validateOptionalText "revision message" revision.message maxTextLen
  let expectedSha256 ← revision.spec.contentSha256
  ensure (revision.contentSha256 = expectedSha256)
    "revision content_sha256 does not match spec"
  ensure (revision.revisionId =
      revisionIdOf revision.topologyId revision.revisionNumber revision.contentSha256)
    "revision_id does not match topology, number, and content"

def fromParts (revisionNumber : Nat) (parentRevisionId rollbackOfRevisionId : Option String)
    (spec : TopologySpec) (note : RevisionNote) : Except OrchestratorError TopologyRevision := do
  let spec ← spec.canonicalized
  validateRevisionLineage revisionNumber parentRevisionId rollbackOfRevisionId
  validateRequiredText "revision created_at" note.createdAt maxTextLen
  validateRequiredText "revision created_by" note.createdBy maxTextLen
  validateOptionalText "revision message" note.message maxTextLen
  let contentSha256 ← spec.contentSha256
  let revision : TopologyRevision :=
    { topologyId := spec.topologyId
      revisionNumber
      revisionId := revisionIdOf spec.topologyId revisionNumber contentSha256
      parentRevisionId
      rollbackOfRevisionId
      contentSha256
      spec
      createdAt := note.createdAt
      createdBy := note.createdBy
      message := note.message }
  revision.verify
  return revision

def initial (spec : TopologySpec) (note : RevisionNote) :
    Except OrchestratorError TopologyRevision :=
  fromParts 1 none none spec note

def nextNumber (revision : TopologyRevision) : Except OrchestratorError Nat :=
  if revision.revisionNumber < u64Max then .ok (revision.revisionNumber + 1)
  else .error (.blocked "revision number overflow")

def next (revision : TopologyRevision) (spec : TopologySpec) (note : RevisionNote) :
    Except OrchestratorError TopologyRevision := do
  revision.verify
  ensure (spec.topologyId = revision.topologyId) "next revision must belong to the same topology"
  let nextNumber ← revision.nextNumber
  let following ← fromParts nextNumber (some revision.revisionId) none spec note
  ensure (following.contentSha256 ≠ revision.contentSha256)
    "next revision must change the topology spec"
  return following

def rollbackTo (revision target : TopologyRevision) (note : RevisionNote) :
    Except OrchestratorError TopologyRevision := do
  revision.verify
  target.verify
  ensure (target.topologyId = revision.topologyId)
    "rollback target must belong to the same topology"
  ensure (target.revisionNumber < revision.revisionNumber)
    "rollback target must be older than the current revision"
  ensure (target.contentSha256 ≠ revision.contentSha256)
    "rollback target must differ from the current topology spec"
  let nextNumber ← revision.nextNumber
  fromParts nextNumber (some revision.revisionId) (some target.revisionId) target.spec note

end TopologyRevision

variable {condition : Bool} {message : String}

theorem of_ensure (passed : ensure condition message = .ok ()) : condition = true := by
  cases condition with
  | true => rfl
  | false => cases passed

theorem ok_of_ensure_bind {α : Type} {rest : Unit → Except OrchestratorError α} {result : α}
    (succeeded : (ensure condition message >>= rest) = .ok result) :
    condition = true ∧ rest () = .ok result := by
  obtain ⟨⟨⟩, passed, later⟩ := ok_of_bind succeeded
  exact ⟨of_ensure passed, later⟩

namespace TopologySpec

variable [Digests] [AddressSyntax] {spec canonical : TopologySpec}

theorem topologyId_canonicalized (succeeded : spec.canonicalized = .ok canonical) :
    canonical.topologyId = spec.topologyId := by
  obtain ⟨_, _, sorted⟩ := ok_of_bind succeeded
  cases sorted
  rfl

end TopologySpec

namespace TopologyRevision

variable [Digests] [AddressSyntax]

variable {revision : TopologyRevision} {note : RevisionNote} {spec : TopologySpec}

theorem fromParts_ok {revisionNumber : Nat} {parent rollbackOf : Option String}
    (built : fromParts revisionNumber parent rollbackOf spec note = .ok revision) :
    revision.topologyId = spec.topologyId ∧ revision.revisionNumber = revisionNumber ∧
      revision.parentRevisionId = parent ∧ revision.verify = .ok () := by
  obtain ⟨_, canonicalized, built⟩ := ok_of_bind built
  obtain ⟨_, _, built⟩ := ok_of_bind built
  obtain ⟨_, _, built⟩ := ok_of_bind built
  obtain ⟨_, _, built⟩ := ok_of_bind built
  obtain ⟨_, _, built⟩ := ok_of_bind built
  obtain ⟨_, _, built⟩ := ok_of_bind built
  obtain ⟨⟨⟩, verified, built⟩ := ok_of_bind built
  cases built
  exact ⟨TopologySpec.topologyId_canonicalized canonicalized, rfl, rfl, verified⟩

theorem belongs_of_verify (verified : revision.verify = .ok ()) :
    revision.spec.topologyId = revision.topologyId := by
  obtain ⟨_, _, rest⟩ := ok_of_bind verified
  obtain ⟨belongs, _⟩ := ok_of_ensure_bind rest
  exact of_decide_eq_true belongs

structure Follows (revision following : TopologyRevision) : Prop where
  topology : following.topologyId = revision.topologyId
  parent : following.parentRevisionId = some revision.revisionId
  belongs : following.spec.topologyId = following.topologyId

variable {following : TopologyRevision}

theorem next_ok (built : revision.next spec note = .ok following) :
    revision.Follows following := by
  obtain ⟨_, _, built⟩ := ok_of_bind built
  obtain ⟨same, built⟩ := ok_of_ensure_bind built
  obtain ⟨_, _, built⟩ := ok_of_bind built
  obtain ⟨_, parts, built⟩ := ok_of_bind built
  obtain ⟨_, built⟩ := ok_of_ensure_bind built
  cases built
  obtain ⟨topology, _, parent, verified⟩ := fromParts_ok parts
  exact ⟨topology.trans (of_decide_eq_true same), parent, belongs_of_verify verified⟩

theorem rollbackTo_ok {target : TopologyRevision}
    (built : revision.rollbackTo target note = .ok following) :
    revision.Follows following := by
  obtain ⟨_, _, built⟩ := ok_of_bind built
  obtain ⟨⟨⟩, verified, built⟩ := ok_of_bind built
  obtain ⟨same, built⟩ := ok_of_ensure_bind built
  obtain ⟨_, built⟩ := ok_of_ensure_bind built
  obtain ⟨_, built⟩ := ok_of_ensure_bind built
  obtain ⟨_, _, parts⟩ := ok_of_bind built
  obtain ⟨topology, _, parent, followingVerified⟩ := fromParts_ok parts
  refine ⟨?_, parent, belongs_of_verify followingVerified⟩
  rw [topology, belongs_of_verify verified, of_decide_eq_true same]

end TopologyRevision

inductive TopologyReconciliationState where
  | draft | reconciling | inSync | degraded | failed
  deriving DecidableEq, Repr

inductive TopologyDriftKind where
  | missing | unexpected | changed | unreachable
  deriving DecidableEq, Repr

inductive TopologyResourceKind where
  | authority | deployment | endpoint | link
  deriving DecidableEq, Repr

structure TopologyDrift where
  resourceKind : TopologyResourceKind
  resourceId : String
  kind : TopologyDriftKind
  detail : String
  deriving DecidableEq, Repr

/-- `TopologyStatus`, without the observed deployments, endpoints and links. -/
structure TopologyStatus where
  topologyId : String
  (desiredRevisionId observedRevisionId : Option String)
  state : TopologyReconciliationState
  drift : List TopologyDrift
  lastOperationId : Option String
  updatedAt : String
  deriving DecidableEq, Repr

namespace TopologyStatus

def validateDrift (seen : List (TopologyResourceKind × String)) :
    List TopologyDrift → Except OrchestratorError Unit
  | [] => .ok ()
  | drift :: rest => do
      validateRequiredText "drift resource_id" drift.resourceId maxTextLen
      validateRequiredText "drift detail" drift.detail maxTextLen
      ensure ((drift.resourceKind, drift.resourceId) ∉ seen)
        ("duplicate drift status " ++ drift.resourceId)
      validateDrift ((drift.resourceKind, drift.resourceId) :: seen) rest

def validate (status : TopologyStatus) : Except OrchestratorError Unit := do
  validateTopologyId status.topologyId
  validateOptionalIdentifier "desired_revision_id" status.desiredRevisionId
  validateOptionalIdentifier "observed_revision_id" status.observedRevisionId
  validateOptionalIdentifier "last_operation_id" status.lastOperationId
  validateRequiredText "status updated_at" status.updatedAt maxTextLen
  ensure (!(status.state = .inSync &&
      (status.desiredRevisionId.isNone || status.desiredRevisionId ≠ status.observedRevisionId)))
    "IN_SYNC topology status requires matching desired and observed revisions"
  ensure (!(status.state = .inSync && !status.drift.isEmpty))
    "IN_SYNC topology status cannot contain drift"
  validateDrift [] status.drift

def draft (topologyId : String) (desiredRevisionId : Option String) (updatedAt : String) :
    Except OrchestratorError TopologyStatus := do
  let status : TopologyStatus :=
    { topologyId
      desiredRevisionId
      observedRevisionId := none
      state := .draft
      drift := []
      lastOperationId := none
      updatedAt }
  status.validate
  return status

end TopologyStatus

end UntitledOJ
