import UntitledOJ.TopologyRecovery
import UntitledOJ.ConcurrentPlatform

/-!
# Requests and the control plane

`enqueue_apply` reads heads and bindings, plans an operation, and takes the heads one after the
other.  Between its calls others make theirs, the worker makes a pass, recovery runs, drafts are
edited and planned jobs are enqueued; a pass is not interleaved, but it may stop after any call.
-/

namespace UntitledOJ

open Worked (orMissing orFail)

/-- A sibling topology and the applied head that the request names by its ETag. -/
structure SiblingSelection where
  (topologyId revisionId : String)

/-- An apply request, with the replies of the planner and of the coordinator. -/
structure ApplyRequest where
  (operationId topologyId revisionId : String)
  siblings : List SiblingSelection
  /-- The bindings that the planner stages for a revision of a topology, aligned
  over the group. -/
  staged : String → String → Except String (List ApiBinding)
  /-- The checks of the planner that concern neither heads nor bindings. -/
  admissible : Except String Unit
  /-- The bootstrap bindings of a replacement. -/
  bootstraps : List (String × List ApiBinding)
  (confirmed enqueued : Except String Unit)
  updatedAt : String

namespace ApplyRequest

variable (request : ApplyRequest)

def selectedTopologySpec (selection : SiblingSelection) : Worked (TopologySpec × String) := do
  let topologyId := selection.topologyId
  let heads ← orMissing ("topology " ++ topologyId ++ " was not found")
    (← Worked.heads topologyId)
  if heads.applyingRevisionId.isSome then
    .fail ("topology " ++ topologyId ++ " already has an apply in progress")
  else
    let revisionId ← orMissing ("topology " ++ topologyId ++ " has no applied head; " ++
      "apply its initial revision before installing a bound service") heads.appliedRevisionId
    if selection.revisionId ≠ revisionId then
      .fail ("topology " ++ topologyId ++ " applied head is " ++ revisionId ++
        ", but install confirmed " ++ selection.revisionId)
    else if heads.draftRevisionId ≠ revisionId then
      .fail ("topology " ++ topologyId ++ " has unapplied draft " ++ heads.draftRevisionId ++
        "; apply or discard it before Store creates a deployment Binding revision")
    else
      let revision ← storedRevision topologyId revisionId
        ("topology " ++ topologyId ++ " revision " ++ revisionId ++ " was not found")
      return (revision.spec, revisionId)

def proposeGenerationSiblingTopology (selection : SiblingSelection) :
    Worked StoreTopologyApplyPlan := do
  let (spec, expectedDraft) ← selectedTopologySpec selection
  let created ← Worked.topology (.createNext selection.topologyId expectedDraft spec
    { createdAt := request.updatedAt
      createdBy := "store-replacement"
      message := "reproject deployment-wide binding credential generation" })
  let revision : TopologyRevision ← orFail StorageError.text created
  let previousBindings ← orFail StorageError.text
    (← Worked.bindings selection.topologyId)
  let stagedBindings ← orFail id (request.staged selection.topologyId revision.revisionId)
  return ⟨selection.topologyId, revision.revisionId, stagedBindings, previousBindings⟩

/-- The plan-time reads, and the revisions that siblings get. -/
def planTopologies : Worked (List StoreTopologyApplyPlan) := do
  let heads ← orMissing ("topology not found: " ++ request.topologyId)
    (← Worked.heads request.topologyId)
  if heads.draftRevisionId ≠ request.revisionId then
    .fail ("requested revision " ++ request.revisionId ++ " is not current draft " ++
      heads.draftRevisionId)
  else
    let _ ← storedRevision request.topologyId request.revisionId
      ("revision not found: " ++ request.revisionId)
    let previousBindings ← orFail StorageError.text
      (← Worked.bindings request.topologyId)
    let stagedBindings ← orFail id (request.staged request.topologyId request.revisionId)
    let _ ← Program.forEach selectedTopologySpec request.siblings
    let siblings ← Program.forEach request.proposeGenerationSiblingTopology request.siblings
    orFail id request.admissible
    let own : StoreTopologyApplyPlan :=
      ⟨request.topologyId, request.revisionId, stagedBindings, previousBindings⟩
    return (own :: siblings).insertionSort fun first second =>
      first.topologyId ≤ second.topologyId

/-- `finish_topology_apply` as failed, whose own outcome is ignored. -/
def releaseTopology (topology : StoreTopologyApplyPlan) : Worked Unit := do
  let _ ← Worked.topology (.finish topology.topologyId topology.revisionId request.operationId
    .failed request.updatedAt)

/-- Release what was begun, the latest first, and answer with the error. -/
def releaseBegun (begun : List StoreTopologyApplyPlan) (error : String) : Worked Unit := do
  let _ ← Program.forEach request.releaseTopology begun
  .fail error

def beginTopologies (begun : List StoreTopologyApplyPlan) :
    List StoreTopologyApplyPlan → Worked Unit
  | [] =>
    match request.enqueued with
    | .ok _ => .done ()
    | .error error => request.releaseBegun begun error
  | topology :: rest => do
      match ← Worked.topology (.beginApply topology.topologyId topology.revisionId
          request.operationId request.updatedAt) with
      | .error error => request.releaseBegun begun error.text
      | .ok _ => beginTopologies (topology :: begun) rest

def recordPlan (topologies : List StoreTopologyApplyPlan) : Worked Bool :=
  Program.perform (PlaneCall.plan request.operationId ⟨topologies, request.bootstraps⟩)

def enqueueApply : Worked Unit := do
  let topologies ← request.planTopologies
  if ← request.recordPlan topologies then
    orFail id request.confirmed
    request.beginTopologies [] topologies
  else .fail "operation idempotency key belongs to a different plan"

end ApplyRequest

inductive PlaneEvent where
  | createTopology (spec : TopologySpec) (note : RevisionNote)
  | editDraft (topologyId expectedDraftRevisionId : String) (spec : TopologySpec)
      (note : RevisionNote)
  | rollbackDraft (topologyId expectedDraftRevisionId targetRevisionId : String)
      (note : RevisionNote)
  | enqueueJob (new : NewJob) (nowMs : Int)
  | cancelJob (jobId : String) (nowMs : Int)
  /-- A pass of the worker; it may stop after some of its calls. -/
  | pass (env : WorkerEnvironment) (stop : Option Nat)
  | recoverExpired (nowMs : Int) (updatedAt : String) (stop : Option Nat)
  | recoverTerminal (statuses : String → Option DurableOperationStatus) (updatedAt : String)
      (stop : Option Nat)

namespace Plane

/-- The coordinator enqueues topology jobs of plans only. -/
def admits (plane : Plane) (new : NewJob) : Bool :=
  match new.kind with
  | .topologyApply =>
    plane.plans[new.operationId]?.any fun plan =>
      plan.payloads.any fun payload => payload.toDocument = new.payload
  | .contributionProjection =>
    new.payload.get "controller" = some (.string "ojos.dev/contribution-job/v1")
  | _ => true

variable [Digests] [AddressSyntax]

def work {α : Type} (plane : Plane) (program : Worked α) : Option Nat → Plane
  | none => (program.eval exec plane).2
  | some calls => program.stateAfter exec calls plane

def react (event : PlaneEvent) (plane : Plane) : Plane :=
  match event with
  | .createTopology spec note => (exec (.topology (.createInitial spec note)) plane).2
  | .editDraft topologyId expected spec note =>
    (exec (.topology (.createNext topologyId expected spec note)) plane).2
  | .rollbackDraft topologyId expected target note =>
    (exec (.topology (.createRollback topologyId expected target note)) plane).2
  | .enqueueJob new nowMs =>
    if plane.admits new then { plane with jobs := (plane.jobs.enqueue new nowMs).2 } else plane
  | .cancelJob jobId nowMs => { plane with jobs := (plane.jobs.requestCancel jobId nowMs).2 }
  | .pass env stop => plane.work (processOne env) stop
  | .recoverExpired nowMs updatedAt stop =>
    plane.work (UntitledOJ.recoverExpired nowMs updatedAt) stop
  | .recoverTerminal statuses updatedAt stop =>
    plane.work (recoverTerminalTopologyApplies statuses updatedAt) stop

end Plane

variable [Digests] [AddressSyntax]

/-- Apply requests, the worker and recovery on one plane. -/
abbrev topologyPlane : Platform where
  State := Plane
  Call := PlaneCall
  Reply := PlaneCall.Reply
  Error := String
  exec := Plane.exec
  loads := fun _ => false
  Task := ApplyRequest
  program := ApplyRequest.enqueueApply
  Event := PlaneEvent
  react := Plane.react

def idlePlane : topologyPlane.Config :=
  ⟨Plane.empty, []⟩

end UntitledOJ
