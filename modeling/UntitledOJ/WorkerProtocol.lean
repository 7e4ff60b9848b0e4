import UntitledOJ.WorkerRules
import UntitledOJ.TopologyHeadInvariant

/-!
# What the phases of an apply do

The calls of each phase, with what is known when they are made.  A head is released only after the
bindings and the providers were restored, or as degraded; an abort succeeds only after the head went
back to the revision that the providers were returned to.
-/

namespace UntitledOJ

open TopologyTables

def TopologyTables.parentOf (tables : TopologyTables) (topologyId revisionId : String) :
    Option String :=
  (tables.revision? topologyId revisionId).bind (·.parentRevisionId)

def TopologyTables.returnsTo (tables : TopologyTables) (payload : TopologyApplyPayload)
    (operationId : String) (heads : TopologyHeads) : Option String :=
  if abortsCompleted payload operationId heads then
    tables.parentOf payload.topologyId payload.revisionId
  else heads.appliedRevisionId

variable {topologyId revisionId : String} {tables : TopologyTables}

theorem TopologyTables.loadRevision_ok [Digests] [AddressSyntax] {found : Option TopologyRevision}
    (loaded : tables.loadRevision topologyId revisionId = .ok found) :
    tables.revision? topologyId revisionId = found := by
  unfold loadRevision at loaded
  split at loaded
  · rename_i absent
    cases loaded
    exact absent
  · rename_i revision present
    obtain ⟨_, _, loaded⟩ := ok_of_bind loaded
    cases loaded
    exact present

theorem TopologyTables.revision?_some {revision : TopologyRevision}
    (found : tables.revision? topologyId revisionId = some revision) :
    revision ∈ tables.revisions ∧ revision.topologyId = topologyId ∧
      revision.revisionId = revisionId := by
  have matching := List.find?_some found
  simp only [Bool.and_eq_true, decide_eq_true_eq] at matching
  exact ⟨List.mem_of_find?_eq_some found, matching⟩

variable {bindings : List ApiBinding}

namespace Plane

/-- Since the phase began, only the bindings of its topology, the provider calls and
the jobs have changed, and its job is not settled. -/
structure InPhase (jobId topologyId : String) (origin plane : Plane) : Prop where
  tables : plane.topology = { origin.topology with bindings := plane.topology.bindings }
  others : (plane.topology.bindings.filter fun row => row.topologyId ≠ topologyId) =
    origin.topology.bindings.filter fun row => row.topologyId ≠ topologyId
  plans : plane.plans = origin.plans
  outcomes : plane.outcomes = origin.outcomes
  indexed : plane.jobs.Indexed
  underway : plane.Underway jobId

/-- The bindings of the topology are these again, and so are the providers. -/
def Restored (plane : Plane) (topologyId operationId : String) (bindings : List ApiBinding) :
    Prop :=
  plane.topology.bindingsOf topologyId = bindings ∧
    ∃ call, plane.latestCall topologyId operationId = some call ∧ call.isRestoring = true

variable {origin plane : Plane} {jobId : String}

section

variable (inside : InPhase jobId topologyId origin plane)

include inside

theorem InPhase.heads : plane.topology.heads = origin.topology.heads := by
  rw [inside.tables]

theorem InPhase.revisions : plane.topology.revisions = origin.topology.revisions := by
  rw [inside.tables]

theorem InPhase.parentOf (otherId revisionId : String) :
    plane.topology.parentOf otherId revisionId = origin.topology.parentOf otherId revisionId := by
  rw [inside.tables]
  rfl

theorem InPhase.acceptance (bindings : List ApiBinding) :
    (plane.topology.replaceTopologyApiBindings topologyId bindings).1 =
      (origin.topology.replaceTopologyApiBindings topologyId bindings).1 :=
  replaced_congr inside.others bindings

theorem InPhase.replaced {after : TopologyTables}
    (committed : plane.topology.replaceTopologyApiBindings topologyId bindings = (.ok (), after)) :
    InPhase jobId topologyId origin
      (plane.withTables (.replaceBindings topologyId bindings) after) := by
  obtain ⟨rfl, keyed⟩ := replaced_eq committed
  refine ⟨?_, ?_, inside.plans, inside.outcomes, inside.indexed, inside.underway⟩
  · let rows : List ApiBinding :=
      (plane.topology.bindings.filter fun row => row.topologyId ≠ topologyId) ++ bindings
    exact congrArg (fun tables : TopologyTables => { tables with bindings := rows }) inside.tables
  · have none_new : (bindings.filter fun row => decide (row.topologyId ≠ topologyId)) = [] := by
      rw [List.filter_eq_nil_iff]
      intro binding member
      simp [keyed binding member]
    change ((plane.topology.bindings.filter fun row => row.topologyId ≠ topologyId) ++
      bindings).filter (fun row : ApiBinding => row.topologyId ≠ topologyId) = _
    rw [List.filter_append, none_new, List.append_nil, List.filter_filter]
    simpa only [Bool.and_self] using inside.others

end

theorem bindingsOf_replaced {after : TopologyTables}
    (committed : plane.topology.replaceTopologyApiBindings topologyId bindings = (.ok (), after)) :
    after.bindingsOf topologyId = bindings := by
  obtain ⟨rfl, keyed⟩ := replaced_eq committed
  exact filter_replaced keyed

/-- The bindings were restored after a provider call that restored what they serve. -/
theorem restored_of_call {operationId : String} {call : ProviderCall} {earlier : List ProviderCall}
    (rows : plane.topology.bindingsOf topologyId = bindings)
    (calls : plane.providerCalls = call :: earlier)
    (isFor : call.isFor topologyId operationId = true) (restoring : call.isRestoring = true) :
    plane.Restored topologyId operationId bindings := by
  refine ⟨rows, call, ?_, restoring⟩
  rw [latestCall, calls]
  exact List.find?_cons_of_pos isFor

variable [Digests] [AddressSyntax] (inside : InPhase jobId topologyId origin plane)
include inside

theorem InPhase.heartbeat (request : HeartbeatRequest) :
    InPhase jobId topologyId origin (exec (.heartbeat request) plane).2 :=
  ⟨inside.tables, inside.others, inside.plans, inside.outcomes,
    heartbeat_indexed inside.indexed request, inside.underway.heartbeat inside.indexed request⟩

theorem InPhase.provider (call : ProviderCall) :
    InPhase jobId topologyId origin (exec (.provider call) plane).2 :=
  ⟨inside.tables, inside.others, inside.plans, inside.outcomes, inside.indexed, inside.underway⟩

end Plane

theorem isRestoring_compensate {previous : Option TopologyRevision} {operationId : String}
    {outcome : Except String Unit} (succeeded : outcome.isOk = true) :
    (ProviderCall.compensate topologyId revisionId previous bindings operationId
      outcome).isRestoring = true := by
  cases outcome with
  | ok _ => rfl
  | error _ => cases succeeded

/-- Something outside the stores, or the store itself, keeps a phase from restoring
what was there before. -/
def Troubled (origin : Plane) (env : WorkerEnvironment) (payload : TopologyApplyPayload) : Prop :=
  (∃ error, (origin.topology.replaceTopologyApiBindings payload.topologyId
      payload.previousBindings).1 = .error error) ∨
    (payload.phase = .prepare ∧ ∃ failure, env.applied = .error failure ∧
      failure.state = .degraded) ∨
    (payload.phase = .finalize ∧ ∃ error, env.compensated = .error error)

/-- The head went back to a revision, and the providers and the bindings with it. -/
structure Rewound (origin : TopologyTables) (held : HeldJob) (payload : TopologyApplyPayload)
    (heads : TopologyHeads) (previous : TopologyRevision) (plane : Plane) : Prop where
  stored : origin.revision? payload.topologyId previous.revisionId = some previous
  target : origin.returnsTo payload held.job.operationId heads = some previous.revisionId
  rewound : plane.topology.heads[payload.topologyId]? = some
    { heads.releasedBy held.job.operationId (some previous.revisionId) with
      draftRevisionId := previous.revisionId }
  provider : plane.latestCall payload.topologyId held.job.operationId =
    some (.compensate payload.topologyId payload.revisionId (some previous)
      payload.previousBindings held.job.operationId (.ok ()))
  bindings : plane.topology.bindingsOf payload.topologyId = payload.previousBindings

theorem Rewound.sameTables {origin : TopologyTables} {plane later : Plane} {held : HeldJob}
    {payload : TopologyApplyPayload} {heads : TopologyHeads} {previous : TopologyRevision}
    (rewound : Rewound origin held payload heads previous plane) (same : plane.SameTables later) :
    Rewound origin held payload heads previous later := by
  refine ⟨rewound.stored, rewound.target, ?_, ?_, ?_⟩
  · rw [same.topology]
    exact rewound.rewound
  · rw [Plane.latestCall, same.providerCalls]
    exact rewound.provider
  · rw [same.topology]
    exact rewound.bindings

section

variable (origin : Plane) (env : WorkerEnvironment) (held : HeldJob)
  (payload : TopologyApplyPayload) (heads : TopologyHeads) (plane : Plane)

/-- The writes of a phase that began at the origin, where it found the head. -/
inductive PhaseWrite : PlaneCall → Prop
  | stage (phase : payload.phase = .prepare) :
      PhaseWrite (.topology (.replaceBindings payload.topologyId payload.bindings))
  | apply {spec : TopologySpec} {previous : Option TopologyRevision}
      (phase : payload.phase = .prepare) :
      PhaseWrite (.provider (.apply payload.topologyId payload.revisionId spec payload.bindings
        previous payload.previousBindings held.job.operationId env.applied))
  | compensate {previous : Option TopologyRevision}
      (target : origin.topology.returnsTo payload held.job.operationId heads =
        previous.map (·.revisionId))
      (stored : ∀ revision ∈ previous,
        origin.topology.revision? payload.topologyId revision.revisionId = some revision) :
      PhaseWrite (.provider (.compensate payload.topologyId payload.revisionId previous
        payload.previousBindings held.job.operationId env.compensated))
  | restore :
      PhaseWrite (.topology (.replaceBindings payload.topologyId payload.previousBindings))
  | activate {staged : List ApiBinding} {observedAt : String} (phase : payload.phase = .finalize)
      (read : origin.topology.apiBindingsForTopology payload.topologyId = .ok staged) :
      PhaseWrite (.topology (.replaceBindings payload.topologyId
        (activateStagedBindings staged observedAt)))
  | reject {detail updatedAt : String} (phase : payload.phase = .prepare)
      (untouched : plane.topology.bindings = origin.topology.bindings ∧
        plane.providerCalls = origin.providerCalls)
      (rejected : prepareValidation env held payload = .error detail) :
      PhaseWrite (.topology (.finish payload.topologyId payload.revisionId held.job.operationId
        .failed updatedAt))
  | release {outcome : TopologyApplyOutcome} {updatedAt : String}
      (phase : payload.phase = .prepare ∨ payload.phase = .finalize)
      (unsuccessful : outcome ≠ .succeeded)
      (settled : plane.Restored payload.topologyId held.job.operationId payload.previousBindings ∨
        outcome = .degraded ∧ Troubled origin env payload) :
      PhaseWrite (.topology (.finish payload.topologyId payload.revisionId held.job.operationId
        outcome updatedAt))
  | advance {staged : List ApiBinding} {observedAt updatedAt : String} {fence : JobFence}
      (phase : payload.phase = .finalize)
      (read : origin.topology.apiBindingsForTopology payload.topologyId = .ok staged)
      (activated : plane.topology.bindingsOf payload.topologyId =
        activateStagedBindings staged observedAt) :
      PhaseWrite (.topology (.finishFenced payload.topologyId payload.revisionId
        held.job.operationId .succeeded updatedAt fence))
  | rewind {previousRevisionId updatedAt : String} (phase : payload.phase = .abort)
      (completed : abortsCompleted payload held.job.operationId heads = true)
      (target : origin.topology.returnsTo payload held.job.operationId heads =
        some previousRevisionId)
      (restored : plane.Restored payload.topologyId held.job.operationId
        payload.previousBindings) :
      PhaseWrite (.topology (.compensateCompleted payload.topologyId payload.revisionId
        previousRevisionId held.job.operationId updatedAt))
  | giveUp {previousRevisionId updatedAt : String} (phase : payload.phase = .abort)
      (uncompleted : abortsCompleted payload held.job.operationId heads = false)
      (target : origin.topology.returnsTo payload held.job.operationId heads =
        some previousRevisionId)
      (restored : plane.Restored payload.topologyId held.job.operationId
        payload.previousBindings) :
      PhaseWrite (.topology (.completeAbort payload.topologyId payload.revisionId
        previousRevisionId held.job.operationId updatedAt))

omit plane in
/-- The calls of such a phase. -/
inductive PhaseCall : PlaneCall → Plane → Prop
  | read {call : PlaneCall} {plane : Plane} (reads : call.isRead = true) : PhaseCall call plane
  | heartbeat {request : HeartbeatRequest} {plane : Plane} : PhaseCall (.heartbeat request) plane
  | write {call : PlaneCall} {plane : Plane}
      (inside : Plane.InPhase held.job.jobId payload.topologyId origin plane)
      (write : PhaseWrite origin env held payload heads plane call) : PhaseCall call plane
  | complete {request : CompleteRequest} {plane : Plane}
      (named : request.jobId = held.job.jobId) (underway : plane.Underway held.job.jobId)
      (aborted : payload.phase = .abort → request.status = .succeeded →
        ∃ previous, Rewound origin.topology held payload heads previous plane) :
      PhaseCall (.complete request) plane

end

/-- Nothing lets the head of a completed apply go back. -/
def Unrewindable [Digests] [AddressSyntax] (origin : TopologyTables) (env : WorkerEnvironment)
    (held : HeldJob) (payload : TopologyApplyPayload) : Prop :=
  ∀ previousRevisionId,
    origin.parentOf payload.topologyId payload.revisionId = some previousRevisionId →
      ∃ error, (origin.compensateCompletedTopologyApply payload.topologyId
        payload.revisionId previousRevisionId held.job.operationId
        (nowMarker (env.clock .head))).1 = .error error

/-- How an abort over a completed apply ends: nothing was restored, or the head went back with the
bindings, or something prevented it. -/
def AbortEnds [Digests] [AddressSyntax] (origin : TopologyTables) (env : WorkerEnvironment)
    (held : HeldJob) (payload : TopologyApplyPayload) (heads : TopologyHeads) (plane : Plane) :
    Prop :=
  abortsCompleted payload held.job.operationId heads = true →
    plane.topology.bindings = origin.bindings ∨
      (∃ previous, Rewound origin held payload heads previous plane) ∨
      (∃ error, env.compensated = .error error) ∨
      Unrewindable origin env held payload

end UntitledOJ
