import UntitledOJ.WorkerPhases

/-!
# What a pass of the worker does

A pass claims a job and runs it.  Its calls are those of the phase, of the group
phase, or of a job that cannot be run.
-/

namespace UntitledOJ

open Worked Plane TopologyTables

def Plane.claimedJob (plane : Plane) (env : WorkerEnvironment) : Option Job :=
  match env.leaseToken with
  | .error _ => none
  | .ok leaseToken =>
    match (plane.jobs.claim (claimRequest env leaseToken)).1 with
    | .error _ => none
    | .ok claimed => claimed

/-- The pass claims the job and can read its payload. -/
structure Plane.Runs (start : Plane) (env : WorkerEnvironment) (held : HeldJob)
    (payload : TopologyApplyPayload) : Prop where
  claimed : start.claimedJob env = some held.job
  token : held.job.leaseToken = some held.leaseToken
  kind : held.job.kind = .topologyApply
  decoded : TopologyApplyPayload.ofDocument held.job.payload = .ok payload

def TopologyApplyPayload.isSingle (payload : TopologyApplyPayload) : Prop :=
  payload.phase = .prepare ∨ payload.phase = .finalize ∨ payload.phase = .abort

/-- A phase begins here with this head, which only a first phase may have taken just
now. -/
structure Plane.Begins (start origin : Plane) (payload : TopologyApplyPayload)
    (heads : TopologyHeads) : Prop where
  bindings : origin.topology.bindings = start.topology.bindings
  providerCalls : origin.providerCalls = start.providerCalls
  plans : origin.plans = start.plans
  outcomes : origin.outcomes = start.outcomes
  found : origin.topology.heads[payload.topologyId]? = some heads
  same : payload.phase ≠ .prepare → origin.topology = start.topology

def TopologyHeads.Admits (heads : TopologyHeads) (payload : TopologyApplyPayload)
    (operationId : String) : Prop :=
  ownsApply payload operationId heads = true ∨ abortsCompleted payload operationId heads = true

inductive PassCall (start : Plane) (env : WorkerEnvironment) : PlaneCall → Plane → Prop
  | read {call : PlaneCall} {plane : Plane} (reads : call.isRead = true) :
      PassCall start env call plane
  | claim {request : ClaimRequest} : PassCall start env (.claim request) start
  | heartbeat {request : HeartbeatRequest} {plane : Plane} :
      PassCall start env (.heartbeat request) plane
  | complete {held : HeldJob} {request : CompleteRequest} {plane : Plane}
      (claimed : start.claimedJob env = some held.job) (named : request.jobId = held.job.jobId)
      (underway : plane.Underway held.job.jobId)
      (unaborted : ∀ other payload, start.Runs env other payload → payload.phase = .abort →
        request.status ≠ .succeeded) :
      PassCall start env (.complete request) plane
  | group {held : HeldJob} {payload : TopologyApplyPayload}
      {members : List TopologyApplyGroupMember} {updatedAt : String} {fence : JobFence}
      {plane : Plane} (runs : start.Runs env held payload)
      (phase : payload.phase = .finalizeGroup) (underway : plane.Underway held.job.jobId) :
      PassCall start env
        (.topology (.finishGroupFenced members held.job.operationId updatedAt fence)) plane
  | refuse {held : HeldJob} {payload : TopologyApplyPayload} {updatedAt : String} {plane : Plane}
      (runs : start.Runs env held payload) (unprovided : env.hasProvider = false)
      (same : start.SameTables plane) (underway : plane.Underway held.job.jobId) :
      PassCall start env
        (.topology (.finish payload.topologyId payload.revisionId held.job.operationId .degraded
          updatedAt)) plane
  | degrade {held : HeldJob} {status : TopologyStatus} {plane : Plane}
      (claimed : start.claimedJob env = some held.job)
      (underway : plane.Underway held.job.jobId) :
      PassCall start env (.topology (.putStatus status)) plane
  | reacquire {held : HeldJob} {payload : TopologyApplyPayload} {heads : TopologyHeads}
      {updatedAt : String} {plane : Plane} (runs : start.Runs env held payload)
      (phase : payload.phase = .prepare) (same : start.SameTables plane)
      (underway : plane.Underway held.job.jobId)
      (found : start.topology.heads[payload.topologyId]? = some heads)
      (free : heads.applyingRevisionId = none)
      (draft : heads.draftRevisionId = payload.revisionId)
      (unapplied : heads.appliedRevisionId ≠ some payload.revisionId) :
      PassCall start env
        (.topology (.beginApply payload.topologyId payload.revisionId held.job.operationId
          updatedAt)) plane
  | replay {held : HeldJob} {payload : TopologyApplyPayload} {heads : TopologyHeads}
      {request : CompleteRequest} {plane : Plane} (runs : start.Runs env held payload)
      (same : start.SameTables plane) (underway : plane.Underway held.job.jobId)
      (named : request.jobId = held.job.jobId)
      (found : start.topology.heads[payload.topologyId]? = some heads)
      (replays : replaysAbort payload held.job.operationId heads = true) :
      PassCall start env (.complete request) plane
  | phase {held : HeldJob} {payload : TopologyApplyPayload} {heads : TopologyHeads}
      {origin : Plane} {call : PlaneCall} {plane : Plane} (runs : start.Runs env held payload)
      (provided : env.hasProvider = true) (single : payload.isSingle)
      (begins : start.Begins origin payload heads)
      (admits : heads.Admits payload held.job.operationId)
      (lawful : PhaseCall origin env held payload heads call plane) :
      PassCall start env call plane

/-- How a pass ends that runs an abort over a completed apply. -/
def PassEnds [Digests] [AddressSyntax] (start : Plane) (env : WorkerEnvironment)
    (plane : Plane) : Prop :=
  ∀ held payload heads, start.Runs env held payload → env.hasProvider = true →
    start.topology.heads[payload.topologyId]? = some heads →
    AbortEnds start.topology env held payload heads plane

theorem kind_of_isDelegated {job : Job} (delegated : isDelegated job = true) :
    job.kind ≠ .topologyApply := by
  intro kind
  simp [isDelegated, isContributionJob, kind] at delegated

variable {start plane : Plane} {env : WorkerEnvironment} {held : HeldJob}
  {payload : TopologyApplyPayload} {heads : TopologyHeads}

theorem Plane.Runs.unique {other : HeldJob} {decoded : TopologyApplyPayload}
    (runs : start.Runs env held payload) (again : start.Runs env other decoded) :
    other = held ∧ decoded = payload := by
  obtain ⟨otherJob, otherToken⟩ := other
  obtain ⟨job, token⟩ := held
  have same : otherJob = job := Option.some.inj (again.claimed.symm.trans runs.claimed)
  subst same
  have same_token : otherToken = token := Option.some.inj (again.token.symm.trans runs.token)
  exact ⟨by rw [same_token], Except.ok.inj (again.decoded.symm.trans runs.decoded)⟩

theorem Plane.Begins.sameTables {origin : Plane} (begins : start.Begins origin payload heads)
    (other : payload.phase ≠ .prepare) : start.SameTables origin :=
  ⟨begins.same other, begins.providerCalls, begins.plans, begins.outcomes⟩

variable [Digests] [AddressSyntax]

theorem passEnds_of_bindings (same : plane.topology.bindings = start.topology.bindings) :
    PassEnds start env plane :=
  fun _ _ _ _ _ _ _ => .inl same

theorem passEnds_of_phase (runs : start.Runs env held payload) (other : payload.phase ≠ .abort) :
    PassEnds start env plane := by
  intro again decoded heads runsAgain _ _ completed
  obtain ⟨_, rfl⟩ := runs.unique runsAgain
  simp only [abortsCompleted, Bool.and_eq_true, decide_eq_true_eq] at completed
  exact absurd completed.1.1.1 other

variable {ended : Plane → Prop} {β : Type}

theorem reacquireHead_keeps {next : TopologyHeads → Worked β}
    (runs : start.Runs env held payload) (single : payload.isSingle)
    (same : start.SameTables plane) (indexed : plane.jobs.Indexed)
    (underway : plane.Underway held.job.jobId)
    (found : plane.topology.heads[payload.topologyId]? = some heads)
    (continues : ∀ last origin, start.Begins origin payload last → origin.jobs.Indexed →
      origin.Underway held.job.jobId → Keeps (PassCall start env) ended (next last) origin)
    (fails : ∀ now, now.topology.bindings = start.topology.bindings → ended now) :
    Keeps (PassCall start env) ended (reacquireHead env held payload heads >>= next) plane := by
  have foundFirst : start.topology.heads[payload.topologyId]? = some heads := by
    rw [← same.topology]
    exact found
  by_cases retried : (payload.phase = .full ∨ payload.phase = .prepare) ∧
      heads.applyingRevisionId = none ∧ heads.draftRevisionId = payload.revisionId ∧
      heads.appliedRevisionId ≠ some payload.revisionId
  · obtain ⟨first, free, draft, unapplied⟩ := id retried
    have phase : payload.phase = .prepare := by
      rcases first with full | prepare
      · rcases single with other | other | other <;> rw [full] at other <;> cases other
      · exact prepare
    rw [reacquireHead, if_pos retried]
    refine keeps_topology (.reacquire runs phase same underway foundFirst free draft unapplied)
      ?_ ?_
    · intro revision after committed
      have rows : after.bindings = start.topology.bindings := by
        rw [(exec_bindings committed).1, ← same.topology]
        rfl
      refine keeps_storedHeads (.read rfl) ?_ (fails _ rows)
      intro last present
      exact continues last _ ⟨rows, same.providerCalls, same.plans, same.outcomes, present,
        fun other => absurd phase other⟩ indexed underway
    · intro error _
      exact fails _ (by rw [same.topology])
  · rw [reacquireHead, if_neg retried]
    exact continues heads plane ⟨by rw [same.topology], same.providerCalls, same.plans,
      same.outcomes, found, fun _ => same.topology⟩ indexed underway

theorem keeps_previousRevision {lawful : PlaneCall → Plane → Prop}
    {topologyId : String} {revisionId : Option String} {next : Option TopologyRevision → Worked β}
    (reads : ∀ call, call.isRead = true → lawful call plane)
    (continues : ∀ previous, revisionId = previous.map (·.revisionId) → (∀ revision ∈ previous,
        plane.topology.revision? topologyId revision.revisionId = some revision) →
      Keeps lawful ended (next previous) plane) (fails : ended plane) :
    Keeps lawful ended (previousRevision topologyId revisionId >>= next) plane := by
  cases revisionId with
  | none => exact continues none rfl (by simp)
  | some revisionId =>
    refine ⟨reads _ rfl, ?_⟩
    change Keeps lawful ended (((orFail StorageError.text
      (plane.topology.loadRevision topologyId revisionId) >>= orMissing _) >>=
        fun revision => pure (some revision)) >>= next) plane
    cases loaded : plane.topology.loadRevision topologyId revisionId with
    | error error => exact fails
    | ok found =>
      cases found with
      | none => exact fails
      | some revision =>
        have present := loadRevision_ok loaded
        obtain ⟨_, _, rfl⟩ := TopologyTables.revision?_some present
        refine continues (some revision) rfl ?_
        rintro _ ⟨⟩
        exact present

theorem disownedPhase_keeps (runs : start.Runs env held payload)
    (begins : start.Begins plane payload heads) (underway : plane.Underway held.job.jobId) :
    Keeps (PassCall start env) (PassEnds start env) (disownedPhase env held payload heads)
      plane := by
  have ends : ∀ request, PassEnds start env (exec (.complete request) plane).2 := fun _ =>
    passEnds_of_bindings begins.bindings
  unfold disownedPhase
  split_ifs with replays
  · have phase : payload.phase = .abort := by
      simp only [replaysAbort, Bool.and_eq_true, decide_eq_true_eq] at replays
      exact replays.1.1.1
    have same : start.SameTables plane := begins.sameTables (by rw [phase]; nofun)
    refine keeps_complete ?_ ends
    intro request named _
    refine .replay runs same underway named ?_ replays
    rw [← same.topology]
    exact begins.found
  · refine keeps_complete ?_ ends
    intro request named status
    refine .complete runs.claimed named underway ?_
    intro _ _ _ _ succeeded
    rw [status] at succeeded
    cases succeeded

theorem processPhase_keeps (runs : start.Runs env held payload) (provided : env.hasProvider = true)
    (single : payload.isSingle) (same : start.SameTables plane) (indexed : plane.jobs.Indexed)
    (underway : plane.Underway held.job.jobId) :
    Keeps (PassCall start env) (PassEnds start env) (processPhase env held payload) plane := by
  unfold processPhase
  refine keeps_storedHeads (.read rfl) ?_ (passEnds_of_bindings (by rw [same.topology]))
  intro found present
  refine reacquireHead_keeps runs single same indexed underway present ?_
    fun now rows => passEnds_of_bindings rows
  intro heads origin begins indexedNow underwayNow
  have untouched : PassEnds start env origin := passEnds_of_bindings begins.bindings
  by_cases disowned : (!ownsApply payload held.job.operationId heads &&
      !abortsCompleted payload held.job.operationId heads) = true
  · rw [if_pos disowned]
    exact disownedPhase_keeps runs begins underwayNow
  rw [if_neg disowned]
  have admits : heads.Admits payload held.job.operationId := by
    unfold TopologyHeads.Admits
    simpa only [Bool.and_eq_true, Bool.not_eq_true', not_and_or, Bool.not_eq_false] using disowned
  refine keeps_storedRevision (.read rfl) ?_ untouched
  intro revision loaded
  have target : (if abortsCompleted payload held.job.operationId heads = true then
      revision.parentRevisionId else heads.appliedRevisionId) =
        origin.topology.returnsTo payload held.job.operationId heads := by
    rw [returnsTo, parentOf, loadRevision_ok loaded]
    rfl
  rw [target]
  refine keeps_previousRevision (fun _ reads => .read reads) ?_ untouched
  intro previous returns stored
  have inside : InPhase held.job.jobId payload.topologyId origin origin :=
    ⟨rfl, rfl, rfl, rfl, indexedNow, underwayNow⟩
  have permitted : ∀ call now, PhaseCall origin env held payload heads call now →
      PassCall start env call now := fun _ _ lawful =>
    .phase runs provided single begins admits lawful
  rcases single with phase | phase | phase
  · simp only [phase]
    refine keeps_bindings (.read rfl) ?_
    refine keeps_orFail ?_ untouched
    intro bindings _
    exact (preparePhase_keeps inside phase ⟨rfl, rfl⟩).weaken permitted fun _ _ =>
      passEnds_of_phase runs (by simp [phase])
  · simp only [phase]
    exact (finalizePhase_keeps inside returns stored phase rfl).weaken permitted fun _ _ =>
      passEnds_of_phase runs (by simp [phase])
  · simp only [phase]
    refine (abortPhase_keeps inside returns stored phase begins.found rfl).weaken permitted ?_
    have sameTables := begins.same (by simp [phase])
    rw [sameTables]
    intro now ended again decoded last runsAgain _ foundAgain
    obtain ⟨rfl, rfl⟩ := runs.unique runsAgain
    have sameHeads : last = heads := by
      have foundNow := begins.found
      rw [sameTables] at foundNow
      exact Option.some.inj (foundAgain.symm.trans foundNow)
    rw [sameHeads]
    exact ended

def Plane.Working (plane : Plane) (jobId : String) : Prop :=
  plane.jobs.Indexed ∧ plane.Underway jobId

theorem Plane.Working.heartbeat {jobId : String} (working : plane.Working jobId)
    (request : HeartbeatRequest) : (exec (.heartbeat request) plane).2.Working jobId :=
  ⟨heartbeat_indexed working.1 request, working.2.heartbeat working.1 request⟩

theorem prepareGroupMember_keeps {identity : (String × String) × Nat}
    (working : plane.Working held.job.jobId) :
    Keeps (PassCall start env) (fun now => now.Working held.job.jobId)
      (prepareGroupMember env held identity) plane := by
  obtain ⟨⟨_, revisionId⟩, _⟩ := identity
  refine keeps_checkpoint (fun _ => .heartbeat) ?_ working.heartbeat
  intro first
  have workingNow := working.heartbeat first
  refine keeps_heads (.read rfl) (keeps_orMissing ?_ workingNow)
  intro heads _
  by_cases lost : heads.applyingRevisionId ≠ some revisionId ∨
      heads.applyingOperationId ≠ some held.job.operationId
  · rw [if_pos lost]
    exact workingNow
  rw [if_neg lost]
  refine keeps_revision (.read rfl) (keeps_orFail ?_ workingNow)
  intro found _
  refine keeps_orMissing ?_ workingNow
  intro revision _
  refine keeps_bindings (.read rfl) (keeps_orFail ?_ workingNow)
  intro staged _
  refine keeps_orFail (fun _ _ => keeps_orFail (fun _ _ => keeps_orFail (fun _ _ =>
    keeps_orFail ?_ workingNow) workingNow) workingNow) workingNow
  intro projectionSha256 _
  refine keeps_checkpoint (fun _ => .heartbeat) ?_ workingNow.heartbeat
  intro second
  split_ifs
  · exact workingNow.heartbeat second
  · exact workingNow.heartbeat second

section

variable (runs : start.Runs env held payload) (phase : payload.phase = .finalizeGroup)
  (working : plane.Working held.job.jobId)
include runs phase working

theorem finishGroup_keeps {group : List TopologyApplyGroupPayloadMember} :
    Keeps (PassCall start env) (fun now => now.Working held.job.jobId)
      (finishGroup env held group) plane := by
  unfold finishGroup
  by_cases empty : group.isEmpty = true
  · rw [if_pos empty]
    exact working
  rw [if_neg empty]
  by_cases malformed : malformedIdentities (groupIdentities group) = true
  · rw [if_pos malformed]
    exact working
  rw [if_neg malformed]
  refine keeps_forEach (fun _ _ _ workingNow => prepareGroupMember_keeps workingNow) ?_
    (fun _ workingNow => workingNow) working
  intro prepared now workingNow
  refine keeps_checkpoint (fun _ => .heartbeat) ?_ workingNow.heartbeat
  intro beat
  have workingLast := workingNow.heartbeat beat
  refine keeps_topology (.group runs phase workingLast.2) ?_ ?_
  · intro completed after _
    exact keeps_orFail (fun _ _ => workingLast) workingLast
  · intro error _
    exact workingLast

theorem finalizeTopologyGroup_keeps : Keeps (PassCall start env) (PassEnds start env)
      (finalizeTopologyGroup env held payload.group) plane := by
  have notAbort : payload.phase ≠ .abort := by rw [phase]; nofun
  unfold finalizeTopologyGroup
  refine Program.meets_bind.mpr (Program.meets_attempt.mpr ?_)
  refine Program.Meets.weaken (finishGroup_keeps runs phase working) ?_
  intro outcome now workingNow
  have allowed (request : CompleteRequest) (named : request.jobId = held.job.jobId) :
      PassCall start env (.complete request) now := by
    refine .complete runs.claimed named workingNow.2 ?_
    intro other decoded again abort
    obtain ⟨_, rfl⟩ := runs.unique again
    exact absurd abort notAbort
  cases outcome with
  | ok members | error detail =>
    exact keeps_complete (fun request named _ => allowed request named)
      fun _ => passEnds_of_phase runs notAbort

end

theorem passEnds_of_unprovided (unprovided : env.hasProvider = false) :
    PassEnds start env plane := by
  intro _ _ _ _ provided
  rw [unprovided] at provided
  cases provided

section

variable (claimed : start.claimedJob env = some held.job)
include claimed

theorem markDegraded_keeps {topologyId operationId detail updatedAt : String}
    (underway : plane.Underway held.job.jobId) (always : ∀ now, ended now) :
    Keeps (PassCall start env) ended (markDegraded topologyId operationId detail updatedAt)
      plane := by
  refine ⟨.read rfl, keeps_orMissing ?_ (always _)⟩
  intro status _
  refine keeps_topology (.degrade claimed underway) ?_ ?_
  · rintro ⟨⟩ _ _
    exact always _
  · intro _ _
    exact always _

theorem refuseWithoutProvider_keeps (token : held.job.leaseToken = some held.leaseToken)
    (kind : held.job.kind = .topologyApply) (unprovided : env.hasProvider = false)
    (same : start.SameTables plane) (working : plane.Working held.job.jobId) :
    Keeps (PassCall start env) (PassEnds start env) (refuseWithoutProvider env held) plane := by
  have always : ∀ now, PassEnds start env now := fun _ => passEnds_of_unprovided unprovided
  unfold refuseWithoutProvider
  refine keeps_completion ?_ ?_ fun _ => always _
  · intro request named status
    refine .complete claimed named working.2 ?_
    intro _ _ _ _ succeeded
    rw [status] at succeeded
    cases succeeded
  · intro request status
    have underway : (exec (.complete request) plane).2.Underway held.job.jobId := by
      refine working.2.complete working.1 ?_
      intro _ succeeded
      rw [status] at succeeded
      cases succeeded
    cases decoded : TopologyApplyPayload.ofDocument held.job.payload with
    | error error => exact always _
    | ok payload =>
      simp only
      split_ifs
      · exact always _
      · refine keeps_topology (.refuse ⟨claimed, token, kind, decoded⟩ unprovided
          (same.trans (complete_sameTables _ request)) underway) ?_ ?_
        · intro finished after _
          exact keeps_orFail (fun _ _ => markDegraded_keeps claimed underway always) (always _)
        · intro error _
          exact always _

theorem processJob_keeps (token : held.job.leaseToken = some held.leaseToken)
    (planned : ∀ payload, start.Runs env held payload →
      payload.phase = .finalizeGroup ∨ payload.isSingle)
    (same : start.SameTables plane) (working : plane.Working held.job.jobId) :
    Keeps (PassCall start env) (PassEnds start env) (processJob env held) plane := by
  have ends : ∀ now, start.SameTables now → PassEnds start env now := fun now sameNow =>
    passEnds_of_bindings (by rw [sameNow.topology])
  unfold processJob
  refine keeps_checkpoint (fun _ => .heartbeat) ?_ fun beat =>
    ends _ (same.trans (heartbeat_sameTables _ beat))
  intro beat
  have sameNow := same.trans (heartbeat_sameTables _ beat)
  have workingNow := working.heartbeat beat
  have elsewhere (other : held.job.kind ≠ .topologyApply) (request : CompleteRequest)
      (named : request.jobId = held.job.jobId) :
      PassCall start env (.complete request) (exec (.heartbeat beat) plane).2 := by
    refine .complete claimed named workingNow.2 ?_
    intro again _ runs _
    have same : again.job = held.job := Option.some.inj (runs.claimed.symm.trans claimed)
    exact absurd (same ▸ runs.kind) other
  have completed (request : CompleteRequest) := ends _
    (sameNow.trans (complete_sameTables _ request))
  by_cases delegated : isDelegated held.job = true
  · rw [if_pos delegated]
    exact keeps_complete (fun request named _ =>
      elsewhere (kind_of_isDelegated delegated) request named) completed
  rw [if_neg delegated]
  by_cases kind : held.job.kind = .topologyApply
  · rw [if_neg (not_not.mpr kind)]
    by_cases provided : env.hasProvider = true
    · rw [if_neg (by simpa using provided)]
      refine keeps_orFail ?_ (ends _ sameNow)
      intro payload decoded
      have runs : start.Runs env held payload := ⟨claimed, token, kind, decoded⟩
      by_cases group : payload.phase = .finalizeGroup
      · rw [if_pos group]
        exact finalizeTopologyGroup_keeps runs group workingNow
      · rw [if_neg group]
        exact processPhase_keeps runs provided ((planned payload runs).resolve_left group) sameNow
          workingNow.1 workingNow.2
    · rw [if_pos (by simpa using provided)]
      exact refuseWithoutProvider_keeps claimed token kind (by simpa using provided) sameNow
        workingNow
  · rw [if_pos kind]
    exact keeps_complete (fun request named _ => elsewhere kind request named) completed

end

theorem claim_working (indexed : start.jobs.Indexed) {request : ClaimRequest} {job : Job}
    (claimed : (start.jobs.claim request).1 = .ok (some job)) :
    (exec (.claim request) start).2.Working job.jobId := by
  refine ⟨indexed.update (MemoryJobStore.exec_moves indexed (.claim request) (by simp)).updates, ?_⟩
  rcases MemoryJobStore.claim_cases indexed request with ⟨_, refused⟩ | ⟨stored, _, _, outcome⟩
  · exact absurd claimed (refused job)
  · rw [outcome] at claimed
    cases claimed
    intro found present succeeded
    change (start.jobs.claim request).2.get _ = some found at present
    rw [outcome] at present
    have same : found = stored.claimed request := by
      simpa [MemoryJobStore.putJob, MemoryJobStore.get, Job.claimed] using present.symm
    rw [same] at succeeded
    cases succeeded

theorem processOne_keeps (indexed : start.jobs.Indexed)
    (planned : ∀ held payload, start.Runs env held payload →
      payload.phase = .finalizeGroup ∨ payload.isSingle) :
    Keeps (PassCall start env) (PassEnds start env) (processOne env) start := by
  have untouched : PassEnds start env start := passEnds_of_bindings rfl
  unfold processOne
  refine keeps_orFail ?_ untouched
  intro leaseToken issued
  refine ⟨.claim, ?_⟩
  have same := claim_sameTables start (claimRequest env leaseToken)
  have ends : PassEnds start env (exec (.claim (claimRequest env leaseToken)) start).2 :=
    passEnds_of_bindings (by rw [same.topology])
  change Keeps _ _ (orFail JobError.text (start.jobs.claim (claimRequest env leaseToken)).1 >>= _) _
  refine keeps_orFail ?_ ends
  intro claimed outcome
  cases claimed with
  | none => exact ends
  | some job =>
    have claims : start.claimedJob env = some job := by
      simp only [claimedJob, issued, outcome]
    refine keeps_orMissing ?_ ends
    intro token held
    refine keeps_orMissing ?_ ends
    intro expiry _
    have kept : Keeps (PassCall start env) (PassEnds start env) (processJob env ⟨job, token⟩)
        (exec (.claim (claimRequest env leaseToken)) start).2 :=
      processJob_keeps claims held (planned ⟨job, token⟩) same (claim_working indexed outcome)
    refine Program.meets_bind.mpr (Program.Meets.weaken kept ?_)
    intro result now ended
    cases result <;> exact ended

end UntitledOJ
