import UntitledOJ.PlaneProtocol

/-!
# What holds of the plane in every run

Topology jobs are those of recorded plans, the head of an apply names its plan, and bindings are
stored for existing topologies only, however requests, passes and recovery interleave.
-/

namespace UntitledOJ

open Worked Plane List TopologyTables

namespace ApplyPlan

variable {plan : ApplyPlan}

theorem mem_payloads {payload : TopologyApplyPayload} (member : payload ∈ plan.payloads) :
    payload.Planned ∧ (payload.phase = .finalizeGroup ∧
          payload.group = plan.topologies.map (fun topology =>
            ⟨topology.topologyId, topology.revisionId⟩) ∨
        payload.isSingle ∧ ∃ topology ∈ plan.topologies, payload.topologyId = topology.topologyId ∧
            payload.revisionId = topology.revisionId ∧
            payload.previousBindings = topology.previousBindings) := by
  simp only [payloads, mem_cons, mem_flatMap, map_cons, map_nil] at member
  rcases member with rfl | ⟨topology, inside, rfl | rfl | rfl | rfl | impossible⟩
  · exact ⟨⟨rfl, rfl, rfl, rfl⟩, .inl ⟨rfl, rfl⟩⟩
  · exact ⟨rfl, .inr ⟨.inl rfl, topology, inside, rfl, rfl, rfl⟩⟩
  · exact ⟨rfl, .inr ⟨.inl rfl, topology, inside, rfl, rfl, rfl⟩⟩
  · exact ⟨rfl, .inr ⟨.inr (.inl rfl), topology, inside, rfl, rfl, rfl⟩⟩
  · exact ⟨rfl, .inr ⟨.inr (.inr rfl), topology, inside, rfl, rfl, rfl⟩⟩
  · cases impossible

theorem topology?_of_mem {topology : StoreTopologyApplyPlan}
    (distinct : (plan.topologies.map (·.topologyId)).Nodup) (member : topology ∈ plan.topologies) :
    plan.topology? topology.topologyId = some topology := by
  obtain ⟨topologies, _⟩ := plan
  unfold topology?
  induction topologies with
  | nil => cases member
  | cons first rest ih =>
    rw [map_cons, nodup_cons] at distinct
    rcases mem_cons.mp member with rfl | later
    · simp
    · have differs : first.topologyId ≠ topology.topologyId := by
        intro same
        exact distinct.1 (same ▸ mem_map_of_mem later)
      rw [find?_cons_of_neg (by simpa using differs)]
      exact ih distinct.2 later

end ApplyPlan

/-- The plan of the operation applies this revision. -/
def Plane.Plans (plane : Plane) (operationId topologyId revisionId : String) : Prop :=
  ∃ plan, plane.plans[operationId]? = some plan ∧ ∃ topology ∈ plan.topologies,
    topology.topologyId = topologyId ∧ topology.revisionId = revisionId

structure Plane.Orderly (plane : Plane) : Prop where
  sound : plane.topology.Sound
  indexed : plane.jobs.Indexed
  planned : ∀ jobId job, plane.jobs.get jobId = some job → job.kind = .topologyApply →
    ∃ plan, plane.plans[job.operationId]? = some plan ∧
      ∃ payload ∈ plan.payloads, payload.toDocument = job.payload
  contributed : ∀ jobId job, plane.jobs.get jobId = some job →
    job.kind = .contributionProjection → isContributionJob job = true
  distinct : ∀ (operationId : String) plan,
    plane.plans[operationId]? = some plan → (plan.topologies.map (·.topologyId)).Nodup
  owned : ∀ topologyId heads revisionId operationId,
    plane.topology.heads[topologyId]? = some heads →
    heads.applyingRevisionId = some revisionId → heads.applyingOperationId = some operationId →
      heads.lastOperationId = some operationId ∧ plane.Plans operationId topologyId revisionId
  keyed : ∀ row ∈ plane.topology.bindings, plane.topology.heads[row.topologyId]? ≠ none

def PlaneCall.jobCall? : PlaneCall → Option JobCall
  | .claim request => some (.claim request)
  | .heartbeat request => some (.heartbeat request)
  | .complete request => some (.complete request)
  | .recoverJobs nowMs => some (.recoverExpired nowMs)
  | .resolveExpiredGroupSuccess _ _ jobId nowMs result =>
    some (.resolveExpiredSuccess ⟨jobId, nowMs, result⟩)
  | _ => none

def PlaneCall.isElsewhere : PlaneCall → Bool
  | .topology _ | .provider _ => false
  | _ => true

def PlaneCall.Respects : PlaneCall → Plane → Prop
  | .topology (.beginApply topologyId revisionId operationId _), plane =>
    plane.Plans operationId topologyId revisionId
  | .topology (.replaceBindings topologyId _), plane =>
    plane.topology.heads[topologyId]? ≠ none
  | _, _ => True

variable {topologyId revisionId operationId : String}

namespace TopologyTables

/-- How a call that succeeded changed the head of a topology. -/
inductive HeadChange (before : TopologyTables) (call : TopologyCall) (after : TopologyTables)
    (topologyId : String) : Prop
  | kept (same : after.heads[topologyId]? = before.heads[topologyId]?)
  | created (revisionId : String) (absent : before.heads[topologyId]? = none)
      (headed : after.heads[topologyId]? = some ⟨topologyId, revisionId, none, none, none, none⟩)
  | drafted (heads : TopologyHeads) (revisionId : String)
      (found : before.heads[topologyId]? = some heads) (free : heads.applyingRevisionId = none)
      (fresh : ∀ row ∈ before.revisions, row.revisionId ≠ revisionId)
      (edited : after.heads[topologyId]? = some { heads with draftRevisionId := revisionId })
  | moved (first last : TopologyHeads) (found : before.heads[topologyId]? = some first)
      (headed : after.heads[topologyId]? = some last)
      (move : HeadMove before.revisions call topologyId first last)

variable {before after : TopologyTables} {call : TopologyCall}

section

variable (commits : Commits before call after)
include commits

theorem Commits.headChange (topologyId : String) : HeadChange before call after topologyId := by
  cases commits with
  | created revision called absent number parent revisions heads =>
    by_cases here : topologyId = revision.topologyId
    · subst here
      exact .created revision.revisionId absent (by rw [heads, Std.TreeMap.getElem?_insert_self])
    · exact .kept (by rw [heads, getElem?_insert_of_eq, if_neg here])
  | drafted revision heads called found free number parent fresh revisions moved =>
    by_cases here : topologyId = revision.topologyId
    · subst here
      exact .drafted heads revision.revisionId found free fresh
        (by rw [moved, Std.TreeMap.getElem?_insert_self])
    · exact .kept (by rw [moved, getElem?_insert_of_eq, if_neg here])
  | moved revisions heads =>
    rcases heads topologyId with same | ⟨first, last, found, headed, move⟩
    · exact .kept same
    · exact .moved first last found headed move

theorem Commits.headAfter {heads : TopologyHeads} (found : after.heads[topologyId]? = some heads) :
    (∃ first draft, before.heads[topologyId]? = some first ∧
        heads = { first with draftRevisionId := draft }) ∨
      (∃ draft, before.heads[topologyId]? = none ∧
        heads = ⟨topologyId, draft, none, none, none, none⟩) ∨
      ∃ first, before.heads[topologyId]? = some first ∧
        HeadMove before.revisions call topologyId first heads := by
  rcases commits.headChange topologyId with same | ⟨draft, absent, headed⟩ |
    ⟨first, draft, before, _, _, edited⟩ | ⟨first, _, before, headed, move⟩
  · exact .inl ⟨heads, heads.draftRevisionId, same ▸ found, rfl⟩
  · exact .inr (.inl ⟨draft, absent, Option.some.inj (found.symm.trans headed)⟩)
  · exact .inl ⟨first, draft, before, Option.some.inj (found.symm.trans edited)⟩
  · obtain rfl := Option.some.inj (found.symm.trans headed)
    exact .inr (.inr ⟨first, before, move⟩)

theorem Commits.revision? {revision : TopologyRevision}
    (found : before.revision? topologyId revisionId = some revision) :
    after.revision? topologyId revisionId = some revision := by
  have extended : ∃ created, after.revisions = before.revisions ++ created :=
    commits.respects.revisions
  obtain ⟨_, revisions⟩ := extended
  rw [TopologyTables.revision?, revisions, find?_append]
  exact Option.or_eq_some_iff.mpr (.inl found)

theorem Commits.headed (present : before.heads[topologyId]? ≠ none) :
    after.heads[topologyId]? ≠ none := by
  rcases commits.headChange topologyId with same | ⟨_, absent, _⟩ | ⟨_, _, _, _, _, edited⟩ |
    ⟨_, _, _, headed, _⟩
  · rw [same]
    exact present
  · exact absurd absent present
  · rw [edited]
    nofun
  · rw [headed]
    nofun

end

theorem checkGroupLeases_ok {members : List TopologyApplyGroupMember}
    (checked : before.checkGroupLeases operationId members = .ok ()) :
    ∀ member ∈ members, ∃ heads, before.heads[member.topologyId]? = some heads ∧
      heads.applyingRevisionId = some member.revisionId := by
  induction members with
  | nil => simp
  | cons member rest ih =>
    obtain ⟨heads, found, checked⟩ := ok_of_bind checked
    obtain ⟨owned, checked⟩ := ok_of_require_bind checked
    simp only [Bool.and_eq_true, decide_eq_true_eq] at owned
    rw [forall_mem_cons]
    exact ⟨⟨heads, requiredHeads_ok found, owned.1⟩, ih checked⟩

theorem members_owned [Digests] [AddressSyntax]
    {evidence : String → Except StorageError (Option LeaseEvidence)} {result : call.Result}
    (committed : before.exec evidence call = (.ok result, after)) :
    ∀ member ∈ call.members, ∃ heads, before.heads[member.topologyId]? = some heads ∧
      heads.applyingRevisionId = some member.revisionId := by
  intro member inside
  cases call with
  | finishGroup members operationId updatedAt =>
    obtain ⟨_, _, steps⟩ := ok_of_bind (ok_of_transact committed)
    obtain ⟨⟨⟩, checked, _⟩ := ok_of_bind steps
    exact checkGroupLeases_ok checked member inside
  | finishGroupFenced members operationId updatedAt fence =>
    obtain ⟨_, _, steps⟩ := ok_of_bind (ok_of_transact committed)
    obtain ⟨_, _, steps⟩ := ok_of_bind steps
    obtain ⟨⟨⟩, checked, _⟩ := ok_of_bind steps
    exact checkGroupLeases_ok checked member inside
  | _ => cases inside

end TopologyTables

namespace Plane

variable {call : PlaneCall}

section

variable {plane : Plane} {jobId : String} {later : Job}

theorem Plans.mono {later : Plane} (kept : plane.KeepsPlans later)
    (plans : plane.Plans operationId topologyId revisionId) :
    later.Plans operationId topologyId revisionId := by
  obtain ⟨plan, found, member⟩ := plans
  exact ⟨plan, kept _ _ found, member⟩

variable [Digests] [AddressSyntax]

theorem exec_keepsPlans (call : PlaneCall) (plane : Plane) :
    plane.KeepsPlans (exec call plane).2 := by
  intro operationId plan found
  cases call with
  | topology call =>
    rw [exec_topology_plans]
    exact found
  | resolveExpiredGroupSuccess members operation jobId nowMs result =>
    simp only [exec, Plane.resolveExpiredGroupSuccess]
    split
    · exact found
    · split
      · exact found
      · split_ifs <;> exact found
  | plan operation proposed =>
    simp only [exec, recordPlan]
    split
    · exact found
    · rename_i absent
      split_ifs
      · simp only [getElem?_insert_of_eq]
        split_ifs with same
        · subst same
          rw [absent] at found
          cases found
        · exact found
      · exact found
  | _ => exact found

theorem exec_jobs (call : PlaneCall) (plane : Plane) : (exec call plane).2.jobs = plane.jobs ∨
      ∃ jobCall, call.jobCall? = some jobCall ∧
        (exec call plane).2.jobs = (plane.jobs.exec jobCall).2 := by
  cases call with
  | claim request | heartbeat request | complete request | recoverJobs nowMs =>
    exact .inr ⟨_, rfl, rfl⟩
  | topology call =>
    refine .inl ?_
    rcases exec_topology_cases plane call with ⟨_, _, _, same⟩ | ⟨_, _, same⟩
    · rw [same]
      rfl
    · rw [same]
  | resolveExpiredGroupSuccess members operationId jobId nowMs result =>
    simp only [exec, Plane.resolveExpiredGroupSuccess]
    split
    · exact .inl rfl
    · split
      · exact .inl rfl
      · rename_i job resolved outcome
        split_ifs
        · refine .inr ⟨_, rfl, ?_⟩
          simp only [MemoryJobStore.exec, outcome]
          rfl
        · exact .inl rfl
  | plan operationId plan =>
    refine .inl ?_
    simp only [exec, recordPlan]
    split
    · rfl
    · split_ifs <;> rfl
  | _ => exact .inl rfl

/-- Only topology calls write the tables and end applies, and only provider calls are
recorded. -/
theorem exec_elsewhere (elsewhere : call.isElsewhere = true) (plane : Plane) :
    (exec call plane).2.topology = plane.topology ∧
      (exec call plane).2.providerCalls = plane.providerCalls := by
  cases call with
  | topology inner | provider inner => cases elsewhere
  | resolveExpiredGroupSuccess members operationId jobId nowMs result =>
    simp only [exec, Plane.resolveExpiredGroupSuccess]
    split
    · exact ⟨rfl, rfl⟩
    · split
      · exact ⟨rfl, rfl⟩
      · split_ifs <;> exact ⟨rfl, rfl⟩
  | plan operationId plan =>
    simp only [exec, recordPlan]
    split
    · exact ⟨rfl, rfl⟩
    · split_ifs <;> exact ⟨rfl, rfl⟩
  | _ => exact ⟨rfl, rfl⟩

theorem exec_origin (indexed : plane.jobs.Indexed) (call : PlaneCall)
    (found : (exec call plane).2.jobs.get jobId = some later) :
    ∃ earlier, plane.jobs.get jobId = some earlier ∧
      (later = earlier ∨ ∃ jobCall, call.jobCall? = some jobCall ∧ earlier.Move jobCall later) := by
  rcases exec_jobs call plane with same | ⟨jobCall, called, same⟩
  · rw [same] at found
    exact ⟨later, found, .inl rfl⟩
  · rw [same] at found
    have updating : ∀ new nowMs, jobCall ≠ .enqueue new nowMs := by
      rintro new nowMs rfl
      cases call <;> cases called
    obtain ⟨earlier, stored, unchanged | move⟩ :=
      MemoryJobStore.exec_origin indexed updating found
    · exact ⟨earlier, stored, .inl unchanged⟩
    · exact ⟨earlier, stored, .inr ⟨jobCall, called, move⟩⟩

theorem exec_task (indexed : plane.jobs.Indexed) (call : PlaneCall)
    (found : (exec call plane).2.jobs.get jobId = some later) :
    ∃ earlier, plane.jobs.get jobId = some earlier ∧ later.payload = earlier.payload ∧
      later.kind = earlier.kind ∧ later.operationId = earlier.operationId := by
  obtain ⟨earlier, stored, rfl | ⟨_, _, move⟩⟩ := exec_origin indexed call found
  · exact ⟨later, stored, rfl, rfl, rfl⟩
  · obtain ⟨payload, kind, operation, _⟩ := move.task
    exact ⟨earlier, stored, payload, kind, operation⟩

theorem exec_indexed (indexed : plane.jobs.Indexed) (call : PlaneCall) :
    (exec call plane).2.jobs.Indexed := by
  rcases exec_jobs call plane with same | ⟨jobCall, _, same⟩
  · rw [same]
    exact indexed
  · rw [same]
    exact MemoryJobStore.exec_indexed indexed jobCall

end

section

variable {plane : Plane} {after : TopologyTables}

theorem Orderly.ownedAfter (orderly : plane.Orderly) {call : TopologyCall}
    (commits : TopologyTables.Commits plane.topology call after)
    (respects : (PlaneCall.topology call).Respects plane) {heads : TopologyHeads}
    (found : after.heads[topologyId]? = some heads)
    (applying : heads.applyingRevisionId = some revisionId)
    (owner : heads.applyingOperationId = some operationId) :
    heads.lastOperationId = some operationId ∧ plane.Plans operationId topologyId revisionId := by
  rcases commits.headAfter found with ⟨first, _, before, rfl⟩ | ⟨_, _, rfl⟩ | ⟨first, before, move⟩
  · exact orderly.owned topologyId first revisionId operationId before applying owner
  · cases applying
  · cases move with
    | begin revision operation updatedAt called draft free =>
      cases applying
      cases owner
      subst called
      exact ⟨rfl, respects⟩
    | finish | compensate | abort => cases applying

variable [Digests] [AddressSyntax] (orderly : plane.Orderly)
include orderly

theorem Orderly.jobs (call : PlaneCall) :
    let after := (exec call plane).2
    (∀ jobId job, after.jobs.get jobId = some job → job.kind = .topologyApply →
      ∃ plan, after.plans[job.operationId]? = some plan ∧
        ∃ payload ∈ plan.payloads, payload.toDocument = job.payload) ∧
    (∀ jobId job, after.jobs.get jobId = some job → job.kind = .contributionProjection →
      isContributionJob job = true) := by
  constructor
  · intro jobId job found kind
    obtain ⟨earlier, stored, payload, sameKind, operation⟩ := exec_task orderly.indexed call found
    obtain ⟨plan, planned, written⟩ := orderly.planned jobId earlier stored (sameKind ▸ kind)
    rw [operation, payload]
    exact ⟨plan, exec_keepsPlans call plane _ _ planned, written⟩
  · intro jobId job found kind
    obtain ⟨earlier, stored, payload, sameKind, _⟩ := exec_task orderly.indexed call found
    have contributed := orderly.contributed jobId earlier stored (sameKind ▸ kind)
    rw [isContributionJob, payload, sameKind]
    exact contributed

theorem Orderly.sameTopology (topology : (exec call plane).2.topology = plane.topology)
    (distinct : ∀ (operationId : String) plan, (exec call plane).2.plans[operationId]? = some plan →
        (plan.topologies.map (·.topologyId)).Nodup) : (exec call plane).2.Orderly := by
  obtain ⟨planned, contributed⟩ := orderly.jobs call
  refine ⟨?_, exec_indexed orderly.indexed call, planned, contributed, distinct, ?_, ?_⟩
  · rw [topology]
    exact orderly.sound
  · intro topologyId heads revisionId operationId found applying owner
    rw [topology] at found
    obtain ⟨last, plans⟩ := orderly.owned topologyId heads revisionId operationId found applying
      owner
    exact ⟨last, plans.mono (exec_keepsPlans call plane)⟩
  · rw [topology]
    exact orderly.keyed

theorem Orderly.rewritten {call : TopologyCall} {result : call.Result}
    (committed : plane.topology.exec plane.leaseEvidence call = (.ok result, after))
    (respects : (PlaneCall.topology call).Respects plane) :
    ∀ row ∈ after.bindings, plane.topology.heads[row.topologyId]? ≠ none := by
  obtain ⟨rows, keyed⟩ := exec_bindings committed
  rw [rows]
  intro row member
  cases call with
  | replaceBindings topologyId bindings =>
    rcases mem_append.mp member with old | new
    · exact orderly.keyed row (mem_of_mem_filter old)
    · rw [keyed row new]
      exact respects
  | finishGroup members operationId updatedAt
  | finishGroupFenced members operationId updatedAt fence =>
    rcases mem_append.mp member with old | new
    · exact orderly.keyed row (mem_of_mem_filter old)
    · obtain ⟨owner, inside, among⟩ := mem_flatMap.mp new
      obtain ⟨_, found, _⟩ := members_owned committed owner inside
      rw [keyed.2 owner inside row among, found]
      nofun
  | _ => exact orderly.keyed row member

theorem Orderly.exec (respects : call.Respects plane) : (exec call plane).2.Orderly := by
  cases call with
  | topology call =>
    obtain ⟨planned, contributed⟩ := orderly.jobs (.topology call)
    rcases exec_topology_cases plane call with ⟨result, _, committed, same⟩ |
      ⟨_, _, same⟩
    · have commits := exec_commits committed
      have indexed := exec_indexed orderly.indexed (.topology call)
      rw [same] at planned contributed indexed ⊢
      refine ⟨orderly.sound.commits commits, indexed, planned, contributed, orderly.distinct,
        ?_, ?_⟩
      · intro topologyId heads revisionId operationId found applying owner
        exact orderly.ownedAfter commits respects found applying owner
      · intro row member
        exact commits.headed (orderly.rewritten committed respects row member)
    · rw [same]
      exact orderly
  | resolveExpiredGroupSuccess members operationId jobId nowMs result =>
    refine orderly.sameTopology (exec_elsewhere rfl plane).1 ?_
    simp only [Plane.exec, Plane.resolveExpiredGroupSuccess]
    split
    · exact orderly.distinct
    · split
      · exact orderly.distinct
      · split_ifs <;> exact orderly.distinct
  | plan operationId plan =>
    refine orderly.sameTopology (exec_elsewhere rfl plane).1 ?_
    simp only [Plane.exec, recordPlan]
    split
    · exact orderly.distinct
    · split_ifs with distinct
      · intro other found
        simp only [getElem?_insert_of_eq]
        split_ifs
        · rintro ⟨⟩
          exact distinct
        · exact orderly.distinct other found
      · exact orderly.distinct
  | _ => exact orderly.sameTopology rfl orderly.distinct

end

variable {start plane : Plane} {env : WorkerEnvironment} {held : HeldJob}
  {payload : TopologyApplyPayload}

theorem claimedJob_cases (indexed : start.jobs.Indexed) {job : Job}
    (claimed : start.claimedJob env = some job) :
    ∃ stored request, start.jobs.get job.jobId = some stored ∧ job = stored.claimed request := by
  unfold claimedJob at claimed
  split at claimed
  · cases claimed
  · rename_i leaseToken _
    rcases MemoryJobStore.claim_cases indexed (claimRequest env leaseToken) with
      ⟨_, refused⟩ | ⟨stored, found, _, outcome⟩
    · split at claimed
      · cases claimed
      · rename_i answer answered
        subst claimed
        exact absurd answered (refused job)
    · rw [outcome] at claimed
      simp only [Option.some.injEq] at claimed
      subst claimed
      exact ⟨stored, claimRequest env leaseToken, found, rfl⟩

section

variable (orderly : start.Orderly) (pass : start.Runs env held payload)
include orderly pass

/-- The payload that a pass runs is one of the plan of its operation. -/
theorem Orderly.runs :
    ∃ plan, start.plans[held.job.operationId]? = some plan ∧ payload ∈ plan.payloads := by
  obtain ⟨stored, _, found, same⟩ := claimedJob_cases orderly.indexed pass.claimed
  have kind : stored.kind = .topologyApply := by
    rw [← pass.kind, same]
    rfl
  obtain ⟨plan, planned, written, member, document⟩ := orderly.planned _ stored found kind
  have decoded := pass.decoded
  have samePayload : held.job.payload = written.toDocument := by
    rw [document, same]
    rfl
  rw [samePayload, TopologyApplyPayload.ofDocument_toDocument (ApplyPlan.mem_payloads member).1]
    at decoded
  obtain rfl := Except.ok.inj decoded
  refine ⟨plan, ?_, member⟩
  rw [same]
  exact planned

theorem Orderly.single : payload.phase = .finalizeGroup ∨ payload.isSingle := by
  obtain ⟨_, _, member⟩ := orderly.runs pass
  rcases (ApplyPlan.mem_payloads member).2 with ⟨group, _⟩ | ⟨single, _⟩
  · exact .inl group
  · exact .inr single

theorem Orderly.runs_topology (single : payload.isSingle) :
    ∃ plan, start.plans[held.job.operationId]? = some plan ∧
      ∃ topology ∈ plan.topologies, payload.topologyId = topology.topologyId ∧
        payload.revisionId = topology.revisionId ∧
        payload.previousBindings = topology.previousBindings := by
  obtain ⟨plan, planned, member⟩ := orderly.runs pass
  rcases (ApplyPlan.mem_payloads member).2 with ⟨group, _⟩ | ⟨_, topology⟩
  · rcases single with phase | phase | phase <;> rw [phase] at group <;> cases group
  · exact ⟨plan, planned, topology⟩

end

theorem respects_of_isRead (reads : call.isRead = true) : call.Respects plane := by
  cases call with
  | topology call => cases reads
  | _ => trivial

theorem passCall_respects (orderly : start.Orderly) (lawful : PassCall start env call plane) :
    call.Respects plane := by
  cases lawful with
  | reacquire runs phase same =>
    obtain ⟨plan, planned, topology, member, sameTopology, sameRevision, _⟩ :=
      orderly.runs_topology runs (.inl phase)
    refine ⟨plan, ?_, topology, member, sameTopology.symm, sameRevision.symm⟩
    rw [same.plans]
    exact planned
  | @phase held payload heads origin _ _ runs provided single begins admits lawful =>
    cases lawful with
    | write inside write =>
      have present : plane.topology.heads[payload.topologyId]? ≠ none := by
        rw [inside.heads, begins.found]
        nofun
      cases write with
      | stage | restore | activate => exact present
      | _ => trivial
    | read reads => exact respects_of_isRead reads
    | _ => trivial
  | read reads => exact respects_of_isRead reads
  | _ => trivial

theorem recoveryCall_respects {nowMs : Int} (lawful : RecoveryCall start nowMs call plane) :
    call.Respects plane := by
  cases lawful with
  | read reads => exact respects_of_isRead reads
  | _ => trivial

theorem terminalCall_respects {statuses : String → Option DurableOperationStatus}
    (lawful : TerminalCall start statuses call plane) : call.Respects plane := by
  cases lawful with
  | read reads => exact respects_of_isRead reads
  | _ => trivial

theorem requestCall_respects (lawful : RequestCall call plane) : call.Respects plane := by
  cases lawful with
  | begin planned member => exact ⟨_, planned, _, member, rfl, rfl⟩
  | read reads => exact respects_of_isRead reads
  | _ => trivial

end Plane

end UntitledOJ
