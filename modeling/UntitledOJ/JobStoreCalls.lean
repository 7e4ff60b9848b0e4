import UntitledOJ.CallSequence
import UntitledOJ.JobEvolution

/-!
# Sequences of job store calls

The calls of `JobStore` as data: a call leaves a job alone, adds a queued job, or makes the one
move that its kind allows.
-/

namespace UntitledOJ

/-- The calls of `JobStore` that a backend answers. -/
inductive JobCall where
  | enqueue (new : NewJob) (nowMs : Int)
  | claim (request : ClaimRequest)
  | heartbeat (request : HeartbeatRequest)
  | complete (request : CompleteRequest)
  | resolveExpiredSuccess (request : ResolveExpiredSuccessRequest)
  | requestCancel (jobId : String) (nowMs : Int)
  | recoverExpired (nowMs : Int)
  | expiredLeases (nowMs : Int)

inductive JobReply where
  | job (result : Except JobError Job)
  | claimed (result : Except JobError (Option Job))
  | jobs (result : Except JobError (List Job))
  deriving DecidableEq

namespace MemoryJobStore

def exec [Digests] (store : MemoryJobStore) : JobCall → JobReply × MemoryJobStore
  | .enqueue new nowMs => ((store.enqueue new nowMs).map .job id)
  | .claim request => ((store.claim request).map .claimed id)
  | .heartbeat request => ((store.heartbeat request).map .job id)
  | .complete request => ((store.complete request).map .job id)
  | .resolveExpiredSuccess request => ((store.resolveExpiredSuccess request).map .job id)
  | .requestCancel jobId nowMs => ((store.requestCancel jobId nowMs).map .job id)
  | .recoverExpired nowMs => ((store.recoverExpired nowMs).map (.jobs ∘ .ok) id)
  | .expiredLeases nowMs => (.jobs (.ok (store.expiredLeases nowMs)), store)

end MemoryJobStore

def JobCall.nowMs : JobCall → Int
  | .enqueue _ nowMs => nowMs
  | .claim request => request.nowMs
  | .heartbeat request => request.nowMs
  | .complete request => request.nowMs
  | .resolveExpiredSuccess request => request.nowMs
  | .requestCancel _ nowMs => nowMs
  | .recoverExpired nowMs => nowMs
  | .expiredLeases nowMs => nowMs

def JobCall.report : JobCall → Option (String × String)
  | .heartbeat request => some (request.jobId, request.leaseToken)
  | .complete request => some (request.jobId, request.leaseToken)
  | _ => none

def JobCall.events : JobCall → List NewJobEvent
  | .heartbeat request => request.events
  | .complete request => request.events
  | _ => []

/-- Whether the call may find that the lease of this job has expired. -/
def JobCall.observes (call : JobCall) (jobId : String) : Prop :=
  (∃ token, call.report = some (jobId, token)) ∨ ∃ nowMs, call = .recoverExpired nowMs

namespace Job

inductive Move [Digests] (job : Job) : JobCall → Job → Prop
  | claim {request : ClaimRequest} (claimable : job.status.isClaimable = true) :
      job.Move (.claim request) (job.claimed request)
  | renew {request : HeartbeatRequest} (named : request.jobId = job.jobId)
      (active : MemoryJobStore.leaseActive job request.leaseToken request.nowMs = true) :
      job.Move (.heartbeat request) (job.renewed request)
  | complete {request : CompleteRequest} (named : request.jobId = job.jobId)
      (active : MemoryJobStore.leaseActive job request.leaseToken request.nowMs = true) :
      job.Move (.complete request) (MemoryJobStore.completeJob job request
        (UntitledOJ.completionFingerprint request.status request.result request.errorMessage))
  | resolve {request : ResolveExpiredSuccessRequest}
      (expired : MemoryJobStore.leaseExpired job request.nowMs = true) :
      job.Move (.resolveExpiredSuccess request) (job.resolved request)
  | cancel {jobId : String} {nowMs : Int} (live : job.status.isTerminal = false) :
      job.Move (.requestCancel jobId nowMs) (MemoryJobStore.cancelJob job nowMs)
  | recover (call : JobCall) (observes : call.observes job.jobId)
      (expired : MemoryJobStore.leaseExpired job call.nowMs = true) :
      job.Move call (MemoryJobStore.recoverExpiredJob job call.nowMs)

open JobStatus (isTerminal_of_isHeld isTerminal_of_isClaimable)

theorem Move.evolves [Digests] {job later : Job} {call : JobCall} (move : job.Move call later) :
    job.Evolves later := by
  cases move with
  | claim claimable => exact .of_live rfl (isTerminal_of_isClaimable claimable)
  | renew named active => exact .of_live rfl (isTerminal_of_isHeld (held_of_leaseActive active))
  | complete named active =>
    exact .of_live (MemoryJobStore.completeJob_identity ..)
      (isTerminal_of_isHeld (held_of_leaseActive active))
  | resolve expired => exact .of_live rfl (isTerminal_of_isHeld (held_of_leaseExpired expired))
  | cancel live => exact MemoryJobStore.cancelJob_evolves job _
  | recover _ observes expired => exact MemoryJobStore.recoverExpiredJob_evolves expired

end Job

namespace MemoryJobStore

theorem recoverJobs_moves (store : MemoryJobStore) (nowMs : Int) (snapshot : List Job) :
    (store.recoverJobs nowMs snapshot).2.idempotency = store.idempotency ∧
      ∀ jobId, (store.recoverJobs nowMs snapshot).2.get jobId = store.get jobId ∨
        ∃ job ∈ snapshot, job.jobId = jobId ∧
          (store.recoverJobs nowMs snapshot).2.get jobId = some (recoverExpiredJob job nowMs) := by
  induction snapshot generalizing store with
  | nil => exact ⟨rfl, fun _ => .inl rfl⟩
  | cons job rest ih =>
    obtain ⟨index, jobs⟩ := ih (store.putJob job.jobId (recoverExpiredJob job nowMs))
    refine ⟨index, ?_⟩
    intro jobId
    simp only [recoverJobs]
    rcases jobs jobId with kept | ⟨other, member, named, recovered⟩
    · rw [kept, get_putJob]
      split_ifs with same
      · exact .inr ⟨job, List.mem_cons_self, same.symm, rfl⟩
      · exact .inl rfl
    · exact .inr ⟨other, List.mem_cons_of_mem _ member, named, recovered⟩

variable [Digests] {store : MemoryJobStore} {call : JobCall}

inductive Changes (call : JobCall) (before after : Option Job) : Prop
  | same (kept : after = before)
  | add {job : Job} (missing : before = none) (added : after = some job) (fresh : job.Fresh)
  | move {job later : Job} (found : before = some job) (stored : after = some later)
      (move : job.Move call later)

/-- The call moved some of the stored jobs, and left the other jobs and the index
as they were. -/
structure Moves (call : JobCall) (before after : MemoryJobStore) : Prop where
  index : after.idempotency = before.idempotency
  jobs : ∀ jobId, after.get jobId = before.get jobId ∨
    ∃ job later, before.get jobId = some job ∧ after.get jobId = some later ∧ job.Move call later

theorem Moves.refl (call : JobCall) (store : MemoryJobStore) : Moves call store store :=
  ⟨rfl, fun _ => .inl rfl⟩

theorem putJob_moves {jobId : String} {job later : Job} (found : store.get jobId = some job)
    (move : job.Move call later) : Moves call store (store.putJob jobId later) := by
  refine ⟨rfl, ?_⟩
  intro other
  rw [get_putJob]
  split_ifs with same
  · exact .inr ⟨job, later, same ▸ found, rfl, move⟩
  · exact .inl rfl

theorem Moves.updates {before after : MemoryJobStore} (moves : Moves call before after) :
    before.Updates after where
  index := moves.index
  evolves := by
    refine ⟨?_⟩
    intro jobId job found
    rcases moves.jobs jobId with kept | ⟨_, later, earlier, stored, move⟩
    · exact ⟨job, kept.trans found, .refl job⟩
    · cases earlier.symm.trans found
      exact ⟨later, stored, move.evolves⟩
  origin := by
    intro jobId job found
    rcases moves.jobs jobId with kept | ⟨earlier, _, existed, stored, move⟩
    · exact ⟨job, kept ▸ found, .refl job⟩
    · cases stored.symm.trans found
      exact ⟨earlier, existed, move.evolves⟩

theorem enqueue_changes (new : NewJob) (nowMs : Int) (jobId : String) :
    Changes (.enqueue new nowMs) (store.get jobId) ((store.enqueue new nowMs).2.get jobId) := by
  rcases enqueue_cases store new nowMs with ⟨_, rejected, _⟩ | ⟨_, existing, _⟩ |
    ⟨job, added, _, missing, identity, _, fresh⟩
  · rw [rejected]
    exact .same rfl
  · rw [existing]
    exact .same rfl
  · have named : job.jobId = new.jobId := congrArg JobIdentity.jobId identity
    rw [added, get_addJob]
    split_ifs with same
    · exact .add (by rw [same, named, missing]) rfl fresh
    · exact .same rfl

theorem Reported.moves {jobId token : String} {events : List NewJobEvent}
    {write : Job → Job} {result : Except JobError Job × MemoryJobStore}
    (reported : store.Reported jobId token call.nowMs events write result)
    (indexed : store.Indexed) (report : call.report = some (jobId, token))
    (writes : ∀ job, jobId = job.jobId → leaseActive job token call.nowMs = true →
      job.Move call (write job)) : Moves call store result.2 := by
  cases reported with
  | unchanged same =>
    rw [same]
    exact .refl call store
  | recovered found expired recovers =>
    rw [recovers]
    exact putJob_moves found
      (.recover call (.inl ⟨token, by rw [indexed.keyed found, report]⟩) expired)
  | @conflict job error appended found active append stops =>
    obtain rfl : (store.appendEvents jobId call.nowMs events).2 = appended := by rw [append]
    rw [stops]
    exact ⟨rfl, fun _ => .inl rfl⟩
  | @accepted job appended found active append written =>
    obtain rfl : (store.appendEvents jobId call.nowMs events).2 = appended := by rw [append]
    have moves := putJob_moves found (writes job (indexed.keyed found).symm active)
    rw [written]
    exact ⟨rfl, moves.jobs⟩

theorem requestCancel_moves (jobId : String) (nowMs : Int) :
    Moves (.requestCancel jobId nowMs) store (store.requestCancel jobId nowMs).2 := by
  simp only [requestCancel]
  split
  · exact .refl _ store
  · rename_i job found
    cases live : job.status.isTerminal with
    | false => exact putJob_moves found (.cancel live)
    | true =>
      -- a terminal job is written back as it was
      have unchanged : cancelJob job nowMs = job := by
        cases status : job.status <;> simp_all [cancelJob, JobStatus.isTerminal]
      refine ⟨rfl, ?_⟩
      intro other
      rw [unchanged, get_putJob]
      split_ifs with same
      · exact .inl (by rw [same, found])
      · exact .inl rfl

theorem exec_moves (indexed : store.Indexed) (call : JobCall)
    (updating : ∀ new nowMs, call ≠ .enqueue new nowMs) : Moves call store (store.exec call).2 := by
  cases call with
  | enqueue new nowMs => exact absurd rfl (updating new nowMs)
  | claim request =>
    simp only [exec, Prod.map_snd, id_eq]
    rcases claim_cases indexed request with ⟨same, _⟩ | ⟨job, found, claimable, claims⟩
    · rw [same]
      exact .refl _ store
    · rw [claims]
      exact putJob_moves found (.claim claimable)
  | heartbeat request =>
    exact (heartbeat_reported store request).moves indexed rfl fun _ => .renew
  | complete request =>
    exact (complete_reported store request).moves indexed rfl fun _ => .complete
  | resolveExpiredSuccess request =>
    simp only [exec, Prod.map_snd, id_eq]
    rcases resolveExpiredSuccess_cases store request with same | ⟨job, found, expired, resolves⟩
    · rw [same]
      exact .refl _ store
    · rw [resolves]
      exact putJob_moves found (.resolve expired)
  | requestCancel jobId nowMs => exact requestCancel_moves jobId nowMs
  | recoverExpired nowMs =>
    obtain ⟨index, jobs⟩ := recoverJobs_moves store nowMs (store.expiredLeases nowMs)
    refine ⟨index, ?_⟩
    intro jobId
    rcases jobs jobId with kept | ⟨job, member, rfl, recovered⟩
    · exact .inl kept
    · obtain ⟨listed, expired⟩ := mem_expiredLeases member
      exact .inr ⟨job, _, indexed.get_of_mem listed, recovered,
        .recover (.recoverExpired nowMs) (.inr ⟨nowMs, rfl⟩) expired⟩
  | expiredLeases nowMs => exact .refl _ store

theorem exec_changes (indexed : store.Indexed) (call : JobCall) (jobId : String) :
    Changes call (store.get jobId) ((store.exec call).2.get jobId) := by
  by_cases enqueues : ∃ new nowMs, call = .enqueue new nowMs
  · obtain ⟨new, nowMs, rfl⟩ := enqueues
    exact enqueue_changes new nowMs jobId
  · rcases (exec_moves indexed call (by simpa using enqueues)).jobs jobId with
      kept | ⟨_, _, found, stored, move⟩
    · exact .same kept
    · exact .move found stored move

end MemoryJobStore

end UntitledOJ
