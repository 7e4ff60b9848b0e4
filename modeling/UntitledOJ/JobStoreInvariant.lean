import UntitledOJ.JobStoreCalls

/-!
# The invariant of the job store

Stored jobs keep their attempts within the budget, hold a lease exactly while a worker may report
on it, carry a completion time exactly when they are finished, and are final then.  The
idempotency index names exactly the stored jobs.
-/

namespace UntitledOJ

open JobStatus (isTerminal isTerminal_of_isHeld)

/-- What a stored job looks like between two calls. -/
structure Job.Consistent (job : Job) : Prop where
  attempts : job.attempt ≤ job.maxAttempts
  waiting : job.status = .queued ∨ job.status = .retryWait →
    job.leaseOwner = none ∧ job.leaseToken = none ∧ job.leaseExpiresAtMs = none ∧
      job.attempt < job.maxAttempts
  held : job.status = .leased ∨ job.status = .cancelRequested →
    job.leaseOwner.isSome ∧ job.leaseToken.isSome ∧ job.leaseExpiresAtMs.isSome
  completed : job.completedAtMs.isSome = job.status.isTerminal

namespace JobStatus

variable {status : JobStatus}

theorem isHeld_iff : status.isHeld = true ↔ status = .leased ∨ status = .cancelRequested := by
  cases status <;> simp [isHeld]

theorem isClaimable_iff : status.isClaimable = true ↔ status = .queued ∨ status = .retryWait := by
  cases status <;> simp [isClaimable]

end JobStatus

namespace Job

theorem Fresh.consistent {job : Job} (fresh : job.Fresh) : job.Consistent where
  attempts := by simp [fresh.attempt]
  waiting _ := by
    obtain ⟨owner, token, deadline⟩ := fresh.unowned
    exact ⟨owner, token, deadline, by simp [fresh.attempt, fresh.budget]⟩
  held status := by simp [fresh.status] at status
  completed := by simp [fresh.unfinished, fresh.status, isTerminal]

variable {job : Job}

section

variable (consistent : job.Consistent)

include consistent

theorem Consistent.unfinished_of_held (held : job.status.isHeld = true) :
    job.completedAtMs = none := by
  have completed := consistent.completed
  rw [isTerminal_of_isHeld held] at completed
  simpa using completed

theorem Consistent.claimed (claimable : job.status.isClaimable = true) (request : ClaimRequest) :
    (job.claimed request).Consistent where
  attempts := (consistent.waiting (JobStatus.isClaimable_iff.mp claimable)).2.2.2
  waiting status := by simp [Job.claimed] at status
  held _ := ⟨rfl, rfl, rfl⟩
  completed := by
    have completed := consistent.completed
    rw [JobStatus.isTerminal_of_isClaimable claimable] at completed
    exact completed

theorem Consistent.renewed (held : job.status.isHeld = true) (request : HeartbeatRequest) :
    (job.renewed request).Consistent where
  attempts := consistent.attempts
  waiting status := by
    have unclaimable : job.status ≠ .queued ∧ job.status ≠ .retryWait := by
      rcases JobStatus.isHeld_iff.mp held with _ | _ <;> simp_all
    exact absurd status (by simp [Job.renewed, unclaimable])
  held status := by
    obtain ⟨owner, token, _⟩ := consistent.held status
    exact ⟨owner, token, rfl⟩
  completed := consistent.completed

theorem Consistent.completeJob (held : job.status.isHeld = true) (request : CompleteRequest)
    (fingerprint : String) : (MemoryJobStore.completeJob job request fingerprint).Consistent := by
  have unfinished := consistent.unfinished_of_held held
  have attempts := consistent.attempts
  cases outcome : request.status with
  | retryableFailure =>
    by_cases budget : job.attempt < job.maxAttempts
    · constructor <;>
        simp [MemoryJobStore.completeJob, outcome, budget, isTerminal, attempts, unfinished]
    · constructor <;>
        simp [MemoryJobStore.completeJob, outcome, budget, isTerminal, attempts]
  | _ =>
    constructor <;>
      simp [MemoryJobStore.completeJob, outcome, isTerminal, attempts]

theorem Consistent.resolved [Digests] (request : ResolveExpiredSuccessRequest) :
    (job.resolved request).Consistent where
  attempts := consistent.attempts
  waiting status := by simp [Job.resolved] at status
  held status := by simp [Job.resolved] at status
  completed := rfl

theorem Consistent.cancelJob (live : job.status.isTerminal = false) (nowMs : Int) :
    (MemoryJobStore.cancelJob job nowMs).Consistent := by
  obtain ⟨attempts, _, held, completed⟩ := consistent
  cases status : job.status with
  | queued | retryWait =>
    constructor <;> simp [MemoryJobStore.cancelJob, status, isTerminal, attempts]
  | leased | cancelRequested =>
    rw [live] at completed
    have owned := held (by simp [status])
    constructor <;>
      simp [MemoryJobStore.cancelJob, status, isTerminal, attempts, owned,
        Option.isSome_eq_false_iff.mp completed]
  | succeeded | failed | cancelled | needsAttention => simp [status, isTerminal] at live

theorem Consistent.recoverExpiredJob (held : job.status.isHeld = true) (nowMs : Int) :
    (MemoryJobStore.recoverExpiredJob job nowMs).Consistent := by
  have unfinished := consistent.unfinished_of_held held
  have attempts := consistent.attempts
  simp only [MemoryJobStore.recoverExpiredJob]
  split_ifs with cancelling retryable
  · exact ⟨attempts, by simp, by simp, by simp [isTerminal]⟩
  · exact ⟨attempts, fun _ => ⟨rfl, rfl, rfl, retryable.2⟩, by simp,
      by simp [unfinished, isTerminal]⟩
  · exact ⟨attempts, by simp, by simp, by simp [isTerminal]⟩
  · exact ⟨attempts, by simp, by simp, by simp [isTerminal]⟩

end

variable [Digests] {call : JobCall} {later : Job}

theorem Consistent.move (consistent : job.Consistent) (move : job.Move call later) :
    later.Consistent := by
  cases move with
  | claim claimable => exact consistent.claimed claimable _
  | renew named active => exact consistent.renewed (held_of_leaseActive active) _
  | complete named active => exact consistent.completeJob (held_of_leaseActive active) _ _
  | resolve expired => exact consistent.resolved _
  | cancel live => exact consistent.cancelJob live _
  | recover _ observes expired =>
    exact consistent.recoverExpiredJob (held_of_leaseExpired expired) _

theorem Move.live (move : job.Move call later) : job.status.isTerminal = false := by
  cases move with
  | claim claimable => exact JobStatus.isTerminal_of_isClaimable claimable
  | renew named active | complete named active =>
    exact isTerminal_of_isHeld (held_of_leaseActive active)
  | resolve expired => exact isTerminal_of_isHeld (held_of_leaseExpired expired)
  | cancel live => exact live
  | recover _ observes expired =>
    exact isTerminal_of_isHeld (held_of_leaseExpired expired)

end Job

namespace MemoryJobStore

variable [Digests] {store : MemoryJobStore} {jobId : String} {job : Job}

theorem enqueue_indexed (indexed : store.Indexed) (new : NewJob) (nowMs : Int) :
    (store.enqueue new nowMs).2.Indexed := by
  rcases enqueue_cases store new nowMs with ⟨_, rejected, _⟩ | ⟨_, found, _⟩ |
    ⟨_, added, unlisted, missing, identity, _⟩
  · rw [rejected]
    exact indexed
  · rw [found]
    exact indexed
  · rw [added]
    simp only [Job.identity, NewJob.identity, JobIdentity.mk.injEq] at identity
    obtain ⟨sameId, _, sameNode, _, _, sameKey⟩ := identity
    exact indexed.addJob (by rw [sameNode, sameKey, unlisted]) (by rw [sameId, missing])

theorem exec_indexed (indexed : store.Indexed) (call : JobCall) : (store.exec call).2.Indexed := by
  by_cases enqueues : ∃ new nowMs, call = .enqueue new nowMs
  · obtain ⟨new, nowMs, rfl⟩ := enqueues
    exact enqueue_indexed indexed new nowMs
  · exact indexed.update (exec_moves indexed call (by simpa using enqueues)).updates

/-- The invariant of the store: its index and the shape of its jobs. -/
structure Valid (store : MemoryJobStore) : Prop where
  indexed : store.Indexed
  consistent : ∀ {jobId job}, store.get jobId = some job → job.Consistent

omit [Digests] in
theorem valid_empty : empty.Valid where
  indexed := indexed_empty
  consistent found := by simp [empty, get] at found

theorem Valid.exec (valid : store.Valid) (call : JobCall) : (store.exec call).2.Valid where
  indexed := exec_indexed valid.indexed call
  consistent := by
    intro jobId job found
    cases exec_changes valid.indexed call jobId with
    | same kept => exact valid.consistent (kept ▸ found)
    | add missing added fresh =>
      cases added.symm.trans found
      exact fresh.consistent
    | move earlier stored move =>
      cases stored.symm.trans found
      exact (valid.consistent earlier).move move

theorem valid_afterCalls (calls : List JobCall) : (afterCalls exec empty calls).Valid :=
  afterCalls_invariant Valid (fun _ call valid => valid.exec call) valid_empty calls

section

variable (valid : store.Valid) (found : store.get jobId = some job)
  (terminal : job.status.isTerminal = true)
include valid found terminal

theorem Valid.finished_exec (call : JobCall) : (store.exec call).2.get jobId = some job := by
  cases exec_changes valid.indexed call jobId with
  | same kept => rw [kept, found]
  | add missing added fresh => simp [found] at missing
  | move earlier stored move =>
    cases earlier.symm.trans found
    simp [move.live] at terminal

theorem Valid.finished (calls : List JobCall) :
    (afterCalls MemoryJobStore.exec store calls).get jobId = some job := by
  have kept := afterCalls_invariant
    (fun store : MemoryJobStore => store.Valid ∧ store.get jobId = some job)
    (fun store (call : JobCall) holds =>
      ⟨holds.1.exec call, holds.1.finished_exec holds.2 terminal call⟩)
    ⟨valid, found⟩ calls
  exact kept.2

end

/-- After any sequence of calls every stored job is consistent, the index names
exactly the stored jobs, each once, and a finished job is never changed
again. -/
theorem job_store_invariant (calls later : List JobCall) :
    (∀ jobId job, (afterCalls exec empty calls).get jobId = some job → job.Consistent) ∧
      (∀ key jobId, (afterCalls exec empty calls).idempotency[key]? = some jobId ↔
        ∃ job, (afterCalls exec empty calls).get jobId = some job ∧
          (job.nodeId, job.idempotencyKey) = key) ∧
      ∀ jobId job, (afterCalls exec empty calls).get jobId = some job →
        job.status.isTerminal = true →
        (afterCalls exec empty (calls ++ later)).get jobId = some job := by
  have valid := valid_afterCalls calls
  refine ⟨fun jobId job => valid.consistent, ?_, ?_⟩
  · intro key jobId
    refine ⟨valid.indexed.resolves, ?_⟩
    rintro ⟨job, found, rfl⟩
    exact valid.indexed.listed found
  · intro jobId job found terminal
    rw [afterCalls_append]
    exact valid.finished found terminal later

end MemoryJobStore

end UntitledOJ
