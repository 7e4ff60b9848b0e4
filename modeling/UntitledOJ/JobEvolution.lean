import UntitledOJ.KeyedTable
import UntitledOJ.MemoryJobStore

/-!
# How jobs evolve

Every call on the job store keeps the identity of the stored jobs and every terminal status, and
only `enqueue` adds a job.  Later files never look inside the store again.
-/

namespace UntitledOJ

/-- The fields that are fixed when a job is enqueued. -/
structure JobIdentity where
  (jobId operationId nodeId : String)
  kind : JobKind
  (payloadSha256 idempotencyKey : String)
  deriving DecidableEq

def Job.identity (job : Job) : JobIdentity :=
  { jobId := job.jobId
    operationId := job.operationId
    nodeId := job.nodeId
    kind := job.kind
    payloadSha256 := job.payloadSha256
    idempotencyKey := job.idempotencyKey }

def NewJob.identity [Digests] (new : NewJob) : JobIdentity :=
  { jobId := new.jobId
    operationId := new.operationId
    nodeId := new.nodeId
    kind := new.kind
    payloadSha256 := canonicalPayloadSha256 new.payload
    idempotencyKey := new.idempotencyKey }

/-- One job at two moments: its identity is fixed, and a terminal status is
final. -/
structure Job.Evolves (before after : Job) : Prop where
  identity : after.identity = before.identity
  settled : before.status.isTerminal = true → after.status = before.status

namespace Job.Evolves

theorem refl (job : Job) : job.Evolves job := ⟨rfl, fun _ => rfl⟩

theorem trans {first second third : Job} (earlier : first.Evolves second)
    (later : second.Evolves third) : first.Evolves third := by
  refine ⟨later.identity.trans earlier.identity, ?_⟩
  intro terminal
  have same := earlier.settled terminal
  rw [later.settled (same ▸ terminal), same]

theorem of_live {before after : Job} (identity : after.identity = before.identity)
    (live : before.status.isTerminal = false) : before.Evolves after :=
  ⟨identity, fun terminal => by simp [live] at terminal⟩

end Job.Evolves

namespace Job

def claimed (job : Job) (request : ClaimRequest) : Job :=
  { job with
    status := .leased
    attempt := job.attempt + 1
    leaseOwner := some request.instanceId
    leaseToken := some request.leaseToken
    leaseExpiresAtMs := some (request.nowMs + request.leaseMs)
    startedAtMs := some (job.startedAtMs.getD request.nowMs)
    updatedAtMs := request.nowMs }

def renewed (job : Job) (request : HeartbeatRequest) : Job :=
  { job with
    leaseExpiresAtMs := some (request.nowMs + request.leaseMs)
    updatedAtMs := request.nowMs }

def resolved [Digests] (job : Job) (request : ResolveExpiredSuccessRequest) : Job :=
  { job with
    status := .succeeded
    result := some request.result
    errorMessage := none
    completionFingerprint := some (successfulCompletionFingerprint request.result)
    completedAtMs := some request.nowMs
    updatedAtMs := request.nowMs }

structure Fresh (job : Job) : Prop where
  status : job.status = .queued
  attempt : job.attempt = 0
  budget : 0 < job.maxAttempts
  unowned : job.leaseOwner = none ∧ job.leaseToken = none ∧ job.leaseExpiresAtMs = none
  unfinished : job.completedAtMs = none

variable {job : Job} {nowMs : Int}

theorem held_of_leaseActive {token : String}
    (active : MemoryJobStore.leaseActive job token nowMs = true) : job.status.isHeld = true := by
  simp only [MemoryJobStore.leaseActive, Bool.and_eq_true] at active
  exact active.1.1

theorem held_of_leaseExpired
    (expired : MemoryJobStore.leaseExpired job nowMs = true) : job.status.isHeld = true := by
  simp only [MemoryJobStore.leaseExpired, Bool.and_eq_true] at expired
  exact expired.1

end Job

variable {status : JobStatus}

theorem JobStatus.isTerminal_of_isHeld (held : status.isHeld = true) :
    status.isTerminal = false := by
  cases status <;> simp_all [isHeld, isTerminal]

theorem JobStatus.isTerminal_of_isClaimable (claimable : status.isClaimable = true) :
    status.isTerminal = false := by
  cases status <;> simp_all [isClaimable, isTerminal]

namespace MemoryJobStore

/-- The jobs of the first store are still in the second one, evolved. -/
structure Evolves (before after : MemoryJobStore) : Prop where
  keeps : ∀ {jobId job}, before.get jobId = some job →
    ∃ later, after.get jobId = some later ∧ job.Evolves later

variable (store : MemoryJobStore)

theorem Evolves.refl : store.Evolves store :=
  ⟨fun {_ job} found => ⟨job, found, Job.Evolves.refl job⟩⟩

theorem Evolves.trans {first second third : MemoryJobStore} (earlier : first.Evolves second)
    (later : second.Evolves third) : first.Evolves third := by
  refine ⟨?_⟩
  intro jobId job found
  obtain ⟨_, middleFound, toMiddle⟩ := earlier.keeps found
  obtain ⟨last, lastFound, toLast⟩ := later.keeps middleFound
  exact ⟨last, lastFound, toMiddle.trans toLast⟩

/-- The two stores hold the same jobs, evolved, under the same index. -/
structure Updates (before after : MemoryJobStore) : Prop where
  evolves : before.Evolves after
  origin : ∀ {jobId job}, after.get jobId = some job →
    ∃ earlier, before.get jobId = some earlier ∧ earlier.Evolves job
  index : after.idempotency = before.idempotency

theorem Updates.refl : store.Updates store :=
  ⟨Evolves.refl store, fun {_ job} found => ⟨job, found, Job.Evolves.refl job⟩, rfl⟩

/-- Jobs lie under their own id, and the index names each of them once. -/
structure Indexed (store : MemoryJobStore) : Prop where
  keyed : ∀ {jobId job}, store.get jobId = some job → job.jobId = jobId
  listed : ∀ {jobId job}, store.get jobId = some job →
    store.idempotency[(job.nodeId, job.idempotencyKey)]? = some jobId
  resolves : ∀ {key jobId}, store.idempotency[key]? = some jobId →
    ∃ job, store.get jobId = some job ∧ (job.nodeId, job.idempotencyKey) = key

theorem indexed_empty : empty.Indexed := by
  constructor <;> simp [empty, get]

theorem Indexed.update {before after : MemoryJobStore} (indexed : before.Indexed)
    (updates : before.Updates after) : after.Indexed := by
  refine ⟨?_, ?_, ?_⟩
  · intro jobId job found
    obtain ⟨earlier, earlierFound, evolved⟩ := updates.origin found
    have sameId : job.jobId = earlier.jobId := congrArg JobIdentity.jobId evolved.identity
    rw [sameId]
    exact indexed.keyed earlierFound
  · intro jobId job found
    obtain ⟨earlier, earlierFound, evolved⟩ := updates.origin found
    have sameNode : job.nodeId = earlier.nodeId := congrArg JobIdentity.nodeId evolved.identity
    have sameKey : job.idempotencyKey = earlier.idempotencyKey :=
      congrArg JobIdentity.idempotencyKey evolved.identity
    rw [updates.index, sameNode, sameKey]
    exact indexed.listed earlierFound
  · intro key jobId listed
    rw [updates.index] at listed
    obtain ⟨earlier, earlierFound, named⟩ := indexed.resolves listed
    obtain ⟨job, found, evolved⟩ := updates.evolves.keeps earlierFound
    have sameNode : job.nodeId = earlier.nodeId := congrArg JobIdentity.nodeId evolved.identity
    have sameKey : job.idempotencyKey = earlier.idempotencyKey :=
      congrArg JobIdentity.idempotencyKey evolved.identity
    exact ⟨job, found, by rw [sameNode, sameKey, named]⟩

theorem get_putJob (jobId other : String) (job : Job) :
    (store.putJob jobId job).get other = if other = jobId then some job else store.get other :=
  getElem?_insert_of_eq store.jobs jobId other job

variable {job : Job} {store : MemoryJobStore} {nowMs : Int}

theorem recoverExpiredJob_identity (job : Job) (nowMs : Int) :
    (recoverExpiredJob job nowMs).identity = job.identity := by
  simp only [recoverExpiredJob]
  split_ifs <;> rfl

theorem recoverExpiredJob_evolves (expired : leaseExpired job nowMs = true) :
    job.Evolves (recoverExpiredJob job nowMs) := by
  exact .of_live (recoverExpiredJob_identity job nowMs)
    (JobStatus.isTerminal_of_isHeld (Job.held_of_leaseExpired expired))

theorem completeJob_identity (job : Job) (request : CompleteRequest) (fingerprint : String) :
    (completeJob job request fingerprint).identity = job.identity := by
  simp only [completeJob]
  split <;> split_ifs <;> rfl

theorem mem_values : job ∈ store.values ↔ ∃ jobId, store.get jobId = some job := mem_tableRows

theorem firstClaim_mem {jobs : List Job} (first : firstClaim jobs = some job) : job ∈ jobs := by
  induction jobs generalizing job with
  | nil => cases first
  | cons head rest ih =>
    simp only [firstClaim] at first
    cases best : firstClaim rest with
    | none =>
      rw [best] at first
      cases first
      exact List.mem_cons_self
    | some other =>
      rw [best] at first
      simp only at first
      split_ifs at first
      · cases first
        exact List.mem_cons_of_mem _ (ih best)
      · cases first
        exact List.mem_cons_self

theorem Indexed.get_of_mem (indexed : store.Indexed) (member : job ∈ store.values) :
    store.get job.jobId = some job := by
  obtain ⟨_, found⟩ := mem_values.mp member
  rw [indexed.keyed found, found]

theorem claim_cases (indexed : store.Indexed) (request : ClaimRequest) :
    ((store.claim request).2 = store ∧ ∀ job, (store.claim request).1 ≠ .ok (some job)) ∨
      ∃ job, store.get job.jobId = some job ∧ job.status.isClaimable = true ∧ store.claim request =
          (.ok (some (job.claimed request)), store.putJob job.jobId (job.claimed request)) := by
  simp only [claim]
  split_ifs
  · exact .inl ⟨rfl, by simp⟩
  · split
    · exact .inl ⟨rfl, by simp⟩
    · rename_i job first
      have member := firstClaim_mem first
      simp only [List.mem_filter, Bool.and_eq_true] at member
      exact .inr ⟨job, indexed.get_of_mem member.1, member.2.1.2, rfl⟩

/-- What a worker's report does: nothing, or the recovery of an expired lease, or, under the running
lease of its token, events are appended and the job is written. -/
inductive Reported (store : MemoryJobStore) (jobId token : String) (nowMs : Int)
    (events : List NewJobEvent) (write : Job → Job)
    (result : Except JobError Job × MemoryJobStore) : Prop
  | unchanged (same : result.2 = store)
      (other : ∀ sequence, result.1 ≠ .error (.eventConflict sequence))
  | recovered {job : Job} (found : store.get jobId = some job)
      (expired : leaseExpired job nowMs = true)
      (recovers : result = (.error .staleLease, store.putJob jobId (recoverExpiredJob job nowMs)))
  | conflict {job : Job} {error : JobError} {appended : MemoryJobStore}
      (found : store.get jobId = some job) (active : leaseActive job token nowMs = true)
      (append : store.appendEvents jobId nowMs events = (.error error, appended))
      (stops : result = (.error error, appended))
  | accepted {job : Job} {appended : MemoryJobStore}
      (found : store.get jobId = some job) (active : leaseActive job token nowMs = true)
      (append : store.appendEvents jobId nowMs events = (.ok (), appended))
      (writes : result = (.ok (write job), appended.putJob jobId (write job)))

theorem heartbeat_reported (store : MemoryJobStore) (request : HeartbeatRequest) :
    store.Reported request.jobId request.leaseToken request.nowMs request.events
      (·.renewed request) (store.heartbeat request) := by
  simp only [heartbeat]
  split_ifs
  · exact .unchanged rfl nofun
  · split
    · exact .unchanged rfl nofun
    · rename_i job found
      split_ifs with expired active
      · exact .recovered found expired rfl
      · split
        · rename_i append
          exact .conflict found active append rfl
        · rename_i append
          exact .accepted found active append rfl
      · exact .unchanged rfl nofun

theorem complete_reported [Digests] (store : MemoryJobStore) (request : CompleteRequest) :
    store.Reported request.jobId request.leaseToken request.nowMs request.events
      (completeJob · request
        (completionFingerprint request.status request.result request.errorMessage))
      (store.complete request) := by
  simp only [complete]
  split
  · exact .unchanged rfl nofun
  · rename_i job found
    split_ifs with terminal _ expired active
    · exact .unchanged rfl nofun
    · exact .unchanged rfl nofun
    · exact .recovered found expired rfl
    · split
      · rename_i append
        exact .conflict found active append rfl
      · rename_i append
        exact .accepted found active append rfl
    · exact .unchanged rfl nofun

theorem resolveExpiredSuccess_cases [Digests] (store : MemoryJobStore)
    (request : ResolveExpiredSuccessRequest) : (store.resolveExpiredSuccess request).2 = store ∨
      ∃ job, store.get request.jobId = some job ∧ leaseExpired job request.nowMs = true ∧
        (store.resolveExpiredSuccess request).2 =
          store.putJob request.jobId (job.resolved request) := by
  simp only [resolveExpiredSuccess]
  split_ifs
  · exact .inl rfl
  · split
    · exact .inl rfl
    · rename_i job found
      split_ifs with succeeded _ unheld active
      · exact .inl rfl
      · exact .inl rfl
      · exact .inl rfl
      · exact .inl rfl
      · have expired : leaseExpired job request.nowMs = true := by
          simp only [leaseExpired, Bool.and_eq_true]
          exact ⟨by simpa using unheld, by simpa using active⟩
        exact .inr ⟨job, found, expired, rfl⟩

theorem cancelJob_evolves (job : Job) (nowMs : Int) : job.Evolves (cancelJob job nowMs) := by
  cases status : job.status <;> simp only [cancelJob, status]
  all_goals first
    | exact .refl job
    | exact .of_live rfl (by simp [status, JobStatus.isTerminal])

theorem mem_expiredLeases (member : job ∈ store.expiredLeases nowMs) :
    job ∈ store.values ∧ leaseExpired job nowMs = true := by
  simpa [expiredLeases] using member

def addJob (store : MemoryJobStore) (job : Job) : MemoryJobStore :=
  { store with
    idempotency := store.idempotency.insert (job.nodeId, job.idempotencyKey) job.jobId
    jobs := store.jobs.insert job.jobId job }

theorem get_addJob (job : Job) (jobId : String) :
    (store.addJob job).get jobId = if jobId = job.jobId then some job else store.get jobId :=
  get_putJob store job.jobId jobId job

def lookup (store : MemoryJobStore) (nodeId key : String) : Option Job :=
  store.idempotency[(nodeId, key)]?.bind store.get

/-- The three outcomes of an enqueue: it is rejected, it finds the job that it
would create, or it adds a queued job. -/
theorem enqueue_cases [Digests] (store : MemoryJobStore) (new : NewJob) (nowMs : Int) :
    (∃ error, store.enqueue new nowMs = (.error error, store) ∧
      ((∃ message, error = .invalidJob message) ∨
        (∃ existing, store.lookup new.nodeId new.idempotencyKey = some existing ∧
          existing.identity ≠ new.identity) ∨
        store.lookup new.nodeId new.idempotencyKey = none ∧ store.get new.jobId ≠ none)) ∨
      (∃ existing, store.enqueue new nowMs = (.ok existing, store) ∧
        store.lookup new.nodeId new.idempotencyKey = some existing ∧
        existing.operationId = new.operationId) ∨
      ∃ job, store.enqueue new nowMs = (.ok job, store.addJob job) ∧
        store.lookup new.nodeId new.idempotencyKey = none ∧ store.get new.jobId = none ∧
        job.identity = new.identity ∧ job.payload = new.payload ∧ job.Fresh := by
  unfold enqueue
  split
  · exact .inl ⟨_, rfl, .inl ⟨_, rfl⟩⟩
  · split
    · exact .inl ⟨_, rfl, .inl ⟨_, rfl⟩⟩
    · rename_i budget
      dsimp only
      split
      · rename_i existing found
        split_ifs with differs
        · refine .inl ⟨_, rfl, .inr (.inl ⟨existing, found, fun same => ?_⟩)⟩
          simp only [Job.identity, NewJob.identity, JobIdentity.mk.injEq] at same
          simp [same] at differs
        · push Not at differs
          exact .inr (.inl ⟨existing, rfl, found, differs.2.2⟩)
      · rename_i missing
        split_ifs with taken
        · exact .inl ⟨_, rfl, .inr (.inr ⟨missing, Option.isSome_iff_ne_none.mp taken⟩)⟩
        · have free : store.get new.jobId = none := by simpa using taken
          exact .inr (.inr ⟨_, rfl, missing, free, rfl, rfl,
            ⟨rfl, rfl, Nat.pos_of_ne_zero budget, ⟨rfl, rfl, rfl⟩, rfl⟩⟩)

theorem Indexed.lookup_eq (indexed : store.Indexed) {jobId : String}
    (found : store.get jobId = some job) :
    store.lookup job.nodeId job.idempotencyKey = some job := by
  simp [lookup, indexed.listed found, found]

theorem Indexed.of_lookup (indexed : store.Indexed) {nodeId key : String}
    (found : store.lookup nodeId key = some job) :
    store.get job.jobId = some job ∧ job.nodeId = nodeId ∧ job.idempotencyKey = key := by
  obtain ⟨_, listed, stored⟩ := Option.bind_eq_some_iff.mp found
  obtain ⟨named, namedFound, sameKey⟩ := indexed.resolves listed
  have same : named = job := Option.some.inj (namedFound.symm.trans stored)
  subst same
  rw [Prod.mk.injEq] at sameKey
  exact ⟨(indexed.keyed stored).symm ▸ stored, sameKey.1, sameKey.2⟩

theorem addJob_evolves (fresh : store.get job.jobId = none) : store.Evolves (store.addJob job) := by
  refine ⟨?_⟩
  intro jobId current found
  have different : jobId ≠ job.jobId := by
    rintro rfl
    simp [fresh] at found
  exact ⟨current, by rw [get_addJob, if_neg different, found], Job.Evolves.refl current⟩

theorem Indexed.addJob (indexed : store.Indexed)
    (unlisted : store.lookup job.nodeId job.idempotencyKey = none)
    (fresh : store.get job.jobId = none) : (store.addJob job).Indexed := by
  have index (key : String × String) : (store.addJob job).idempotency[key]? =
      if key = (job.nodeId, job.idempotencyKey) then some job.jobId
      else store.idempotency[key]? :=
    getElem?_insert_of_eq store.idempotency _ key job.jobId
  -- an entry of the old index under this key would have been found by lookup
  have absent : store.idempotency[(job.nodeId, job.idempotencyKey)]? = none := by
    cases listed : store.idempotency[(job.nodeId, job.idempotencyKey)]? with
    | none => rfl
    | some jobId =>
      obtain ⟨named, found, _⟩ := indexed.resolves listed
      simp [lookup, listed, found] at unlisted
  refine ⟨?_, ?_, ?_⟩
  · intro jobId current found
    rw [get_addJob] at found
    split_ifs at found with same
    · cases found
      exact same.symm
    · exact indexed.keyed found
  · intro jobId current found
    rw [get_addJob] at found
    split_ifs at found with same
    · cases found
      rw [index, if_pos rfl, same]
    · have listed := indexed.listed found
      have different : (current.nodeId, current.idempotencyKey) ≠
          (job.nodeId, job.idempotencyKey) := by
        intro equal
        rw [equal, absent] at listed
        cases listed
      rw [index, if_neg different, listed]
  · intro key jobId listed
    rw [index] at listed
    split_ifs at listed with same
    · cases listed
      exact ⟨job, by rw [get_addJob, if_pos rfl], same.symm⟩
    · obtain ⟨current, found, named⟩ := indexed.resolves listed
      have different : jobId ≠ job.jobId := by
        rintro rfl
        simp [fresh] at found
      exact ⟨current, by rw [get_addJob, if_neg different, found], named⟩

end MemoryJobStore

end UntitledOJ
