import UntitledOJ.JobStoreInvariant
import UntitledOJ.SqliteJobStore

/-!
# The SQLite job store agrees with the in-memory one

The tables represent a memory store when they hold exactly the rows of its jobs and count them by
status.  Every call keeps this and is answered alike, as long as no stored result is `null` (it
reads back as missing), no payload or result is nested too deep to be read back, the evidence of an
unknown job is not `null` (the backends check it in different order), and the anomaly counter has
room.
-/

namespace UntitledOJ

open List MemoryJobStore Option

def MemoryJobStore.countStatus (store : MemoryJobStore) (status : JobStatus) : Nat :=
  store.values.countP fun job => job.status = status

namespace JobTables

variable {jobId : String} {job : Job} {store : MemoryJobStore}

theorem countStatus_putJob {previous : Job} (job : Job)
    (found : store.get jobId = some previous) (status : JobStatus) :
    (store.putJob jobId job).countStatus status + (if previous.status = status then 1 else 0) =
      store.countStatus status + if job.status = status then 1 else 0 := by
  have counted := countP_insert_found (fun job : Job => job.status = status) job found
  simp only [decide_eq_true_eq] at counted
  exact counted

theorem countStatus_insert (job : Job) (missing : store.get jobId = none) (status : JobStatus) :
    (store.putJob jobId job).countStatus status =
      store.countStatus status + if job.status = status then 1 else 0 := by
  have counted := countP_insert_new (fun job : Job => job.status = status) job missing
  simp only [decide_eq_true_eq] at counted
  exact counted

theorem countStatus_pos (found : store.get jobId = some job) :
    0 < store.countStatus job.status := by
  apply countP_pos_iff.mpr
  exact ⟨job, mem_values.mpr ⟨jobId, found⟩, by simp⟩

theorem recoverExpiredJob_createdAtMs (job : Job) (nowMs : Int) :
    (MemoryJobStore.recoverExpiredJob job nowMs).createdAtMs = job.createdAtMs := by
  simp only [MemoryJobStore.recoverExpiredJob]
  split_ifs <;> rfl

theorem recoverExpiredJob_readsBack (readable : job.ReadsBack) (nowMs : Int) :
    (MemoryJobStore.recoverExpiredJob job nowMs).ReadsBack := by
  simp only [MemoryJobStore.recoverExpiredJob]
  split_ifs <;> exact readable

theorem completeJob_createdAtMs (job : Job) (request : CompleteRequest) (fingerprint : String) :
    (completeJob job request fingerprint).createdAtMs = job.createdAtMs := by
  simp only [completeJob]
  split <;> split_ifs <;> rfl

theorem completeJob_readsBack {request : CompleteRequest} (readable : job.ReadsBack)
    (reported : request.result ≠ .null ∧ request.result.nesting < 127) (fingerprint : String) :
    (completeJob job request fingerprint).ReadsBack := by
  have result : ∀ value ∈ some request.result, value ≠ .null ∧ value.nesting < 127 := by
    rintro _ ⟨⟩
    exact reported
  simp only [completeJob]
  split <;> split_ifs <;> exact ⟨readable.1, result⟩

variable {Text : Type} [JsonText Text] (status : JobStatus)

/-- The tables hold the rows of the stored jobs, whose texts read back, and
count them by status. -/
structure Represents (tables : JobTables Text) (store : MemoryJobStore) : Prop where
  rowOf : ∀ jobId, tables.jobs[jobId]? = (store.get jobId).map rowOf
  readable : ∀ {jobId job}, store.get jobId = some job → job.ReadsBack
  counts : ∀ status, tables.statusCounts[statusText status]? = some (store.countStatus status)

theorem readJob_toDocument (readable : job.ReadsBack) :
    readJob (JsonText.toText job.toDocument : Text) = .ok job := by
  have kept : job.result.filter (fun stored => !stored.isNull) = job.result := by
    cases stored : job.result with
    | none => rfl
    | some value =>
      have present := (readable.2 value stored).1
      cases value <;> simp_all [Value.isNull]
  simp only [readJob, JsonText.fromText_toText _ readable.nesting_toDocument, bind, Except.bind,
    Job.ofDocument_toDocument, kept]

theorem isClaimable_iff_text :
    ((statusText status = "QUEUED" || statusText status = "RETRY_WAIT") : Bool) =
      status.isClaimable := by
  cases status <;> rfl

theorem isHeld_iff_text :
    ((statusText status = "LEASED" || statusText status = "CANCEL_REQUESTED") : Bool) =
      status.isHeld := by
  cases status <;> rfl

theorem claimOrder_rowOf (first second : Job) :
    claimOrder (JobTables.rowOf first : JobRow Text) (JobTables.rowOf second) =
      !claimsBefore second first := by
  rw [Bool.eq_iff_iff]
  change (decide (first.availableAtMs < second.availableAtMs) ||
    (decide (first.availableAtMs = second.availableAtMs) &&
      (decide (first.createdAtMs < second.createdAtMs) ||
        (decide (first.createdAtMs = second.createdAtMs) &&
          decide (first.jobId ≤ second.jobId))))) = true ↔ _
  simp only [claimsBefore, Bool.or_eq_true, Bool.and_eq_true, decide_eq_true_eq,
    Bool.not_eq_true', Bool.eq_false_iff, ne_eq]
  constructor
  · rintro (available | ⟨available, created | ⟨created, ordered⟩⟩)
    · omega
    · omega
    · rintro (later | ⟨_, later | ⟨_, later⟩⟩)
      · omega
      · omega
      · exact absurd ordered (String.not_le.mpr later)
  · intro unordered
    push Not at unordered
    obtain ⟨available, ties⟩ := unordered
    rcases lt_or_eq_of_le available with strictly | same
    · exact .inl strictly
    · obtain ⟨created, names⟩ := ties same.symm
      rcases lt_or_eq_of_le created with strictly | sameAge
      · exact .inr ⟨same, .inl strictly⟩
      · exact .inr ⟨same, .inr ⟨sameAge, String.not_lt.mp (names sameAge.symm)⟩⟩

theorem head_claimOrder (jobs : List Job) :
    ((jobs.map (JobTables.rowOf : Job → JobRow Text)).insertionSort fun first second =>
      claimOrder first second).head? = (firstClaim jobs).map JobTables.rowOf := by
  induction jobs with
  | nil => rfl
  | cons job rest ih =>
    rw [map_cons, head?_insertionSort_cons, ih]
    simp only [firstClaim]
    cases firstClaim rest with
    | none => rfl
    | some best =>
      simp only [map_some, claimOrder_rowOf]
      cases claimsBefore best job <;> rfl

theorem leaseIsExpired_eq : leaseIsExpired = leaseExpired := rfl

theorem ensureActiveLease_eq (job : Job) (token : String) (nowMs : Int) :
    ensureActiveLease job token nowMs =
      if leaseActive job token nowMs then .ok () else .error .staleLease :=
  rfl

namespace Represents

variable {tables : JobTables Text} {store : MemoryJobStore} (represents : tables.Represents store)

include represents

theorem rows_eq : tables.rows = store.values.map JobTables.rowOf :=
  tableRows_eq_map represents.rowOf

theorem congr {other : JobTables Text} {otherStore : MemoryJobStore}
    (jobs : other.jobs = tables.jobs) (counts : other.statusCounts = tables.statusCounts)
    (stored : otherStore.jobs = store.jobs) : other.Represents otherStore where
  rowOf := by
    intro jobId
    rw [jobs, represents.rowOf]
    simp only [MemoryJobStore.get, stored]
  readable := by
    intro jobId job found
    simp only [MemoryJobStore.get, stored] at found
    exact represents.readable found
  counts := by
    intro status
    rw [counts, represents.counts]
    simp only [MemoryJobStore.countStatus, MemoryJobStore.values, stored]

theorem requiredJob (jobId : String) :
    tables.requiredJob jobId =
      match store.get jobId with
      | none => .error (.notFound jobId)
      | some job => .ok job := by
  simp only [JobTables.requiredJob, represents.rowOf]
  cases found : store.get jobId with
  | none => rfl
  | some job => exact readJob_toDocument (represents.readable found)

theorem readJob_rowOf (found : store.get jobId = some job) :
    readJob (JobTables.rowOf job : JobRow Text).payload = .ok job :=
  readJob_toDocument (represents.readable found)

theorem size_eq : tables.jobs.size = store.values.length := by
  rw [← length_tableRows]
  exact (congrArg length represents.rows_eq).trans (length_map _)

theorem of_put {after : JobTables Text} (job : Job) (readable : job.ReadsBack)
    (written : after.jobs = tables.jobs.insert job.jobId (JobTables.rowOf job))
    (counts : ∀ status, after.statusCounts[statusText status]? =
      some ((store.putJob job.jobId job).countStatus status)) :
    after.Represents (store.putJob job.jobId job) := by
  refine ⟨?_, ?_, counts⟩
  · intro jobId
    rw [written, getElem?_insert_of_eq, get_putJob]
    split_ifs
    · rfl
    · exact represents.rowOf jobId
  · intro jobId other stored
    rw [get_putJob] at stored
    split_ifs at stored
    · cases stored
      exact readable
    · exact represents.readable stored

theorem contains (jobId : String) : tables.jobs.contains jobId = (store.get jobId).isSome := by
  rw [Std.TreeMap.contains_eq_isSome_getElem?, represents.rowOf, isSome_map]

section

variable {previous : Job} (job : Job)

theorem moveStatusCount (found : store.get job.jobId = some previous)
    (written : Std.TreeMap String (JobRow Text)) :
    ∃ counted, { tables with jobs := written }.moveStatusCount (statusText previous.status)
        (statusText job.status) = .ok counted ∧
      counted.jobs = written ∧
      counted.expiredLeaseTransitions = tables.expiredLeaseTransitions ∧
      ∀ status, counted.statusCounts[statusText status]? =
        some ((store.putJob job.jobId job).countStatus status) := by
  have count := countStatus_putJob job found
  by_cases same : previous.status = job.status
  · refine ⟨{ tables with jobs := written },
      by simp [JobTables.moveStatusCount, same], rfl, rfl, ?_⟩
    intro status
    have counted := count status
    rw [same] at counted
    rw [represents.counts]
    congr 1
    omega
  · have positive := countStatus_pos found
    have textsDiffer : statusText previous.status ≠ statusText job.status := by
      intro equal
      exact same (statusText_injective equal)
    have enough : (0 : Int) ≤ store.countStatus previous.status + -1 := by omega
    have raised : (0 : Int) ≤ store.countStatus job.status + 1 := by omega
    simp only [JobTables.moveStatusCount, adjustStatusCount, represents.counts, if_pos textsDiffer,
      if_pos enough, bind, Except.bind, getElem?_insert_of_eq, if_neg (Ne.symm textsDiffer),
      if_pos raised]
    refine ⟨_, rfl, rfl, rfl, ?_⟩
    intro status
    have counted := count status
    simp only [getElem?_insert_of_eq, statusText_injective.eq_iff, represents.counts]
    by_cases isNew : status = job.status
    · subst isNew
      rw [if_neg same, if_pos rfl] at counted
      rw [if_pos rfl]
      congr 1
      omega
    · by_cases isOld : status = previous.status
      · subst isOld
        rw [if_pos rfl, if_neg (Ne.symm same)] at counted
        rw [if_neg isNew, if_pos rfl]
        congr 1
        omega
      · rw [if_neg (Ne.symm isOld), if_neg (Ne.symm isNew)] at counted
        rw [if_neg isNew, if_neg isOld]
        congr 1
        omega

variable [Digests]

theorem updateJob (found : store.get jobId = some previous) (named : job.jobId = jobId)
    (created : job.createdAtMs = previous.createdAtMs) (readable : job.ReadsBack) :
    ∃ after, tables.updateJob job = .ok after ∧ after.Represents (store.putJob jobId job) ∧
      after.expiredLeaseTransitions = tables.expiredLeaseTransitions := by
  subst named
  have row : tables.jobs[job.jobId]? = some (JobTables.rowOf previous) := by
    rw [represents.rowOf, found]
    rfl
  have sameRow : { (JobTables.rowOf job : JobRow Text) with
      createdAtMs := (JobTables.rowOf previous : JobRow Text).createdAtMs } =
      JobTables.rowOf job := by
    simp [JobTables.rowOf, created]
  obtain ⟨counted, moves, jobs, transitions, counts⟩ := represents.moveStatusCount job found
    (tables.jobs.insert job.jobId (JobTables.rowOf job))
  have moves : { tables with jobs := tables.jobs.insert job.jobId (JobTables.rowOf job)
      }.moveStatusCount (JobTables.rowOf previous : JobRow Text).status (statusText job.status) =
        .ok counted := moves
  simp only [JobTables.updateJob, row, represents.readJob_rowOf found, bind, Except.bind, sameRow,
    moves, pure, Except.pure]
  refine ⟨_, rfl, represents.of_put job readable ?_ ?_, ?_⟩
  · split_ifs <;> exact jobs
  · intro status
    rw [← counts status]
    split_ifs <;> rfl
  · rw [← transitions]
    split_ifs <;> rfl

end

theorem find_row (indexed : store.Indexed) (nodeId key : String) :
    (tables.rows.find? fun row => row.nodeId = nodeId && row.idempotencyKey = key) =
      (store.lookup nodeId key).map JobTables.rowOf := by
  rw [represents.rows_eq, List.find?_map]
  congr 1
  cases looked : store.lookup nodeId key with
  | none =>
    apply List.find?_eq_none.mpr
    intro job member
    obtain ⟨jobId, found⟩ := mem_values.mp member
    have listed := indexed.lookup_eq found
    change ¬ (decide (job.nodeId = nodeId) && decide (job.idempotencyKey = key)) = true
    simp only [Bool.and_eq_true, decide_eq_true_eq]
    rintro ⟨rfl, rfl⟩
    simp [listed] at looked
  | some job =>
    obtain ⟨found, rfl, rfl⟩ := indexed.of_lookup looked
    cases scanned : store.values.find? ((fun row : JobRow Text => row.nodeId = job.nodeId &&
        row.idempotencyKey = job.idempotencyKey) ∘ JobTables.rowOf) with
    | none =>
      have unmatched := List.find?_eq_none.mp scanned job (mem_values.mpr ⟨_, found⟩)
      simp [JobTables.rowOf] at unmatched
    | some other =>
      have matched := List.find?_some scanned
      change (decide (other.nodeId = job.nodeId) &&
        decide (other.idempotencyKey = job.idempotencyKey)) = true at matched
      obtain ⟨_, otherFound⟩ := mem_values.mp (List.mem_of_find?_eq_some scanned)
      have listed := indexed.lookup_eq otherFound
      simp only [Bool.and_eq_true, decide_eq_true_eq] at matched
      rw [matched.1, matched.2, looked] at listed
      exact listed.symm

theorem claimable (nodeId : String) (nowMs : Int) : tables.claimable nodeId nowMs =
      (firstClaim (store.values.filter fun job =>
        job.nodeId = nodeId && job.status.isClaimable && job.availableAtMs ≤ nowMs)).map
        JobTables.rowOf := by
  rw [JobTables.claimable, represents.rows_eq, List.filter_map, head_claimOrder]
  congr 2
  apply List.filter_congr
  intro job _
  simp only [Function.comp_apply, JobTables.rowOf, ← isClaimable_iff_text]
  rfl

theorem expiredPayloads (nowMs : Int) : tables.expiredPayloads nowMs =
      (store.expiredLeases nowMs).map fun job => JsonText.toText job.toDocument := by
  have selected : (tables.rows.filter fun row =>
      (row.status = "LEASED" || row.status = "CANCEL_REQUESTED") &&
        row.leaseExpiresAtMs.any (· ≤ nowMs)) =
      (store.values.filter fun job => leaseExpired job nowMs).map JobTables.rowOf := by
    rw [represents.rows_eq, List.filter_map]
    congr 1
    apply List.filter_congr
    intro job _
    simp only [Function.comp_apply, JobTables.rowOf, leaseExpired, ← isHeld_iff_text]
    rfl
  have ordered : ∀ first ∈ store.values.filter fun job => leaseExpired job nowMs,
      ∀ second ∈ store.values.filter fun job => leaseExpired job nowMs,
      (expiresBefore first second = true ↔
        expiryOrder (JobTables.rowOf first : JobRow Text) (JobTables.rowOf second) = true) := by
    intro first firstMember second secondMember
    have firstHeld := JobStatus.isHeld_iff.mp
      (Job.held_of_leaseExpired (List.mem_filter.mp firstMember).2)
    have secondHeld := JobStatus.isHeld_iff.mp
      (Job.held_of_leaseExpired (List.mem_filter.mp secondMember).2)
    rcases firstHeld with _ | _ <;> rcases secondHeld with other | _ <;>
      simp [expiresBefore, expiryOrder, JobTables.rowOf, *, statusText,
        MemoryJobStore.expiredLeaseStatusOrder, show "CANCEL_REQUESTED" < "LEASED" from by decide,
        show ¬ "LEASED" < "CANCEL_REQUESTED" from by decide]
  rw [JobTables.expiredPayloads, selected, ← List.map_insertionSort _ _ _ _ ordered, List.map_map]
  rfl

theorem insertJob (indexed : store.Indexed) (job : Job) (missing : store.get job.jobId = none)
    (unlisted : store.lookup job.nodeId job.idempotencyKey = none)
    (readable : job.ReadsBack) :
    ∃ after, tables.insertJob job = .ok after ∧ after.Represents (store.putJob job.jobId job) := by
  have absent : tables.jobs.contains job.jobId = false := by
    rw [represents.contains, missing]
    rfl
  have unmatched : (tables.rows.any fun row =>
      row.nodeId = job.nodeId && row.idempotencyKey = job.idempotencyKey) = false := by
    have scanned := represents.find_row indexed job.nodeId job.idempotencyKey
    rw [unlisted, Option.map_none, List.find?_eq_none] at scanned
    rw [List.any_eq_false]
    exact scanned
  have raised : (0 : Int) ≤ store.countStatus job.status + 1 := by omega
  simp only [JobTables.insertJob, absent, unmatched, Bool.false_eq_true, if_false,
    adjustStatusCount, represents.counts, if_pos raised]
  refine ⟨_, rfl, represents.of_put job readable rfl ?_⟩
  intro status
  have counted := countStatus_insert job missing status
  simp only [getElem?_insert_of_eq, statusText_injective.eq_iff, represents.counts]
  by_cases same : status = job.status
  · subst same
    rw [if_pos rfl] at counted ⊢
    congr 1
    omega
  · rw [if_neg (Ne.symm same)] at counted
    rw [if_neg same]
    congr 1
    omega

theorem rewrite (found : store.get jobId = some job) :
    tables.Represents (store.putJob jobId job) where
  rowOf := by
    intro other
    rw [get_putJob, represents.rowOf]
    split_ifs with same
    · rw [same, found]
    · rfl
  readable := by
    intro other current stored
    rw [get_putJob] at stored
    split_ifs at stored
    · cases stored
      exact represents.readable found
    · exact represents.readable stored
  counts := by
    intro status
    have counted := countStatus_putJob job found status
    rw [represents.counts]
    congr 1
    omega

theorem incrementCounter (delta : Nat) (room : tables.expiredLeaseTransitions + delta ≤ i64Max) :
    ∃ after, tables.incrementCounter delta = .ok after ∧ after.Represents store := by
  simp only [JobTables.incrementCounter, if_pos room]
  split_ifs
  · exact ⟨tables, rfl, represents⟩
  · exact ⟨_, rfl, represents.congr rfl rfl rfl⟩

theorem expiredLeases (nowMs : Int) :
    tables.expiredLeases nowMs = .ok (store.expiredLeases nowMs) := by
  have readable : ∀ job ∈ store.expiredLeases nowMs, job.ReadsBack := by
    intro job member
    obtain ⟨_, found⟩ := mem_values.mp (mem_expiredLeases member).1
    exact represents.readable found
  rw [JobTables.expiredLeases, represents.expiredPayloads]
  -- each text reads back as its job
  generalize store.expiredLeases nowMs = jobs at readable
  induction jobs with
  | nil => rfl
  | cons job rest ih =>
    have reads : readJob (JsonText.toText job.toDocument : Text) = .ok job :=
      readJob_toDocument (readable job mem_cons_self)
    have others := ih fun other member => readable other (mem_cons_of_mem _ member)
    rw [map_cons, mapM_cons, reads, others]
    rfl

def HasRoom (tables : JobTables Text) : Prop :=
  tables.expiredLeaseTransitions + tables.jobs.size ≤ i64Max

theorem HasRoom.one (room : HasRoom tables) (found : store.get jobId = some job) :
    tables.expiredLeaseTransitions + 1 ≤ i64Max := by
  have member : job ∈ store.values := mem_values.mpr ⟨jobId, found⟩
  have positive := length_pos_of_mem member
  have sizes := represents.size_eq
  unfold HasRoom at room
  omega

variable [Digests]

def Agree {α : Type} (answer : Except JobError α × JobTables Text)
    (memory : Except JobError α × MemoryJobStore) : Prop :=
  answer.1 = memory.1 ∧ answer.2.Represents memory.2

theorem enqueue (indexed : store.Indexed) {new : NewJob} (shallow : new.payload.nesting < 127)
    (nowMs : Int) :
    Agree (tables.enqueue new nowMs) (store.enqueue new nowMs) := by
  have lookup : store.idempotency[(new.nodeId, new.idempotencyKey)]?.bind store.get =
      store.lookup new.nodeId new.idempotencyKey := rfl
  simp only [JobTables.enqueue, MemoryJobStore.enqueue, validateNewJob, lookup,
    represents.find_row indexed, represents.contains]
  by_cases blank : (isBlank new.jobId || isBlank new.operationId || isBlank new.nodeId ||
      isBlank new.idempotencyKey) = true
  · simp only [if_pos blank]
    exact ⟨rfl, represents⟩
  by_cases budget : new.maxAttempts = 0
  · simp only [if_neg blank, if_pos budget]
    exact ⟨rfl, represents⟩
  simp only [if_neg blank, if_neg budget, bind, Except.bind]
  cases looked : store.lookup new.nodeId new.idempotencyKey with
  | some existing =>
    simp only [map_some, represents.readJob_rowOf (indexed.of_lookup looked).1]
    split_ifs
    · exact ⟨rfl, represents⟩
    · exact ⟨rfl, represents⟩
  | none =>
    by_cases taken : (store.get new.jobId).isSome = true
    · simp only [map_none, if_pos taken]
      exact ⟨rfl, represents⟩
    · have missing : store.get new.jobId = none := by simpa using taken
      obtain ⟨_, inserts, still⟩ := represents.insertJob indexed
        ⟨new.jobId, new.operationId, new.nodeId, new.kind, new.payload,
          canonicalPayloadSha256 new.payload, new.idempotencyKey, .queued, 0, new.maxAttempts,
          nowMs, none, none, none, none, none, none, nowMs, none, none, nowMs⟩
        missing looked ⟨shallow, nofun⟩
      simp only [map_none, if_neg taken, inserts]
      exact ⟨rfl, still.congr rfl rfl rfl⟩

theorem claim (indexed : store.Indexed) (request : ClaimRequest) :
    Agree (tables.claim request) (store.claim request) := by
  simp only [JobTables.claim, MemoryJobStore.claim, represents.claimable]
  split_ifs
  · exact ⟨rfl, represents⟩
  · cases first : firstClaim (store.values.filter fun job =>
        job.nodeId = request.nodeId && job.status.isClaimable &&
          job.availableAtMs ≤ request.nowMs) with
    | none => exact ⟨rfl, represents⟩
    | some job =>
      have member := firstClaim_mem first
      have found := indexed.get_of_mem (mem_filter.mp member).1
      have readable := represents.readable found
      obtain ⟨_, updates, still, _⟩ :=
        represents.updateJob (job.claimed request) found rfl rfl readable
      simp only [Job.claimed] at updates
      simp only [map_some, represents.readJob_rowOf found, bind, Except.bind, updates]
      exact ⟨rfl, still⟩

theorem recoverExpiredJob {current : Job} (found : store.get job.jobId = some current)
    (created : job.createdAtMs = current.createdAtMs) (readable : job.ReadsBack)
    (nowMs : Int) : ∃ observed after, tables.recoverExpiredJob job nowMs =
        .ok (MemoryJobStore.recoverExpiredJob job nowMs, observed, after) ∧
      after.Represents (store.putJob job.jobId (MemoryJobStore.recoverExpiredJob job nowMs)) ∧
      after.expiredLeaseTransitions = tables.expiredLeaseTransitions := by
  have sameId : (MemoryJobStore.recoverExpiredJob job nowMs).jobId = job.jobId :=
    congrArg JobIdentity.jobId (recoverExpiredJob_identity job nowMs)
  have forgotten : (tables.takeAnomaly job).2.Represents store := represents.congr rfl rfl rfl
  obtain ⟨_, updates, still, transitions⟩ :=
    forgotten.updateJob (MemoryJobStore.recoverExpiredJob job nowMs) found sameId
      (by rw [recoverExpiredJob_createdAtMs, created]) (recoverExpiredJob_readsBack readable nowMs)
  have written : tables.recoverExpiredJob job nowMs = do
      let updated ← (tables.takeAnomaly job).2.updateJob
        (MemoryJobStore.recoverExpiredJob job nowMs)
      return (MemoryJobStore.recoverExpiredJob job nowMs, !(tables.takeAnomaly job).1,
        updated) := rfl
  rw [written, updates]
  exact ⟨_, _, rfl, still, transitions⟩

theorem observeExpiry (indexed : store.Indexed) (room : HasRoom tables)
    (found : store.get jobId = some job) (nowMs : Int) :
    ∃ after, tables.observeExpiry job nowMs = .ok (.error .staleLease, after) ∧
      after.Represents (store.putJob jobId (MemoryJobStore.recoverExpiredJob job nowMs)) := by
  have one := HasRoom.one represents room found
  obtain rfl := indexed.keyed found
  obtain ⟨observed, _, recovers, still, _⟩ :=
    represents.recoverExpiredJob found rfl (represents.readable found) nowMs
  obtain ⟨after, counts, counted⟩ :=
    still.incrementCounter (if observed then 1 else 0) (by split_ifs <;> omega)
  simp only [JobTables.observeExpiry, recovers, bind, Except.bind, counts]
  exact ⟨after, rfl, counted⟩

theorem heartbeat (indexed : store.Indexed)
    (room : HasRoom tables) (request : HeartbeatRequest) (silent : request.events = []) :
    Agree (tables.heartbeat request) (store.heartbeat request) := by
  simp only [JobTables.heartbeat, MemoryJobStore.heartbeat, represents.requiredJob,
    leaseIsExpired_eq, ensureActiveLease_eq]
  split_ifs with invalid
  · exact ⟨rfl, represents⟩
  · cases found : store.get request.jobId with
    | none => exact ⟨rfl, represents⟩
    | some job =>
      simp only [bind, Except.bind]
      by_cases expired : leaseExpired job request.nowMs = true
      · obtain ⟨after, observes, still⟩ := represents.observeExpiry indexed room found request.nowMs
        simp only [expired, if_true, observes]
        exact ⟨rfl, still⟩
      · simp only [expired]
        by_cases active : leaseActive job request.leaseToken request.nowMs = true
        · have named := indexed.keyed found
          have readable := represents.readable found
          obtain ⟨_, updates, still, _⟩ :=
            represents.updateJob (job.renewed request) found named rfl readable
          simp only [Job.renewed] at updates
          simp only [silent, JobTables.appendEvents, updates, if_pos active]
          exact ⟨rfl, still.congr rfl rfl rfl⟩
        · simp only [if_neg active]
          exact ⟨rfl, represents⟩

theorem complete (indexed : store.Indexed) (room : HasRoom tables) (request : CompleteRequest)
    (silent : request.events = [])
    (reported : request.result ≠ .null ∧ request.result.nesting < 127) :
    Agree (tables.complete request) (store.complete request) := by
  simp only [JobTables.complete, MemoryJobStore.complete, represents.requiredJob, leaseIsExpired_eq,
    ensureActiveLease_eq]
  cases found : store.get request.jobId with
  | none => exact ⟨rfl, represents⟩
  | some job =>
    simp only [bind, Except.bind]
    by_cases terminal : job.status.isTerminal = true
    · split_ifs
      · exact ⟨rfl, represents⟩
      · exact ⟨rfl, represents⟩
    simp only [if_neg terminal]
    by_cases expired : leaseExpired job request.nowMs = true
    · obtain ⟨after, observes, still⟩ := represents.observeExpiry indexed room found request.nowMs
      simp only [expired, if_true, observes]
      exact ⟨rfl, still⟩
    simp only [expired]
    by_cases active : leaseActive job request.leaseToken request.nowMs = true
    · have sameId (fingerprint : String) :
          (completeJob job request fingerprint).jobId = request.jobId := by
        rw [← indexed.keyed found]
        exact congrArg JobIdentity.jobId (completeJob_identity job request fingerprint)
      obtain ⟨_, updates, still, _⟩ := represents.updateJob
        (completeJob job request
          (completionFingerprint request.status request.result request.errorMessage))
        found (sameId _) (completeJob_createdAtMs ..)
        (completeJob_readsBack (represents.readable found) reported _)
      simp only [silent, JobTables.appendEvents, updates, if_pos active]
      exact ⟨rfl, still.congr rfl rfl rfl⟩
    · simp only [if_neg active]
      exact ⟨rfl, represents⟩

theorem resolveExpiredSuccess (indexed : store.Indexed)
    (room : HasRoom tables) (request : ResolveExpiredSuccessRequest)
    (known : request.result.isNull = true → tables.jobs.contains request.jobId = true)
    (shallow : request.result.nesting < 127) :
    Agree (tables.resolveExpiredSuccess request) (store.resolveExpiredSuccess request) := by
  simp only [JobTables.resolveExpiredSuccess, MemoryJobStore.resolveExpiredSuccess,
    represents.requiredJob]
  cases found : store.get request.jobId with
  | none =>
    have evidence : request.result.isNull = false := by
      cases empty : request.result.isNull with
      | false => rfl
      | true =>
        have present := known empty
        rw [represents.contains, found] at present
        cases present
    simp only [evidence, Bool.false_eq_true, if_false]
    exact ⟨rfl, represents⟩
  | some job =>
    simp only [validateExpiredSuccessResult, bind, Except.bind]
    by_cases empty : request.result.isNull = true
    · simp only [if_pos empty]
      exact ⟨rfl, represents⟩
    simp only [if_neg empty]
    by_cases succeeded : job.status = .succeeded
    · split_ifs
      · exact ⟨rfl, represents⟩
      · exact ⟨rfl, represents⟩
    simp only [if_neg succeeded]
    by_cases unheld : (!job.status.isHeld) = true
    · simp only [if_pos unheld]
      exact ⟨rfl, represents⟩
    simp only [if_neg unheld]
    by_cases running : (!job.leaseExpiresAtMs.any (· ≤ request.nowMs)) = true
    · simp only [if_pos running]
      exact ⟨rfl, represents⟩
    simp only [if_neg running]
    have readable : (job.resolved request).ReadsBack := by
      refine ⟨(represents.readable found).1, ?_⟩
      rintro _ ⟨⟩
      refine ⟨fun isNull => ?_, shallow⟩
      simp [isNull, Value.isNull] at empty
    have forgotten : (tables.takeAnomaly job).2.Represents store := represents.congr rfl rfl rfl
    have named := indexed.keyed found
    obtain ⟨updated, updates, still, transitions⟩ :=
      forgotten.updateJob (job.resolved request) found named rfl readable
    have counter : updated.expiredLeaseTransitions = tables.expiredLeaseTransitions := transitions
    have one := HasRoom.one represents room found
    obtain ⟨_, counts, counted⟩ := still.incrementCounter
      (if (tables.takeAnomaly job).1 then 0 else 1) (by split_ifs <;> omega)
    simp only [Job.resolved] at updates
    simp only [updates, counts]
    exact ⟨rfl, counted⟩

theorem requestCancel (indexed : store.Indexed) (jobId : String) (nowMs : Int) :
    Agree (tables.requestCancel jobId nowMs) (store.requestCancel jobId nowMs) := by
  simp only [JobTables.requestCancel, MemoryJobStore.requestCancel, represents.requiredJob]
  cases found : store.get jobId with
  | none => exact ⟨rfl, represents⟩
  | some job =>
    have named := indexed.keyed found
    have readable := represents.readable found
    cases status : job.status with
    | queued | retryWait =>
      obtain ⟨_, updates, still, _⟩ := represents.updateJob
        { job with status := .cancelled, completedAtMs := some nowMs, updatedAtMs := nowMs }
        found named rfl readable
      simp only [bind, Except.bind, status, updates, cancelJob]
      exact ⟨rfl, still⟩
    | leased =>
      obtain ⟨_, updates, still, _⟩ := represents.updateJob
        { job with status := .cancelRequested, updatedAtMs := nowMs } found named rfl readable
      simp only [bind, Except.bind, status, updates, cancelJob]
      exact ⟨rfl, still⟩
    | cancelRequested =>
      obtain ⟨_, updates, still, _⟩ := represents.updateJob { job with updatedAtMs := nowMs }
        found named rfl readable
      simp only [status] at updates still
      simp only [bind, Except.bind, status, updates, cancelJob]
      exact ⟨rfl, still⟩
    | succeeded | failed | cancelled | needsAttention =>
      simp only [bind, Except.bind, status, cancelJob]
      exact ⟨rfl, represents.rewrite found⟩

theorem recoverPayloads (nowMs : Int) (snapshot : List Job)
    (stored : ∀ job ∈ snapshot, job.ReadsBack ∧
      ∃ current, store.get job.jobId = some current ∧ job.createdAtMs = current.createdAtMs) :
    ∃ observed after, JobTables.recoverPayloads nowMs tables
        (snapshot.map fun job => JsonText.toText job.toDocument) =
          .ok ((store.recoverJobs nowMs snapshot).1, observed, after) ∧ observed ≤ snapshot.length ∧
      after.Represents (store.recoverJobs nowMs snapshot).2 ∧
      after.expiredLeaseTransitions = tables.expiredLeaseTransitions := by
  induction snapshot generalizing tables store with
  | nil => exact ⟨0, tables, rfl, Nat.le_refl 0, represents, rfl⟩
  | cons job rest ih =>
    obtain ⟨readable, current, found, created⟩ := stored job List.mem_cons_self
    obtain ⟨newly, _, recovers, still, transitions⟩ :=
      represents.recoverExpiredJob found created readable nowMs
    -- the later jobs of the snapshot are still stored
    have later : ∀ other ∈ rest, other.ReadsBack ∧ ∃ current,
        (store.putJob job.jobId (MemoryJobStore.recoverExpiredJob job nowMs)).get other.jobId =
          some current ∧ other.createdAtMs = current.createdAtMs := by
      intro other member
      obtain ⟨otherReadable, kept, keptFound, keptCreated⟩ :=
        stored other (List.mem_cons_of_mem _ member)
      refine ⟨otherReadable, ?_⟩
      rw [get_putJob]
      by_cases same : other.jobId = job.jobId
      · rw [same, found] at keptFound
        cases keptFound
        rw [if_pos same]
        exact ⟨_, rfl, by rw [recoverExpiredJob_createdAtMs, keptCreated, created]⟩
      · rw [if_neg same]
        exact ⟨kept, keptFound, keptCreated⟩
    obtain ⟨observed, after, loops, _, atEnd, counter⟩ := ih still later
    have reads : readJob (JsonText.toText job.toDocument : Text) = .ok job :=
      readJob_toDocument readable
    refine ⟨(if newly then 1 else 0) + observed, after, ?_, ?_, atEnd, counter.trans transitions⟩
    · simp only [List.map_cons, JobTables.recoverPayloads, reads, recovers, loops, bind,
        Except.bind]
      rfl
    · rw [List.length_cons]
      split_ifs <;> omega

theorem recoverExpired (indexed : store.Indexed) (room : HasRoom tables) (nowMs : Int) :
    Agree (tables.recoverExpired nowMs)
      (.ok (store.recoverExpired nowMs).1, (store.recoverExpired nowMs).2) := by
  have stored : ∀ job ∈ store.expiredLeases nowMs, job.ReadsBack ∧
      ∃ current, store.get job.jobId = some current ∧ job.createdAtMs = current.createdAtMs := by
    intro job member
    have found := indexed.get_of_mem (mem_expiredLeases member).1
    exact ⟨represents.readable found, job, found, rfl⟩
  obtain ⟨observed, _, loops, _, still, _⟩ :=
    represents.recoverPayloads nowMs (store.expiredLeases nowMs) stored
  have shorter : (store.expiredLeases nowMs).length ≤ tables.jobs.size := by
    rw [represents.size_eq, MemoryJobStore.expiredLeases, List.length_insertionSort]
    exact List.length_filter_le _ _
  obtain ⟨_, counts, counted⟩ := still.incrementCounter observed (by
    unfold HasRoom at room
    omega)
  simp only [JobTables.recoverExpired, represents.expiredPayloads, loops, bind, Except.bind, counts]
  exact ⟨rfl, counted⟩

end Represents

section

theorem represents_initial : (initial : JobTables Text).Represents .empty where
  rowOf jobId := by simp [initial, MemoryJobStore.empty, MemoryJobStore.get]
  readable found := by simp [MemoryJobStore.empty, MemoryJobStore.get] at found
  counts status := by cases status <;> rfl

variable {tables : JobTables Text} {store : MemoryJobStore}

theorem Represents.get_eq (represents : tables.Represents store) (jobId : String) :
    tables.get jobId = .ok (store.get jobId) := by
  simp only [JobTables.get, represents.rowOf]
  cases found : store.get jobId with
  | none => rfl
  | some job =>
    simp only [map_some, represents.readJob_rowOf found]
    rfl

theorem Represents.count_rows (represents : tables.Represents store) (status : JobStatus) :
    tables.statusCounts[statusText status]? =
      some (tables.rows.countP fun row => row.status = statusText status) := by
  rw [represents.counts, represents.rows_eq, countP_map, countStatus]
  congr 1
  apply countP_congr
  intro job _
  change decide (job.status = status) = true ↔
    decide (statusText job.status = statusText status) = true
  rw [decide_eq_true_eq, decide_eq_true_eq, statusText_injective.eq_iff]

variable [Digests]

/-- The backends are compared on calls that report no `null` result and give no `null` evidence for
an unknown job, whose values are not nested too deep, while the anomaly counter has room. -/
def Comparable (tables : JobTables Text) (call : JobCall) : Prop :=
  tables.expiredLeaseTransitions + tables.jobs.size ≤ i64Max ∧
    match call with
    | .enqueue new _ => new.payload.nesting < 127
    | .complete request => request.result ≠ .null ∧ request.result.nesting < 127
    | .resolveExpiredSuccess request => request.result.nesting < 127 ∧
        (request.result = .null → tables.jobs.contains request.jobId = true)
    | _ => True

theorem Represents.exec (represents : tables.Represents store) (indexed : store.Indexed)
    {call : JobCall} (silent : call.events = []) (comparable : tables.Comparable call) :
    (tables.exec call).1 = (store.exec call).1 ∧
      (tables.exec call).2.Represents (store.exec call).2 := by
  obtain ⟨room, comparable⟩ := comparable
  cases call with
  | enqueue new nowMs =>
    obtain ⟨reply, still⟩ := represents.enqueue indexed comparable nowMs
    exact ⟨congrArg JobReply.job reply, still⟩
  | claim request =>
    obtain ⟨reply, still⟩ := represents.claim indexed request
    exact ⟨congrArg JobReply.claimed reply, still⟩
  | heartbeat request =>
    obtain ⟨reply, still⟩ := represents.heartbeat indexed room request silent
    exact ⟨congrArg JobReply.job reply, still⟩
  | complete request =>
    obtain ⟨reply, still⟩ := represents.complete indexed room request silent comparable
    exact ⟨congrArg JobReply.job reply, still⟩
  | resolveExpiredSuccess request =>
    have known (isNull : request.result.isNull = true) :
        tables.jobs.contains request.jobId = true := by
      apply comparable.2
      cases value : request.result <;> simp [value, Value.isNull] at isNull
      rfl
    obtain ⟨reply, still⟩ := represents.resolveExpiredSuccess
      indexed room request known comparable.1
    exact ⟨congrArg JobReply.job reply, still⟩
  | requestCancel jobId nowMs =>
    obtain ⟨reply, still⟩ := represents.requestCancel indexed jobId nowMs
    exact ⟨congrArg JobReply.job reply, still⟩
  | recoverExpired nowMs =>
    obtain ⟨reply, still⟩ := represents.recoverExpired indexed room nowMs
    exact ⟨congrArg JobReply.jobs reply, still⟩
  | expiredLeases nowMs =>
    exact ⟨congrArg JobReply.jobs (represents.expiredLeases nowMs), represents⟩

/-- Both backends answer every comparable sequence of calls without events
alike, hold the same jobs afterwards, and the status counts are the numbers of
stored jobs. -/
theorem stores_agree (calls : List JobCall) (silent : ∀ call ∈ calls, call.events = [])
    (comparable : CallsMeet exec Comparable (initial : JobTables Text) calls) :
    history exec (initial : JobTables Text) calls = history MemoryJobStore.exec .empty calls ∧
      (∀ jobId, (afterCalls exec (initial : JobTables Text) calls).get jobId =
        .ok ((afterCalls MemoryJobStore.exec .empty calls).get jobId)) ∧
      ∀ status,
        (afterCalls exec (initial : JobTables Text) calls).statusCounts[statusText status]? =
        some ((afterCalls exec (initial : JobTables Text) calls).rows.countP
          fun row => row.status = statusText status) := by
  have meets := comparable.and_forall silent
  obtain ⟨same, represents, _⟩ := meets.simulation
    (fun tables store => tables.Represents store ∧ store.Indexed)
    (fun tables store call related condition => by
      obtain ⟨reply, still⟩ := related.1.exec related.2 condition.2 condition.1
      exact ⟨reply, still, exec_indexed related.2 call⟩)
    ⟨represents_initial, indexed_empty⟩
  exact ⟨same, represents.get_eq, represents.count_rows⟩

end

open Scenario

def sampleJob : NewJob :=
  ⟨"job", "operation", "node", .install, .null, "key", 2⟩

/-- A worker loses its lease, the job is resolved by evidence, and the worker's
late report is answered alike. -/
theorem resolved_job_agrees : history exec (initial : JobTables Value)
        [.enqueue sampleJob 0, .claim ⟨"node", "worker", "token", 0, 1000⟩,
          .resolveExpiredSuccess ⟨"job", 2000, .bool true⟩,
          .complete ⟨"job", "token", .succeeded, .bool true, "", 3000, []⟩] =
      history MemoryJobStore.exec .empty
        [.enqueue sampleJob 0, .claim ⟨"node", "worker", "token", 0, 1000⟩,
          .resolveExpiredSuccess ⟨"job", 2000, .bool true⟩,
          .complete ⟨"job", "token", .succeeded, .bool true, "", 3000, []⟩] := by
  refine (stores_agree _ ?_ ?_).1
  · decide
  · refine ⟨⟨?_, ?_⟩, ⟨?_, trivial⟩, ⟨?_, ?_, by simp⟩, ⟨?_, by simp, ?_⟩, trivial⟩ <;>
      decide +kernel

/-- The backends disagree on `null` evidence for an unknown job, which one rejects and the
other does not find, and on a `null` result, which the tables lose before the next claim. -/
theorem null_results_differ :
    ((initial : JobTables Value).exec (.resolveExpiredSuccess ⟨"job", 0, .null⟩)).1 ≠
        (MemoryJobStore.empty.exec (.resolveExpiredSuccess ⟨"job", 0, .null⟩)).1 ∧
      history exec (initial : JobTables Value)
          [.enqueue sampleJob 0, .claim ⟨"node", "worker", "token", 0, 1000⟩,
            .complete ⟨"job", "token", .retryableFailure, .null, "", 10, []⟩,
            .claim ⟨"node", "worker", "other", 5000, 1000⟩] ≠ history MemoryJobStore.exec .empty
          [.enqueue sampleJob 0, .claim ⟨"node", "worker", "token", 0, 1000⟩,
            .complete ⟨"job", "token", .retryableFailure, .null, "", 10, []⟩,
            .claim ⟨"node", "worker", "other", 5000, 1000⟩] := by
  constructor
  · decide +kernel
  · intro same
    have replies := congrArg (map Prod.snd) same
    revert replies
    decide +kernel

end JobTables

end UntitledOJ
