import UntitledOJ.JobStoreInvariant

/-!
# Leases and cancellation over sequences of calls

A worker's report changes a job only under the lease of the latest claim and before its deadline; an
older token can at most make the store notice that the lease has expired.  A cancellation request
survives every call except a retryable completion.
-/

namespace UntitledOJ

open MemoryJobStore
open JobStatus (isTerminal isHeld isHeld_iff isClaimable)

/-- The token that an answered call issued for this job. -/
def issuedToken (jobId : String) : JobCall × JobReply → Option String
  | (.claim request, .claimed (.ok (some job))) =>
    if job.jobId = jobId then some request.leaseToken else none
  | _ => none

/-- The token of the last claim that was answered with the job. -/
def latestToken (jobId : String) (past : List (JobCall × JobReply)) : Option String :=
  (past.filterMap (issuedToken jobId)).getLast?

def JobCall.claimToken : JobCall → Option String
  | .claim request => some request.leaseToken
  | _ => none

/-- The tokens that the claims bring. -/
def claimTokens (calls : List JobCall) : List String :=
  calls.filterMap JobCall.claimToken

/-- A completion that reports the same outcome with the same token. -/
def CompleteRequest.Repeats (replay request : CompleteRequest) : Prop :=
  replay.jobId = request.jobId ∧ replay.leaseToken = request.leaseToken ∧
    replay.status = request.status ∧ replay.result = request.result ∧
    replay.errorMessage = request.errorMessage

namespace Job

variable [Digests] {job later : Job} {call : JobCall}

/-- A job under a lease was just claimed, or it was under the same lease. -/
theorem Move.held (move : job.Move call later) (held : later.status.isHeld = true) :
    (∃ request, call = .claim request ∧ later.leaseToken = some request.leaseToken) ∨
      (job.status.isHeld = true ∧ later.leaseToken = job.leaseToken) := by
  cases move with
  | claim claimable => exact .inl ⟨_, rfl, rfl⟩
  | renew named active => exact .inr ⟨held, rfl⟩
  | @complete request named active =>
    cases outcome : request.status <;>
      simp [completeJob, outcome, isTerminal, isHeld] at held
    split_ifs at held
  | resolve expired => simp [Job.resolved, isHeld] at held
  | cancel live =>
    cases status : job.status <;>
      simp_all [cancelJob, isHeld, isTerminal]
  | recover _ observes expired =>
    simp only [recoverExpiredJob] at held
    split_ifs at held <;> simp [isHeld] at held

theorem Move.attempt (move : job.Move call later) (other : ∀ request, call ≠ .claim request) :
    later.attempt = job.attempt := by
  cases move with
  | claim claimable => exact absurd rfl (other _)
  | renew named active | resolve expired => rfl
  | complete named active =>
    simp only [completeJob]
    split <;> split_ifs <;> rfl
  | cancel live =>
    simp only [cancelJob]
    split <;> rfl
  | recover _ observes expired =>
    simp only [recoverExpiredJob]
    split_ifs <;> rfl

end Job

namespace MemoryJobStore

/-- The job and its events are as they were. -/
def Unaltered (before after : MemoryJobStore) (jobId : String) : Prop :=
  after.get jobId = before.get jobId ∧ after.events[jobId]? = before.events[jobId]?

/-- The job is held under this token, in time or not. -/
def HeldUnder (store : MemoryJobStore) (jobId token : String) : Prop :=
  ∃ job, store.get jobId = some job ∧ job.status.isHeld = true ∧ job.leaseToken = some token

/-- The job is leased under this token, and the lease is running. -/
def LeasedTo (store : MemoryJobStore) (jobId token : String) (nowMs : Int) : Prop :=
  ∃ job deadline, store.get jobId = some job ∧
    (job.status = .leased ∨ job.status = .cancelRequested) ∧ job.leaseToken = some token ∧
    job.leaseExpiresAtMs = some deadline ∧ nowMs < deadline

variable {nowMs : Int} {jobId token : String} {call : JobCall} {job : Job}

section

variable {store : MemoryJobStore} {events : List NewJobEvent} {other : String}

theorem unaltered_putJob (job : Job) (different : other ≠ jobId) :
    store.Unaltered (store.putJob jobId job) other :=
  ⟨by rw [get_putJob, if_neg different], rfl⟩

theorem appendEvents_unaltered {outcome : Except JobError Unit} {appended : MemoryJobStore}
    (append : store.appendEvents jobId nowMs events = (outcome, appended))
    (different : other ≠ jobId) : store.Unaltered appended other := by
  obtain rfl : (store.appendEvents jobId nowMs events).2 = appended := by rw [append]
  refine ⟨rfl, ?_⟩
  simp only [appendEvents]
  rw [getElem?_insert_of_eq, if_neg different]

theorem Unaltered.trans {first second third : MemoryJobStore}
    (earlier : first.Unaltered second jobId) (later : second.Unaltered third jobId) :
    first.Unaltered third jobId :=
  ⟨later.1.trans earlier.1, later.2.trans earlier.2⟩

theorem leasedTo_of_leaseActive (found : store.get jobId = some job)
    (active : leaseActive job token nowMs = true) : store.LeasedTo jobId token nowMs := by
  have held := isHeld_iff.mp (Job.held_of_leaseActive active)
  simp only [leaseActive, Bool.and_eq_true, decide_eq_true_eq] at active
  obtain ⟨⟨_, owned⟩, running⟩ := active
  obtain ⟨deadline, due, early⟩ := (Option.any_eq_true _ _).mp running
  exact ⟨job, deadline, found, held, owned, due, by simpa using early⟩

theorem LeasedTo.heldUnder (leased : store.LeasedTo jobId token nowMs) :
    store.HeldUnder jobId token := by
  obtain ⟨job, _, found, held, owned, _⟩ := leased
  exact ⟨job, found, isHeld_iff.mpr held, owned⟩

variable [Digests]

/-- The call found the lease of this job expired, recovered the job and was
rejected; nothing else changed. -/
def Recovers (store : MemoryJobStore) (call : JobCall) (jobId : String) : Prop :=
  ∃ job, store.get jobId = some job ∧ leaseExpired job call.nowMs = true ∧
    store.exec call =
      (.job (.error .staleLease), store.putJob jobId (recoverExpiredJob job call.nowMs))

/-- A worker's report changes nothing, notices that the lease has expired, or
acts under the running lease of its token. -/
theorem Reported.fenced {write : Job → Job} {result : Except JobError Job × MemoryJobStore}
    (reported : store.Reported jobId token call.nowMs events write result)
    (answered : store.exec call = result.map .job id) :
    (store.exec call).2 = store ∨ store.Recovers call jobId ∨
      store.LeasedTo jobId token call.nowMs ∧
        ∀ other ≠ jobId, store.Unaltered (store.exec call).2 other := by
  cases reported with
  | unchanged same => exact .inl (by rw [answered, Prod.map_snd, id_eq, same])
  | recovered found expired recovers =>
    exact .inr (.inl ⟨_, found, expired, by rw [answered, recovers]; rfl⟩)
  | conflict found active append stops =>
    refine .inr (.inr ⟨leasedTo_of_leaseActive found active, fun other different => ?_⟩)
    rw [answered, stops]
    exact appendEvents_unaltered append different
  | accepted found active append writes =>
    refine .inr (.inr ⟨leasedTo_of_leaseActive found active, fun other different => ?_⟩)
    rw [answered, writes]
    exact (appendEvents_unaltered append different).trans (unaltered_putJob _ different)

theorem report_cases (store : MemoryJobStore) (report : call.report = some (jobId, token)) :
    (store.exec call).2 = store ∨ store.Recovers call jobId ∨
      store.LeasedTo jobId token call.nowMs ∧
        ∀ other ≠ jobId, store.Unaltered (store.exec call).2 other := by
  cases call with
  | heartbeat request =>
    cases report
    exact (heartbeat_reported store request).fenced rfl
  | complete request =>
    cases report
    exact (complete_reported store request).fenced rfl
  | _ => cases report

end

section

theorem latestToken_concat (jobId : String) (past : List (JobCall × JobReply))
    (entry : JobCall × JobReply) : latestToken jobId (past ++ [entry]) =
      (issuedToken jobId entry).or (latestToken jobId past) := by
  cases issued : issuedToken jobId entry <;> simp [latestToken, issued]

theorem issuedToken_of_no_claim {reply : JobReply} (other : ∀ request, call ≠ .claim request) :
    issuedToken jobId (call, reply) = none := by
  cases call with
  | claim request => exact absurd rfl (other request)
  | _ => rfl

variable [Digests] {store : MemoryJobStore}

def HoldsLatest (past : List (JobCall × JobReply)) (store : MemoryJobStore) : Prop :=
  ∀ jobId job, store.get jobId = some job → job.status.isHeld = true →
    job.leaseToken = latestToken jobId past

theorem HoldsLatest.exec {past : List (JobCall × JobReply)} (valid : store.Valid)
    (holds : HoldsLatest past store) (call : JobCall) :
    HoldsLatest (past ++ [(call, (store.exec call).1)]) (store.exec call).2 := by
  intro jobId later stored held
  rw [latestToken_concat]
  cases call with
  | claim request =>
    rcases claim_cases valid.indexed request with ⟨same, unanswered⟩ | ⟨job, found, _, claimed⟩
    · have silent : issuedToken jobId (.claim request, (store.exec (.claim request)).1) = none := by
        simp only [MemoryJobStore.exec, Prod.map_fst]
        cases reply : (store.claim request).1 with
        | error error => rfl
        | ok answer =>
          cases answer with
          | none => rfl
          | some job => exact absurd reply (unanswered job)
      rw [silent, Option.none_or]
      exact holds jobId later (by rwa [← same]) held
    · simp only [MemoryJobStore.exec, claimed, Prod.map_snd, id_eq, get_putJob] at stored
      simp only [MemoryJobStore.exec, claimed, Prod.map_fst, issuedToken, Job.claimed]
      split_ifs at stored with same
      · cases stored
        simp [same, Job.claimed]
      · rw [if_neg (Ne.symm same), Option.none_or]
        exact holds jobId later stored held
  | _ =>
    rw [issuedToken_of_no_claim (by simp), Option.none_or]
    cases exec_changes valid.indexed _ jobId with
    | same kept => exact holds jobId later (kept ▸ stored) held
    | add missing added fresh =>
      cases added.symm.trans stored
      simp [fresh.status, isHeld] at held
    | move found moved move =>
      cases moved.symm.trans stored
      rcases move.held held with ⟨_, claims, _⟩ | ⟨heldBefore, sameToken⟩
      · cases claims
      · rw [sameToken, holds jobId _ found heldBefore]

theorem holdsLatest_history (calls : List JobCall) :
    HoldsLatest (history exec empty calls) (afterCalls exec empty calls) := by
  have initial : empty.Valid ∧ HoldsLatest [] empty :=
    ⟨valid_empty, fun _ _ found => by simp [empty, get] at found⟩
  have kept := history_invariant
    (fun past (store : MemoryJobStore) => store.Valid ∧ HoldsLatest past store)
    (fun past store (call : JobCall) holds => ⟨holds.1.exec call, holds.2.exec holds.1 call⟩)
    initial calls
  simpa using kept.2

def Counted (past : List (JobCall × JobReply)) (store : MemoryJobStore) : Prop :=
  ∀ jobId, (past.filterMap (issuedToken jobId)).length = (store.get jobId).elim 0 Job.attempt

theorem Counted.exec {past : List (JobCall × JobReply)} (valid : store.Valid)
    (counted : Counted past store) (call : JobCall) :
    Counted (past ++ [(call, (store.exec call).1)]) (store.exec call).2 := by
  intro jobId
  rw [List.filterMap_append, List.length_append, counted jobId]
  by_cases claims : ∃ request, call = .claim request
  · obtain ⟨request, rfl⟩ := claims
    rcases claim_cases valid.indexed request with ⟨same, unanswered⟩ | ⟨job, found, _, claimed⟩
    · simp only [MemoryJobStore.exec, Prod.map_fst, Prod.map_snd, same, id_eq]
      cases reply : (store.claim request).1 with
      | error error => rfl
      | ok answer =>
        cases answer with
        | none => rfl
        | some job => exact absurd reply (unanswered job)
    · simp only [MemoryJobStore.exec, claimed, Prod.map_fst, Prod.map_snd, id_eq, get_putJob]
      by_cases same : jobId = job.jobId
      · simp [issuedToken, same, Job.claimed, found]
      · simp [issuedToken, same, Job.claimed, Ne.symm same]
  · push Not at claims
    rw [List.filterMap_cons_none (issuedToken_of_no_claim claims)]
    cases exec_changes valid.indexed call jobId with
    | same kept => simp [kept]
    | add missing added fresh => simp [missing, added, fresh.attempt]
    | move found stored move => simp [found, stored, move.attempt claims]

variable (valid : store.Valid) (lost : ¬ store.HeldUnder jobId token)
include valid lost

theorem not_heldUnder_exec (other : call.claimToken ≠ some token) :
    ¬ (store.exec call).2.HeldUnder jobId token := by
  rintro ⟨later, stored, held, owned⟩
  cases exec_changes valid.indexed call jobId with
  | same kept => exact lost ⟨later, kept ▸ stored, held, owned⟩
  | add missing added fresh =>
    cases added.symm.trans stored
    simp [fresh.status, isHeld] at held
  | move found moved move =>
    cases moved.symm.trans stored
    rcases move.held held with ⟨_, rfl, claimed⟩ | ⟨heldBefore, sameToken⟩
    · exact other (claimed.symm.trans owned)
    · exact lost ⟨_, found, heldBefore, sameToken.symm.trans owned⟩

theorem not_heldUnder_afterCalls {calls : List JobCall} (unused : token ∉ claimTokens calls) :
    ¬ (afterCalls exec store calls).HeldUnder jobId token := by
  have others : CallsMeet exec (fun _ call => call.claimToken ≠ some token) store calls := by
    refine .of_forall ?_ store
    intro call member _ claims
    exact unused (List.mem_filterMap.mpr ⟨call, member, claims⟩)
  have kept := others.invariant
    (fun store => store.Valid ∧ ¬ store.HeldUnder jobId token)
    (fun store call holds other =>
      ⟨holds.1.exec call, not_heldUnder_exec holds.1 holds.2 other⟩) ⟨valid, lost⟩
  exact kept.2

end

section

theorem completeJob_sealed {fingerprint : String}
    (terminal : (completeJob job request fingerprint).status.isTerminal = true) :
    (completeJob job request fingerprint).leaseToken = job.leaseToken ∧
      (completeJob job request fingerprint).completionFingerprint = some fingerprint := by
  cases outcome : request.status with
  | retryableFailure =>
    by_cases budget : job.attempt < job.maxAttempts
    · simp [completeJob, outcome, budget, isTerminal] at terminal
    · simp [completeJob, outcome, budget, isTerminal]
  | _ => simp [completeJob, outcome, isTerminal]

variable [Digests] {store : MemoryJobStore} {request : CompleteRequest}

/-- A terminal answer to a completion is stored, under the token and with the
fingerprint of that completion. -/
theorem complete_answer (answered : (store.complete request).1 = .ok job)
    (terminal : job.status.isTerminal = true) :
    (store.complete request).2.get request.jobId = some job ∧
      job.leaseToken = some request.leaseToken ∧ job.completionFingerprint = some
        (completionFingerprint request.status request.result request.errorMessage) := by
  simp only [complete] at answered ⊢
  split at answered
  · cases answered
  · rename_i stored found
    split_ifs at answered with finished replayed expired active
    · cases answered
      exact ⟨by simp [found, finished, replayed], replayed⟩
    · split at answered
      · cases answered
      · cases answered
        obtain ⟨sameToken, fingerprint⟩ := completeJob_sealed terminal
        simp only [leaseActive, Bool.and_eq_true, decide_eq_true_eq] at active
        refine ⟨?_, sameToken.trans active.1.2, fingerprint⟩
        simp [finished, expired, leaseActive, active, get_putJob]

theorem complete_replayed {replay : CompleteRequest}
    (found : store.get request.jobId = some job) (terminal : job.status.isTerminal = true)
    (owned : job.leaseToken = some request.leaseToken) (sealed : job.completionFingerprint = some
      (completionFingerprint request.status request.result request.errorMessage))
    (repeats : replay.Repeats request) : store.complete replay = (.ok job, store) := by
  obtain ⟨sameId, sameToken, sameStatus, sameResult, sameError⟩ := repeats
  simp only [complete, sameId, found, terminal, if_true]
  rw [if_pos ⟨by rw [owned, sameToken], by rw [sealed, sameStatus, sameResult, sameError]⟩]

end

abbrev reached [Digests] (calls : List JobCall) : MemoryJobStore :=
  afterCalls exec empty calls

section

variable [Digests]

/-- After any calls a job has been handed out as often as its attempts say, and never more
often than it may be tried. -/
theorem claims_counted (calls : List JobCall) (jobId : String) :
    ((history exec empty calls).filterMap (issuedToken jobId)).length =
        ((reached calls).get jobId).elim 0 Job.attempt ∧
      ((reached calls).get jobId).elim 0 Job.attempt ≤
        ((reached calls).get jobId).elim 0 Job.maxAttempts := by
  constructor
  · have initial : empty.Valid ∧ Counted [] empty := ⟨valid_empty, fun _ => by simp [empty, get]⟩
    have kept := history_invariant
      (fun past (store : MemoryJobStore) => store.Valid ∧ Counted past store)
      (fun _ _ (call : JobCall) holds => ⟨holds.1.exec call, holds.2.exec holds.1 call⟩)
      initial calls
    simpa using kept.2 jobId
  · cases stored : (reached calls).get jobId with
    | none => exact le_rfl
    | some job => exact ((valid_afterCalls calls).consistent stored).attempts

/-- After any calls whose claims use distinct tokens, a report changes only its own job:
under the lease of the latest claim and before its deadline, or to recover the expired
lease.  A repeated completion of a finished job returns the stored job. -/
theorem lease_fencing (calls : List JobCall) (distinct : (claimTokens calls).Nodup)
    (call : JobCall) (jobId token : String) (report : call.report = some (jobId, token)) :
    (∀ other ≠ jobId, (reached calls).Unaltered ((reached calls).exec call).2 other) ∧
      (¬ (reached calls).Unaltered ((reached calls).exec call).2 jobId →
        (latestToken jobId (history exec empty calls) = some token ∧
          (reached calls).LeasedTo jobId token call.nowMs) ∨ (reached calls).Recovers call jobId) ∧
      (∀ first rest, calls = first ++ rest → token ∈ claimTokens first →
        ¬ (reached first).HeldUnder jobId token →
        (reached calls).Unaltered ((reached calls).exec call).2 jobId ∨
          (reached calls).Recovers call jobId) ∧
      ∀ first rest request replay job, calls = first ++ .complete request :: rest →
        ((reached first).exec (.complete request)).1 = .job (.ok job) →
        job.status.isTerminal = true → call = .complete replay → replay.Repeats request →
        (reached calls).exec call = (.job (.ok job), reached calls) := by
  have cases := report_cases (reached calls) report
  refine ⟨?_, ?_, ?_, ?_⟩
  · intro other different
    rcases cases with same | ⟨job, _, _, recovered⟩ | ⟨_, others⟩
    · rw [same]
      exact ⟨rfl, rfl⟩
    · rw [recovered]
      exact unaltered_putJob _ different
    · exact others other different
  · intro altered
    rcases cases with same | recovers | ⟨leased, _⟩
    · rw [same] at altered
      exact absurd ⟨rfl, rfl⟩ altered
    · exact .inr recovers
    · obtain ⟨job, found, held, owned⟩ := leased.heldUnder
      exact .inl ⟨(holdsLatest_history calls jobId job found held).symm.trans owned, leased⟩
  · rintro first rest rfl issued lost
    -- the token was used before, so no later claim uses it
    have unused : token ∉ claimTokens rest := by
      rw [claimTokens, List.filterMap_append, List.nodup_append] at distinct
      intro again
      exact distinct.2.2 token issued token again rfl
    have stillLost := not_heldUnder_afterCalls (valid_afterCalls first) lost unused
    rw [← afterCalls_append] at stillLost
    rcases cases with same | recovers | ⟨leased, _⟩
    · rw [same]
      exact .inl ⟨rfl, rfl⟩
    · exact .inr recovers
    · exact absurd leased.heldUnder stillLost
  · rintro first rest request replay job rfl answered terminal rfl repeats
    have completed : ((reached first).complete request).1 = .ok job := by
      simpa [exec] using answered
    obtain ⟨stored, owned, fingerprint⟩ := complete_answer completed terminal
    have valid := (valid_afterCalls first).exec (.complete request)
    have found := valid.finished stored terminal rest
    have split : reached (first ++ .complete request :: rest) =
        afterCalls exec ((reached first).exec (.complete request)).2 rest :=
      afterCalls_append empty first (.complete request :: rest)
    rw [← split] at found
    simp only [exec, complete_replayed found terminal owned fingerprint repeats]
    rfl

end

section

theorem stopping_cancelJob : (cancelJob job nowMs).status = .cancelRequested ∨
      (cancelJob job nowMs).status.isTerminal = true := by
  cases status : job.status <;> simp [cancelJob, status, isTerminal]

variable [Digests]

/-- A retryable completion, under its running lease, of a job whose cancellation was requested, with
attempts left. -/
def RetriesCancelled (store : MemoryJobStore) (call : JobCall) : Prop :=
  ∃ request job, call = .complete request ∧ request.status = .retryableFailure ∧
    store.get request.jobId = some job ∧ job.status = .cancelRequested ∧
    leaseActive job request.leaseToken request.nowMs = true ∧ job.attempt < job.maxAttempts

def Stopping (store : MemoryJobStore) (jobId : String) : Prop :=
  ∃ job, store.get jobId = some job ∧
    (job.status = .cancelRequested ∨ job.status.isTerminal = true)

/-- A job that is asked to stop keeps stopping, whatever move it makes, unless
its completion is retried. -/
theorem stopping_move {later : Job} (move : job.Move call later)
    (requested : job.status = .cancelRequested)
    (unretried : ∀ request, call = .complete request → request.status = .retryableFailure →
      leaseActive job request.leaseToken request.nowMs = true → ¬ job.attempt < job.maxAttempts) :
    later.status = .cancelRequested ∨ later.status.isTerminal = true := by
  cases move with
  | claim claimable => simp [requested, isClaimable] at claimable
  | renew named active => exact .inl requested
  | @complete request named active =>
    cases outcome : request.status with
    | retryableFailure =>
      have exhausted := unretried request rfl outcome active
      simp [completeJob, outcome, exhausted, isTerminal]
    | _ => simp [completeJob, outcome, isTerminal]
  | resolve expired => exact .inr rfl
  | cancel live => exact stopping_cancelJob
  | recover _ observes expired => simp [recoverExpiredJob, requested, isTerminal]

theorem Stopping.exec {store : MemoryJobStore} (stopping : store.Stopping jobId)
    (valid : store.Valid) (unretried : ¬ store.RetriesCancelled call) :
    (store.exec call).2.Stopping jobId := by
  obtain ⟨job, found, requested | terminal⟩ := stopping
  · cases exec_changes valid.indexed call jobId with
    | same kept => exact ⟨job, kept.trans found, .inl requested⟩
    | add missing added fresh => simp [found] at missing
    | move earlier stored move =>
      cases earlier.symm.trans found
      refine ⟨_, stored, stopping_move move requested ?_⟩
      rintro request rfl outcome active budget
      -- the move shows that the completion names this job
      have named : request.jobId = jobId := by
        rw [← valid.indexed.keyed found]
        cases move with
        | complete named active => exact named
        | recover _ observes expired =>
          rcases observes with ⟨_, reports⟩ | ⟨_, other⟩
          · exact congrArg Prod.fst (Option.some.inj reports)
          · cases other
      exact unretried ⟨request, _, rfl, outcome, named ▸ found, requested, active, budget⟩
  · exact ⟨job, valid.finished_exec found terminal call, .inr terminal⟩

/-- After a cancellation was accepted, and as long as no
retryable completion is reported under the lease of a job that is asked to stop, the job is
never queued, waiting or leased again, and no claim returns it. -/
theorem cancellation_kept (calls later : List JobCall) (jobId : String) (nowMs : Int) (job : Job)
    (found : (reached calls).get jobId = some job)
    (unretried : CallsMeet exec (fun store call => ¬ store.RetriesCancelled call)
      ((reached calls).requestCancel jobId nowMs).2 later) :
    (∃ last, (afterCalls exec ((reached calls).requestCancel jobId nowMs).2 later).get jobId =
        some last ∧ last.status ≠ .queued ∧ last.status ≠ .retryWait ∧ last.status ≠ .leased) ∧
      ∀ request claimed, (.claim request, .claimed (.ok (some claimed))) ∈
        history exec ((reached calls).requestCancel jobId nowMs).2 later →
        claimed.jobId ≠ jobId := by
  set cancelled := ((reached calls).requestCancel jobId nowMs).2 with cancels
  have valid : cancelled.Valid := (valid_afterCalls calls).exec (.requestCancel jobId nowMs)
  have stopping : cancelled.Stopping jobId := by
    refine ⟨cancelJob job nowMs, ?_, stopping_cancelJob⟩
    simp [cancels, requestCancel, found, get_putJob]
  have kept {part : List JobCall} (meets : CallsMeet exec
      (fun store call => ¬ store.RetriesCancelled call) cancelled part) :
      (afterCalls exec cancelled part).Valid ∧ (afterCalls exec cancelled part).Stopping jobId :=
    meets.invariant (fun store => store.Valid ∧ store.Stopping jobId)
      (fun store call holds meets => ⟨holds.1.exec call, holds.2.exec holds.1 meets⟩)
      ⟨valid, stopping⟩
  constructor
  · obtain ⟨last, stored, status⟩ := (kept unretried).2
    refine ⟨last, stored, ?_⟩
    rcases status with requested | terminal
    · simp [requested]
    · cases ended : last.status <;> simp_all [isTerminal]
  · intro request claimed member sameId
    obtain ⟨_, _, _, rfl, entry⟩ := exists_of_mem_history member
    obtain ⟨rfl, answer⟩ := Prod.mk.inj entry
    obtain ⟨validThen, last, stored, status⟩ := kept unretried.of_append
    rcases claim_cases validThen.indexed request with ⟨_, unanswered⟩ |
      ⟨waiting, waitingFound, claimable, claims⟩
    · simp only [exec, Prod.map_fst, JobReply.claimed.injEq] at answer
      exact unanswered claimed answer.symm
    · simp only [exec, claims, Prod.map_fst, JobReply.claimed.injEq, Except.ok.injEq,
        Option.some.injEq] at answer
      have sameJob : waiting = last := by
        have named : waiting.jobId = jobId := by rw [← sameId, answer]; rfl
        rw [named, stored] at waitingFound
        exact (Option.some.inj waitingFound).symm
      subst sameJob
      rcases status with requested | terminal
      · simp [requested, isClaimable] at claimable
      · simp [JobStatus.isTerminal_of_isClaimable claimable] at terminal

end

open Scenario

def enqueued (kind : JobKind) : JobCall :=
  .enqueue ⟨"job", "operation", "node", kind, .null, "key", 2⟩ 0

def claimedBy (token : String) (nowMs : Int) : JobCall :=
  .claim ⟨"node", "worker", token, nowMs, 1000⟩

def reported (token : String) (status : CompletionStatus) (nowMs : Int) : JobCall :=
  .complete ⟨"job", token, status, .null, "", nowMs, []⟩

/-- The first worker's lease expires and a second worker claims the job: the
first worker's late report of success changes nothing. -/
theorem late_report_fenced : (reached [enqueued .health, claimedBy "first" 0, .recoverExpired 1000,
        claimedBy "second" 2000]).Unaltered
      ((reached [enqueued .health, claimedBy "first" 0, .recoverExpired 1000,
        claimedBy "second" 2000]).exec (reported "first" .succeeded 2500)).2 "job" := by
  have lost : ¬ (reached [enqueued .health, claimedBy "first" 0,
      .recoverExpired 1000]).HeldUnder "job" "first" := by
    rintro ⟨job, found, held, _⟩
    have recovered : ((reached [enqueued .health, claimedBy "first" 0,
        .recoverExpired 1000]).get "job").all fun job => !job.status.isHeld := by
      decide +kernel
    rw [found] at recovered
    simp [held] at recovered
  have fenced := lease_fencing
    [enqueued .health, claimedBy "first" 0, .recoverExpired 1000, claimedBy "second" 2000]
    (by decide) (reported "first" .succeeded 2500) "job" "first" rfl
  rcases fenced.2.2.1 [enqueued .health, claimedBy "first" 0, .recoverExpired 1000]
      [claimedBy "second" 2000] rfl (by decide) lost with unaltered | ⟨job, found, expired, _⟩
  · exact unaltered
  · have leased : ((reached [enqueued .health, claimedBy "first" 0, .recoverExpired 1000,
        claimedBy "second" 2000]).get "job").all fun job => !leaseExpired job 2500 := by
      decide +kernel
    rw [found] at leased
    exact absurd expired (by simpa [reported, JobCall.nowMs] using leased)

/-- A cancelled job that its worker reports as cancelled stays cancelled, and
the next claim of the node finds nothing. -/
theorem cancelled_job_stays :
    ∃ last, (afterCalls exec ((reached [enqueued .install, claimedBy "first" 0]).requestCancel
        "job" 10).2 [reported "first" .cancelled 20, claimedBy "second" 5000]).get "job" =
      some last ∧ last.status ≠ .queued ∧ last.status ≠ .retryWait ∧ last.status ≠ .leased := by
  have leased : ((reached [enqueued .install, claimedBy "first" 0]).get "job").isSome := by
    decide +kernel
  obtain ⟨job, found⟩ := Option.isSome_iff_exists.mp leased
  refine (cancellation_kept [enqueued .install, claimedBy "first" 0]
    [reported "first" .cancelled 20, claimedBy "second" 5000] "job" 10 job found ?_).1
  refine ⟨?_, ?_, trivial⟩
  · rintro ⟨request, job, completes, retryable, _⟩
    cases completes
    cases retryable
  · rintro ⟨request, job, completes, _⟩
    cases completes

/-- A worker that drains during shutdown reports the cancelled execution as
retryable.  The job whose cancellation was accepted waits for a retry, and the
next claim leases it again. -/
theorem cancelled_job_claimed_again :
    ((reached [enqueued .install, claimedBy "first" 0]).requestCancel "job" 10).1.toOption.map
        (·.status) = some .cancelRequested ∧
      ((reached [enqueued .install, claimedBy "first" 0, .requestCancel "job" 10,
        reported "first" .retryableFailure 20]).get "job").map (·.status) = some .retryWait ∧
      ((reached [enqueued .install, claimedBy "first" 0, .requestCancel "job" 10,
        reported "first" .retryableFailure 20]).claim
          ⟨"node", "worker", "second", 5000, 1000⟩).1.toOption.join.map
        (fun job => (job.jobId, job.status)) = some ("job", .leased) := by
  decide +kernel

end MemoryJobStore

end UntitledOJ
