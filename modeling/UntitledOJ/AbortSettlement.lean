import UntitledOJ.PlaneRuns

/-!
# Aborts that succeed

Only a pass of the worker settles an abort as succeeded: when nothing is left to restore, or
after the providers, the bindings and the head went back.
-/

namespace UntitledOJ

open Worked Plane Platform MemoryJobStore

variable {jobId : String}

section

theorem Job.Move.succeeded [Digests] {job later : Job} {call : JobCall}
    (move : job.Move call later) (settled : later.status = .succeeded) : job.status = .succeeded ∨
      (∃ request, call = .complete request ∧ request.jobId = job.jobId ∧
        request.status = .succeeded) ∨ ∃ request, call = .resolveExpiredSuccess request := by
  cases move with
  | claim claimable => cases settled
  | renew named active => exact .inl settled
  | @complete request named active =>
    refine .inr (.inl ⟨request, rfl, named, ?_⟩)
    simp only [MemoryJobStore.completeJob] at settled
    cases status : request.status <;> rw [status] at settled <;> dsimp only at settled <;>
      split_ifs at settled
  | @resolve request expired => exact .inr (.inr ⟨request, rfl⟩)
  | cancel live =>
    refine .inl ?_
    unfold MemoryJobStore.cancelJob at settled
    split at settled <;> first | exact settled | cases settled
  | recover call observes expired =>
    simp only [MemoryJobStore.recoverExpiredJob] at settled
    split_ifs at settled

theorem MemoryJobStore.resolveExpiredSuccess_get_of_ne [Digests] {store : MemoryJobStore}
    {request : ResolveExpiredSuccessRequest} (other : jobId ≠ request.jobId) :
    (store.resolveExpiredSuccess request).2.get jobId = store.get jobId := by
  simp only [resolveExpiredSuccess]
  split_ifs
  · rfl
  · split
    · rfl
    · split_ifs
      · rfl
      · rfl
      · rfl
      · rfl
      · rw [get_putJob, if_neg other]

variable [Digests] [AddressSyntax] {plane : Plane}

theorem Plane.Underway.exec (underway : plane.Underway jobId)
    (indexed : plane.jobs.Indexed) {call : PlaneCall}
    (uncompleted : ∀ request, call = .complete request → request.jobId = jobId →
      request.status ≠ .succeeded) (unresolved : ∀ members operationId nowMs result,
      call ≠ .resolveExpiredGroupSuccess members operationId jobId nowMs result) :
    (exec call plane).2.Underway jobId := by
  intro later found settled
  rcases exec_jobs call plane with same | ⟨_, called, same⟩
  · rw [same] at found
    exact underway later found settled
  obtain ⟨earlier, stored, rfl | ⟨_, calledAgain, move⟩⟩ := exec_origin indexed call found
  · exact underway later stored settled
  cases called.symm.trans calledAgain
  rcases move.succeeded settled with before | ⟨request, rfl, named, status⟩ | ⟨_, rfl⟩
  · exact underway earlier stored before
  · cases call with
    | complete given =>
      cases called
      exact uncompleted _ rfl (named.trans (indexed.keyed stored)) status
    | _ => cases called
  · cases call with
    | resolveExpiredGroupSuccess members operationId resolvedId nowMs result =>
      cases called
      have other : jobId ≠ resolvedId := by
        rintro rfl
        exact unresolved members operationId nowMs result rfl
      rw [same] at found
      change (plane.jobs.resolveExpiredSuccess ⟨resolvedId, nowMs, result⟩).2.get jobId = _ at found
      rw [resolveExpiredSuccess_get_of_ne other] at found
      exact underway later found settled
    | _ => cases called

end

/-- An abort that succeeded found nothing left to restore, or it took the head back. -/
def Plane.AbortSettled (start : Plane) (held : HeldJob) (payload : TopologyApplyPayload)
    (now : Plane) : Prop :=
  ∃ heads, start.topology.heads[payload.topologyId]? = some heads ∧
    (start.SameTables now ∧ replaysAbort payload held.job.operationId heads = true ∨
      heads.Admits payload held.job.operationId ∧
        ∃ previous, Rewound start.topology held payload heads previous now)

/-- A job of the operation with this ABORT payload succeeds. -/
def Plane.SucceedsAbort (before after : Plane) (operationId : String)
    (payload : TopologyApplyPayload) : Prop :=
  payload.phase = .abort ∧ ∃ jobId job settled,
    before.jobs.get jobId = some job ∧ job.status ≠ .succeeded ∧
      after.jobs.get jobId = some settled ∧ settled.status = .succeeded ∧
      job.kind = .topologyApply ∧ job.operationId = operationId ∧
      TopologyApplyPayload.ofDocument job.payload = .ok payload

def Plane.showsAbort (before after : Plane) (jobId operationId : String)
    (payload : TopologyApplyPayload) : Bool :=
  payload.phase = .abort && (after.jobs.get jobId).any (·.status = .succeeded) &&
    (before.jobs.get jobId).any fun job =>
      job.status ≠ .succeeded && job.kind = .topologyApply && job.operationId = operationId &&
        (match TopologyApplyPayload.ofDocument job.payload with
        | .ok decoded => decide (decoded = payload)
        | .error _ => false)

variable {operationId : String} {payload : TopologyApplyPayload}

theorem Plane.succeedsAbort_of_shows {before after : Plane} (jobId : String)
    (shows_ : before.showsAbort after jobId operationId payload = true) :
    before.SucceedsAbort after operationId payload := by
  simp only [showsAbort, Bool.and_eq_true, decide_eq_true_eq, Option.any_eq_true] at shows_
  obtain ⟨⟨phase, settled, afterwards, succeeded⟩, job, found,
    ⟨⟨unsettled, kind⟩, operation⟩, decoded⟩ := shows_
  refine ⟨phase, jobId, job, settled, found, unsettled, afterwards, succeeded, kind, operation, ?_⟩
  split at decoded
  · rename_i payload read
    rw [read, of_decide_eq_true decoded]
  · cases decoded

theorem Plane.AbortSettled.sameTables {start now later : Plane} {held : HeldJob}
    (settled : start.AbortSettled held payload now) (same : now.SameTables later) :
    start.AbortSettled held payload later := by
  obtain ⟨heads, found, ⟨sameStart, replays⟩ | ⟨admits, previous, rewound⟩⟩ := settled
  · exact ⟨heads, found, .inl ⟨sameStart.trans same, replays⟩⟩
  · exact ⟨heads, found, .inr ⟨admits, previous, rewound.sameTables same⟩⟩

section

variable {start plane : Plane} {env : WorkerEnvironment} {call : PlaneCall}

theorem PassCall.settlement (lawful : PassCall start env call plane) :
    call.isRead = true ∨ (∃ request, call = .claim request ∧ plane = start) ∨
      (∃ request, call = .heartbeat request) ∨
      ∃ job, start.claimedJob env = some job ∧ plane.Underway job.jobId ∧
        (∀ members operationId jobId nowMs result,
          call ≠ .resolveExpiredGroupSuccess members operationId jobId nowMs result) ∧
        ∀ request, call = .complete request → request.jobId = job.jobId ∧
          (request.status = .succeeded → ∀ held payload, start.Runs env held payload →
            payload.phase = .abort → start.AbortSettled held payload plane) := by
  cases lawful with
  | read reads => exact .inl reads
  | claim => exact .inr (.inl ⟨_, rfl, rfl⟩)
  | heartbeat => exact .inr (.inr (.inl ⟨_, rfl⟩))
  | complete claimed named underway unaborted =>
    refine .inr (.inr (.inr ⟨_, claimed, underway, nofun, ?_⟩))
    rintro request ⟨⟩
    exact ⟨named, fun succeeded held payload runs phase =>
      absurd succeeded (unaborted held payload runs phase)⟩
  | group runs _ underway | refuse runs _ _ underway | reacquire runs _ _ underway =>
    exact .inr (.inr (.inr ⟨_, runs.claimed, underway, nofun, nofun⟩))
  | degrade claimed underway => exact .inr (.inr (.inr ⟨_, claimed, underway, nofun, nofun⟩))
  | @replay held payload heads given _ runs same underway named found replays =>
    refine .inr (.inr (.inr ⟨_, runs.claimed, underway, nofun, ?_⟩))
    rintro request ⟨⟩
    refine ⟨named, ?_⟩
    intro _ again decoded runsAgain _
    obtain ⟨rfl, rfl⟩ := runs.unique runsAgain
    exact ⟨heads, found, .inl ⟨same, replays⟩⟩
  | @phase held payload heads origin _ _ runs _ _ begins admits lawful =>
    cases lawful with
    | read reads => exact .inl reads
    | heartbeat => exact .inr (.inr (.inl ⟨_, rfl⟩))
    | write inside write =>
      exact .inr (.inr (.inr ⟨_, runs.claimed, inside.underway, by cases write <;> nofun,
        by cases write <;> nofun⟩))
    | complete named underway aborted =>
      refine .inr (.inr (.inr ⟨_, runs.claimed, underway, nofun, ?_⟩))
      rintro request ⟨⟩
      refine ⟨named, ?_⟩
      intro succeeded again decoded runsAgain phase
      obtain ⟨rfl, rfl⟩ := runs.unique runsAgain
      obtain ⟨previous, rewound⟩ := aborted phase succeeded
      have same := begins.same (by rw [phase]; nofun)
      refine ⟨heads, ?_, .inr ⟨admits, previous, ?_⟩⟩
      · rw [← same]
        exact begins.found
      · rw [← same]
        exact rewound

variable [Digests] [AddressSyntax]

/-- A job that has not succeeded, or the abort that the pass settled. -/
def Plane.Settles (start : Plane) (env : WorkerEnvironment) (jobId : String) (now : Plane) :
    Prop :=
  now.Underway jobId ∨
    (∃ job, start.claimedJob env = some job ∧ job.jobId = jobId) ∧
      ∀ held payload, start.Runs env held payload → payload.phase = .abort →
        start.AbortSettled held payload now

theorem Plane.Settles.exec (underwayFirst : start.Underway jobId)
    (indexed : plane.jobs.Indexed) (settles : start.Settles env jobId plane)
    (lawful : PassCall start env call plane) : start.Settles env jobId (exec call plane).2 := by
  rcases lawful.settlement with reads | ⟨request, rfl, rfl⟩ | ⟨request, rfl⟩ |
    ⟨job, claimed, underway, unresolved, completes⟩
  · rw [exec_read reads]
    exact settles
  · exact .inl (underwayFirst.exec indexed nofun nofun)
  · rcases settles with still | ⟨ours, settled⟩
    · exact .inl (still.heartbeat indexed request)
    · exact .inr ⟨ours, fun held payload runs phase =>
        (settled held payload runs phase).sameTables (heartbeat_sameTables plane request)⟩
  · -- the job the pass holds is not settled, so neither is this one
    have still : plane.Underway jobId := by
      rcases settles with still | ⟨⟨_, claimedOther, rfl⟩, _⟩
      · exact still
      · cases claimed.symm.trans claimedOther
        exact underway
    by_cases succeeds : ∃ request, call = .complete request ∧ request.jobId = jobId ∧
        request.status = .succeeded
    · obtain ⟨request, rfl, named, succeeded⟩ := succeeds
      obtain ⟨namedJob, settled⟩ := completes request rfl
      refine .inr ⟨⟨job, claimed, namedJob.symm.trans named⟩, ?_⟩
      intro held payload runs phase
      exact (settled succeeded held payload runs phase).sameTables
        (complete_sameTables plane request)
    · refine .inl (still.exec indexed ?_ fun members operationId nowMs result =>
        unresolved members operationId jobId nowMs result)
      intro request called named succeeded
      exact succeeds ⟨request, called, named, succeeded⟩

theorem Plane.Orderly.pass_settles (orderly : start.Orderly) (underway : start.Underway jobId)
    (stop : Option Nat) : start.Settles env jobId (Plane.react (.pass env stop) start) := by
  have kept : (Plane.react (.pass env stop) start).jobs.Indexed ∧
      start.Settles env jobId (Plane.react (.pass env stop) start) := by
    refine react_invariant (fun now => now.jobs.Indexed ∧ start.Settles env jobId now) orderly
      ?_ ?_ ⟨orderly.indexed, .inl underway⟩
    · rintro (⟨_, _, ⟨⟩⟩ | ⟨_, _, ⟨⟩⟩)
    · intro call now holds made
      exact ⟨exec_indexed holds.1 call, holds.2.exec underway holds.1 made⟩
  exact kept.2

end

variable [Digests] [AddressSyntax] {start plane : Plane} {event : PlaneEvent}

section

variable (orderly : start.Orderly)
include orderly

theorem Plane.Orderly.jobs_underway (underway : start.Underway jobId)
    (changes : (∃ new nowMs, event = .enqueueJob new nowMs) ∨
      ∃ cancelledId nowMs, event = .cancelJob cancelledId nowMs) :
    (Plane.react event start).Underway jobId := by
  intro later found settled
  rcases changes with ⟨_, nowMs, rfl⟩ | ⟨cancelledId, nowMs, rfl⟩
  · simp only [Plane.react] at found
    split_ifs at found
    · rcases MemoryJobStore.enqueue_origin found with stored | ⟨_, _, _, queued⟩
      · exact underway later stored settled
      · rw [queued] at settled
        cases settled
    · exact underway later found settled
  · change (start.jobs.exec (.requestCancel cancelledId nowMs)).2.get jobId = some later at found
    obtain ⟨earlier, stored, rfl | move⟩ :=
      MemoryJobStore.exec_origin orderly.indexed (by rintro _ _ ⟨⟩) found
    · exact underway later stored settled
    · rcases move.succeeded settled with before | ⟨_, ⟨⟩, _⟩ | ⟨_, ⟨⟩⟩
      exact underway earlier stored before

/-- An event whose calls neither complete nor resolve a job leaves it unsettled. -/
theorem Plane.Orderly.react_underway (underway : start.Underway jobId)
    (uncompleted : ∀ call now, EventCall start event call now → ∀ request,
      call ≠ .complete request) (unresolved : ∀ call now, EventCall start event call now →
      ∀ members operationId nowMs result,
        call ≠ .resolveExpiredGroupSuccess members operationId jobId nowMs result) :
    (Plane.react event start).Underway jobId := by
  have kept : (Plane.react event start).jobs.Indexed ∧
      (Plane.react event start).Underway jobId := by
    refine react_invariant (fun now => now.jobs.Indexed ∧ now.Underway jobId) orderly ?_ ?_
      ⟨orderly.indexed, underway⟩
    · intro changes
      exact ⟨(orderly.react event).indexed, orderly.jobs_underway underway changes⟩
    · intro call now holds made
      refine ⟨exec_indexed holds.1 call, holds.2.exec holds.1 ?_ (unresolved call now made)⟩
      intro request called
      exact absurd called (uncompleted call now made request)
  exact kept.2

/-- Recovery settles as succeeded only the phases whose success the heads prove. -/
theorem Plane.Orderly.recovery_underway {nowMs : Int} {updatedAt : String} {stop : Option Nat}
    {job : Job} (found : start.jobs.get jobId = some job) (underway : start.Underway jobId)
    (decoded : TopologyApplyPayload.ofDocument job.payload = .ok payload)
    (phase : payload.phase = .abort) :
    (Plane.react (.recoverExpired nowMs updatedAt stop) start).Underway jobId := by
  refine orderly.react_underway underway ?_ ?_
  · rintro call now made request rfl
    cases made with
    | read reads => cases reads
  · rintro call now made members operationId resolvedMs result rfl
    cases made with
    | read reads => cases reads
    | @resolve expiredJob other _ _ _ expired recoverable decodedOther provable =>
      obtain ⟨_, listed⟩ := mem_values.mp (mem_expiredLeases expired).1
      obtain rfl := orderly.indexed.keyed listed
      cases found.symm.trans listed
      obtain rfl := Except.ok.inj (decoded.symm.trans decodedOther)
      simp [successIdentities, phase] at provable

theorem Plane.Orderly.react_settles
    (succeeds : start.SucceedsAbort (Plane.react event start) operationId payload) :
    ∃ env stop held, event = .pass env stop ∧ start.Runs env held payload ∧
      held.job.operationId = operationId ∧
      start.AbortSettled held payload (Plane.react event start) := by
  obtain ⟨phase, jobId, _, settled, found, unsettled, after, succeeded, kind, operation,
    decoded⟩ := succeeds
  have underway : start.Underway jobId := by
    intro stored present
    cases found.symm.trans present
    exact unsettled
  have impossible {α : Prop} (still : (Plane.react event start).Underway jobId) : α :=
    absurd succeeded (still settled after)
  cases event with
  | createTopology | editDraft | rollbackDraft =>
    refine impossible (orderly.react_underway underway ?_ ?_)
    · rintro _ _ ⟨rfl, _⟩ _ ⟨⟩
    · rintro _ _ ⟨rfl, _⟩ _ _ _ _ ⟨⟩
  | enqueueJob new nowMs =>
    exact impossible (orderly.jobs_underway underway (.inl ⟨new, nowMs, rfl⟩))
  | cancelJob cancelledId nowMs =>
    exact impossible (orderly.jobs_underway underway (.inr ⟨cancelledId, nowMs, rfl⟩))
  | recoverExpired => exact impossible (orderly.recovery_underway found underway decoded phase)
  | recoverTerminal =>
    refine impossible (orderly.react_underway underway ?_ ?_)
    · rintro _ _ made _ rfl
      cases made with
      | read reads => cases reads
    · rintro _ _ made _ _ _ _ rfl
      cases made with
      | read reads => cases reads
  | pass env stop =>
    rcases orderly.pass_settles underway stop with still | ⟨⟨claimed, ours, rfl⟩, abort⟩
    · exact impossible still
    · obtain ⟨_, request, present, same⟩ := claimedJob_cases orderly.indexed ours
      cases found.symm.trans present
      have runs : start.Runs env ⟨claimed, request.leaseToken⟩ payload := by
        subst same
        exact ⟨ours, rfl, kind, decoded⟩
      refine ⟨env, stop, _, rfl, runs, ?_, abort _ _ runs phase⟩
      subst same
      exact operation

end

theorem abort_step {permits : topologyPlane.Discipline} {before after : topologyPlane.Config}
    (reached : Run permits idlePlane before) (step : Step permits before after)
    (succeeds : before.state.SucceedsAbort after.state operationId payload) :
    ∃ env stop held, permits before (.event (.pass env stop)) ∧
      after.state = Plane.react (.pass env stop) before.state ∧
      before.state.Runs env held payload ∧ held.job.operationId = operationId ∧
      before.state.AbortSettled held payload after.state := by
  have orderly := (reached_orderly reached).1
  have unchanged {α : Prop} (still : ∀ jobId, before.state.Underway jobId →
      after.state.Underway jobId) : α := by
    obtain ⟨_, jobId, _, settled, found, unsettled, after, succeeded, _⟩ := succeeds
    refine absurd succeeded (still jobId ?_ settled after)
    intro stored present
    cases found.symm.trans present
    exact unsettled
  rcases plane_step_cases reached step with same | ⟨_, _, _, _, _, lawful, same⟩ |
    ⟨_, permitted, same⟩
  · refine unchanged fun jobId underway => ?_
    rw [same]
    exact underway
  · refine unchanged fun jobId underway => ?_
    rw [same]
    cases lawful with
    | read reads =>
      rw [exec_read reads]
      exact underway
    | draft | plan | begin | release => exact underway.exec orderly.indexed nofun nofun
  · rw [same] at succeeds ⊢
    obtain ⟨env, stop, held, rfl, runs, operation, settled⟩ := orderly.react_settles succeeds
    exact ⟨env, stop, held, permitted, rfl, runs, operation, settled⟩

end UntitledOJ
