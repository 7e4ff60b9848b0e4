import UntitledOJ.JudgeLeases

/-!
# Which results count

The result event of a lease carries what its transaction stores in the submission, unless that was
cancelled.  After a submission was reset or requeued, an earlier lease no longer counts, unless its
task was still running when the submissions of its problem were reset.
-/

namespace UntitledOJ

namespace Judge

open Account Option

section

/-- The event tells what the submission shows. -/
def JudgeResultEvent.Agrees (event : JudgeResultEvent) (submission : Submission) : Prop :=
  event.status = submission.status ∧ event.score = submission.score ∧
    event.timeMs = submission.timeMs ∧ event.memoryKb = submission.memoryKb

variable [JudgeDigests] {now id : Nat} {call : JudgeCall} {before later : Account}

theorem Move.posted_agrees {old : Submission} (move : Move now id before call later)
    (reported : call.Reported) (found : before.submission = some old) :
    ∀ row ∈ later.events, row ∉ before.events → ∃ stored, later.submission = some stored ∧
      (old.status ≠ .cancelled → row.payload.Agrees stored) ∧
        (old.status = .cancelled → stored = old) := by
  -- Only three moves add an event, which is the last of the list.
  have added {row task : _} {set : Submission → Submission} {leaseVersion : Nat} {receipt : Receipt}
      {payload : JudgeResultEvent} (agrees : payload.Agrees (set old))
      (member : row ∈ (before.settled id task set leaseVersion receipt payload).events)
      (fresh : row ∉ before.events) :
      ∃ stored, (before.settled id task set leaseVersion receipt payload).submission =
        some stored ∧ (old.status ≠ .cancelled → row.payload.Agrees stored) ∧
          (old.status = .cancelled → stored = old) := by
    simp only [settled_events, List.mem_append, List.mem_singleton, fresh, false_or] at member
    subst member
    refine ⟨unlessCancelled set old, by simp [found], fun kept => ?_, fun cancelled => ?_⟩
    · simpa [unlessCancelled, kept] using agrees
    · simp [unlessCancelled, cancelled]
  intro row member fresh
  cases move with
  | succeed =>
    obtain ⟨_, _, _, _, _, rfl⟩ := reported
    exact added ⟨rfl, rfl, rfl, rfl⟩ member fresh
  | fail =>
    obtain ⟨_, _, _, rfl⟩ := reported
    exact added ⟨rfl, rfl, rfl, rfl⟩ member fresh
  | exhaust => exact added ⟨rfl, rfl, rfl, rfl⟩ member fresh
  | _ => exact absurd member fresh

open JudgeState in
/-- In every interleaving of the transactions, a result event that is added for a submission that
was not cancelled carries what the transaction stores in the submission.  A cancelled submission
stays as it is, so that an event with a verdict does not agree with it. -/
theorem published_result_agrees (acts : List JudgeAct) (next : JudgeAct) (id : Nat) :
    ∀ row ∈ ((initial.after acts).act next).tables.outbox,
      row ∉ (initial.after acts).tables.outbox → row.taskId = deterministicTaskID id →
      ∃ old stored, (initial.after acts).tables.submissions[id]? = some old ∧
        ((initial.after acts).act next).tables.submissions[id]? = some stored ∧
        (old.status ≠ .cancelled → row.payload.Agrees stored) ∧
        (old.status = .cancelled → stored = old ∧
          (row.payload.status ≠ .cancelled → ¬ row.payload.Agrees stored)) := by
  intro row member fresh task
  have posted : row ∈ (((initial.after acts).act next).tables.account id).events :=
    List.mem_filter.mpr ⟨member, by simpa using task⟩
  have unposted : row ∉ ((initial.after acts).tables.account id).events :=
    fun old => fresh (List.mem_of_mem_filter old)
  rcases act_moves (initial.after acts) next id with same | ⟨_, reported, rfl, move⟩
  · exact absurd (same ▸ posted) unposted
  · rcases move.filed reported with unfiled | ⟨_, _, _, filing⟩
    · exact absurd (unfiled.events ▸ posted) unposted
    · have present := (fenced_after acts id).owned (by rw [filing.drawn]; rfl)
      obtain ⟨old, found⟩ := isSome_iff_exists.mp present
      obtain ⟨stored, there, agrees, kept⟩ := move.posted_agrees reported found row posted unposted
      refine ⟨old, stored, found, there, agrees, fun cancelled => ⟨kept cancelled, ?_⟩⟩
      intro verdict same
      exact verdict (by rw [same.1, kept cancelled, cancelled])

end

section

variable [JudgeDigests]

namespace JudgeState

/-- The act resets the submission for a new judgement, and it is committed. -/
def Restarts (state : JudgeState) (restart : JudgeAct) (id : Nat) : Prop :=
  state.connection ≠ .refuses ∧ ∃ submission, state.tables.submissions[id]? = some submission ∧
    ∃ call reported, restart = .transaction call reported ∧
      (call = .requeueSubmission id ∨
        call = .resetSubmissionsForProblem submission.problemId)

/-- The submissions of a problem are reset while the task of the submission is not leased. -/
def ResetsIdle (state : JudgeState) (restart : JudgeAct) (id : Nat) : Prop :=
  ∀ problemId reported, restart = .transaction (.resetSubmissionsForProblem problemId) reported →
    ∀ row, state.tables.tasks[id]? = some row → row.status ≠ .running

/-- The act reports on this lease, or recovers stale tasks while it is the current one. -/
def Handles (state : JudgeState) (next : JudgeAct) (id version : Nat) : Prop :=
  ∃ call reported, next = .transaction call reported ∧
    ((∃ workerId, call.reports = some (deterministicTaskID id, workerId, version)) ∨
      call = .recoverStaleTasks ∧ ∃ row, state.tables.tasks[id]? = some row ∧
        row.leaseVersion = version)

/-- Along the acts the worker was given this lease. -/
def Claimed (state : JudgeState) (acts : List JudgeAct) (id version : Nat)
    (workerId : String) : Prop :=
  ∃ first claim rest, acts = first ++ claim :: rest ∧
    (state.after first).Claims claim id version workerId

variable {state : JudgeState} {restart : JudgeAct} {id : Nat}

theorem exec_tables_of_connection {call : JudgeCall} (connected : state.connection ≠ .refuses) :
    (exec call state).2.tables = (state.commit call).2 := by
  unfold exec
  cases connection : state.connection with
  | answers => rfl
  | refuses => exact absurd connection connected
  | loses => rfl

theorem Restarts.idle (restarts : state.Restarts restart id)
    (resets : state.ResetsIdle restart id) :
    ∀ row, (state.act restart).tables.tasks[id]? = some row → row.status ≠ .running := by
  obtain ⟨connected, submission, found, _, reported, rfl, rfl | rfl⟩ := restarts
  · have account : ((state.act (.transaction (.requeueSubmission id) reported)).tables.account
        id).task = some ((state.tables.tasks[id]?).elim
          (.fresh state.tables.nextTask state.now submission) (TaskRow.requeued state.now)) := by
      simp only [act, exec_tables_of_connection connected, commit, Tables.perform,
        Tables.requeueSubmission, found, transact, account_upsertTask, upsertTask,
        account_updateSubmission, if_true, mapSubmission_task]
      rfl
    intro row drawn
    cases account.symm.trans drawn
    cases state.tables.tasks[id]? with
    | none => simp [TaskRow.fresh]
    | some old => simp [TaskRow.requeued]
  · have kept : ((state.act (.transaction (.resetSubmissionsForProblem submission.problemId)
        reported)).tables.account id).task = (state.tables.account id).task := by
      simp only [act, exec_tables_of_connection connected, commit, Tables.perform, transact,
        Tables.resetSubmissionsForProblem, account_updateSubmissions, mapSubmission_task]
    intro row drawn
    exact resets _ reported rfl row (kept.symm.trans drawn)

variable {version : Nat} {acts : List JudgeAct} {workerId : String}

theorem Claimed.reached (claimed : state.Claimed acts id version workerId) :
    ∃ row, (state.after acts).tables.tasks[id]? = some row ∧ version ≤ row.leaseVersion := by
  obtain ⟨_, _, rest, rfl, _, _, row, drawn, _, rfl, _⟩ := claimed
  rw [after_append]
  refine @after_invariant _ id (fun account => ∃ other, account.task = some other ∧
    row.leaseVersion ≤ other.leaseVersion) ?_ _ ⟨row, drawn, le_rfl⟩ rest
  rintro now call before later ⟨old, found, reached⟩ _ move
  obtain ⟨next, present, ⟨same, _⟩ | ⟨_, _, _, _, rfl⟩⟩ := move.lease found
  · exact ⟨next, present, same ▸ reached⟩
  · exact ⟨_, present, reached.trans (Nat.le_succ _)⟩

theorem Restarts.behind (restarts : (initial.after acts).Restarts restart id)
    (resets : (initial.after acts).ResetsIdle restart id)
    (claimed : initial.Claimed acts id version workerId) :
    (((initial.after acts).act restart).tables.account id).Behind version := by
  obtain ⟨row, drawn, _⟩ := claimed.reached
  obtain ⟨later, present, _⟩ := @leaseVersion_act row _ _ restart id drawn
  refine ⟨later, present, by omega, ?_⟩
  intro running
  exact absurd running (restarts.idle resets later present)

theorem Handles.unchanged {next : JudgeAct} (handles : state.Handles next id version)
    (behind : (state.tables.account id).Behind version) :
    (state.act next).tables.submissions[id]? = state.tables.submissions[id]? := by
  by_contra changed
  have moved : (state.act next).tables.account id ≠ state.tables.account id :=
    fun same => changed (congrArg submission same)
  obtain ⟨call, reported, rfl, ⟨_, reports⟩ | ⟨rfl, row, drawn, version⟩⟩ := handles
  · exact Concludes.not_behind ⟨⟨call, reported, rfl, .inl reports⟩, moved⟩ behind
  · exact Concludes.not_behind
      ⟨⟨_, reported, rfl, .inr ⟨rfl, row, drawn, version, rfl⟩⟩, moved⟩ behind

end JudgeState

theorem Move.terminal {now id : Nat} {call : JudgeCall} {before later : Account}
    {old stored : Submission} (move : Move now id before call later)
    (found : before.submission = some old) (present : later.submission = some stored)
    (opened : old.status.isTerminal = false) (closed : stored.status.isTerminal = true) :
    (∃ userId reason, call = .cancelSubmission id userId reason) ∨
      (∃ message, call = .markSubmissionSystemError id message) ∨
      ∃ row, before.task = some row ∧ row.status = .running ∧
        (call.reports = some (deterministicTaskID id, row.workerId.getD "", row.leaseVersion) ∨
          call = .recoverStaleTasks) := by
  -- A move that keeps the status, or makes it PENDING, is none of these.
  have kept (same : stored.status = old.status) : False := by
    rw [same, opened] at closed
    cases closed
  have waits (pending : stored.status = .pending) : False := by
    rw [pending] at closed
    cases closed
  cases move with
  | systemError => exact .inr (.inl ⟨_, rfl⟩)
  | cancel => exact .inl ⟨_, _, rfl⟩
  | succeed reports | fail reports =>
    obtain ⟨worker, rfl, running⟩ := isLeasedTo_iff.mp reports.held
    exact .inr (.inr ⟨_, reports.drawn, running, .inl (by rw [worker]; rfl)⟩)
  | exhaust drawn stale => exact .inr (.inr ⟨_, drawn, running_of_isStale stale, .inr rfl⟩)
  | create | reset other | requeue number other =>
    cases present
    exact (waits rfl).elim
  | source =>
    simp only [mapSubmission_submission, found, map_some, Option.some.injEq] at present
    exact (kept (by rw [← present])).elim
  | claim =>
    cases present
    cases closed
  | release =>
    simp only [mapSubmission_submission, found, map_some, Option.some.injEq, whenJudging] at present
    split_ifs at present
    · exact (waits (by rw [← present])).elim
    · exact (kept (by rw [← present])).elim
  | retry =>
    simp only [retried, file, mapSubmission_submission, found,
      map_some, Option.some.injEq, unlessCancelled] at present
    split_ifs at present
    · exact (waits (by rw [← present]; rfl)).elim
    · exact (kept (by rw [← present])).elim
  | expire =>
    simp only [mapSubmission_submission, found, map_some, Option.some.injEq, whenJudging] at present
    split_ifs at present
    · exact (waits (by rw [← present]; rfl)).elim
    · exact (kept (by rw [← present])).elim
  | _ => exact (kept (by rw [Option.some.inj (present.symm.trans found)])).elim

open JudgeState in
/-- After a submission is reset, while its task is not leased, or requeued, no report or
recovery under an earlier lease changes it, and a terminal status comes from a later lease,
a cancellation or `MarkSubmissionSystemError`. -/
theorem old_lease_never_counts (acts : List JudgeAct) (restart : JudgeAct) (id : Nat)
    (restarts : (initial.after acts).Restarts restart id)
    (resets : (initial.after acts).ResetsIdle restart id) (more : List JudgeAct) (next : JudgeAct) :
    (∀ version workerId, initial.Claimed acts id version workerId →
      (((initial.after acts).act restart).after more).Handles next id version →
      ((((initial.after acts).act restart).after more).act next).tables.submissions[id]? =
        (((initial.after acts).act restart).after more).tables.submissions[id]?) ∧ ∀ old stored,
      (((initial.after acts).act restart).after more).tables.submissions[id]? = some old →
      ((((initial.after acts).act restart).after more).act next).tables.submissions[id]? =
        some stored → old.status.isTerminal = false → stored.status.isTerminal = true →
      ∃ call reported, next = .transaction call reported ∧
        ((∃ userId reason, call = .cancelSubmission id userId reason) ∨
          (∃ message, call = .markSubmissionSystemError id message) ∨ ∃ version workerId,
            (((initial.after acts).act restart).after more).Concludes next id version workerId ∧
            ((initial.after acts).act restart).Claimed more id version workerId) := by
  constructor
  · intro version workerId claimed handles
    refine handles.unchanged ?_
    exact after_invariant (fun behind _ => behind.move) (restarts.behind resets claimed) more
  · intro old stored found present opened closed
    have changed : ((((initial.after acts).act restart).after more).act next).tables.account id ≠
        (((initial.after acts).act restart).after more).tables.account id := by
      intro same
      have kept := (congrArg submission same).symm.trans present
      cases kept.symm.trans found
      simp [opened] at closed
    rcases act_moves (((initial.after acts).act restart).after more) next id with
      same | ⟨call, reported, rfl, move⟩
    · exact absurd same changed
    · refine ⟨call, reported, rfl, ?_⟩
      rcases move.terminal found present opened closed with cancels | fails |
        ⟨row, drawn, running, kind⟩
      · exact .inl cancels
      · exact .inr (.inl fails)
      · have concludes : (((initial.after acts).act restart).after more).Concludes
            (.transaction call reported) id row.leaseVersion (row.workerId.getD "") := by
          refine ⟨⟨call, reported, rfl, ?_⟩, changed⟩
          rcases kind with reports | recovers
          · exact .inl reports
          · exact .inr ⟨recovers, row, drawn, rfl, rfl⟩
        refine .inr (.inr ⟨_, _, concludes, ?_⟩)
        rcases exists_claim ⟨row, drawn, running, rfl, rfl⟩ with ⟨other, held, leased, _⟩ |
          ⟨first, claim, rest, _, same, worker, claims⟩
        · exact absurd leased (restarts.idle resets other held)
        · rw [worker]
          exact ⟨first, claim, rest, same, claims⟩

end

namespace JudgeScenario

open JudgeState

scoped instance sameDigests : JudgeDigests := ⟨fun _ => ⟨0⟩, fun _ version _ => toString version⟩

def localProblem : ProblemMeta := ⟨false, false, 0, 0, "", "", 0, "d"⟩

def claimByWorker : JudgeAct := .transaction (.claimTasks "w" [] 1 1000 []) trivial

def served : List JudgeAct :=
  [.event (.configure true), .event (.project 1 localProblem),
    .transaction (.createSubmission 1 1 "c") trivial,
    .transaction (.ensureTaskForSubmission 1) trivial, .transaction (.upsertWorker "w") trivial,
    claimByWorker]

def accepts (leaseVersion : Nat) : WorkerSubmitResultReq :=
  ⟨⟨1⟩, "w", leaseVersion, .accepted, 100, 1, 1, "", []⟩

def reportAccepted (leaseVersion : Nat) : JudgeAct :=
  .transaction (.markTaskSucceeded ⟨1⟩ "w" leaseVersion
    { successTransition ⟨1⟩ "w" (accepts leaseVersion) 0 with resultPath := "r" })
    ⟨accepts leaseVersion, 0, "r", rfl, rfl, rfl⟩

def cancels : JudgeAct := .transaction (.cancelSubmission 1 1 "r") trivial

def resets : JudgeAct := .transaction (.resetSubmissionsForProblem 1) trivial

def statusAfter (acts : List JudgeAct) : Option SubmissionStatus :=
  (initial.after acts).tables.submissions[1]?.map Submission.status

def verdictsAfter (acts : List JudgeAct) : List (TaskId × SubmissionStatus) :=
  (initial.after acts).tables.outbox.map fun row => (row.taskId, row.payload.status)

/-- The report of a running task is published as it is stored. -/
theorem accepted_result_agrees :
    ∃ row ∈ ((initial.after served).act (reportAccepted 1)).tables.outbox,
      row ∉ (initial.after served).tables.outbox ∧
        ∃ submission, ((initial.after served).act (reportAccepted 1)).tables.submissions[1]? =
          some submission ∧ row.payload.Agrees submission := by
  have posted : (((initial.after served).act (reportAccepted 1)).tables.outbox.any fun row =>
      row.taskId = ⟨1⟩ && !(initial.after served).tables.outbox.contains row) = true := by
    decide +kernel
  obtain ⟨row, member, shown⟩ := List.any_eq_true.mp posted
  simp only [Bool.and_eq_true, decide_eq_true_eq, Bool.not_eq_true', List.contains_eq_mem,
    decide_eq_false_iff_not] at shown
  have judging : statusAfter served = some .judging := by decide +kernel
  obtain ⟨old, stored, found, there, agrees, _⟩ :=
    published_result_agrees served (reportAccepted 1) 1 row member shown.2 shown.1
  rw [statusAfter, found, map_some, Option.some.injEq] at judging
  exact ⟨row, member, shown.2, stored, there, agrees (by simp [judging])⟩

/-- The submission was cancelled, and the report is published as accepted. -/
theorem cancelled_result_published : verdictsAfter (served ++ [cancels]) = [] ∧
      statusAfter (served ++ [cancels]) = some .cancelled ∧
      verdictsAfter (served ++ [cancels] ++ [reportAccepted 1]) = [(⟨1⟩, .accepted)] ∧
      statusAfter (served ++ [cancels] ++ [reportAccepted 1]) = some .cancelled := by
  decide +kernel

theorem claimed_served (rest : List JudgeAct) : initial.Claimed (served ++ rest) 1 1 "w" := by
  have leased : ((initial.after served).tables.tasks[1]?.any fun row =>
      row.status = .running && row.leaseVersion = 1 && row.workerId = some "w") = true := by
    decide +kernel
  have waits : ((initial.after (served.take 5)).tables.tasks[1]?.all fun row =>
      row.status ≠ .running) = true := by
    decide +kernel
  obtain ⟨row, drawn, shown⟩ := (any_eq_true _ _).mp leased
  simp only [Bool.and_eq_true, decide_eq_true_eq] at shown
  refine ⟨served.take 5, claimByWorker, rest, rfl, ⟨_, _, rfl, [], 1, 1000, [], rfl⟩, ?_,
    row, drawn, shown.1.1, shown.1.2, shown.2⟩
  intro other found
  rw [found] at waits
  simpa using waits

theorem restarts_reset {acts : List JudgeAct}
    (connected : (initial.after acts).connection = .answers)
    (found : (initial.after acts).tables.submissions[1]?.map Submission.problemId = some 1) :
    (initial.after acts).Restarts resets 1 := by
  obtain ⟨submission, stored, problem⟩ := map_eq_some_iff.mp found
  exact ⟨by simp [connected], submission, stored, _, _, rfl, .inr (by rw [problem])⟩

/-- The lease has reported before the submissions are reset.  Its report comes again, after
the task was claimed anew, and changes nothing. -/
theorem late_report_ignored : statusAfter (served ++ [reportAccepted 1] ++ [resets] ++
        [.transaction (.ensureTaskForSubmission 1) trivial, claimByWorker]) = some .judging ∧
      ((((initial.after (served ++ [reportAccepted 1])).act resets).after
        [.transaction (.ensureTaskForSubmission 1) trivial, claimByWorker]).act
          (reportAccepted 1)).tables.submissions[1]? =
      (((initial.after (served ++ [reportAccepted 1])).act resets).after
        [.transaction (.ensureTaskForSubmission 1) trivial,
          claimByWorker]).tables.submissions[1]? := by
  refine ⟨by decide +kernel, ?_⟩
  have idle : ((initial.after (served ++ [reportAccepted 1])).tables.tasks[1]?.all fun row =>
      row.status ≠ .running) = true := by
    decide +kernel
  refine (old_lease_never_counts (served ++ [reportAccepted 1]) resets 1
    (restarts_reset (by decide +kernel) (by decide +kernel)) ?_ _ (reportAccepted 1)).1 1 "w"
    (claimed_served _) ⟨_, _, rfl, .inl ⟨"w", rfl⟩⟩
  intro problemId reported _ row drawn
  rw [drawn] at idle
  simpa using idle

/-- The task is still running when the submissions are reset, and its report decides the
new judgement. -/
theorem old_lease_counts :
    initial.Claimed served 1 1 "w" ∧ (initial.after served).Restarts resets 1 ∧
      ((initial.after served).act resets).Handles (reportAccepted 1) 1 1 ∧
      statusAfter (served ++ [resets]) = some .pending ∧
      statusAfter (served ++ [resets] ++ [reportAccepted 1]) = some .accepted := by
  refine ⟨?_, restarts_reset (by decide +kernel) (by decide +kernel), ?_, by decide +kernel,
    by decide +kernel⟩
  · exact List.append_nil served ▸ claimed_served []
  · exact ⟨_, _, rfl, .inl ⟨"w", rfl⟩⟩

end JudgeScenario

end Judge

end UntitledOJ
