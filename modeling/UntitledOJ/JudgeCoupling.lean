import UntitledOJ.JudgeVerdicts

/-!
# Submissions and their tasks

A waiting submission has no task or a waiting one, and a submission that is judged has a leased
task.  Every transaction keeps this, apart from the reset of the submissions of a problem, which
leaves the tasks, and `EnsureTaskForSubmission`, which does not look at the submission.
-/

namespace UntitledOJ

namespace Judge

open Option

/-- The task can take the submission on. -/
structure Account.Coupled (account : Account) : Prop where
  waits : ∀ submission, account.submission = some submission → submission.status = .pending →
    ∀ row, account.task = some row → row.status = .pending
  judged : ∀ submission, account.submission = some submission → submission.status = .judging →
    ∃ row, account.task = some row ∧ row.status = .running ∧ row.workerId.isSome ∧
      row.leaseExpiresAt.isSome

namespace Account.Coupled

variable {account later : Account} {set : Submission → Submission} {stored : Option Submission}
  {row : TaskRow}

theorem of_waiting (drawn : account.task = some row) (waits : row.status = .pending)
    (unjudged : ∀ submission, account.submission = some submission →
      submission.status ≠ .judging) : account.Coupled where
  waits _ _ _ other found := by
    cases drawn.symm.trans found
    exact waits
  judged submission found judging := absurd judging (unjudged submission found)

theorem of_terminal (terminal : ∀ submission, account.submission = some submission →
    submission.status.isTerminal = true) : account.Coupled where
  waits submission found pending := by
    have closed := terminal submission found
    rw [pending] at closed
    cases closed
  judged submission found judging := by
    have closed := terminal submission found
    rw [judging] at closed
    cases closed

theorem congr_status (coupled : account.Coupled)
    (same : later.submission.map Submission.status = account.submission.map Submission.status)
    (task : later.task = account.task) : later.Coupled := by
  have status {submission : Submission} (found : later.submission = some submission) :
      ∃ other, account.submission = some other ∧ other.status = submission.status := by
    rw [found, map_some, eq_comm, map_eq_some_iff] at same
    exact same
  constructor
  · intro submission found pending row drawn
    obtain ⟨other, stored, equal⟩ := status found
    exact coupled.waits other stored (equal.trans pending) row (task ▸ drawn)
  · intro submission found judging
    obtain ⟨other, stored, equal⟩ := status found
    rw [task]
    exact coupled.judged other stored (equal.trans judging)

theorem refreshed (coupled : account.Coupled) {workerId : String} {leaseVersion : Nat}
    (drawn : account.task = some row) (held : row.isLeasedTo workerId leaseVersion = true)
    (now leaseMs : Nat) :
    ({ account with task := some (row.refreshed now leaseMs) } : Account).Coupled := by
  obtain ⟨worker, _, running⟩ := isLeasedTo_iff.mp held
  constructor
  · intro submission found pending
    have waits := coupled.waits submission found pending row drawn
    simp [running] at waits
  · intro _ _ _
    exact ⟨_, rfl, running, by simp [TaskRow.refreshed, worker], rfl⟩

theorem unjudged_whenJudging (unjudged : ∀ row, (set row).status ≠ .judging) :
    ∀ submission, stored.map (whenJudging set) = some submission →
      submission.status ≠ .judging := by
  intro submission found
  obtain ⟨old, _, rfl⟩ := map_eq_some_iff.mp found
  unfold whenJudging
  split_ifs with judging
  · exact unjudged old
  · exact judging

theorem terminal_unlessCancelled (terminal : ∀ row, (set row).status.isTerminal = true) :
    ∀ submission, stored.map (unlessCancelled set) = some submission →
      submission.status.isTerminal = true := by
  intro submission found
  obtain ⟨old, _, rfl⟩ := map_eq_some_iff.mp found
  unfold unlessCancelled
  split_ifs with kept
  · exact terminal old
  · rw [not_not.mp kept]
    rfl

variable [JudgeDigests] {now id : Nat} {call : JudgeCall}

/-- The two state machines move together, if a reset finds the task waiting and a task is
not reset under a submission that is judged. -/
theorem move (coupled : account.Coupled) (fenced : account.Fenced id) (reported : call.Reported)
    (moves : Move now id account call later)
    (resets : ∀ submission, account.submission = some submission →
      call = .resetSubmissionsForProblem submission.problemId →
      ∀ row, account.task = some row → row.status = .pending)
    (ensures : ∀ submission, account.submission = some submission →
      call = .ensureTaskForSubmission id → submission.status ≠ .judging) : later.Coupled := by
  cases moves with
  | rest => exact coupled
  | create problemId userId language free =>
    have missing : account.task = none := by
      by_contra present
      have numbered := fenced.created (fenced.owned (ne_none_iff_isSome.mp present))
      simp [free] at numbered
    constructor
    · intro _ _ _ row drawn
      cases missing.symm.trans drawn
    · intro submission found judging
      cases found
      cases judging
  | source => exact coupled.congr_status (by simp [Function.comp_def]) rfl
  | systemError | cancel =>
    refine of_terminal ?_
    intro submission found
    obtain ⟨old, _, rfl⟩ := map_eq_some_iff.mp found
    rfl
  | reset found =>
    constructor
    · intro _ _ _ row drawn
      exact resets _ found rfl row drawn
    · intro submission stored judging
      cases stored
      cases judging
  | @ensure submission number found =>
    refine of_waiting rfl ?_ ?_
    · cases account.task <;> rfl
    · intro other stored
      cases found.symm.trans stored
      exact ensures submission found rfl
  | requeue number found =>
    refine of_waiting rfl ?_ ?_
    · cases account.task <;> rfl
    · intro other stored
      cases stored
      simp [Submission.requeued]
  | draw number found waits =>
    refine of_waiting rfl rfl ?_
    intro other stored
    cases found.symm.trans stored
    simp [waits]
  | claim =>
    constructor
    · intro submission found pending
      cases found
      cases pending
    · intro _ _ _
      exact ⟨_, rfl, rfl, rfl, rfl⟩
  | refresh drawn held | refreshClaimed drawn held => exact coupled.refreshed drawn held _ _
  | release => exact of_waiting rfl rfl (unjudged_whenJudging fun _ => by simp)
  | succeed =>
    obtain ⟨_, _, _, terminal, _, rfl⟩ := reported
    exact of_terminal (terminal_unlessCancelled fun _ => terminal)
  | fail =>
    obtain ⟨_, _, _, rfl⟩ := reported
    refine of_terminal (terminal_unlessCancelled fun _ => ?_)
    simp only [Submission.failed, failureTransition, WorkerFailTaskReq.resultEvent,
      WorkerFailTaskReq.status]
    split_ifs <;> rfl
  | retry =>
    refine of_waiting rfl rfl ?_
    intro submission found
    obtain ⟨_, _, rfl⟩ := map_eq_some_iff.mp found
    unfold unlessCancelled
    split_ifs with cancelled
    · simp [Submission.failed]
    · simp [not_not.mp cancelled]
  | exhaust => exact of_terminal (terminal_unlessCancelled fun _ => rfl)
  | expire => exact of_waiting rfl rfl (unjudged_whenJudging fun _ => by simp [Submission.expired])

end Account.Coupled

section

namespace JudgeState

/-- Submissions are reset when their tasks wait, and a task is not reset while its submission is
judged. -/
def joins (state : JudgeState) : JudgeCall → Bool
  | .resetSubmissionsForProblem problemId =>
    state.tables.submissions.toList.all fun entry => entry.2.problemId ≠ problemId ||
      state.tables.tasks[entry.1]?.all fun row => row.status = .pending
  | .ensureTaskForSubmission submissionId =>
    state.tables.submissions[submissionId]?.all fun submission => submission.status ≠ .judging
  | _ => true

variable {state : JudgeState} {id : Nat} {submission : Submission}

theorem waits_of_joins
    (joins : state.joins (.resetSubmissionsForProblem submission.problemId) = true)
    (found : state.tables.submissions[id]? = some submission) :
    ∀ row, state.tables.tasks[id]? = some row → row.status = .pending := by
  intro row drawn
  have listed := List.all_eq_true.mp joins (id, submission)
    (Std.TreeMap.mem_toList_iff_getElem?_eq_some.mpr found)
  simpa [drawn] using listed

theorem unjudged_of_joins (joins : state.joins (.ensureTaskForSubmission id) = true)
    (found : state.tables.submissions[id]? = some submission) : submission.status ≠ .judging := by
  simpa [JudgeState.joins, found] using joins

end JudgeState

variable [JudgeDigests]

/-- Calls reset only what joins the queue again. -/
def joinsQueue : judgePlatform.Discipline :=
  @Platform.callsMeet judgePlatform fun call state => JudgeState.joins state call = true

instance : joinsQueue.Checkable :=
  inferInstanceAs (Platform.Discipline.Checkable
    (@Platform.callsMeet judgePlatform fun call state => JudgeState.joins state call = true))

theorem coupled_of_run {config : judgePlatform.Config}
    (run : Platform.Run joinsQueue judgeIdle config) (id : Nat) :
    (config.state.tables.account id).Coupled := by
  induction run with
  | refl => constructor <;> simp [judgeIdle, Tables.account, Tables.empty]
  | @tail before after earlier step ih =>
    obtain ⟨acts, same⟩ := exists_history earlier
    have fenced : (before.state.tables.account id).Fenced id := same ▸ fenced_after acts id
    rcases Platform.step_cases step with kept | ⟨_, _, call, permitted, performs, moved⟩ |
      ⟨happening, _, moved⟩
    · rw [kept]
      exact ih
    · have joins := Platform.threadsMeet_performs permitted performs
      rw [moved]
      refine ih.move fenced (performs_reported earlier performs) (exec_moves call before.state id)
        ?_ ?_
      · rintro submission found rfl
        exact JudgeState.waits_of_joins joins found
      · rintro submission found rfl
        exact JudgeState.unjudged_of_joins joins found
    · rw [moved]
      exact (JudgeState.account_react before.state happening id).symm ▸ ih

/-- When resets find the tasks waiting and no task of a judged submission is reset, waiting
submissions have no task or a waiting one, and judged submissions one that is leased. -/
theorem no_submission_left_behind {config : judgePlatform.Config}
    (run : Platform.Run joinsQueue judgeIdle config) {id : Nat} {submission : Submission}
    (found : config.state.tables.submissions[id]? = some submission) :
    (submission.status = .pending → ∀ row, config.state.tables.tasks[id]? = some row →
      row.status = .pending) ∧
    (submission.status = .judging → ∃ row, config.state.tables.tasks[id]? = some row ∧
      row.status = .running ∧ row.workerId.isSome ∧ row.leaseExpiresAt.isSome) :=
  ⟨(coupled_of_run run id).waits submission found, (coupled_of_run run id).judged submission found⟩

end

namespace JudgeScenario

open Platform

def steps (index count : Nat) : List judgePlatform.Action := List.replicate count (.step index)

def prepared : List judgePlatform.Action :=
  [.event (.configure true), .event (.project 1 localProblem)]

def creates (count : Nat) : List judgePlatform.Action :=
  .start (.createSubmission ⟨1, 1, "c", true, .ok ("p", "s", "r")⟩) :: steps 0 count

def registers : List judgePlatform.Action := .start (.registerWorker "w") :: steps 0 1

def claims (index count : Nat) : List judgePlatform.Action :=
  .start (.workerClaimTasks ⟨"w", [], 1, [], 1, none⟩) :: steps index count

def submits : List judgePlatform.Action :=
  .start (.workerSubmitResult (accepts 1) 0 (.ok "r")) :: steps 0 3

def rejudges (count : Nat) : List judgePlatform.Action :=
  .start (.rejudgeProblem 1) :: steps 0 count

theorem exists_statuses (permits : judgePlatform.Discipline) [permits.Checkable]
    (actions : List judgePlatform.Action) (status : SubmissionStatus) (task : TaskStatus)
    (played : ∃ config ∈ play permits judgeIdle actions, config.threads.isEmpty = true ∧
      (∃ submission ∈ config.state.tables.submissions[1]?, submission.status = status) ∧
      ∃ row ∈ config.state.tables.tasks[1]?, row.status = task) :
    ∃ config, Run permits judgeIdle config ∧ config.threads = [] ∧
      (∃ submission, config.state.tables.submissions[1]? = some submission ∧
        submission.status = status) ∧
      ∃ row, config.state.tables.tasks[1]? = some row ∧ row.status = task := by
  obtain ⟨config, run, ended, rest⟩ := played
  exact ⟨config, run_of_play permits run, List.isEmpty_iff.mp ended, rest⟩

/-- A submission is judged again before its first claim, and then it is claimed. -/
theorem rejudged_submission_taken : ∃ config, Run joinsQueue judgeIdle config ∧
      ∃ submission, config.state.tables.submissions[1]? = some submission ∧
        submission.status = .judging ∧ ∃ row, config.state.tables.tasks[1]? = some row ∧
          row.status = .running ∧ row.workerId.isSome ∧ row.leaseExpiresAt.isSome := by
  obtain ⟨config, run, _, ⟨submission, found, judging⟩, _⟩ := exists_statuses
    joinsQueue (prepared ++ creates 4 ++ registers ++ rejudges 3 ++ claims 0 4) .judging .running
    (by decide +kernel)
  exact ⟨config, run, submission, found, judging, (no_submission_left_behind run found).2 judging⟩

/-- Rejudging stops after the reset, and the waiting submission has a task that has
succeeded.  A submission is claimed while it is created, and its task waits while the
submission is judged. -/
theorem submissions_left_behind :
    (∃ config, Run anySchedule judgeIdle config ∧ config.threads = [] ∧
      (∃ submission, config.state.tables.submissions[1]? = some submission ∧
        submission.status = .pending) ∧
      ∃ row, config.state.tables.tasks[1]? = some row ∧ row.status = .succeeded) ∧
    ∃ config, Run anySchedule judgeIdle config ∧ config.threads = [] ∧
      (∃ submission, config.state.tables.submissions[1]? = some submission ∧
        submission.status = .judging) ∧
      ∃ row, config.state.tables.tasks[1]? = some row ∧ row.status = .pending := by
  constructor
  · exact exists_statuses anySchedule (prepared ++ creates 4 ++ registers ++ claims 0 4 ++
      submits ++ rejudges 2 ++ [.crash 0]) .pending .succeeded (by decide +kernel)
  · exact exists_statuses anySchedule (prepared ++ registers ++ creates 2 ++ claims 1 2 ++
      claims 1 4 ++ steps 0 2) .judging .pending (by decide +kernel)

end JudgeScenario

end Judge

end UntitledOJ
