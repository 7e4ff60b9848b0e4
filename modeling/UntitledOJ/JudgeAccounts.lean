import Mathlib.Data.List.Sort
import UntitledOJ.JudgeQueue

/-!
# What one transaction does to one submission

An account is what the tables hold of one submission: its row, its task, the receipts of the
task's leases and its result events.  A transaction moves every account by one of a few moves.
-/

namespace UntitledOJ

namespace Judge

/-- What the tables hold about one submission, and whether its number was given out. -/
structure Account where
  numbered : Bool
  submission : Option Submission
  task : Option TaskRow
  receipts : Nat → Option Receipt
  events : List OutboxRow

def Tables.account (tables : Tables) (id : Nat) : Account where
  numbered := id < tables.nextSubmission
  submission := tables.submissions[id]?
  task := tables.tasks[id]?
  receipts := fun leaseVersion => tables.receipts[(deterministicTaskID id, leaseVersion)]?
  events := tables.outbox.filter fun row => row.taskId = deterministicTaskID id

namespace Account

def mapSubmission (account : Account) (set : Submission → Submission) : Account :=
  { account with submission := account.submission.map set }

def mapTask (account : Account) (set : TaskRow → TaskRow) : Account :=
  { account with task := account.task.map set }

/-- The task of the submission, which is inserted when it is missing. -/
def upsertTask (account : Account) (taskNumber now : Nat) (submission : Submission)
    (set : TaskRow → TaskRow) : Account :=
  { account with task := some (account.task.elim (.fresh taskNumber now submission) set) }

def file (account : Account) (leaseVersion : Nat) (receipt : Receipt) : Account :=
  { account with receipts := Function.update account.receipts leaseVersion (some receipt) }

def settle (account : Account) (id leaseVersion : Nat) (receipt : Receipt)
    (payload : JudgeResultEvent) : Account :=
  { account.file leaseVersion receipt with
    events := account.events ++ [⟨receipt.eventId, deterministicTaskID id, leaseVersion,
      receipt.payloadSha256, payload⟩] }

def unlessCancelled (set : Submission → Submission) (row : Submission) : Submission :=
  if row.status ≠ .cancelled then set row else row

def whenJudging (set : Submission → Submission) (row : Submission) : Submission :=
  if row.status = .judging then set row else row

def settled (account : Account) (id : Nat) (row : TaskRow)
    (setSubmission : Submission → Submission) (leaseVersion : Nat) (receipt : Receipt)
    (payload : JudgeResultEvent) : Account :=
  ({ account with task := some row }.mapSubmission (unlessCancelled setSubmission)).settle id
    leaseVersion receipt payload

def succeeded (account : Account) (now id : Nat) (workerId : String) (row : TaskRow)
    (transition : TaskSuccessTransition) : Account :=
  account.settled id (row.succeeded now transition.payloadSha256)
    (Submission.judged now transition) row.leaseVersion
    ⟨workerId, .result, transition.payloadSha256, transition.status, transition.outboxEventId⟩
    transition.outboxPayload

def failed (account : Account) (now id : Nat) (workerId : String) (row : TaskRow)
    (transition : TaskFailureTransition) : Account :=
  account.settled id (row.failed now transition.message transition.payloadSha256)
    (Submission.failed now transition.status transition.message) row.leaseVersion
    ⟨workerId, .fail, transition.payloadSha256, transition.status, transition.outboxEventId⟩
    transition.outboxPayload

def retried (account : Account) (now : Nat) (workerId : String) (row : TaskRow)
    (transition : TaskFailureTransition) : Account :=
  ({ account with
      task := some (row.retried now transition.message transition.payloadSha256) }.mapSubmission
    (unlessCancelled (Submission.failed now .pending transition.message))).file row.leaseVersion
      ⟨workerId, .fail, transition.payloadSha256, .pending, transition.outboxEventId⟩

variable (account : Account) (id : Nat) (set : Submission → Submission) (row : TaskRow)
  (leaseVersion : Nat) (receipt : Receipt) (payload : JudgeResultEvent)

@[simp] theorem mapSubmission_task : (account.mapSubmission set).task = account.task := rfl

@[simp] theorem mapSubmission_submission :
    (account.mapSubmission set).submission = account.submission.map set := rfl

@[simp] theorem settled_submission :
    (account.settled id row set leaseVersion receipt payload).submission =
      account.submission.map (unlessCancelled set) := rfl

@[simp] theorem settled_events :
    (account.settled id row set leaseVersion receipt payload).events =
      account.events ++ [⟨receipt.eventId, deterministicTaskID id, leaseVersion,
        receipt.payloadSha256, payload⟩] := rfl

end Account

variable {row : TaskRow}

section

variable (tables : Tables) (id : Nat)

theorem account_updateSubmissions (which : Nat → Submission → Bool)
    (set : Submission → Submission) :
    (tables.updateSubmissions which set).account id = (tables.account id).mapSubmission
      fun row => if which id row then set row else row := by
  simp only [Tables.account, Tables.updateSubmissions, Account.mapSubmission,
    Std.TreeMap.getElem?_map]
  rfl

theorem account_updateTasks (which : Nat → TaskRow → Bool) (set : TaskRow → TaskRow) :
    (tables.updateTasks which set).account id = (tables.account id).mapTask
      fun row => if which id row then set row else row := by
  simp only [Tables.account, Tables.updateTasks, Account.mapTask, Std.TreeMap.getElem?_map]
  rfl

theorem account_upsertTask (now : Nat) (submission : Submission) (set : TaskRow → TaskRow) :
    (tables.upsertTask now id submission set).account id =
      (tables.account id).upsertTask tables.nextTask now submission set := by
  unfold Tables.upsertTask
  cases found : tables.tasks[id]? with
  | none | some row => simp [Tables.account, Account.upsertTask, found]

theorem account_upsertTask_of_ne {other : Nat} (different : id ≠ other) (now : Nat)
    (submission : Submission) (set : TaskRow → TaskRow) :
    (tables.upsertTask now other submission set).account id = tables.account id := by
  unfold Tables.upsertTask
  cases tables.tasks[other]? with
  | none | some row => simp [Tables.account, getElem?_insert_of_eq, different]

theorem account_updateSubmission (submissionId : Nat) (set : Submission → Submission) :
    (tables.updateSubmissions (fun other _ => other = submissionId) set).account id =
      if id = submissionId then (tables.account id).mapSubmission set else tables.account id := by
  rw [account_updateSubmissions]
  by_cases same : id = submissionId
  · simp [same]
  · simp [same, Account.mapSubmission]

variable {tables}

theorem account_updateTask {submissionId : Nat} {which : TaskRow → Bool} {set : TaskRow → TaskRow}
    (drawn : tables.tasks[submissionId]? = some row) (chosen : which row = true)
    (written : Submission → Bool) (write : Submission → Submission) :
    ((tables.updateTasks (fun other row => other = submissionId && which row)
      set).updateSubmissions (fun other row => other = submissionId && written row)
        write).account id =
      if id = submissionId then
        { tables.account id with task := some (set row) }.mapSubmission
          fun submission => if written submission then write submission else submission
      else tables.account id := by
  rw [account_updateSubmissions, account_updateTasks]
  by_cases same : id = submissionId
  · subst same
    simp [Account.mapSubmission, Account.mapTask, Tables.account, drawn, chosen]
  · simp [same, Account.mapSubmission, Account.mapTask]

end

variable {tables after : Tables} {taskId : TaskId} {leaseVersion : Nat} {receipt : Receipt}

theorem insertTaskReportReceipt_ok
    (done : tables.insertTaskReportReceipt taskId leaseVersion receipt = .ok after) :
    tables.receipts[(taskId, leaseVersion)]? = none ∧
      after = { tables with
        receipts := tables.receipts.insert (taskId, leaseVersion) receipt } := by
  obtain ⟨_, rest⟩ := ok_of_require_bind done
  obtain ⟨missing, same⟩ := ok_of_require_bind rest
  cases same
  exact ⟨by simpa using missing, rfl⟩

theorem account_insertReceipt (id : Nat) :
    ({ tables with receipts := tables.receipts.insert (taskId, leaseVersion) receipt } :
      Tables).account id =
      if taskId = deterministicTaskID id then (tables.account id).file leaseVersion receipt
      else tables.account id := by
  split_ifs with same
  · subst same
    simp only [Tables.account, Account.file, Account.mk.injEq, true_and, and_true]
    funext version
    rw [getElem?_insert_of_eq, Function.update_apply]
    simp
  · simp only [Tables.account, Account.mk.injEq, true_and, and_true]
    funext version
    rw [getElem?_insert_of_eq, if_neg]
    rintro equal
    exact same (Prod.mk.inj equal).1.symm

variable {payload : JudgeResultEvent}

theorem recordReport_ok
    (done : tables.recordReport taskId leaseVersion receipt payload = .ok after) :
    tables.receipts[(taskId, leaseVersion)]? = none ∧
      after = { tables with
        receipts := tables.receipts.insert (taskId, leaseVersion) receipt
        outbox := tables.outbox ++
          [⟨receipt.eventId, taskId, leaseVersion, receipt.payloadSha256, payload⟩] } := by
  obtain ⟨_, filed, rest⟩ := ok_of_bind done
  obtain ⟨unfiled, rfl⟩ := insertTaskReportReceipt_ok filed
  obtain ⟨_, rest⟩ := ok_of_require_bind rest
  obtain ⟨_, rest⟩ := ok_of_require_bind rest
  obtain ⟨_, rest⟩ := ok_of_require_bind rest
  obtain ⟨_, same⟩ := ok_of_require_bind rest
  cases same
  exact ⟨unfiled, rfl⟩

theorem account_recorded (id : Nat) :
    ({ tables with
        receipts := tables.receipts.insert (taskId, leaseVersion) receipt
        outbox := tables.outbox ++
          [⟨receipt.eventId, taskId, leaseVersion, receipt.payloadSha256, payload⟩] } :
      Tables).account id =
      if taskId = deterministicTaskID id then
        (tables.account id).settle id leaseVersion receipt payload
      else tables.account id := by
  have receipts := @account_insertReceipt tables taskId leaseVersion receipt id
  split_ifs at receipts ⊢ with same
  · subst same
    simp [Tables.account, Account.file, Account.settle] at receipts ⊢
    exact receipts
  · simp [Tables.account, same] at receipts ⊢
    exact receipts

theorem isLeasedTo_iff {workerId : String} : row.isLeasedTo workerId leaseVersion = true ↔
      row.workerId = some workerId ∧ row.leaseVersion = leaseVersion ∧ row.status = .running := by
  simp [TaskRow.isLeasedTo, and_assoc]

variable {now : Nat} {workerId : String} {held : TaskRow → Bool}

theorem eq_deterministicTaskID {id : Nat} :
    taskId = deterministicTaskID id ↔ id = taskId.submissionId := by
  constructor
  · rintro rfl
    rfl
  · rintro rfl
    rfl

theorem account_settleTask {setTask : TaskRow → TaskRow} {setSubmission : Submission → Submission}
    (done : tables.settleTask taskId leaseVersion held setTask setSubmission receipt payload =
      .ok after)
    (drawn : tables.tasks[taskId.submissionId]? = some row) (chosen : held row = true) :
    (tables.account taskId.submissionId).receipts leaseVersion = none ∧
      ∀ id, after.account id =
        if id = taskId.submissionId then
          (tables.account id).settled id (setTask row) setSubmission leaseVersion receipt payload
        else tables.account id := by
  obtain ⟨unfiled, rfl⟩ := recordReport_ok done
  refine ⟨unfiled, ?_⟩
  intro id
  simp only [account_recorded, account_updateTask id drawn chosen, eq_deterministicTaskID]
  split_ifs
  · simp only [decide_eq_true_eq]
    rfl
  · rfl

theorem account_retryTask {transition : TaskFailureTransition}
    (done : tables.retryTask now taskId workerId leaseVersion held transition = .ok after)
    (drawn : tables.tasks[taskId.submissionId]? = some row) (chosen : held row = true)
    (leased : row.leaseVersion = leaseVersion) :
    (tables.account taskId.submissionId).receipts leaseVersion = none ∧
      ∀ id, after.account id =
        if id = taskId.submissionId then (tables.account id).retried now workerId row transition
        else tables.account id := by
  obtain ⟨unfiled, rfl⟩ := insertTaskReportReceipt_ok done
  refine ⟨unfiled, ?_⟩
  intro id
  subst leased
  simp only [account_insertReceipt, account_updateTask id drawn chosen, eq_deterministicTaskID]
  split_ifs
  · simp only [decide_eq_true_eq]
    rfl
  · rfl

variable {before : Account} {key : Nat}

theorem waits_of_mem_candidates {languages : List String} {limit : Nat} {taskIds : List TaskId}
    {id : Nat} (candidate : id ∈ tables.candidates now languages limit taskIds) :
    ∃ row submission, tables.tasks[id]? = some row ∧ row.status = .pending ∧
      tables.submissions[id]? = some submission ∧ submission.status = .pending := by
  obtain ⟨⟨_, row⟩, taken, rfl⟩ := List.mem_map.mp candidate
  have sorted := List.mem_of_mem_take taken
  rw [List.mem_insertionSort] at sorted
  obtain ⟨listed, chosen⟩ := List.mem_filter.mp sorted
  have drawn := Std.TreeMap.mem_toList_iff_getElem?_eq_some.mp listed
  simp only [Tables.isCandidate, Bool.and_eq_true, decide_eq_true_eq, Option.any_eq_true] at chosen
  obtain ⟨⟨⟨⟨waits, submission, found, pending⟩, _⟩, _⟩, _⟩ := chosen
  exact ⟨row, submission, drawn, waits, found, pending⟩

theorem contains_selectTasks (which : Nat → TaskRow → Bool) (id : Nat) :
    ((tables.selectTasks which).map Prod.fst).contains id = tables.tasks[id]?.any (which id) := by
  rw [Bool.eq_iff_iff, List.contains_iff_mem, Option.any_eq_true]
  constructor
  · intro member
    obtain ⟨⟨_, row⟩, listed, rfl⟩ := List.mem_map.mp member
    obtain ⟨stored, chosen⟩ := List.mem_filter.mp listed
    exact ⟨row, Std.TreeMap.mem_toList_iff_getElem?_eq_some.mp stored, chosen⟩
  · rintro ⟨row, drawn, chosen⟩
    exact List.mem_map.mpr ⟨(id, row), List.mem_filter.mpr
      ⟨Std.TreeMap.mem_toList_iff_getElem?_eq_some.mpr drawn, chosen⟩, rfl⟩

def Account.Drawn (now : Nat) (before after : Account) : Prop :=
  after = before ∨ ∃ taskNumber submission, before.submission = some submission ∧
    submission.status = .pending ∧ before.task = none ∧
    after = { before with task := some (.fresh taskNumber now submission) }

theorem drawn_upsertTask {submission : Submission} (found : before.submission = some submission)
    (waits : submission.status = .pending) (drawn : before.Drawn now (tables.account key)) :
    before.Drawn now ((tables.upsertTask now key submission id).account key) := by
  rw [account_upsertTask]
  rcases drawn with same | ⟨taskNumber, other, stored, pending, missing, same⟩
  · rw [same]
    cases task : before.task with
    | none => exact .inr ⟨tables.nextTask, submission, found, waits, task, by
        simp [Account.upsertTask, task]⟩
    | some row =>
      left
      simp only [Account.upsertTask, task, Option.elim_some, id_eq]
      rw [← task]
  · rw [same]
    exact .inr ⟨taskNumber, other, stored, pending, missing, rfl⟩

theorem drawn_foldl (entries : List (Nat × Submission))
    (waiting : ∀ entry ∈ entries, entry.1 = key →
      before.submission = some entry.2 ∧ entry.2.status = .pending)
    (drawn : before.Drawn now (tables.account key)) : before.Drawn now ((entries.foldl
      (fun after entry => after.upsertTask now entry.1 entry.2 id) tables).account key) := by
  induction entries generalizing tables with
  | nil => exact drawn
  | cons entry rest ih =>
    obtain ⟨first, others⟩ := List.forall_mem_cons.mp waiting
    refine ih others ?_
    by_cases same : entry.1 = key
    · obtain ⟨found, waits⟩ := first same
      subst same
      exact drawn_upsertTask found waits drawn
    · rw [account_upsertTask_of_ne _ _ (Ne.symm same)]
      exact drawn

theorem drawn_insertMissingTasks (key : Nat) :
    (tables.account key).Drawn now ((tables.insertMissingTasks now).account key) := by
  refine drawn_foldl _ ?_ (.inl rfl)
  rintro ⟨other, submission⟩ member rfl
  obtain ⟨listed, pending⟩ := List.mem_filter.mp member
  exact ⟨Std.TreeMap.mem_toList_iff_getElem?_eq_some.mp listed, by simpa using pending⟩

theorem refreshLease_ok {which : TaskRow → Bool} {set : TaskRow → TaskRow}
    {lease : Tables.TaskLease}
    (done : tables.refreshLease taskId which set = .ok (lease, after)) (id : Nat) :
    after.account id = tables.account id ∨
      ∃ row, taskId = deterministicTaskID id ∧ (tables.account id).task = some row ∧
        which row = true ∧
        after.account id = { tables.account id with task := some (set row) } := by
  unfold Tables.refreshLease at done
  split at done
  · rename_i row found
    obtain ⟨_, rfl⟩ := done
    obtain ⟨drawn, chosen⟩ := Option.filter_eq_some_iff.mp found
    rw [account_updateTasks]
    by_cases same : id = taskId.submissionId
    · subst same
      exact .inr ⟨row, rfl, drawn, chosen, by
        simp [Account.mapTask, Tables.account, drawn, chosen]⟩
    · left
      simp [Account.mapTask, same]
  · cases done

variable [JudgeDigests]

open Account

/-- The worker holds the live lease of the task, and no report of it is on file. -/
structure Account.Reports (now : Nat) (account : Account) (row : TaskRow) (workerId : String)
    (leaseVersion : Nat) : Prop where
  drawn : account.task = some row
  held : row.isLeasedTo workerId leaseVersion = true
  live : row.isLive now = true
  unfiled : account.receipts leaseVersion = none

inductive Move (now id : Nat) (account : Account) : JudgeCall → Account → Prop
  | rest (call : JudgeCall) : Move now id account call account
  | create (problemId userId : Nat) (language : String) (free : account.numbered = false) :
      Move now id account (.createSubmission problemId userId language)
        { account with
          numbered := true
          submission := some (.created problemId userId language) }
  | source (codePath codeSha256 resultPath : String) :
      Move now id account (.updateSubmissionSource id codePath codeSha256 resultPath)
        (account.mapSubmission fun row => { row with
          codePath := codePath, codeSha256 := codeSha256, resultPath := resultPath })
  | systemError (message : String) :
      Move now id account (.markSubmissionSystemError id message)
        (account.mapSubmission fun row => { row with
          status := .systemError, message := message, judgedAt := some now })
  | cancel (userId : Nat) (reason : String) :
      Move now id account (.cancelSubmission id userId reason)
        (account.mapSubmission fun row => { row with
          status := .cancelled
          score := 0
          message := ""
          cancelledAt := some now
          cancelledBy := some userId
          cancelReason := reason })
  | reset {submission : Submission} (found : account.submission = some submission) :
      Move now id account (.resetSubmissionsForProblem submission.problemId)
        { account with submission := some { submission.requeued with cancelledBy := none } }
  | ensure {submission : Submission} (taskNumber : Nat)
      (found : account.submission = some submission) :
      Move now id account (.ensureTaskForSubmission id)
        (account.upsertTask taskNumber now submission fun row => { row.requeued now with
          problemId := submission.problemId, language := submission.language })
  | requeue {submission : Submission} (taskNumber : Nat)
      (found : account.submission = some submission) :
      Move now id account (.requeueSubmission id)
        ({ account with submission := some submission.requeued }.upsertTask taskNumber now
          submission (TaskRow.requeued now))
  | draw {submission : Submission} (taskNumber : Nat)
      (found : account.submission = some submission) (waits : submission.status = .pending)
      (missing : account.task = none) (workerId : String) (languages : List String)
      (limit leaseMs : Nat) (taskIds : List TaskId) :
      Move now id account (.claimTasks workerId languages limit leaseMs taskIds)
        { account with task := some (.fresh taskNumber now submission) }
  | claim {submission : Submission} {row : TaskRow}
      (found : account.submission = some submission) (waits : submission.status = .pending)
      (drawn : account.task = some row) (free : row.status = .pending) (workerId : String)
      (languages : List String) (limit leaseMs : Nat) (taskIds : List TaskId) :
      Move now id account (.claimTasks workerId languages limit leaseMs taskIds)
        { account with
          submission := some { submission with status := .judging }
          task := some (row.claimed now workerId leaseMs) }
  | refresh {row : TaskRow} {workerId : String} {leaseVersion : Nat}
      (drawn : account.task = some row) (held : row.isLeasedTo workerId leaseVersion = true)
      (live : row.isLive now = true) (leaseMs : Nat) :
      Move now id account
        (.refreshTaskLease (deterministicTaskID id) workerId leaseVersion leaseMs)
        { account with task := some (row.refreshed now leaseMs) }
  | refreshClaimed {row : TaskRow} {workerId : String} {leaseVersion : Nat}
      (drawn : account.task = some row) (held : row.isLeasedTo workerId leaseVersion = true)
      (leaseMs : Nat) :
      Move now id account
        (.refreshClaimedTaskLease (deterministicTaskID id) workerId leaseVersion leaseMs)
        { account with task := some (row.refreshed now leaseMs) }
  | release {row : TaskRow} {workerId : String} {leaseVersion : Nat}
      {claims : List (TaskId × Nat)} (drawn : account.task = some row)
      (held : row.isLeasedTo workerId leaseVersion = true)
      (claimed : (deterministicTaskID id, leaseVersion) ∈ claims) (reason : String) :
      Move now id account (.releaseClaimedTasks workerId claims reason)
        ({ account with task := some (row.released now reason) }.mapSubmission
          (whenJudging fun submission => { submission with status := .pending }))
  | succeed {row : TaskRow} {workerId : String} {leaseVersion : Nat}
      (reports : account.Reports now row workerId leaseVersion)
      (transition : TaskSuccessTransition) :
      Move now id account
        (.markTaskSucceeded (deterministicTaskID id) workerId leaseVersion transition)
        (account.succeeded now id workerId row transition)
  | fail {row : TaskRow} {workerId : String} {leaseVersion : Nat}
      (reports : account.Reports now row workerId leaseVersion)
      (transition : TaskFailureTransition) :
      Move now id account
        (.markTaskFailed (deterministicTaskID id) workerId leaseVersion transition)
        (account.failed now id workerId row transition)
  | retry {row : TaskRow} {workerId : String} {leaseVersion : Nat}
      (reports : account.Reports now row workerId leaseVersion)
      (transition : TaskFailureTransition) :
      Move now id account
        (.markTaskFailed (deterministicTaskID id) workerId leaseVersion transition)
        (account.retried now workerId row transition)
  | exhaust {row : TaskRow} (drawn : account.task = some row)
      (stale : row.isStale now = true) (unfiled : account.receipts row.leaseVersion = none) :
      Move now id account .recoverStaleTasks
        (account.failed now id (row.workerId.getD "") row (expiredTaskFailureTransition id row))
  | expire {row : TaskRow} (drawn : account.task = some row) (stale : row.isStale now = true) :
      Move now id account .recoverStaleTasks
        ({ account with task := some (row.expired now) }.mapSubmission
          (whenJudging Submission.expired))

variable {tables after : Tables} {now : Nat} {allowLegacyPackageDir : Bool} {call : JudgeCall}

theorem moves_of_accounts {written : Nat → Account}
    (accounts : ∀ id, after.account id = if id = key then written id else tables.account id)
    (moves : Move now key (tables.account key) call (written key)) (id : Nat) :
    Move now id (tables.account id) call (after.account id) := by
  rw [accounts]
  split_ifs with same
  · subst same
    exact moves
  · exact .rest _

theorem createSubmission_moves {problemId userId created : Nat} {language : String}
    (done : tables.createSubmission allowLegacyPackageDir problemId userId language =
      .ok (created, after)) (id : Nat) :
    Move now id (tables.account id) (.createSubmission problemId userId language)
      (after.account id) := by
  obtain ⟨_, same⟩ := ok_of_require_bind done
  cases same
  by_cases same : id = tables.nextSubmission
  · subst same
    convert Move.create problemId userId language _ using 1
    · simp [Tables.account]
    · simp [Tables.account]
  · convert Move.rest _ using 1
    have kept : id < tables.nextSubmission + 1 ↔ id < tables.nextSubmission := by omega
    simp [Tables.account, getElem?_insert_of_eq, same, kept]

theorem resetSubmissionsForProblem_moves (problemId id : Nat) :
    Move now id (tables.account id) (.resetSubmissionsForProblem problemId)
      ((tables.resetSubmissionsForProblem problemId).2.account id) := by
  simp only [Tables.resetSubmissionsForProblem, account_updateSubmissions]
  cases found : (tables.account id).submission with
  | none =>
    convert Move.rest _ using 1
    simp [Account.mapSubmission, found]
    rw [← found]
  | some submission =>
    by_cases same : submission.problemId = problemId
    · subst same
      convert Move.reset found using 1
      simp [Account.mapSubmission, found]
    · convert Move.rest _ using 1
      simp [Account.mapSubmission, found, same]
      rw [← found]

theorem ensureTaskForSubmission_moves (submissionId id : Nat) :
    Move now id (tables.account id) (.ensureTaskForSubmission submissionId)
      ((tables.ensureTaskForSubmission now submissionId).account id) := by
  unfold Tables.ensureTaskForSubmission
  cases found : tables.submissions[submissionId]? with
  | none => exact .rest _
  | some submission =>
    by_cases same : id = submissionId
    · subst same
      simp only [account_upsertTask]
      exact .ensure _ found
    · simp only [account_upsertTask_of_ne _ _ same]
      exact .rest _

theorem requeueSubmission_moves {submissionId : Nat}
    (done : tables.requeueSubmission now submissionId = .ok ((), after)) (id : Nat) :
    Move now id (tables.account id) (.requeueSubmission submissionId) (after.account id) := by
  unfold Tables.requeueSubmission at done
  cases found : tables.submissions[submissionId]? with
  | none => simp [found] at done
  | some submission =>
    simp only [found, Except.ok.injEq, Prod.mk.injEq, true_and] at done
    subst done
    by_cases same : id = submissionId
    · subst same
      rw [account_upsertTask, account_updateSubmission, if_pos rfl]
      have stored : (tables.account id).submission = some submission := found
      convert Move.requeue tables.nextTask stored using 1
      simp only [Account.mapSubmission, stored, Option.map_some]
      rfl
    · rw [account_upsertTask_of_ne _ _ same, account_updateSubmission, if_neg same]
      exact .rest _

theorem claimTasks_moves {languages : List String} {limit leaseMs : Nat}
    {taskIds : List TaskId} {leases : List Tables.TaskLease}
    (done : tables.claimTasks now workerId languages limit leaseMs taskIds = .ok (leases, after))
    (id : Nat) :
    Move now id (tables.account id) (.claimTasks workerId languages limit leaseMs taskIds)
      (after.account id) := by
  unfold Tables.claimTasks at done
  split_ifs at done with none_wanted
  · cases done
    exact .rest _
  · split at done
    · cases done
    · cases done
    · obtain ⟨_, rfl⟩ := done
      rw [account_updateSubmissions, account_updateTasks]
      have drawn := @drawn_insertMissingTasks tables now id
      cases claimed : (tables.candidates now languages (min limit 16) taskIds).contains id with
      | false =>
        simp only [Bool.false_and, Bool.false_eq_true, if_false, Account.mapTask,
          Account.mapSubmission, Option.map_id']
        rcases drawn with same | ⟨taskNumber, submission, found, waits, missing, same⟩
        · rw [same]
          exact .rest _
        · rw [same]
          exact .draw taskNumber found waits missing _ _ _ _ _
      | true =>
        obtain ⟨row, submission, task, free, found, waits⟩ :=
          waits_of_mem_candidates (List.contains_iff_mem.mp claimed)
        have present : (tables.account id).task = some row := task
        have stored : (tables.account id).submission = some submission := found
        rcases drawn with same | ⟨_, _, _, _, missing, _⟩
        · rw [same]
          convert Move.claim stored waits present free workerId languages limit leaseMs taskIds
            using 1
          simp [Account.mapTask, Account.mapSubmission, present, stored, waits]
        · simp [present] at missing

theorem releaseClaimedTasks_moves (workerId : String) (claims : List (TaskId × Nat))
    (reason : String) (id : Nat) :
    Move now id (tables.account id) (.releaseClaimedTasks workerId claims reason)
      ((tables.releaseClaimedTasks now workerId claims reason).2.account id) := by
  simp only [Tables.releaseClaimedTasks, account_updateSubmissions, account_updateTasks,
    contains_selectTasks]
  cases drawn : tables.tasks[id]? with
  | none =>
    convert Move.rest _ using 1
    simp [Account.mapTask, Account.mapSubmission, Tables.account, drawn]
  | some row =>
    cases chosen : Tables.isReleased workerId claims id row with
    | true =>
      obtain ⟨⟨_, _⟩, claimed, held⟩ := List.any_eq_true.mp chosen
      simp only [Bool.and_eq_true, decide_eq_true_eq] at held
      obtain ⟨rfl, held⟩ := held
      have present : (tables.account id).task = some row := drawn
      convert Move.release present held claimed reason using 1
      simp only [Account.mapTask, Account.mapSubmission, present, chosen, Option.any_some,
        Option.map_some, if_true, Bool.true_and, decide_eq_true_eq]
      rfl
    | false =>
      convert Move.rest _ using 1
      simp [Account.mapTask, Account.mapSubmission, Tables.account, drawn, chosen]

variable {taskId : TaskId} {workerId : String} {leaseVersion : Nat} {entries : List (Nat × TaskRow)}
  {entry : Nat × TaskRow} {id : Nat}

theorem markTaskSucceeded_moves {transition : TaskSuccessTransition}
    (done : tables.markTaskSucceeded now taskId workerId leaseVersion transition = .ok ((), after))
    (id : Nat) :
    Move now id (tables.account id) (.markTaskSucceeded taskId workerId leaseVersion transition)
      (after.account id) := by
  unfold Tables.markTaskSucceeded at done
  simp only at done
  split at done
  · rename_i row found
    obtain ⟨_, filed, same⟩ := ok_of_bind done
    cases same
    obtain ⟨drawn, chosen⟩ := Option.filter_eq_some_iff.mp found
    obtain ⟨held, live⟩ := Bool.and_eq_true_iff.mp chosen
    obtain ⟨unfiled, accounts⟩ := account_settleTask filed drawn chosen
    obtain ⟨_, rfl, _⟩ := isLeasedTo_iff.mp held
    exact moves_of_accounts accounts (.succeed ⟨drawn, held, live, unfiled⟩ transition) id
  · split_ifs at done

theorem markTaskFailed_moves {transition : TaskFailureTransition} {outcome : TaskFailureOutcome}
    (done : tables.markTaskFailed now taskId workerId leaseVersion transition =
      .ok (outcome, after)) (id : Nat) :
    Move now id (tables.account id) (.markTaskFailed taskId workerId leaseVersion transition)
      (after.account id) := by
  unfold Tables.markTaskFailed at done
  simp only at done
  split at done
  · rename_i row found
    obtain ⟨drawn, chosen⟩ := Option.filter_eq_some_iff.mp found
    obtain ⟨held, live⟩ := Bool.and_eq_true_iff.mp chosen
    obtain ⟨_, rfl, _⟩ := isLeasedTo_iff.mp held
    split_ifs at done
    · obtain ⟨settled, filed, same⟩ := ok_of_bind done
      cases same
      obtain ⟨unfiled, accounts⟩ := account_retryTask filed drawn chosen rfl
      exact moves_of_accounts accounts (.retry ⟨drawn, held, live, unfiled⟩ transition) id
    · obtain ⟨_, filed, same⟩ := ok_of_bind done
      cases same
      obtain ⟨unfiled, accounts⟩ := account_settleTask filed drawn chosen
      exact moves_of_accounts accounts (.fail ⟨drawn, held, live, unfiled⟩ transition) id
  · split at done
    · cases done
      exact .rest _
    · cases done

theorem recoverTask_frame (other : id ≠ entry.1)
    (done : Tables.recoverTask now tables entry = .ok after) :
    after.account id = tables.account id := by
  unfold Tables.recoverTask at done
  split_ifs at done with held exhausted
  · obtain ⟨stored, drawn, chosen⟩ := (Option.any_eq_true _ _).mp held
    obtain ⟨_, accounts⟩ := account_settleTask done drawn chosen
    rw [accounts]
    exact if_neg other
  · obtain ⟨_, drawn, chosen⟩ := (Option.any_eq_true _ _).mp held
    cases done
    rw [account_updateTask id drawn chosen, if_neg other]
  · cases done
    rfl

/-- An expired lease that is still as it was read ends or is tried again. -/
theorem recoverTask_moves (drawn : tables.tasks[id]? = some row) (stale : row.isStale now = true)
    (done : Tables.recoverTask now tables (id, row) = .ok after) :
    Move now id (tables.account id) .recoverStaleTasks (after.account id) := by
  have chosen : Tables.isStillExpired now row row = true := by
    simp [Tables.isStillExpired, stale]
  simp only [Tables.recoverTask, drawn, Option.any_some, chosen, if_true] at done
  split_ifs at done with exhausted
  · obtain ⟨unfiled, accounts⟩ := account_settleTask done drawn chosen
    rw [accounts, if_pos (show id = (deterministicTaskID id).submissionId from rfl)]
    exact .exhaust drawn stale unfiled
  · cases done
    rw [account_updateTask id drawn chosen, if_pos rfl]
    simp only [decide_eq_true_eq]
    exact .expire drawn stale

theorem recoverTasks_frame (other : id ∉ entries.map Prod.fst)
    (done : entries.foldlM (Tables.recoverTask now) tables = .ok after) :
    after.account id = tables.account id := by
  induction entries generalizing tables with
  | nil =>
    cases done
    rfl
  | cons entry rest ih =>
    obtain ⟨_, first, later⟩ := ok_of_bind done
    simp only [List.map_cons, List.mem_cons, not_or] at other
    rw [ih other.2 later, recoverTask_frame other.1 first]

theorem unread_recoverTask {rest : List (Nat × TaskRow)} (single : entry.1 ∉ rest.map Prod.fst)
    (unread : ∀ other ∈ rest, tables.tasks[other.1]? = some other.2 ∧ other.2.isStale now = true)
    (done : Tables.recoverTask now tables entry = .ok after) :
    ∀ other ∈ rest, after.tasks[other.1]? = some other.2 ∧ other.2.isStale now = true := by
  intro other member
  have apart : other.1 ≠ entry.1 := by
    intro equal
    exact single (equal ▸ List.mem_map_of_mem member)
  have kept : (after.account other.1).task = (tables.account other.1).task := by
    rw [recoverTask_frame apart done]
  exact ⟨kept.trans (unread other member).1, (unread other member).2⟩

/-- The rows were read before the first of them is written, and no row is read twice. -/
theorem recoverTasks_moves (distinct : (entries.map Prod.fst).Nodup)
    (read : ∀ entry ∈ entries, tables.tasks[entry.1]? = some entry.2 ∧ entry.2.isStale now = true)
    (done : entries.foldlM (Tables.recoverTask now) tables = .ok after) (id : Nat) :
    Move now id (tables.account id) .recoverStaleTasks (after.account id) := by
  induction entries generalizing tables with
  | nil =>
    cases done
    exact .rest _
  | cons entry rest ih =>
    obtain ⟨_, first, later⟩ := ok_of_bind done
    obtain ⟨⟨drawn, stale⟩, unread⟩ := List.forall_mem_cons.mp read
    obtain ⟨single, distinct⟩ := List.nodup_cons.mp distinct
    by_cases same : id = entry.1
    · subst same
      rw [recoverTasks_frame single later]
      exact recoverTask_moves drawn stale first
    · rw [← recoverTask_frame same first]
      exact ih distinct (unread_recoverTask single unread first) later

omit [JudgeDigests] in
theorem read_staleTasks : (((tables.selectTasks fun _ row => row.isStale now).insertionSort
      fun first second => first.2.id ≤ second.2.id).map Prod.fst).Nodup ∧
    ∀ entry ∈ (tables.selectTasks fun _ row => row.isStale now).insertionSort
      fun first second => first.2.id ≤ second.2.id,
      tables.tasks[entry.1]? = some entry.2 ∧ entry.2.isStale now = true := by
  constructor
  · have keys : (tables.tasks.toList.map Prod.fst).Nodup := by
      rw [Std.TreeMap.map_fst_toList_eq_keys]
      exact Std.TreeMap.nodup_keys
    refine ((List.perm_insertionSort _ _).map Prod.fst).nodup_iff.mpr ?_
    exact keys.sublist (List.filter_sublist.map Prod.fst)
  · intro entry member
    rw [List.mem_insertionSort] at member
    obtain ⟨listed, stale⟩ := List.mem_filter.mp member
    exact ⟨Std.TreeMap.mem_toList_iff_getElem?_eq_some.mp listed, stale⟩

theorem recoverStaleTasks_moves (done : tables.recoverStaleTasks now = .ok ((), after)) (id : Nat) :
    Move now id (tables.account id) .recoverStaleTasks (after.account id) := by
  obtain ⟨_, recovered, same⟩ := ok_of_bind done
  cases same
  exact recoverTasks_moves read_staleTasks.1 read_staleTasks.2 recovered id

theorem perform_moves {result : call.Result}
    (done : tables.perform allowLegacyPackageDir now call = .ok (result, after)) (id : Nat) :
    Move now id (tables.account id) call (after.account id) := by
  cases call with
  | getProblemMeta problemId | getSubmission submissionId | drainWorker workerId =>
    simp only [Tables.perform] at done
    split at done
    · cases done
      exact .rest _
    · cases done
  | createSubmission problemId userId language => exact createSubmission_moves done id
  | updateSubmissionSource submissionId codePath codeSha256 resultPath =>
    cases done
    exact moves_of_accounts (fun _ => account_updateSubmission ..) (.source _ _ _) id
  | markSubmissionSystemError submissionId message =>
    cases done
    exact moves_of_accounts (fun _ => account_updateSubmission ..) (.systemError _) id
  | cancelSubmission submissionId userId reason =>
    cases done
    exact moves_of_accounts (fun _ => account_updateSubmission ..) (.cancel _ _) id
  | resetSubmissionsForProblem problemId =>
    cases done
    exact resetSubmissionsForProblem_moves problemId id
  | ensureTaskForSubmission submissionId =>
    cases done
    exact ensureTaskForSubmission_moves submissionId id
  | requeueSubmission submissionId => exact requeueSubmission_moves done id
  | upsertWorker workerId =>
    cases done
    exact .rest _
  | claimTasks workerId languages limit leaseMs taskIds => exact claimTasks_moves done id
  | refreshTaskLease taskId workerId leaseVersion leaseMs =>
    rcases refreshLease_ok done id with same | ⟨row, rfl, drawn, chosen, same⟩
    · rw [same]
      exact .rest _
    · obtain ⟨held, live⟩ := Bool.and_eq_true_iff.mp chosen
      rw [same]
      exact .refresh drawn held live leaseMs
  | refreshClaimedTaskLease taskId workerId leaseVersion leaseMs =>
    rcases refreshLease_ok done id with same | ⟨_, rfl, drawn, held, same⟩
    · rw [same]
      exact .rest _
    · rw [same]
      exact .refreshClaimed drawn held leaseMs
  | releaseClaimedTasks workerId claims reason =>
    cases done
    exact releaseClaimedTasks_moves workerId claims reason id
  | recoverStaleTasks => exact recoverStaleTasks_moves done id
  | getTaskForLease taskId workerId leaseVersion =>
    simp only [Tables.perform] at done
    cases found : tables.getTaskForLease taskId workerId leaseVersion with
    | error error => simp [found, Except.map] at done
    | ok lease =>
      rw [found] at done
      cases done
      exact .rest _
  | markTaskSucceeded taskId workerId leaseVersion transition =>
    exact markTaskSucceeded_moves done id
  | markTaskFailed taskId workerId leaseVersion transition => exact markTaskFailed_moves done id

theorem exec_moves (call : JudgeCall) (state : JudgeState) (id : Nat) :
    Move state.now id (state.tables.account id) call
      ((JudgeState.exec call state).2.tables.account id) := by
  rcases JudgeState.exec_tables call state with same | same
  · rw [same]
    exact .rest _
  · rw [same, JudgeState.commit]
    cases done : state.tables.perform state.allowLegacyPackageDir state.now call with
    | error error => exact .rest _
    | ok reply => exact perform_moves done id

end Judge

end UntitledOJ
