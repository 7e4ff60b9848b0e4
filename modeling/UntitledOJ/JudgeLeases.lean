import UntitledOJ.JudgeHistories

/-!
# One outcome for every lease

A lease version is claimed once and ended at most once: by a report of the worker that claimed it
or by its expiry.  A report that does not hold the lease changes nothing, and none is refused for a
key of the receipts or result events.
-/

namespace UntitledOJ

namespace Judge

open Tables

variable {row : TaskRow}

section

/-- The task, worker and lease that the call reports on. -/
def JudgeCall.reports : JudgeCall → Option (TaskId × String × Nat)
  | .markTaskSucceeded taskId workerId leaseVersion _ => some (taskId, workerId, leaseVersion)
  | .markTaskFailed taskId workerId leaseVersion _ => some (taskId, workerId, leaseVersion)
  | _ => none

def Tables.Leases (tables : Tables) (id version : Nat) (workerId : Option String) : Prop :=
  ∃ row, tables.tasks[id]? = some row ∧ row.status = .running ∧ row.leaseVersion = version ∧
    row.workerId = workerId

variable [JudgeDigests]

namespace JudgeState

/-- The act leases the task to the worker. -/
def Claims (state : JudgeState) (next : JudgeAct) (id version : Nat) (workerId : String) : Prop :=
  (∃ call reported, next = .transaction call reported ∧ call.ClaimsFor workerId) ∧
    (∀ row, state.tables.tasks[id]? = some row → row.status ≠ .running) ∧
    (state.act next).tables.Leases id version (some workerId)

/-- The act is a report or a recovery that takes effect on the task under the version, for
the worker. -/
def Concludes (state : JudgeState) (next : JudgeAct) (id version : Nat) (workerId : String) :
    Prop :=
  (∃ call reported, next = .transaction call reported ∧
    (call.reports = some (deterministicTaskID id, workerId, version) ∨
      call = .recoverStaleTasks ∧ ∃ row, state.tables.tasks[id]? = some row ∧
        row.leaseVersion = version ∧ row.workerId.getD "" = workerId)) ∧
    (state.act next).tables.account id ≠ state.tables.account id

variable {state : JudgeState} {next : JudgeAct} {id version : Nat} {workerId : Option String}

theorem leases_act (leases : (state.act next).tables.Leases id version workerId) :
    state.tables.Leases id version workerId ∨
      ∃ claimant, workerId = some claimant ∧ state.Claims next id version claimant := by
  obtain ⟨row, drawn, running, rfl, rfl⟩ := leases
  rcases act_moves state next id with same | ⟨call, reported, rfl, move⟩
  · left
    refine ⟨row, ?_, running, rfl, rfl⟩
    exact (congrArg Account.task same).symm.trans drawn
  · cases old : (state.tables.account id).task with
    | none =>
      obtain ⟨waits, _⟩ := move.new_task old drawn
      simp [waits] at running
    | some previous =>
      obtain ⟨_, found, ⟨kept, held⟩ | ⟨free, claimant, _, claims, rfl⟩⟩ := move.lease old
      · cases drawn.symm.trans found
        obtain ⟨was, worker, _⟩ := held running
        exact .inl ⟨previous, old, was, kept.symm, worker.symm⟩
      · cases drawn.symm.trans found
        refine .inr ⟨claimant, rfl, ⟨call, reported, rfl, claims⟩, ?_,
          ⟨_, drawn, running, rfl, rfl⟩⟩
        intro other present
        cases present.symm.trans old
        simp [free]

theorem exists_claim {acts : List JudgeAct}
    (leases : (state.after acts).tables.Leases id version workerId) :
    state.tables.Leases id version workerId ∨ ∃ first claim rest claimant,
      acts = first ++ claim :: rest ∧ workerId = some claimant ∧
        (state.after first).Claims claim id version claimant := by
  induction acts using List.reverseRecOn with
  | nil => exact .inl leases
  | append_singleton acts next ih =>
    rw [after_concat] at leases
    rcases leases_act leases with earlier | ⟨claimant, same, claims⟩
    · rcases ih earlier with initially | ⟨first, claim, rest, claimant, rfl, same, claims⟩
      · exact .inl initially
      · exact .inr ⟨first, claim, rest ++ [next], claimant, by simp, same, claims⟩
    · exact .inr ⟨acts, next, [], claimant, rfl, same, claims⟩

theorem leaseVersion_act (drawn : state.tables.tasks[id]? = some row) :
    ∃ later, (state.act next).tables.tasks[id]? = some later ∧
      later.leaseVersion = row.leaseVersion +
        if row.status ≠ .running ∧ later.status = .running then 1 else 0 := by
  rcases act_moves state next id with same | ⟨_, _, rfl, move⟩
  · refine ⟨row, (congrArg Account.task same).trans drawn, ?_⟩
    rw [if_neg (by tauto)]
    rfl
  · obtain ⟨later, found, ⟨kept, held⟩ | ⟨free, _, _, _, rfl⟩⟩ := move.lease drawn
    · refine ⟨later, found, ?_⟩
      rw [if_neg]
      · exact kept
      · rintro ⟨idle, running⟩
        exact idle (held running).1
    · refine ⟨_, found, ?_⟩
      rw [if_pos ⟨by simp [free], rfl⟩]
      rfl

end JudgeState

end

variable {workerId : String}

section

variable [JudgeDigests] {now id version : Nat} {call : JudgeCall} {before later : Account}

theorem Move.report_ends (move : Move now id before call later)
    (reports : call.reports = some (deterministicTaskID id, workerId, version))
    (changed : later ≠ before) : ∃ row next, before.task = some row ∧ row.leaseVersion = version ∧
      row.workerId = some workerId ∧ later.task = some next ∧ row.Ends next := by
  cases move with
  | rest => exact absurd rfl changed
  | succeed held | fail held | retry held =>
    cases reports
    obtain ⟨worker, rfl, running⟩ := isLeasedTo_iff.mp held.held
    refine ⟨_, _, held.drawn, rfl, worker, rfl, running, rfl, ?_⟩
    simp [TaskRow.succeeded, TaskRow.failed, TaskRow.retried]
  | _ => cases reports

theorem Move.recovery_ends (move : Move now id before .recoverStaleTasks later)
    (changed : later ≠ before) :
    ∃ row next, before.task = some row ∧ later.task = some next ∧ row.Ends next := by
  generalize recovers : JudgeCall.recoverStaleTasks = call at move
  cases move with
  | rest => exact absurd rfl changed
  | exhaust drawn stale | expire drawn stale =>
    refine ⟨_, _, drawn, rfl, running_of_isStale stale, rfl, ?_⟩
    simp [TaskRow.failed, TaskRow.expired]
  | _ => cases recovers

namespace JudgeState

variable {state : JudgeState} {next : JudgeAct}

section

variable (concludes : state.Concludes next id version workerId)
include concludes

theorem Concludes.ends :
    (∃ holder, holder.getD "" = workerId ∧ state.tables.Leases id version holder) ∧
      ((state.act next).tables.account id).Behind version := by
  obtain ⟨⟨call, _, rfl, kind⟩, changed⟩ := concludes
  have move := exec_moves call state id
  rcases kind with reports | ⟨rfl, row, drawn, rfl, worker⟩
  · obtain ⟨row, later, drawn, rfl, worker, present, running, same, idle⟩ :=
      move.report_ends reports changed
    exact ⟨⟨_, rfl, row, drawn, running, rfl, worker⟩,
      later, present, same.ge, fun held => absurd held idle⟩
  · obtain ⟨_, later, found, present, running, same, idle⟩ := move.recovery_ends changed
    cases found.symm.trans drawn
    exact ⟨⟨_, worker, row, drawn, running, rfl, rfl⟩,
      later, present, same.ge, fun held => absurd held idle⟩

theorem Concludes.not_behind : ¬(state.tables.account id).Behind version := by
  rintro ⟨other, found, _, ended⟩
  obtain ⟨⟨_, _, _, drawn, running, rfl, _⟩, _⟩ := concludes.ends
  cases found.symm.trans drawn
  exact ended running rfl

theorem Concludes.once (more : List JudgeAct) (another : JudgeAct) (other : String) :
    ¬((state.act next).after more).Concludes another id version other := by
  intro again
  refine again.not_behind ?_
  exact after_invariant (fun behind _ => behind.move) concludes.ends.2 more

end

theorem Concludes.claimed {acts : List JudgeAct}
    (concludes : (initial.after acts).Concludes next id version workerId) :
    ∃ first claim rest, acts = first ++ claim :: rest ∧
      (initial.after first).Claims claim id version workerId := by
  obtain ⟨⟨_, rfl, leases⟩, _⟩ := concludes.ends
  rcases exists_claim leases with ⟨_, drawn, _⟩ | ⟨first, claim, rest, _, same, rfl, claims⟩
  · simp [initial, empty] at drawn
  · exact ⟨first, claim, rest, same, claims⟩

end JudgeState

end

section

variable {tables after : Tables} {now : Nat} {taskId : TaskId} {leaseVersion : Nat}
  {receipt : Receipt}

variable [JudgeDigests]

def Tables.Fenced (tables : Tables) : Prop := ∀ id, (tables.account id).Fenced id

theorem Tables.Fenced.unfiled (fenced : tables.Fenced) {id : Nat}
    (drawn : tables.tasks[id]? = some row) (running : row.status = .running) :
    0 < row.leaseVersion ∧ tables.receipts[(deterministicTaskID id, row.leaseVersion)]? = none := by
  refine ⟨((fenced id).leased row drawn running).1, ?_⟩
  by_contra present
  obtain ⟨_, found, _, ended⟩ := (fenced id).filed row.leaseVersion present
  cases found.symm.trans drawn
  exact ended running rfl

/-- A lease without a receipt has no result event, and no event has the name of its own. -/
theorem Tables.Fenced.unposted (fenced : tables.Fenced) (distinct : DistinctEvents)
    (unfiled : tables.receipts[(taskId, leaseVersion)]? = none) (payload : Sha256) :
    ∀ row ∈ tables.outbox, row.eventId ≠ judgeResultEventID taskId leaseVersion payload ∧
      ¬(row.taskId = taskId ∧ row.leaseVersion = leaseVersion) := by
  intro row member
  obtain ⟨filed, _, name⟩ := (fenced row.taskId.submissionId).posted row
    (List.mem_filter.mpr ⟨member, by simp [deterministicTaskID]⟩)
  have present : tables.receipts[(row.taskId, row.leaseVersion)]? ≠ none := filed
  constructor
  · intro same
    obtain ⟨task, version⟩ := distinct _ _ _ _ _ _ (name.symm.trans same)
    rw [show row.taskId = taskId from task, version] at present
    exact present unfiled
  · rintro ⟨task, version⟩
    rw [task, version] at present
    exact present unfiled

section

variable (fenced : tables.Fenced) (drawn : tables.tasks[taskId.submissionId]? = some row)
  (running : row.status = .running)
include fenced drawn running

end

variable {entry : Nat × TaskRow} {constraint : String} (fenced : tables.Fenced)
include fenced

theorem Tables.Fenced.recoverTask (drawn : tables.tasks[entry.1]? = some entry.2)
    (stale : entry.2.isStale now = true) (done : Tables.recoverTask now tables entry = .ok after) :
    after.Fenced := by
  intro id
  by_cases same : id = entry.1
  · subst same
    exact (fenced entry.1).move (by trivial) (recoverTask_moves drawn stale done)
  · rw [recoverTask_frame same done]
    exact fenced id

end

/-- One receipt and one result event are filed, for this lease. -/
def Tables.Publishes (before later : Tables) (id version : Nat) : Prop :=
  before.receipts[(deterministicTaskID id, version)]? = none ∧
    (∃ receipt, ∀ other, later.receipts[(deterministicTaskID id, other)]? =
      if other = version then some receipt
      else before.receipts[(deterministicTaskID id, other)]?) ∧
    (∀ row ∈ before.outbox, row.taskId = deterministicTaskID id → row.leaseVersion ≠ version) ∧
    ∃ event, event.leaseVersion = version ∧
      later.outbox.filter (fun row => row.taskId = deterministicTaskID id) =
        before.outbox.filter (fun row => row.taskId = deterministicTaskID id) ++ [event]

variable [JudgeDigests]

theorem Filing.publishes {before later : Tables} {id : Nat} {next : TaskRow}
    {receipt : Receipt} (fenced : (before.account id).Fenced id)
    (filing : Filing id (before.account id) (later.account id) row next receipt)
    (ended : next.hasEnded) : before.Publishes later id next.leaseVersion := by
  obtain ⟨_, version, _⟩ := filing.ends
  rw [version]
  refine ⟨filing.unfiled, ⟨receipt, ?_⟩, ?_, ?_⟩
  · intro other
    have filed := congrFun filing.receipts other
    rw [Function.update_apply] at filed
    exact filed
  · intro posted member task same
    obtain ⟨filed, _⟩ := fenced.posted posted (List.mem_filter.mpr ⟨member, by simpa using task⟩)
    exact filed (same ▸ filing.unfiled)
  · rcases filing.events with ⟨waits, _⟩ | ⟨_, event, added, _, version, _⟩
    · rcases ended with ended | ended <;> simp [ended] at waits
    · exact ⟨event, version, added⟩

end Judge

end UntitledOJ
