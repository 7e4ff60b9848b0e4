import Mathlib.Data.List.Induction
import UntitledOJ.JudgeAccounts
import UntitledOJ.JudgeEndpoints

/-!
# Histories of the judge queue

Every interleaving of the endpoints is a sequence of transactions and events.  A claim takes the
next lease version, and a lease ends at most once: by a report of its worker, by its expiry, or
when the task is taken back.  So the keys of receipts and result events never collide.
-/

namespace UntitledOJ

namespace Judge

theorem JudgeState.account_react (state : JudgeState) (happening : JudgeEvent) (id : Nat) :
    (state.react happening).tables.account id = state.tables.account id := by
  cases happening <;> rfl

variable {now id : Nat} {call : JudgeCall} {before later : Account} {row : TaskRow}

theorem running_of_isStale (stale : row.isStale now = true) : row.status = .running := by
  simp only [TaskRow.isStale, Bool.and_eq_true, decide_eq_true_eq] at stale
  exact stale.1

def TaskRow.KeepsLease (row next : TaskRow) : Prop :=
  next.leaseVersion = row.leaseVersion ∧
    (next.status = .running → row.status = .running ∧ next.workerId = row.workerId ∧
      (row.leaseExpiresAt.isSome → next.leaseExpiresAt.isSome))

theorem TaskRow.keepsLease_rfl (row : TaskRow) : row.KeepsLease row :=
  ⟨rfl, fun running => ⟨running, rfl, fun leased => leased⟩⟩

variable {next : TaskRow}

theorem TaskRow.keepsLease_of_idle (version : next.leaseVersion = row.leaseVersion)
    (idle : next.status ≠ .running) : row.KeepsLease next :=
  ⟨version, fun running => absurd running idle⟩

theorem TaskRow.keepsLease_refreshed (now leaseMs : Nat) :
    row.KeepsLease (row.refreshed now leaseMs) :=
  ⟨rfl, fun running => ⟨running, rfl, fun _ => rfl⟩⟩

/-- The task has been judged, or has failed for good. -/
def TaskRow.hasEnded (row : TaskRow) : Prop := row.status = .succeeded ∨ row.status = .failed

/-- Receipts and result events are as they were, and no task ends. -/
structure Unfiled (before later : Account) : Prop where
  receipts : later.receipts = before.receipts
  events : later.events = before.events
  ended : ∀ next, later.task = some next → next.hasEnded →
    ∃ row, before.task = some row ∧ row.status = next.status

theorem unfiled_of_task (same : later.task = before.task)
    (receipts : later.receipts = before.receipts) (events : later.events = before.events) :
    Unfiled before later :=
  ⟨receipts, events, fun next drawn _ => ⟨next, same ▸ drawn, rfl⟩⟩

theorem unfiled_of_open (drawn : later.task = some next)
    (waits : next.status = .pending ∨ next.status = .running)
    (receipts : later.receipts = before.receipts) (events : later.events = before.events) :
    Unfiled before later := by
  refine ⟨receipts, events, ?_⟩
  intro other found ended
  cases drawn.symm.trans found
  rcases ended with ended | ended <;> simp [ended] at waits

variable [JudgeDigests]

/-- A transaction that an endpoint may ask for, or an event. -/
inductive JudgeAct where
  | transaction (call : JudgeCall) (reported : call.Reported)
  | event (happening : JudgeEvent)

namespace JudgeState

def initial : JudgeState := ⟨.empty, 0, false, .answers⟩

def act (state : JudgeState) : JudgeAct → JudgeState
  | .transaction call _ => (exec call state).2
  | .event happening => react happening state

def after (state : JudgeState) (acts : List JudgeAct) : JudgeState := acts.foldl act state

variable (state : JudgeState)

theorem after_append (first rest : List JudgeAct) :
    state.after (first ++ rest) = (state.after first).after rest :=
  List.foldl_append

theorem after_concat (acts : List JudgeAct) (next : JudgeAct) :
    state.after (acts ++ [next]) = (state.after acts).act next := by
  rw [after_append]
  rfl

theorem act_moves (next : JudgeAct) (id : Nat) :
    (state.act next).tables.account id = state.tables.account id ∨
      ∃ call reported, next = .transaction call reported ∧
        Move state.now id (state.tables.account id) call ((state.act next).tables.account id) := by
  cases next with
  | transaction call reported => exact .inr ⟨call, reported, rfl, exec_moves call state id⟩
  | event happening => exact .inl (account_react state happening id)

theorem after_invariant {id : Nat} {property : Account → Prop}
    (moves : ∀ {now call before later}, property before → JudgeCall.Reported call →
      Move now id before call later → property later)
    {state : JudgeState} (initially : property (state.tables.account id))
    (acts : List JudgeAct) : property ((state.after acts).tables.account id) := by
  induction acts using List.reverseRecOn with
  | nil => exact initially
  | append_singleton acts next ih =>
    rw [after_concat]
    rcases act_moves (state.after acts) next id with same | ⟨_, reported, rfl, move⟩
    · rw [same]
      exact ih
    · exact moves ih reported move

end JudgeState

open JudgeState in
theorem exists_history {permits : judgePlatform.Discipline} {config : judgePlatform.Config}
    (run : Platform.Run permits judgeIdle config) : ∃ acts, config.state = initial.after acts := by
  induction run with
  | refl => exact ⟨[], rfl⟩
  | @tail before later earlier step ih =>
    obtain ⟨acts, same⟩ := ih
    rcases Platform.step_cases step with kept | ⟨_, _, call, _, performs, moved⟩ |
      ⟨happening, _, moved⟩
    · exact ⟨acts, kept.trans same⟩
    · refine ⟨acts ++ [.transaction call (performs_reported earlier performs)], ?_⟩
      rw [after_concat, ← same]
      exact moved
    · refine ⟨acts ++ [.event happening], ?_⟩
      rw [after_concat, ← same]
      exact moved

def JudgeCall.ClaimsFor (workerId : String) (call : JudgeCall) : Prop :=
  ∃ languages limit leaseMs taskIds, call = .claimTasks workerId languages limit leaseMs taskIds

/-- A task is leased by a claim alone, and never disappears. -/
theorem Move.lease (move : Move now id before call later) (drawn : before.task = some row) :
    ∃ next, later.task = some next ∧ (row.KeepsLease next ∨
      row.status = .pending ∧ ∃ workerId leaseMs, call.ClaimsFor workerId ∧
        next = row.claimed now workerId leaseMs) := by
  cases move with
  | rest | create | source | systemError | cancel | reset =>
    exact ⟨row, drawn, .inl row.keepsLease_rfl⟩
  | ensure | requeue =>
    refine ⟨_, rfl, .inl ?_⟩
    simp only [drawn, Option.elim_some]
    exact TaskRow.keepsLease_of_idle rfl (by simp [TaskRow.requeued])
  | draw taskNumber found waits missing => simp [drawn] at missing
  | claim found waits present free workerId languages limit leaseMs taskIds =>
    cases drawn.symm.trans present
    exact ⟨_, rfl, .inr ⟨free, workerId, leaseMs, ⟨languages, limit, leaseMs, taskIds, rfl⟩, rfl⟩⟩
  | refresh present | refreshClaimed present =>
    cases drawn.symm.trans present
    exact ⟨_, rfl, .inl (TaskRow.keepsLease_refreshed _ _)⟩
  | succeed reports | fail reports | retry reports =>
    cases drawn.symm.trans reports.drawn
    refine ⟨_, rfl, .inl (TaskRow.keepsLease_of_idle rfl ?_)⟩
    simp [TaskRow.succeeded, TaskRow.failed, TaskRow.retried]
  | release present | exhaust present | expire present =>
    cases drawn.symm.trans present
    refine ⟨_, rfl, .inl (TaskRow.keepsLease_of_idle rfl ?_)⟩
    simp [TaskRow.released, TaskRow.failed, TaskRow.expired]

theorem Move.new_task (move : Move now id before call later) (missing : before.task = none)
    (drawn : later.task = some next) : next.status = .pending ∧ before.submission.isSome := by
  cases move with
  | ensure number found | requeue number found =>
    simp only [Account.upsertTask, missing, Option.elim_none, Option.some.injEq] at drawn
    exact ⟨by rw [← drawn]; rfl, by simp [found]⟩
  | draw number found =>
    cases drawn
    exact ⟨rfl, by simp [found]⟩
  | succeed reports | fail reports | retry reports => simp [reports.drawn] at missing
  | _ => simp_all

def TaskRow.Ends (row next : TaskRow) : Prop :=
  row.status = .running ∧ next.leaseVersion = row.leaseVersion ∧ next.status ≠ .running

/-- The receipt of a lease that has ended, and its result event when the task has ended. -/
structure Filing (id : Nat) (before later : Account) (row next : TaskRow) (receipt : Receipt) :
    Prop where
  drawn : before.task = some row
  task : later.task = some next
  ends : row.Ends next
  worker : receipt.workerId = row.workerId.getD ""
  unfiled : before.receipts row.leaseVersion = none
  receipts : later.receipts = Function.update before.receipts row.leaseVersion (some receipt)
  events : (next.status = .pending ∧ later.events = before.events) ∨
    ((next.status = .succeeded ∨ next.status = .failed) ∧ ∃ event,
      later.events = before.events ++ [event] ∧ event.taskId = deterministicTaskID id ∧
        event.leaseVersion = row.leaseVersion ∧
        event.eventId = judgeResultEventID (deterministicTaskID id) row.leaseVersion
          event.payloadSha256)

theorem Move.filed (reported : call.Reported) (move : Move now id before call later) :
    Unfiled before later ∨ ∃ row next receipt, Filing id before later row next receipt := by
  cases move with
  | rest | create | source | systemError | cancel | reset =>
    exact .inl (unfiled_of_task rfl rfl rfl)
  | ensure | requeue =>
    refine .inl (unfiled_of_open rfl (.inl ?_) rfl rfl)
    cases before.task <;> rfl
  | draw | release | expire => exact .inl (unfiled_of_open rfl (.inl rfl) rfl rfl)
  | claim => exact .inl (unfiled_of_open rfl (.inr rfl) rfl rfl)
  | refresh _ held | refreshClaimed _ held =>
    obtain ⟨_, _, running⟩ := isLeasedTo_iff.mp held
    exact .inl (unfiled_of_open rfl (.inr running) rfl rfl)
  | succeed reports =>
    obtain ⟨worker, rfl, running⟩ := isLeasedTo_iff.mp reports.held
    exact .inr ⟨_, _, _, reports.drawn, rfl, ⟨running, rfl, by simp [TaskRow.succeeded]⟩,
      by simp [worker], reports.unfiled, rfl, .inr ⟨.inl rfl, _, rfl, rfl, rfl,
        eventId_of_success reported⟩⟩
  | fail reports =>
    obtain ⟨worker, rfl, running⟩ := isLeasedTo_iff.mp reports.held
    exact .inr ⟨_, _, _, reports.drawn, rfl, ⟨running, rfl, by simp [TaskRow.failed]⟩,
      by simp [worker], reports.unfiled, rfl, .inr ⟨.inr rfl, _, rfl, rfl, rfl,
        eventId_of_failure reported⟩⟩
  | retry reports =>
    obtain ⟨worker, rfl, running⟩ := isLeasedTo_iff.mp reports.held
    exact .inr ⟨_, _, _, reports.drawn, rfl, ⟨running, rfl, by simp [TaskRow.retried]⟩,
      by simp [worker], reports.unfiled, rfl, .inl ⟨rfl, rfl⟩⟩
  | exhaust drawn stale unfiled =>
    exact .inr ⟨_, _, _, drawn, rfl, ⟨running_of_isStale stale, rfl, by simp [TaskRow.failed]⟩,
      rfl, unfiled, rfl, .inr ⟨.inr rfl, _, rfl, rfl, rfl, rfl⟩⟩

theorem Move.presence (move : Move now id before call later) :
    (later.submission.isSome = before.submission.isSome ∧ later.numbered = before.numbered) ∨
      later.submission.isSome ∧ later.numbered = true := by
  cases move with
  | create => exact .inr ⟨rfl, rfl⟩
  | reset found | claim found => exact .inl ⟨by simp [found], rfl⟩
  | requeue number found => exact .inl ⟨by simp [Account.upsertTask, found], rfl⟩
  | source | systemError | cancel | release | expire => exact .inl ⟨by simp, rfl⟩
  | succeed => exact .inl ⟨by simp [Account.succeeded], rfl⟩
  | fail | exhaust => exact .inl ⟨by simp [Account.failed], rfl⟩
  | retry => exact .inl ⟨by simp [Account.retried, Account.file], rfl⟩
  | _ => exact .inl ⟨rfl, rfl⟩

def Account.Behind (version : Nat) (account : Account) : Prop :=
  ∃ row, account.task = some row ∧ version ≤ row.leaseVersion ∧
    (row.status = .running → version ≠ row.leaseVersion)

theorem Account.Behind.move {version : Nat} (behind : before.Behind version)
    (moves : Move now id before call later) : later.Behind version := by
  obtain ⟨_, drawn, old, ended⟩ := behind
  obtain ⟨next, present, ⟨same, kept⟩ | ⟨_, _, _, _, rfl⟩⟩ := moves.lease drawn
  · refine ⟨next, present, same ▸ old, ?_⟩
    intro running
    exact same ▸ ended (kept running).1
  · refine ⟨_, present, ?_, ?_⟩
    · exact old.trans (Nat.le_succ _)
    · intro _
      exact (Nat.lt_succ_of_le old).ne

/-- The leases of a task, its receipts and its result events agree. -/
structure Account.Fenced (id : Nat) (account : Account) : Prop where
  created : account.submission.isSome → account.numbered = true
  owned : account.task.isSome → account.submission.isSome
  leased : ∀ row, account.task = some row → row.status = .running →
    0 < row.leaseVersion ∧ row.workerId.isSome ∧ row.leaseExpiresAt.isSome
  filed : ∀ version, account.receipts version ≠ none → account.Behind version
  posted : ∀ event ∈ account.events, account.receipts event.leaseVersion ≠ none ∧
    event.taskId = deterministicTaskID id ∧
    event.eventId = judgeResultEventID (deterministicTaskID id) event.leaseVersion
      event.payloadSha256

namespace Account.Fenced

theorem leased_move (fenced : before.Fenced id) (move : Move now id before call later) :
    ∀ row, later.task = some row → row.status = .running →
      0 < row.leaseVersion ∧ row.workerId.isSome ∧ row.leaseExpiresAt.isSome := by
  intro next present running
  cases drawn : before.task with
  | none =>
    obtain ⟨waits, _⟩ := move.new_task drawn present
    simp [waits] at running
  | some row =>
    obtain ⟨_, found, ⟨version, kept⟩ | ⟨_, _, _, _, rfl⟩⟩ := move.lease drawn
    · cases present.symm.trans found
      obtain ⟨was, worker, expiry⟩ := kept running
      obtain ⟨positive, held, expires⟩ := fenced.leased row drawn was
      exact ⟨version ▸ positive, worker ▸ held, expiry expires⟩
    · cases present.symm.trans found
      exact ⟨Nat.succ_pos _, rfl, rfl⟩

variable (fenced : before.Fenced id) (reported : call.Reported)
include fenced reported

theorem filed_move (move : Move now id before call later) (version : Nat)
    (present : later.receipts version ≠ none) : later.Behind version := by
  rcases move.filed reported with unfiled | ⟨row, next, _, filing⟩
  · rw [unfiled.receipts] at present
    exact (fenced.filed version present).move move
  · obtain ⟨_, _, idle⟩ := filing.ends
    by_cases current : version = row.leaseVersion
    · exact ⟨next, filing.task, by omega, fun running => absurd running idle⟩
    · rw [filing.receipts, Function.update_of_ne current] at present
      exact (fenced.filed version present).move move

theorem posted_move (move : Move now id before call later) :
    ∀ event ∈ later.events, later.receipts event.leaseVersion ≠ none ∧
      event.taskId = deterministicTaskID id ∧
      event.eventId = judgeResultEventID (deterministicTaskID id) event.leaseVersion
        event.payloadSha256 := by
  rcases move.filed reported with unfiled | ⟨_, _, _, filing⟩
  · rw [unfiled.receipts, unfiled.events]
    exact fenced.posted
  · have old : ∀ event ∈ before.events, later.receipts event.leaseVersion ≠ none := by
      intro event member
      rw [filing.receipts, Function.update_apply]
      split_ifs
      · simp
      · exact (fenced.posted event member).1
    rcases filing.events with ⟨_, same⟩ | ⟨_, _, added, task, version, name⟩
    · rw [same]
      exact fun other member => ⟨old other member, (fenced.posted other member).2⟩
    · rw [added]
      intro other member
      rcases List.mem_append.mp member with member | member
      · exact ⟨old other member, (fenced.posted other member).2⟩
      · cases List.mem_singleton.mp member
        refine ⟨?_, task, version ▸ name⟩
        rw [filing.receipts, version, Function.update_self]
        simp

theorem move (moves : Move now id before call later) : later.Fenced id where
  created present := by
    rcases moves.presence with ⟨same, numbered⟩ | ⟨_, numbered⟩
    · rw [numbered]
      exact fenced.created (same ▸ present)
    · exact numbered
  owned present := by
    obtain ⟨_, found⟩ := Option.isSome_iff_exists.mp present
    have exists_before : before.submission.isSome → later.submission.isSome := by
      rcases moves.presence with ⟨same, _⟩ | ⟨present, _⟩
      · exact fun existed => same ▸ existed
      · exact fun _ => present
    cases drawn : before.task with
    | none => exact exists_before (moves.new_task drawn found).2
    | some row => exact exists_before (fenced.owned (by simp [drawn]))
  leased := fenced.leased_move moves
  filed := fenced.filed_move reported moves
  posted := fenced.posted_move reported moves

end Account.Fenced

theorem fenced_after (acts : List JudgeAct) (id : Nat) :
    ((JudgeState.initial.after acts).tables.account id).Fenced id := by
  refine JudgeState.after_invariant (fun fenced reported => fenced.move reported) ?_ acts
  constructor <;> simp [JudgeState.initial, Tables.empty, Tables.account]

end Judge

end UntitledOJ
