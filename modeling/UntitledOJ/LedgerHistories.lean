import UntitledOJ.AgentLedger

/-!
# What the ledger makes of redelivered jobs

For one job the ledger is a small machine: nothing begun, an execution in flight, or a recorded
completion.  Its transitions settle how often a job is executed and what a redelivery is answered.
-/

namespace UntitledOJ

/-- What the ledger knows about a job: what was asked for, and the completion
unless an execution is in flight. -/
structure LedgerRun where
  kind : JobKind
  payloadSha256 : String
  completion : Option StoredCompletion

theorem JobKind.name_injective : Function.Injective JobKind.name := by
  intro first second same
  have firstRead := readVariant_kind first
  rw [same, readVariant_kind second] at firstRead
  exact (Except.ok.inj firstRead).symm

theorem JobKind.json_injective : Function.Injective JobKind.json := by
  intro first second same
  apply JobKind.name_injective
  apply String.toList_injective
  have texts := congrArg String.toList same
  simpa [JobKind.json] using texts

/-- The texts of the completion are not nested too deep to be read back. -/
def StoredCompletion.ReadsBack (completion : StoredCompletion) : Prop :=
  completion.result.nesting < 128 ∧ (NewJobEvent.listToDocument completion.events).nesting < 128
  deriving Decidable

def LedgerCall.jobId? : LedgerCall → Option String
  | .begin jobId .. | .finish jobId .. => some jobId
  | .recoverInterrupted _ => none

namespace AgentLedger

variable {Text : Type} [JsonText Text] {completion : StoredCompletion} {jobId other : String}

/-- What a delivery does to the machine of the job. -/
inductive Begins (jobId : String) (kind : JobKind) (payloadSha256 : String) :
    Option LedgerRun → Except LedgerError BeginDecision → Option LedgerRun → Prop
  | starts : Begins jobId kind payloadSha256 none (.ok (.execute 1))
      (some ⟨kind, payloadSha256, none⟩)
  | conflicts {run : LedgerRun} (differs : run.payloadSha256 ≠ payloadSha256 ∨ run.kind ≠ kind) :
      Begins jobId kind payloadSha256 (some run) (.error (.payloadConflict jobId)) (some run)
  | supersedes : Begins jobId kind payloadSha256 (some ⟨kind, payloadSha256, none⟩)
      (.ok (.replay superseded)) (some ⟨kind, payloadSha256, some superseded⟩)
  | retries {completion : StoredCompletion} {attempt : Nat}
      (retryable : completion.status = .retryableFailure) :
      Begins jobId kind payloadSha256 (some ⟨kind, payloadSha256, some completion⟩)
        (.ok (.execute attempt)) (some ⟨kind, payloadSha256, none⟩)
  | replays {completion : StoredCompletion} {read : Except LedgerError StoredCompletion}
      (terminal : completion.status ≠ .retryableFailure)
      (reads : completion.ReadsBack → read = .ok completion) :
      Begins jobId kind payloadSha256 (some ⟨kind, payloadSha256, some completion⟩)
        (read.map .replay) (some ⟨kind, payloadSha256, some completion⟩)

/-- The call is not a delivery of the job. -/
def NoDelivery (jobId : String) (call : LedgerCall) : Prop :=
  ∀ kind payloadSha256 leaseToken nowMs, call ≠ .begin jobId kind payloadSha256 leaseToken nowMs

/-- What an answered call does to the machine of the job. -/
inductive Step (jobId : String) :
    Option LedgerRun → LedgerCall × LedgerReply → Option LedgerRun → Prop
  | idle {run : Option LedgerRun} {entry : LedgerCall × LedgerReply}
      (undelivered : NoDelivery jobId entry.1)
      (elsewhere : ∀ recorded, run = some recorded → recorded.completion = none →
        ∃ other, entry.1.jobId? = some other ∧ other ≠ jobId) : Step jobId run entry run
  | begins {kind : JobKind} {payloadSha256 leaseToken : String} {nowMs : Int}
      {before after : Option LedgerRun} {decision : Except LedgerError BeginDecision}
      (begins : Begins jobId kind payloadSha256 before decision after) : Step jobId before
        (.begin jobId kind payloadSha256 leaseToken nowMs, .begun decision) after
  | finishes {kind : JobKind} {payloadSha256 : String} {completion : StoredCompletion}
      {nowMs : Int} : Step jobId (some ⟨kind, payloadSha256, none⟩)
        (.finish jobId completion nowMs, .finished (.ok ()))
        (some ⟨kind, payloadSha256, some completion⟩)
  | interrupts {kind : JobKind} {payloadSha256 : String} {nowMs : Int} {runs : Nat} :
      Step jobId (some ⟨kind, payloadSha256, none⟩) (.recoverInterrupted nowMs, .recovered runs)
        (some ⟨kind, payloadSha256, some interrupted⟩)

structure Shows (row : JobRunRow Text) (run : LedgerRun) : Prop where
  kind : row.jobKind = run.kind.json
  payload : row.payloadSha256 = run.payloadSha256
  executing : run.completion = none → row.state = "RUNNING" ∧ row.eventsJson = noEvents
  completed : ∀ completion, run.completion = some completion →
    row.state = (stateForCompletion completion.status).asStr ∧
    row.completionStatus = some (completionStatusStr completion.status) ∧
    row.resultJson = some (JsonText.toText completion.result) ∧
    row.errorMessage.getD "" = completion.errorMessage ∧
    row.eventsJson = JsonText.toText (NewJobEvent.listToDocument completion.events)

inductive Records (ledger : AgentLedger Text) (jobId : String) : Option LedgerRun → Prop
  | missing (absent : ledger.runs[jobId]? = none) : Records ledger jobId none
  | run {row : JobRunRow Text} {run : LedgerRun} (found : ledger.runs[jobId]? = some row)
      (shows : Shows row run) : Records ledger jobId (some run)

theorem storedCompletion_of_shows {row : JobRunRow Text} {run : LedgerRun} (shows : Shows row run)
    (completed : run.completion = some completion) (state : LedgerRunState)
    (readable : completion.ReadsBack) :
    storedCompletion state row.resultJson row.completionStatus row.errorMessage row.eventsJson =
      .ok completion := by
  obtain ⟨_, status, result, error, events⟩ := shows.completed completion completed
  simp only [storedCompletion, status, result, error, events, JsonText.fromText_toText _ readable.1,
    JsonText.fromText_toText _ readable.2, bind, Except.bind,
    NewJobEvent.listOfDocument_listToDocument]
  cases ended : completion.status <;> simp only [completionStatusStr, pure, Except.pure, ← ended]

theorem Shows.finished {row : JobRunRow Text} {run : LedgerRun} (shows : Shows row run)
    (completed : run.completion = some completion) : row.state ≠ "RUNNING" := by
  rw [(shows.completed completion completed).1]
  cases completion.status <;> simp [stateForCompletion, LedgerRunState.asStr]

theorem nullableMessage_getD (message : String) : (nullableMessage message).getD "" = message := by
  unfold nullableMessage
  split_ifs with empty
  · simpa using (String.isEmpty_iff.mp empty).symm
  · rfl

variable {recorded : LedgerRun} {ledger : AgentLedger Text} {run : Option LedgerRun}

theorem records_insert {row : JobRunRow Text} (shows : Shows row recorded)
    (steps : List JobStepRow) :
    Records ⟨ledger.runs.insert jobId row, steps⟩ jobId (some recorded) :=
  .run (by rw [getElem?_insert_of_eq, if_pos rfl]) shows

section

variable (records : ledger.Records jobId run)
include records

theorem begin_step (kind : JobKind) (payloadSha256 leaseToken : String) (nowMs : Int) :
    ∃ next, Begins jobId kind payloadSha256 run
        (ledger.begin jobId kind payloadSha256 leaseToken nowMs).1 next ∧
      (ledger.begin jobId kind payloadSha256 leaseToken nowMs).2.Records jobId next := by
  cases records with
  | missing absent =>
    simp only [begin, absent]
    refine ⟨_, .starts, records_insert ?_ _⟩
    exact ⟨rfl, rfl, fun _ => ⟨rfl, rfl⟩, nofun⟩
  | @run row run found shows =>
    simp only [begin, found, shows.payload, shows.kind, JobKind.json_injective.ne_iff]
    by_cases differs : run.payloadSha256 ≠ payloadSha256 ∨ run.kind ≠ kind
    · simp only [if_pos differs]
      exact ⟨_, .conflicts differs, .run found shows⟩
    simp only [if_neg differs]
    obtain ⟨rfl, rfl⟩ : run.payloadSha256 = payloadSha256 ∧ run.kind = kind := by
      simpa [not_or] using differs
    obtain ⟨kind, payloadSha256, _ | completion⟩ := run
    · obtain ⟨state, events⟩ := shows.executing rfl
      have parses : LedgerRunState.parse row.state = .ok .running := by
        rw [state]
        rfl
      simp only [parses]
      refine ⟨_, .supersedes, records_insert ?_ _⟩
      refine ⟨rfl, rfl, nofun, ?_⟩
      rintro completion ⟨⟩
      exact ⟨rfl, rfl, rfl, rfl, events⟩
    · have parses : LedgerRunState.parse row.state =
          .ok (stateForCompletion completion.status) := by
        rw [(shows.completed completion rfl).1, LedgerRunState.parse_asStr]
      have reads := storedCompletion_of_shows shows rfl (stateForCompletion completion.status)
      cases ended : completion.status with
      | retryableFailure =>
        rw [ended] at parses
        simp only [parses, stateForCompletion]
        refine ⟨_, .retries ended, records_insert ?_ _⟩
        exact ⟨rfl, rfl, fun _ => ⟨rfl, rfl⟩, nofun⟩
      | _ =>
        -- a terminal row is only stamped with the new lease
        rw [ended] at parses reads
        simp only [parses, stateForCompletion] at reads ⊢
        generalize storedCompletion _ row.resultJson row.completionStatus row.errorMessage
          row.eventsJson = read at reads ⊢
        have replays : Begins jobId kind payloadSha256 _ (read.map .replay) _ :=
          .replays (by simp [ended]) reads
        cases read with
        | error error => exact ⟨_, replays, .run found shows⟩
        | ok read =>
          refine ⟨_, replays, records_insert ?_ _⟩
          exact ⟨rfl, rfl, shows.executing, shows.completed⟩

theorem finish_step (completion : StoredCompletion) (nowMs : Int) :
    ∃ next, Step jobId run (.finish jobId completion nowMs,
        .finished (ledger.finish jobId completion nowMs).1) next ∧
      (ledger.finish jobId completion nowMs).2.Records jobId next := by
  cases records with
  | missing absent =>
    simp only [finish, absent]
    exact ⟨_, .idle nofun nofun, .missing absent⟩
  | @run row run found shows =>
    simp only [finish, found]
    obtain ⟨kind, payloadSha256, _ | recorded⟩ := run
    · rw [if_pos (shows.executing rfl).1]
      refine ⟨_, .finishes, records_insert ?_ _⟩
      refine ⟨shows.kind, shows.payload, nofun, ?_⟩
      rintro recorded ⟨⟩
      exact ⟨rfl, rfl, rfl, nullableMessage_getD _, rfl⟩
    · rw [if_neg (shows.finished rfl)]
      exact ⟨_, .idle nofun (by simp), .run found shows⟩

theorem restart_step (nowMs : Int) :
    ∃ next, Step jobId run (.recoverInterrupted nowMs,
        .recovered (ledger.recoverInterrupted nowMs).1) next ∧
      (ledger.recoverInterrupted nowMs).2.Records jobId next := by
  have rows (row : Option (JobRunRow Text)) (found : ledger.runs[jobId]? = row) :
      (ledger.recoverInterrupted nowMs).2.runs[jobId]? = row.map (interruptRow nowMs) := by
    simp only [recoverInterrupted, Std.TreeMap.getElem?_map, found]
  cases records with
  | missing absent => exact ⟨_, .idle nofun nofun, .missing (rows none absent)⟩
  | @run row run found shows =>
    have restarted := rows (some row) found
    obtain ⟨kind, payloadSha256, _ | recorded⟩ := run
    · obtain ⟨state, events⟩ := shows.executing rfl
      refine ⟨_, .interrupts, .run restarted ?_⟩
      simp only [interruptRow, if_pos state]
      refine ⟨shows.kind, shows.payload, nofun, ?_⟩
      rintro recorded ⟨⟩
      exact ⟨rfl, rfl, rfl, rfl, events⟩
    · rw [Option.map_some, interruptRow, if_neg (shows.finished rfl)] at restarted
      exact ⟨_, .idle nofun (by simp), .run restarted shows⟩

theorem Records.congr {other : AgentLedger Text} (same : other.runs[jobId]? = ledger.runs[jobId]?) :
    other.Records jobId run := by
  cases records with
  | missing absent => exact .missing (same.trans absent)
  | run found shows => exact .run (same.trans found) shows

end

theorem begin_other (different : jobId ≠ other) (kind : JobKind) (payloadSha256 leaseToken : String)
    (nowMs : Int) : (ledger.begin other kind payloadSha256 leaseToken nowMs).2.runs[jobId]? =
      ledger.runs[jobId]? := by
  have inserted (row : JobRunRow Text) :
      (ledger.runs.insert other row)[jobId]? = ledger.runs[jobId]? := by
    rw [getElem?_insert_of_eq, if_neg different]
  simp only [begin]
  split
  · exact inserted _
  · split_ifs
    · rfl
    · split
      · rfl
      · exact inserted _
      · exact inserted _
      · split
        · rfl
        · exact inserted _

theorem finish_other (different : jobId ≠ other) (completion : StoredCompletion) (nowMs : Int) :
    (ledger.finish other completion nowMs).2.runs[jobId]? = ledger.runs[jobId]? := by
  simp only [finish]
  split
  · rfl
  · split_ifs
    · rw [getElem?_insert_of_eq, if_neg different]
    · rfl

/-- Every call takes a step of the job's machine. -/
theorem Records.exec (records : ledger.Records jobId run) (call : LedgerCall) :
    ∃ next, Step jobId run (call, (ledger.exec call).1) next ∧
      (ledger.exec call).2.Records jobId next := by
  cases call with
  | begin other kind payloadSha256 leaseToken nowMs =>
    by_cases same : other = jobId
    · subst same
      obtain ⟨next, begins, kept⟩ := begin_step records kind payloadSha256 leaseToken nowMs
      exact ⟨next, .begins begins, kept⟩
    · refine ⟨run, .idle ?_ fun _ _ _ => ⟨other, rfl, same⟩,
        records.congr (begin_other (Ne.symm same) kind payloadSha256 leaseToken nowMs)⟩
      rintro _ _ _ _ ⟨⟩
      exact same rfl
  | finish other completion nowMs =>
    by_cases same : other = jobId
    · subst same
      exact finish_step records completion nowMs
    · exact ⟨run, .idle nofun fun _ _ _ => ⟨other, rfl, same⟩,
        records.congr (finish_other (Ne.symm same) completion nowMs)⟩
  | recoverInterrupted nowMs => exact restart_step records nowMs

variable (Text) in
abbrev reached (calls : List LedgerCall) : AgentLedger Text :=
  afterCalls exec empty calls

variable (Text) in
abbrev answered (calls : List LedgerCall) : List (LedgerCall × LedgerReply) :=
  history exec (empty : AgentLedger Text) calls

/-- The agent is told to execute the job. -/
def Executes (jobId : String) : LedgerCall × LedgerReply → Bool
  | (.begin other _ _ _ _, .begun (.ok (.execute _))) => other = jobId
  | _ => false

/-- A failure of the job that may be retried is recorded. -/
def RecordsRetry (jobId : String) : LedgerCall × LedgerReply → Bool
  | (.finish other completion _, .finished (.ok ())) =>
    other = jobId && completion.status = .retryableFailure
  | _ => false

/-- A delivery of the job was taken with this kind and payload. -/
def BegunAs (past : List (LedgerCall × LedgerReply)) (jobId : String) (kind : JobKind)
    (payloadSha256 : String) : Prop :=
  ∃ leaseToken nowMs decision,
    (.begin jobId kind payloadSha256 leaseToken nowMs, .begun (.ok decision)) ∈ past

/-- The job was never delivered. -/
def NeverBegun (calls : List LedgerCall) (jobId : String) : Prop :=
  ∀ kind payloadSha256 leaseToken nowMs,
    .begin jobId kind payloadSha256 leaseToken nowMs ∉ calls

/-- In the history no delivery of the job is executed, and every delivery with this kind and payload
is answered with the completion if its texts read back. -/
def Settled (history : List (LedgerCall × LedgerReply)) (jobId : String) (kind : JobKind)
    (payloadSha256 : String) (completion : StoredCompletion) : Prop :=
  (∀ entry ∈ history, Executes jobId entry = false) ∧
    (completion.ReadsBack → ∀ leaseToken nowMs reply,
      (.begin jobId kind payloadSha256 leaseToken nowMs, reply) ∈ history →
        reply = .begun (.ok (.replay completion)))

/-- The executions that the job's machine allows before the next failure. -/
def allowed : Option LedgerRun → Nat
  | none => 1
  | some run =>
    if run.completion.any (fun completion => completion.status = .retryableFailure) then 1 else 0

variable {kind : JobKind} {payloadSha256 leaseToken : String} {nowMs : Int}

variable {entry : LedgerCall × LedgerReply} {next : Option LedgerRun}

theorem executes_eq_false (undelivered : NoDelivery jobId entry.1) :
    Executes jobId entry = false := by
  unfold Executes
  split
  · apply decide_eq_false
    rintro rfl
    exact undelivered _ _ _ _ rfl
  · rfl

theorem settled_of_noDelivery (undelivered : NoDelivery jobId entry.1) :
    Settled [entry] jobId kind payloadSha256 completion := by
  constructor
  · intro other member
    rw [List.mem_singleton.mp member]
    exact executes_eq_false undelivered
  · intro _ leaseToken nowMs reply member
    rw [← List.mem_singleton.mp member] at undelivered
    exact absurd rfl (undelivered _ _ _ _)

/-- A terminal completion is kept, and the delivery is answered with it. -/
theorem Step.settled (step : Step jobId (some recorded) entry next)
    (completed : recorded.completion = some completion)
    (terminal : completion.status ≠ .retryableFailure) : next = some recorded ∧
      Settled [entry] jobId recorded.kind recorded.payloadSha256 completion := by
  cases step with
  | idle undelivered => exact ⟨rfl, settled_of_noDelivery undelivered⟩
  | begins begins =>
    cases begins with
    | conflicts differs =>
      refine ⟨rfl, by simp [Executes], ?_⟩
      intro _ leaseToken nowMs reply member
      simp_all
    | supersedes => cases completed
    | retries retryable =>
      cases completed
      exact absurd retryable terminal
    | @replays _ read _ reads =>
      cases completed
      refine ⟨rfl, ?_, ?_⟩
      · cases read <;> simp [Executes, Except.map]
      · intro readable
        simp [reads readable, Except.map]
  | finishes | interrupts => cases completed

theorem Settled.cons {rest : List (LedgerCall × LedgerReply)}
    (head : Settled [entry] jobId kind payloadSha256 completion)
    (tail : Settled rest jobId kind payloadSha256 completion) :
    Settled (entry :: rest) jobId kind payloadSha256 completion := by
  constructor
  · intro other member
    rcases List.mem_cons.mp member with rfl | later
    · exact head.1 other List.mem_cons_self
    · exact tail.1 other later
  · intro readable leaseToken nowMs reply member
    rcases List.mem_cons.mp member with rfl | later
    · exact head.2 readable leaseToken nowMs reply List.mem_cons_self
    · exact tail.2 readable leaseToken nowMs reply later

/-- What the answers so far say about the job's machine. -/
structure Accounts (past : List (LedgerCall × LedgerReply)) (ledger : AgentLedger Text)
    (jobId : String) (run : Option LedgerRun) : Prop where
  records : ledger.Records jobId run
  never : run = none → NeverBegun (past.map Prod.fst) jobId
  begun : ∀ kind payloadSha256, BegunAs past jobId kind payloadSha256 ↔
    ∃ completion, run = some ⟨kind, payloadSha256, completion⟩
  executions : past.countP (Executes jobId) + allowed run ≤ 1 + past.countP (RecordsRetry jobId)

theorem Step.allowed (step : Step jobId run entry next) :
    (if Executes jobId entry then 1 else 0) + allowed next ≤
      allowed run + if RecordsRetry jobId entry then 1 else 0 := by
  cases step with
  | idle undelivered => simp [executes_eq_false undelivered]
  | begins begins =>
    cases begins with
    | starts | conflicts => simp [Executes, AgentLedger.allowed]
    | supersedes => simp [Executes, AgentLedger.allowed, superseded]
    | retries retryable => simp [Executes, AgentLedger.allowed, retryable]
    | @replays _ read => cases read <;> simp [Executes, Except.map]
  | finishes => simp [Executes, RecordsRetry, AgentLedger.allowed]
  | interrupts => simp [Executes, AgentLedger.allowed, interrupted]

theorem Step.never (step : Step jobId run entry none) : run = none ∧ NoDelivery jobId entry.1 := by
  cases step with
  | idle undelivered => exact ⟨rfl, undelivered⟩
  | begins begins => cases begins

/-- The machine knows what was asked for as soon as a delivery is accepted. -/
theorem Step.begun (step : Step jobId run entry next) :
    (∃ completion, next = some ⟨kind, payloadSha256, completion⟩) ↔
      BegunAs [entry] jobId kind payloadSha256 ∨
        ∃ completion, run = some ⟨kind, payloadSha256, completion⟩ := by
  cases step with
  | idle undelivered =>
    refine (or_iff_right ?_).symm
    rintro ⟨_, _, _, member⟩
    rw [← List.mem_singleton.mp member] at undelivered
    exact undelivered _ _ _ _ rfl
  | begins begins => cases begins <;> simp [BegunAs] <;> grind
  | finishes | interrupts => simp [BegunAs]

variable {past : List (LedgerCall × LedgerReply)}

theorem begunAs_append {rest : List (LedgerCall × LedgerReply)} :
    BegunAs (past ++ rest) jobId kind payloadSha256 ↔
      BegunAs rest jobId kind payloadSha256 ∨ BegunAs past jobId kind payloadSha256 := by
  simp only [BegunAs, List.mem_append, exists_or, or_comm]

theorem Accounts.exec (accounts : Accounts past ledger jobId run) (call : LedgerCall) :
    ∃ next, Accounts (past ++ [(call, (ledger.exec call).1)]) (ledger.exec call).2 jobId next := by
  obtain ⟨next, step, records⟩ := accounts.records.exec call
  refine ⟨next, records, ?_, ?_, ?_⟩
  · rintro rfl kind payloadSha256 leaseToken nowMs member
    obtain ⟨before, undelivered⟩ := step.never
    rw [List.map_append, List.mem_append] at member
    rcases member with early | late
    · exact accounts.never before kind payloadSha256 leaseToken nowMs early
    · exact undelivered kind payloadSha256 leaseToken nowMs (List.mem_singleton.mp late).symm
  · intro kind payloadSha256
    rw [begunAs_append, accounts.begun, step.begun]
  · have uses := step.allowed
    have before := accounts.executions
    simp only [List.countP_append, List.countP_singleton]
    omega

/-- The call ends the job's execution with the completion: a restart, the same delivery again, or a
final completion. -/
inductive Ends (jobId : String) (kind : JobKind) (payloadSha256 : String) :
    LedgerCall → StoredCompletion → Prop
  | interrupted (nowMs : Int) :
      Ends jobId kind payloadSha256 (.recoverInterrupted nowMs) interrupted
  | superseded (leaseToken : String) (nowMs : Int) :
      Ends jobId kind payloadSha256 (.begin jobId kind payloadSha256 leaseToken nowMs) superseded
  | finished (completion : StoredCompletion) (nowMs : Int)
      (terminal : completion.status ≠ .retryableFailure) :
      Ends jobId kind payloadSha256 (.finish jobId completion nowMs) completion

theorem Step.ends {call : LedgerCall} {reply : LedgerReply}
    (step : Step jobId (some recorded) (call, reply) next) (executing : recorded.completion = none)
    (ends : Ends jobId recorded.kind recorded.payloadSha256 call completion) :
    next = some ⟨recorded.kind, recorded.payloadSha256, some completion⟩ ∧
      completion.status ≠ .retryableFailure ∧
      Settled [(call, reply)] jobId recorded.kind recorded.payloadSha256 completion := by
  obtain ⟨kind, payloadSha256, _⟩ := recorded
  cases step with
  | idle undelivered elsewhere =>
    obtain ⟨_, about, different⟩ := elsewhere _ rfl executing
    cases ends with
    | interrupted => cases about
    | superseded => exact absurd rfl (undelivered _ _ _ _)
    | finished => exact absurd (Option.some.inj about).symm different
  | begins begins =>
    cases ends
    cases begins with
    | conflicts differs => simp at differs
    | supersedes => exact ⟨rfl, by decide, by simp [Executes], by simp⟩
    | retries | replays => cases executing
  | finishes =>
    cases ends with
    | finished _ _ terminal => exact ⟨rfl, terminal, settled_of_noDelivery nofun⟩
  | interrupts =>
    cases ends
    exact ⟨rfl, by decide, settled_of_noDelivery nofun⟩

example : interrupted.ReadsBack ∧ superseded.ReadsBack := by decide

end AgentLedger

end UntitledOJ
