import UntitledOJ.LeaseFencing

/-!
# Delivery of worker events

A worker sends events again when it does not know whether they arrived.  The store compares the
time of receipt too, and inserts the events of a batch one by one.  So an event is recognised only
at the time of its first receipt, and a batch that conflicts leaves nothing behind only when no new
event precedes the conflict.
-/

namespace UntitledOJ

open List

def NewJobEvent.received (event : NewJobEvent) (jobId : String) (nowMs : Int) : JobEvent :=
  ⟨jobId, event.sequence, event.eventType, event.level, event.message, event.data, nowMs⟩

namespace MemoryJobStore

def eventsOf (store : MemoryJobStore) (jobId : String) : Std.TreeMap Nat JobEvent :=
  store.events[jobId]?.getD ∅

/-- The stores hold the same events of every job. -/
def SameEvents (before after : MemoryJobStore) : Prop :=
  ∀ jobId (sequence : Nat),
    (after.eventsOf jobId)[sequence]? = (before.eventsOf jobId)[sequence]?

/-- The event is stored as received at the given time. -/
def Holds (store : MemoryJobStore) (jobId : String) (receivedAtMs : Int) (event : NewJobEvent) :
    Prop :=
  (store.eventsOf jobId)[event.sequence]? = some (event.received jobId receivedAtMs)

/-- The first event that is not stored as received now is stored in another form. -/
def StopsAtOnce (store : MemoryJobStore) (jobId : String) (nowMs : Int)
    (events : List NewJobEvent) : Prop :=
  ∀ event ∈ events.find? fun event =>
    (store.eventsOf jobId)[event.sequence]? ≠ some (event.received jobId nowMs),
      event.sequence ∈ store.eventsOf jobId

variable {jobId : String} {nowMs : Int} {target : Std.TreeMap Nat JobEvent}
  {events : List NewJobEvent}

theorem insertEvents_cons (event : NewJobEvent) (rest : List NewJobEvent) :
    insertEvents jobId nowMs target (event :: rest) =
      match target[event.sequence]? with
      | some existing =>
        if existing = event.received jobId nowMs then insertEvents jobId nowMs target rest
        else (.error (.eventConflict event.sequence), target)
      | none =>
        insertEvents jobId nowMs (target.insert event.sequence (event.received jobId nowMs)) rest :=
  rfl

theorem mem_insertEvents {sequence : Nat} (stored : sequence ∈ target) :
    sequence ∈ (insertEvents jobId nowMs target events).2 := by
  induction events generalizing target with
  | nil => exact stored
  | cons event rest ih =>
    rw [insertEvents_cons]
    split
    · split_ifs
      · exact ih stored
      · exact stored
    · exact ih (Std.TreeMap.mem_insert.mpr (.inr stored))

theorem insertEvents_ok (stored : ∀ event ∈ events, event.sequence ∈ target) :
    (insertEvents jobId nowMs target events).1 = .ok () ↔
      ∀ event ∈ events, target[event.sequence]? = some (event.received jobId nowMs) := by
  induction events with
  | nil => simp [insertEvents]
  | cons event rest ih =>
    have later := ih fun other member => stored other (mem_cons_of_mem _ member)
    rw [insertEvents_cons, forall_mem_cons,
      Std.TreeMap.getElem?_eq_some_getElem (stored event mem_cons_self)]
    dsimp only
    split_ifs with same
    · simp [same, later]
    · simp [same]

theorem insertEvents_same : (∀ sequence : Nat,
      (insertEvents jobId nowMs target events).2[sequence]? = target[sequence]?) ↔
    ∀ event ∈ events.find? fun event =>
      target[event.sequence]? ≠ some (event.received jobId nowMs), event.sequence ∈ target := by
  induction events with
  | nil => simp [insertEvents]
  | cons event rest ih =>
    rw [insertEvents_cons, find?_cons]
    cases found : target[event.sequence]? with
    | some existing =>
      dsimp only
      split_ifs with same
      · simpa [same] using ih
      · have stored := Std.TreeMap.isSome_getElem?_iff_mem.mp (Option.isSome_of_eq_some found)
        simp [same, stored]
    | none =>
      refine iff_of_false (fun same => ?_) (by simpa using found)
      have absent : event.sequence ∉ (insertEvents jobId nowMs
          (target.insert event.sequence (event.received jobId nowMs)) rest).2 := by
        simpa using (same event.sequence).trans found
      exact absent (mem_insertEvents Std.TreeMap.mem_insert_self)

variable {store : MemoryJobStore} {call : JobCall} {jobId token : String} {nowMs : Int}

theorem appendEvents_sameEvents : store.SameEvents (store.appendEvents jobId nowMs events).2 ↔
    store.StopsAtOnce jobId nowMs events := by
  have inserted (other : String) : (store.appendEvents jobId nowMs events).2.eventsOf other =
      if other = jobId then (insertEvents jobId nowMs (store.eventsOf jobId) events).2
      else store.eventsOf other := by
    simp only [eventsOf, appendEvents, getElem?_insert_of_eq]
    split_ifs <;> rfl
  refine Iff.trans ⟨fun same sequence => ?_, fun same other sequence => ?_⟩ insertEvents_same
  · simpa [inserted] using same jobId sequence
  · rw [inserted]
    split_ifs with isJob
    · rw [isJob]
      exact same sequence
    · rfl

theorem Reported.conflicted {write : Job → Job} {sequence : Nat}
    {result : Except JobError Job × MemoryJobStore}
    (reported : store.Reported jobId token call.nowMs call.events write result)
    (conflicts : result.1 = .error (.eventConflict sequence)) : result.2.jobs = store.jobs ∧
      (store.SameEvents result.2 ↔ store.StopsAtOnce jobId call.nowMs call.events) := by
  cases reported with
  | unchanged _ other => exact absurd conflicts (other sequence)
  | recovered found expired recovers =>
    rw [recovers] at conflicts
    cases conflicts
  | @conflict job error appended found active append stops =>
    obtain rfl : (store.appendEvents jobId call.nowMs call.events).2 = appended := by rw [append]
    rw [stops]
    exact ⟨rfl, appendEvents_sameEvents⟩
  | accepted found active append writes =>
    rw [writes] at conflicts
    cases conflicts

theorem LeasedTo.active (leased : store.LeasedTo jobId token nowMs) :
    ∃ job, store.get jobId = some job ∧ job.status.isTerminal = false ∧
      leaseExpired job nowMs = false ∧ leaseActive job token nowMs = true := by
  obtain ⟨job, deadline, found, held, owned, due, early⟩ := leased
  have held := JobStatus.isHeld_iff.mpr held
  refine ⟨job, found, JobStatus.isTerminal_of_isHeld held, ?_, ?_⟩
  · simp [leaseExpired, due, early]
  · simp [leaseActive, held, owned, due, early]

/-- A report under the running lease that sends stored events again is accepted exactly when they
are sent at the time of their receipt.  A report that is rejected for a conflict changes no job, and
no event exactly when no new event precedes the conflict. -/
theorem events_delivered [Digests] (store : MemoryJobStore) (call : JobCall) (jobId token : String)
    (report : call.report = some (jobId, token)) : (store.LeasedTo jobId token call.nowMs →
        (∀ request, call = .heartbeat request → 0 < request.leaseMs) →
        (∀ event ∈ call.events, ∃ receivedAtMs, store.Holds jobId receivedAtMs event) →
        ((∃ job, (store.exec call).1 = .job (.ok job)) ∧ store.SameEvents (store.exec call).2 ↔
          ∀ event ∈ call.events, store.Holds jobId call.nowMs event)) ∧
      ∀ sequence, (store.exec call).1 = .job (.error (.eventConflict sequence)) →
        (store.exec call).2.jobs = store.jobs ∧
          (store.SameEvents (store.exec call).2 ↔
            store.StopsAtOnce jobId call.nowMs call.events) := by
  constructor
  · intro leased positive resent
    obtain ⟨job, found, live, running, active⟩ := leased.active
    have stored (event) (member : event ∈ call.events) : event.sequence ∈ store.eventsOf jobId := by
      obtain ⟨_, holds⟩ := resent event member
      exact Std.TreeMap.isSome_getElem?_iff_mem.mp (Option.isSome_of_eq_some holds)
    have kept : store.SameEvents (store.appendEvents jobId call.nowMs call.events).2 :=
      appendEvents_sameEvents.mpr fun event first => stored event (mem_of_find?_eq_some first)
    have accepted : (store.appendEvents jobId call.nowMs call.events).1 = .ok () ↔
      ∀ event ∈ call.events, store.Holds jobId call.nowMs event := insertEvents_ok stored
    rw [← accepted]
    cases call with
    | heartbeat request =>
      cases report
      have valid : ¬ request.leaseMs ≤ 0 := not_le.mpr (positive request rfl)
      simp only [JobCall.nowMs, JobCall.events] at running active kept ⊢
      simp only [exec, heartbeat, if_neg valid, found, running, active, if_true]
      rcases append : store.appendEvents _ _ _ with ⟨_ | _, appended⟩
      · simp
      · rw [append] at kept
        exact iff_of_true ⟨⟨_, rfl⟩, kept⟩ rfl
    | complete request =>
      cases report
      simp only [JobCall.nowMs, JobCall.events] at running active kept ⊢
      simp only [exec, complete, found, live, running, active, if_true]
      rcases append : store.appendEvents _ _ _ with ⟨_ | _, appended⟩
      · simp
      · rw [append] at kept
        exact iff_of_true ⟨⟨_, rfl⟩, kept⟩ rfl
    | _ => cases report
  · intro sequence conflicts
    cases call with
    | heartbeat request =>
      cases report
      exact (heartbeat_reported store request).conflicted (JobReply.job.inj conflicts)
    | complete request =>
      cases report
      exact (complete_reported store request).conflicted (JobReply.job.inj conflicts)
    | _ => cases report

open Scenario

def progress (sequence : Nat) : NewJobEvent :=
  ⟨sequence, "progress", "info", "working", .null⟩

def beat (nowMs : Int) (events : List NewJobEvent) : JobCall :=
  .heartbeat ⟨"job", "first", nowMs, 1000, events⟩

abbrev delivered : MemoryJobStore :=
  reached [enqueued .health, claimedBy "first" 0, beat 10 [progress 1]]

/-- Within the millisecond of its receipt the event can be sent again. -/
theorem resent_at_once : ∃ job, (delivered.exec (beat 10 [progress 1])).1 = .job (.ok job) := by
  have held : (delivered.get "job").any fun job => job.status = .leased ∧
      job.leaseToken = some "first" ∧ job.leaseExpiresAtMs = some 1010 := by
    decide +kernel
  have stored : (delivered.eventsOf "job")[1]? = some ((progress 1).received "job" 10) := by
    decide +kernel
  refine (((events_delivered delivered (beat 10 [progress 1]) "job" "first" rfl).1 ?_ ?_ ?_).mpr
    ?_).1
  · obtain ⟨job, found, holds⟩ := (Option.any_eq_true _ _).mp held
    simp only [decide_eq_true_eq] at holds
    exact ⟨job, 1010, found, .inl holds.1, holds.2.1, holds.2.2, by decide⟩
  · intro request same
    cases same
    decide
  · intro event member
    obtain rfl := mem_singleton.mp member
    exact ⟨10, stored⟩
  · intro event member
    obtain rfl := mem_singleton.mp member
    exact stored

/-- Ten milliseconds later the same worker, under its running lease, is refused
when it sends the event again; and a batch that it precedes with a new event is
refused with the new event stored. -/
theorem resent_later_conflicts :
    (delivered.get "job").any (fun job => leaseActive job "first" 20) = true ∧
      (delivered.eventsOf "job")[1]? = some ((progress 1).received "job" 10) ∧
      (delivered.exec (beat 20 [progress 1])).1 = .job (.error (.eventConflict 1)) ∧
      (delivered.exec (beat 20 [progress 2, progress 1])).1 = .job (.error (.eventConflict 1)) ∧
      (delivered.eventsOf "job")[2]? = none ∧
      ((delivered.exec (beat 20 [progress 2, progress 1])).2.eventsOf "job")[2]? =
        some ((progress 2).received "job" 20) := by
  decide +kernel

end MemoryJobStore

end UntitledOJ
