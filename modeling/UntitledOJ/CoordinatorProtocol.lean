import UntitledOJ.JobStoreCalls
import UntitledOJ.StoreInvariant

/-!
# The write protocol of the coordinator

Every coordinator call, wherever it is interrupted, writes to the stores only as `Guarantee` says:
it enqueues jobs for pending steps of a record it has loaded, and replaces a record only by one of
the listed updates of the revision it holds.  So every interleaving keeps the stores sound.

Whether a call runs alone is a parameter: then the record it holds is the stored one, and what it
has read is still so.
-/

namespace UntitledOJ

open MemoryOperationStore StoreCall DurableOperation List DurableOperationStatus
open MemoryJobStore (enqueue_cases exec_moves get_addJob)
open Program (Logic OnOk ensures_bind_ok ensures_bind_true preserves_fail preserves_done
  preserves_forEach)

def DurableOperationStatus.materializes : DurableOperationStatus → Bool
  | .enqueuing | .running | .cancelling => true
  | _ => false

def DurableOperationStatus.materialized : DurableOperationStatus → DurableOperationStatus
  | .enqueuing => .running
  | status => status

theorem settleMaterialized_status (operation : DurableOperation) (ready : List String)
    (nowMs : Int) :
    (settleMaterialized operation ready nowMs).status = operation.status.materialized := by
  unfold settleMaterialized
  cases operation.status <;> simp [materialized]

/-- What may happen between two calls of a program. -/
structure Relies (alone : Prop) (before after : Stores) : Prop where
  evolves : before.Evolves after
  unchanged : alone → after = before

variable {alone : Prop}

theorem Relies.refl (alone : Prop) (stores : Stores) : Relies alone stores stores :=
  ⟨.refl stores, fun _ => rfl⟩

theorem Relies.trans {first second third : Stores} (earlier : Relies alone first second)
    (later : Relies alone second third) : Relies alone first third :=
  ⟨earlier.evolves.trans later.evolves,
    fun isAlone => (later.unchanged isAlone).trans (earlier.unchanged isAlone)⟩

variable [Digests]

/-- A pass of materialization that reads these stores enqueues the step. -/
structure Chosen (start : Stores) (operation : DurableOperation) (planned : PlannedJob) :
    Prop where
  member : planned ∈ operation.plannedJobs
  pending : planned.stepId ∈ operation.pendingStepIds
  considered : operation.status = .cancelling →
    planned.stepId ∈ compensationStepIds operation
  ready : start.reads (plannedJobReady operation planned) = .ok true

/-- Since it started, the pass has only added jobs of steps that it chose. -/
structure PassFrom (start now : Stores) (operation : DurableOperation) : Prop where
  keeps : ∀ {jobId job}, start.jobs.get jobId = some job → now.jobs.get jobId = some job
  added : ∀ {jobId job}, now.jobs.get jobId = some job → start.jobs.get jobId = none →
    ∃ step, Chosen start operation step ∧
      job.IsFor operation.operationId operation.generation step.stepId

theorem PassFrom.refl (start : Stores) (operation : DurableOperation) :
    PassFrom start start operation :=
  ⟨id, fun found missing => by simp [missing] at found⟩

/-- A call that runs alone and enqueues a step holds the stored record, and the step was ready when
the pass started. -/
structure Passing (now : Stores) (operation : DurableOperation) (planned : PlannedJob) :
    Prop where
  stored : now.operations.get operation.operationId = some operation
  materializes : operation.status.materializes = true
  pass : ∃ start, PassFrom start now operation ∧ Chosen start operation planned

/-- What a coordinator asserts of a call at the moment it is executed. -/
def Guarantee (alone : Prop) (loaded : Stores) (request : StoreCall) (now : Stores) : Prop :=
  match request with
  | .createOperation operation => operation.WellFormed ∧ operation.status = .planned
  | .compareAndSwap expectedRevision next =>
    ∃ snapshot, now.Remembers snapshot ∧ snapshot.revision = expectedRevision ∧
      Update loaded now snapshot next
  | .enqueueJob new _ =>
    ∃ snapshot planned, now.Remembers snapshot ∧ snapshot.status.hasStarted = true ∧
      planned ∈ snapshot.plannedJobs ∧ planned.stepId ∈ snapshot.pendingStepIds ∧
      new = newJobFor snapshot planned ∧ (alone → Passing now snapshot planned)
  | _ => True

variable {loaded now : Stores} {request : StoreCall}

theorem Guarantee.effect (sound : now.Sound) (guaranteed : Guarantee alone loaded request now) :
    Effect loaded now (request.exec now).2 := by
  cases request with
  | createOperation operation =>
    rcases create_cases now.operations operation with
      ⟨error, outcome⟩ | ⟨outcome, fresh⟩
    · simp only [exec, outcome]
      exact .idle
    · simp only [exec, outcome]
      exact .planned guaranteed.1 guaranteed.2 fresh
  | getOperation operationId | recoverable | getJob jobId => exact .idle
  | compareAndSwap expectedRevision next =>
    obtain ⟨snapshot, remembered, revision, update⟩ := guaranteed
    rcases compareAndSwap_cases now.operations
        expectedRevision next with ⟨error, outcome⟩ | ⟨current, found, outcome, accepts⟩
    · simp only [exec, outcome]
      exact .idle
    · simp only [exec, outcome]
      have same : current = snapshot := by
        apply remembered.eq_of_revision
        · rw [← update.operationId, found]
        · rw [accepts.expected, revision]
      subst same
      exact .replaced found (revision ▸ accepts) update
  | enqueueJob new nowMs =>
    obtain ⟨snapshot, planned, remembered, started, member, pending, rfl, _⟩ := guaranteed
    rcases enqueue_cases now.jobs (newJobFor snapshot planned) nowMs
      with ⟨error, outcome, _⟩ | ⟨existing, outcome, _⟩ |
        ⟨job, outcome, unlisted, fresh, identity, _, queued⟩
    · simp only [exec, outcome]
      exact .idle
    · simp only [exec, outcome]
      exact .idle
    · simp only [exec, outcome]
      have node : job.nodeId = (newJobFor snapshot planned).nodeId :=
        congrArg JobIdentity.nodeId identity
      have key : job.idempotencyKey = (newJobFor snapshot planned).idempotencyKey :=
        congrArg JobIdentity.idempotencyKey identity
      have jobId : job.jobId = (newJobFor snapshot planned).jobId :=
        congrArg JobIdentity.jobId identity
      exact .enqueued remembered started member pending (by rw [node, key, unlisted])
        (by rw [jobId, fresh]) identity queued.status
  | requestCancel jobId nowMs =>
    exact .updated (exec_moves sound.indexed (.requestCancel jobId nowMs) (by simp)).updates
  | recoverExpired nowMs =>
    exact .updated (exec_moves sound.indexed (.recoverExpired nowMs) (by simp)).updates

variable {jobId : String}

theorem Guarantee.created (sound : now.Sound) (guaranteed : Guarantee alone loaded request now)
    {job : Job} (fresh : now.jobs.get jobId = none)
    (found : (request.exec now).2.jobs.get jobId = some job) :
    ∃ operation planned, planned ∈ operation.plannedJobs ∧
      planned.stepId ∈ operation.pendingStepIds ∧
      job.identity = stepIdentity operation.operationId operation.generation planned ∧
      (alone → Passing now operation planned) := by
  have notUpdated {jobs : MemoryJobStore} (updates : now.jobs.Updates jobs)
      (present : jobs.get jobId = some job) : False := by
    obtain ⟨_, earlierFound, _⟩ := updates.origin present
    simp [fresh] at earlierFound
  cases request with
  | enqueueJob new nowMs =>
    obtain ⟨snapshot, planned, _, _, member, pending, rfl, passing⟩ := guaranteed
    refine ⟨snapshot, planned, member, pending, ?_, passing⟩
    rcases enqueue_cases now.jobs (newJobFor snapshot planned) nowMs
      with ⟨error, outcome, _⟩ | ⟨existing, outcome, _⟩ | ⟨added, outcome, _, _, identity, _⟩
    · simp only [exec, outcome, fresh, reduceCtorEq] at found
    · simp only [exec, outcome, fresh, reduceCtorEq] at found
    · simp only [exec, outcome, get_addJob] at found
      split_ifs at found
      · cases found
        exact identity
      · simp [fresh] at found
  | requestCancel id nowMs =>
    exact (notUpdated (exec_moves sound.indexed (.requestCancel id nowMs) (by simp)).updates
      found).elim
  | recoverExpired nowMs =>
    exact (notUpdated (exec_moves sound.indexed (.recoverExpired nowMs) (by simp)).updates
      found).elim
  | _ => exact (notUpdated (.refl _) found).elim

variable {now : Stores}

theorem react_updates (sound : now.Sound) (happening : WorkerCall) :
    ∃ jobs, now.react happening = { now with jobs } ∧ now.jobs.Updates jobs := by
  cases happening with
  | claim request =>
    exact ⟨_, rfl, (exec_moves sound.indexed (.claim request) (by simp)).updates⟩
  | heartbeat request =>
    exact ⟨_, rfl, (exec_moves sound.indexed (.heartbeat request) (by simp)).updates⟩
  | complete request =>
    exact ⟨_, rfl, (exec_moves sound.indexed (.complete request) (by simp)).updates⟩
  | resolveExpiredSuccess request =>
    exact ⟨_, rfl, (exec_moves sound.indexed (.resolveExpiredSuccess request) (by simp)).updates⟩

def protocol (alone : Prop) : Logic Stores StoreCall.Reply where
  exec := StoreCall.exec
  loads := StoreCall.loads
  rely := Relies alone
  known := Stores.Sound
  guarantee := Guarantee alone

variable {nowMs : Int} {job : Job} {α : Type} {operation : DurableOperation}

variable {loaded stores : Stores} {program : Coordinated α}

theorem ensures_reads (readOnly : program.ReadOnly StoreCall.ReadsJob) :
    program.Ensures (protocol alone) (OnOk fun result marked now => marked = loaded ∧
      Relies alone stores now ∧ program.Yields ((protocol alone).Seen stores now) (.ok result))
      loaded stores := by
  refine Program.ensures_of_reads (Relies.refl alone) Relies.trans ?_ ?_ ?_ readOnly ?_
  · intro marked request now reads
    cases request <;> trivial
  · intro request reads
    cases request <;> first | rfl | cases reads
  · intro request now reads
    exact reads.exec_state now
  · rintro (_ | result) now relied yielded
    · trivial
    · exact ⟨rfl, relied, yielded⟩

theorem reads_of_seen (readOnly : program.ReadOnly StoreCall.ReadsJob) {outcome : Except Abort α}
    (yielded : program.Yields ((protocol alone).Seen stores now) outcome) (isAlone : alone) :
    stores.reads program = outcome := by
  refine (Stores.yields_iff_reads readOnly).mp (yielded.mono ?_)
  rintro request reply ⟨moment, earlier, _, _, shown⟩
  rw [earlier.unchanged isAlone] at shown
  exact shown

theorem seen_job (seen : (protocol alone).Seen stores now (.getJob jobId) (some job)) :
    ∃ later, now.jobs.get jobId = some later ∧ job.Evolves later := by
  obtain ⟨_, _, _, till, shown⟩ := seen
  exact till.evolves.jobs.keeps shown.symm

theorem seen_activeStatus {stepId : String} {status : JobStatus}
    (shown : ShowsActive ((protocol alone).Seen stores now) operation stepId status)
    (terminal : status.isTerminal = true) : now.ActiveStatus operation stepId status := by
  obtain ⟨binding, _, active, seen, rfl⟩ := shown
  obtain ⟨later, found, evolved⟩ := seen_job seen
  exact ⟨binding, later, active, found, evolved.settled terminal⟩

theorem seen_terminal {before : Stores} (since : before.Evolves stores) {old : Job}
    (found : before.jobs.get jobId = some old) (terminal : old.status.isTerminal = true)
    (seen : (protocol alone).Seen stores now (.getJob jobId) (some job)) :
    old.status = job.status := by
  obtain ⟨_, earlier, _, _, shown⟩ := seen
  obtain ⟨later, laterFound, evolved⟩ := (since.trans earlier.evolves).jobs.keeps found
  have same : later = job := Option.some.inj (laterFound.symm.trans shown.symm)
  rw [← same, evolved.settled terminal]

theorem seen_bound {snapshot : DurableOperation} (remembered : stores.Remembers snapshot)
    {binding : JobBinding} (present : binding ∈ snapshot.jobBindings) :
    ¬ (protocol alone).Seen stores now (.getJob binding.jobId) none := by
  rintro ⟨moment, earlier, sound, _, shown⟩
  obtain ⟨_, _, found, evolved⟩ := remembered.evolve earlier.evolves
  obtain ⟨_, jobFound, _⟩ := sound.bound found binding (evolved.bindings binding present)
  have missing : moment.jobs.get binding.jobId = none := shown.symm
  simp [jobFound] at missing

/-- The record that a call works on was stored and, alone, still is. -/
structure Held (alone : Prop) (stores : Stores) (operation : DurableOperation) : Prop where
  remembered : stores.Remembers operation
  stored : alone → stores.operations.get operation.operationId = some operation

theorem Held.evolve (held : Held alone stores operation) (evolves : stores.Evolves now)
    (unchanged : alone → now.operations = stores.operations) : Held alone now operation :=
  ⟨held.remembered.evolve evolves, fun isAlone => by rw [unchanged isAlone, held.stored isAlone]⟩

theorem Held.relies (held : Held alone stores operation) (relied : Relies alone stores now) :
    Held alone now operation :=
  held.evolve relied.evolves fun isAlone => by rw [relied.unchanged isAlone]

structure Holding (alone : Prop) (loaded stores : Stores) (operation : DurableOperation) :
    Prop where
  sound : loaded.Sound
  found : loaded.operations.get operation.operationId = some operation
  since : loaded.Evolves stores
  unchanged : alone → stores.operations = loaded.operations

theorem Holding.held (holding : Holding alone loaded stores operation) :
    Held alone stores operation := by
  have there : loaded.Remembers operation :=
    ⟨(holding.sound.record holding.found).2, operation, holding.found, .refl operation⟩
  refine ⟨there.evolve holding.since, ?_⟩
  intro isAlone
  rw [holding.unchanged isAlone, holding.found]

theorem Holding.relies (holding : Holding alone loaded stores operation)
    (relied : Relies alone stores now) : Holding alone loaded now operation :=
  ⟨holding.sound, holding.found, holding.since.trans relied.evolves,
    fun isAlone => by rw [relied.unchanged isAlone, holding.unchanged isAlone]⟩

theorem ensures_required (operationId : String) : (required operationId).Ensures (protocol alone)
      (OnOk fun operation marked now =>
        operation.operationId = operationId ∧ Holding alone marked now operation)
      loaded stores := by
  intro now _ sound
  refine ⟨trivial, ?_⟩
  cases found : now.operations.get operationId with
  | none =>
    simp only [protocol, exec, found]
    trivial
  | some operation =>
    simp only [protocol, exec, found]
    have named := (sound.record found).1
    exact ⟨named, sound, by rw [named]; exact found, .refl now, fun _ => rfl⟩

theorem ensures_save (allowed : ∀ now, Relies alone stores now → now.Sound →
      ∃ snapshot, now.Remembers snapshot ∧ snapshot.revision = operation.revision ∧
        Update loaded now snapshot (operation.revised nowMs)) :
    (save operation nowMs).Ensures (protocol alone) (OnOk fun saved marked after =>
        marked = loaded ∧ saved = operation.revised nowMs ∧ Held alone after saved ∧
          stores.Evolves after) loaded stores := by
  intro now relied sound
  obtain ⟨snapshot, remembered, revision, update⟩ := allowed now relied sound
  have guaranteed : Guarantee alone loaded
      (.compareAndSwap operation.revision (operation.revised nowMs)) now :=
    ⟨snapshot, remembered, revision, update⟩
  refine ⟨guaranteed, ?_⟩
  rcases compareAndSwap_cases now.operations operation.revision
      (operation.revised nowMs) with ⟨error, outcome⟩ | ⟨current, found, outcome, accepts⟩
  · simp only [protocol, exec, outcome]
    trivial
  · have evolves := (guaranteed.effect sound).evolves
    simp only [exec, outcome] at evolves
    simp only [protocol, exec, outcome]
    have stored : (now.operations.insert (operation.revised nowMs)).get
        (operation.revised nowMs).operationId = some (operation.revised nowMs) := by
      rw [get_insert, if_pos rfl]
    exact ⟨rfl, rfl, ⟨⟨update.wellFormed remembered.wellFormed, _, stored, .refl _⟩,
      fun _ => stored⟩, relied.evolves.trans evolves⟩

variable {start : Stores}

def DurableOperation.bindAll (operation : DurableOperation) (ready : List PlannedJob) :
    DurableOperation :=
  { operation with jobBindings := operation.jobBindings ++ ready.map (bindingFor operation) }

def Enqueued (stores : Stores) (operation : DurableOperation) (ready : List PlannedJob) : Prop :=
  ∀ step ∈ ready, step ∈ operation.plannedJobs ∧ step.stepId ∈ operation.pendingStepIds ∧
    ∃ job, stores.jobs.get (bindingFor operation step).jobId = some job ∧
      job.IsFor operation.operationId operation.generation step.stepId

variable {ready : List PlannedJob}

theorem Enqueued.evolve (enqueued : Enqueued stores operation ready)
    (evolves : stores.Evolves now) : Enqueued now operation ready := by
  intro step member
  obtain ⟨planned, pending, _, found, belongs⟩ := enqueued step member
  obtain ⟨later, laterFound, evolved⟩ := evolves.jobs.keeps found
  exact ⟨planned, pending, later, laterFound, belongs.evolve evolved⟩

variable {step : PlannedJob}

theorem bindStep_bindAll (wellFormed : operation.WellFormed)
    (pending : step.stepId ∈ operation.pendingStepIds)
    (fresh : step.stepId ∉ ready.map PlannedJob.stepId) :
    (operation.bindAll ready).bindStep (bindingFor operation step) =
      operation.bindAll (ready ++ [step]) := by
  have unbound : ¬ ((operation.bindAll ready).jobBindings.any fun existing =>
      existing.stepId = (bindingFor operation step).stepId &&
        existing.generation = (bindingFor operation step).generation) = true := by
    simp only [bindAll, any_eq_true, Bool.and_eq_true, not_exists, not_and]
    intro existing present sameStep sameGeneration
    have step := of_decide_eq_true sameStep
    have generation := of_decide_eq_true sameGeneration
    rw [bindingFor_generation] at generation
    rcases mem_append.mp present with old | new
    · have older := wellFormed.pendingOlder _ pending existing old step
      omega
    · obtain ⟨other, member, rfl⟩ := mem_map.mp new
      exact fresh (mem_map.mpr ⟨other, member, step⟩)
  rw [bindStep, if_neg unbound]
  simp [bindAll]

/-- An accepted enqueue leaves the job of the step in the store, and adds no
other. -/
theorem enqueue_newJobFor (sound : now.Sound) (remembered : now.Remembers operation)
    (member : step ∈ operation.plannedJobs) (nowMs : Int) :
    (∃ error, now.jobs.enqueue (newJobFor operation step) nowMs = (.error error, now.jobs)) ∨
      ∃ job jobs, now.jobs.enqueue (newJobFor operation step) nowMs = (.ok job, jobs) ∧
        jobs.get (bindingFor operation step).jobId = some job ∧
        job.IsFor operation.operationId operation.generation step.stepId ∧
        (jobs = now.jobs ∨ now.jobs.get job.jobId = none ∧ jobs = now.jobs.addJob job) := by
  rcases enqueue_cases now.jobs (newJobFor operation step) nowMs
    with ⟨error, rejected, _⟩ | ⟨existing, outcome, found, owner⟩ |
      ⟨job, outcome, _, fresh, identity, _⟩
  · exact .inl ⟨error, rejected⟩
  · obtain ⟨stored, _, key⟩ := sound.indexed.of_lookup found
    have belongs : existing.IsFor operation.operationId operation.generation step.stepId :=
      ⟨owner, key⟩
    have jobId : existing.jobId = (bindingFor operation step).jobId :=
      congrArg JobIdentity.jobId (sound.identity_of_isFor remembered member stored belongs)
    exact .inr ⟨existing, now.jobs, outcome, jobId ▸ stored, belongs, .inl rfl⟩
  · have jobId : job.jobId = (bindingFor operation step).jobId :=
      congrArg JobIdentity.jobId identity
    refine .inr ⟨job, now.jobs.addJob job, outcome, ?_, .of_identity identity,
      .inr ⟨jobId ▸ fresh, rfl⟩⟩
    rw [← jobId, get_addJob, if_pos rfl]

theorem PassFrom.addJob (pass : PassFrom start now operation)
    (chosen : Chosen start operation step)
    (belongs : job.IsFor operation.operationId operation.generation step.stepId)
    (fresh : now.jobs.get job.jobId = none) :
    PassFrom start { now with jobs := now.jobs.addJob job } operation := by
  constructor
  · intro jobId other found
    have kept := pass.keeps found
    have different : jobId ≠ job.jobId := by
      rintro rfl
      simp [fresh] at kept
    simp only [get_addJob, if_neg different, kept]
  · intro jobId other found missing
    simp only [get_addJob] at found
    split_ifs at found with same
    · cases found
      exact ⟨step, chosen, belongs⟩
    · exact pass.added found missing

theorem ensures_enqueueJob (held : Held alone stores operation)
    (materializes : operation.status.materializes = true) (member : step ∈ operation.plannedJobs)
    (pending : step.stepId ∈ operation.pendingStepIds)
    (pass : alone → PassFrom start stores operation)
    (chosen : alone → Chosen start operation step) :
    (enqueueJob (newJobFor operation step) nowMs).Ensures (protocol alone)
      (OnOk fun _ marked after =>
        marked = loaded ∧ stores.Evolves after ∧ Held alone after operation ∧
          (alone → PassFrom start after operation) ∧ Enqueued after operation [step])
      loaded stores := by
  intro now relied sound
  have there := held.relies relied
  have passing (isAlone : alone) : PassFrom start now operation := by
    rw [relied.unchanged isAlone]
    exact pass isAlone
  have started : operation.status.hasStarted = true := by
    cases status : operation.status <;>
      simp_all [DurableOperationStatus.materializes, hasStarted]
  have guaranteed : Guarantee alone loaded (.enqueueJob (newJobFor operation step) nowMs) now :=
    ⟨operation, step, there.remembered, started, member, pending, rfl, fun isAlone =>
      ⟨there.stored isAlone, materializes, start, passing isAlone, chosen isAlone⟩⟩
  refine ⟨guaranteed, ?_⟩
  have evolves := (guaranteed.effect sound).evolves
  have cases := enqueue_newJobFor sound there.remembered member nowMs
  simp only [protocol, exec] at evolves ⊢
  generalize now.jobs.enqueue (newJobFor operation step) nowMs = result at cases evolves ⊢
  obtain ⟨_, rfl⟩ | ⟨job, _, rfl, found, belongs, added⟩ := cases
  · trivial
  · refine ⟨rfl, relied.evolves.trans evolves, there.evolve evolves fun _ => rfl, ?_, ?_⟩
    · intro isAlone
      rcases added with rfl | ⟨fresh, rfl⟩
      · exact passing isAlone
      · exact (passing isAlone).addJob (chosen isAlone) belongs fresh
    · intro only listed
      rw [mem_singleton.mp listed]
      exact ⟨member, pending, job, found, belongs⟩

theorem ensures_enqueueReady (materializes : operation.status.materializes = true)
    {steps : List String} {done : List PlannedJob} (held : Held alone stores operation)
    (distinct : (done.map PlannedJob.stepId ++ steps).Nodup)
    (pending : ∀ stepId ∈ steps, stepId ∈ operation.pendingStepIds)
    (enqueued : Enqueued stores operation done) (pass : alone → PassFrom start stores operation)
    (chosen : alone → ∀ step ∈ operation.plannedJobs, step.stepId ∈ steps →
      Chosen start operation step) :
    (enqueueReady nowMs (operation.bindAll done) steps).Ensures (protocol alone)
      (OnOk fun bound marked after =>
        marked = loaded ∧ stores.Evolves after ∧ Held alone after operation ∧
          ∃ ready, bound = operation.bindAll ready ∧
            ready.map PlannedJob.stepId = done.map PlannedJob.stepId ++ steps ∧
            Enqueued after operation ready) loaded stores := by
  induction steps generalizing done stores with
  | nil => exact ⟨rfl, .refl stores, held, done, rfl, by simp, enqueued⟩
  | cons stepId rest ih =>
    simp only [enqueueReady]
    cases found : (operation.bindAll done).findPlanned stepId with
    | none => trivial
    | some step =>
      obtain ⟨member, named⟩ := findPlanned_some found
      have waiting : step.stepId ∈ operation.pendingStepIds := named ▸ pending stepId mem_cons_self
      have fresh : step.stepId ∉ done.map PlannedJob.stepId := by
        rw [named]
        intro listed
        exact (nodup_append.mp distinct).2.2 _ listed _ mem_cons_self rfl
      have sameBinding : bindingFor (operation.bindAll done) step = bindingFor operation step := rfl
      have sameJob : newJobFor (operation.bindAll done) step = newJobFor operation step := rfl
      simp only [sameBinding, sameJob]
      have first (isAlone : alone) : Chosen start operation step :=
        chosen isAlone step member (named ▸ mem_cons_self)
      refine ensures_bind_ok (ensures_enqueueJob held materializes member waiting pass first) ?_
      rintro _ marked after ⟨rfl, evolves, stillHeld, onward, added⟩
      rw [bindStep_bindAll held.remembered.wellFormed waiting fresh]
      have grown : (done ++ [step]).map PlannedJob.stepId ++ rest =
          done.map PlannedJob.stepId ++ stepId :: rest := by
        simp [named]
      have all : Enqueued after operation (done ++ [step]) := by
        intro other listed
        rcases mem_append.mp listed with old | new
        · exact enqueued.evolve evolves other old
        · exact added other new
      refine (ih stillHeld (grown ▸ distinct)
        (fun other listed => pending other (mem_cons_of_mem _ listed)) all onward
        (fun isAlone other planned listed =>
          chosen isAlone other planned (mem_cons_of_mem _ listed))).imp ?_
      rintro bound last final ⟨sameMark, later, lastHeld, ready, shape, listed, jobs⟩
      exact ⟨sameMark, evolves.trans later, lastHeld, ready, shape, listed.trans grown, jobs⟩

theorem settleMaterialized_binds (nowMs : Int) (materializes : operation.status.materializes = true)
    (planned : ∀ step ∈ ready,
      step ∈ operation.plannedJobs ∧ step.stepId ∈ operation.pendingStepIds) :
    operation.Binds ((settleMaterialized (operation.bindAll ready)
      (ready.map PlannedJob.stepId) nowMs).revised nowMs) ready := by
  have status := settleMaterialized_status (operation.bindAll ready)
    (ready.map PlannedJob.stepId) nowMs
  refine ⟨?_, ?_, ?_, planned, ?_, ?_, ?_⟩
  case refine_6 =>
    change (settleMaterialized (operation.bindAll ready)
      (ready.map PlannedJob.stepId) nowMs).status.hasStarted = true
    rw [status]
    change operation.status.materialized.hasStarted = true
    cases active : operation.status <;>
      simp_all [DurableOperationStatus.materializes, materialized, hasStarted]
  all_goals
    unfold settleMaterialized
    split_ifs <;> rfl

theorem settleMaterialized_nil (running : operation.status ≠ .enqueuing) (nowMs : Int) :
    settleMaterialized (operation.bindAll []) [] nowMs = operation := by
  simp [settleMaterialized, bindAll, running]

/-- A step that was read to be ready is enabled once the terminal statuses
that were read are there. -/
theorem enabled_of_ready {answers : (request : StoreCall) → request.Reply → Prop}
    (graph : PlanGraph operation.plannedJobs)
    (settles : ∀ {stepId status}, ShowsActive answers operation stepId status →
      status.isTerminal = true → now.ActiveStatus operation stepId status)
    (member : step ∈ operation.plannedJobs)
    (decided : (plannedJobReady operation step).Yields answers (.ok true)) :
    operation.status = .cancelling ∧ step.condition = .onFailure ∨ now.Enabled operation step := by
  by_cases frozen : operation.status = .cancelling ∧ step.condition = .onFailure
  · exact .inl frozen
  · have running (onFailure : step.condition = .onFailure) : operation.status ≠ .cancelling :=
      fun cancelling => frozen ⟨cancelling, onFailure⟩
    have verdict (onFailure : step.condition = .onFailure) :=
      yields_ready_onFailure_true (running onFailure) onFailure
        (graph.guarded step member onFailure) decided
    refine .inr ⟨?_, ?_, ?_⟩
    · intro onSuccess dependency needed
      exact settles (yields_ready_onSuccess onSuccess decided dependency needed) rfl
    · intro onFailure dependency needed bound
      obtain ⟨status, shown, terminal, known⟩ := (verdict onFailure).1 dependency needed bound
      exact ⟨status, settles shown terminal, terminal, known⟩
    · intro onFailure
      obtain ⟨dependency, needed, status, shown, failure⟩ := (verdict onFailure).2
      exact ⟨dependency, needed, status,
        settles shown (JobStatus.isTerminal_of_isFailure failure), failure⟩

variable {ready : List String}

theorem ready_of_readySteps (wellFormed : operation.WellFormed)
    (yielded : (readySteps operation operation.pendingStepIds).Yields
      ((protocol alone).Seen stores now) (.ok ready)) (member : step ∈ operation.plannedJobs)
    (listed : step.stepId ∈ ready) : step.stepId ∈ operation.pendingStepIds ∧
      (operation.status = .cancelling → step.stepId ∈ compensationStepIds operation) ∧
      (plannedJobReady operation step).Yields ((protocol alone).Seen stores now) (.ok true) := by
  obtain ⟨sublist, each⟩ := yields_readySteps wellFormed.pendingDistinct yielded
  have pending := sublist.subset listed
  rcases each _ pending with ⟨_, _, skipped⟩ | ⟨considered, _, _, found, decided, isReady⟩
  · exact absurd listed skipped
  · rw [findPlanned_stepId wellFormed.graph member] at found
    cases found
    rw [isReady.mp listed] at decided
    exact ⟨pending, considered, decided⟩

theorem notReadySince_of_pass (holding : Holding alone loaded stores operation)
    (running : operation.status = .running)
    (yielded : (readySteps operation operation.pendingStepIds).Yields
      ((protocol alone).Seen stores now) (.ok ready)) {next : DurableOperation}
    (operationId : next.operationId = operation.operationId)
    (plannedJobs : next.plannedJobs = operation.plannedJobs)
    (bindings : ∀ binding ∈ operation.jobBindings, binding ∈ next.jobBindings)
    (pending : ∀ stepId ∈ next.pendingStepIds, stepId ∈ operation.pendingStepIds ∧ stepId ∉ ready) :
    NotReadySince loaded next := by
  have wellFormed := holding.held.remembered.wellFormed
  refine ⟨operation, by rw [operationId]; exact holding.found, running, bindings, ?_⟩
  intro planned member onFailure waiting
  rw [plannedJobs] at member
  obtain ⟨before, notReady⟩ := pending _ waiting
  rcases (yields_readySteps wellFormed.pendingDistinct yielded).2 _ before with
    ⟨cancelling, _⟩ | ⟨_, _, verdict, found, decided, chosen⟩
  · rw [running] at cancelling
    cases cancelling
  · rw [findPlanned_stepId wellFormed.graph member] at found
    cases found
    obtain ⟨statuses, shape, read⟩ := yields_ready_onFailure (by simp [running]) onFailure
      (wellFormed.graph.guarded planned member onFailure) decided
    refine ⟨statuses, ?_, read.imp ?_⟩
    · rw [← shape]
      cases verdict with
      | false => rfl
      | true => exact absurd (chosen.mpr rfl) notReady
    · rintro binding status ⟨job, seen, rfl⟩ old found terminal
      exact seen_terminal holding.since found terminal seen

theorem DurableOperation.bindAll_nil : operation.bindAll [] = operation := by
  simp [bindAll]

structure PassResult (alone : Prop) (loaded stores : Stores) (operation result : DurableOperation)
    (after : Stores) : Prop where
  held : Held alone after result
  operationId : result.operationId = operation.operationId
  status : result.status = operation.status.materialized
  compensated : Holding alone loaded stores operation → operation.status = .running →
    NotReadySince loaded result

theorem ensures_materializePending (held : Held alone stores operation)
    (materializes : operation.status.materializes = true) :
    (materializePending operation nowMs).Ensures (protocol alone) (OnOk fun result marked after =>
        marked = loaded ∧ stores.Evolves after ∧
          PassResult alone loaded stores operation result after) loaded stores := by
  have wellFormed := held.remembered.wellFormed
  unfold materializePending
  refine ensures_bind_ok (ensures_reads (readySteps_readOnly _)) ?_
  rintro ready loaded read ⟨rfl, toRead, yielded⟩
  have sublist := (yields_readySteps wellFormed.pendingDistinct yielded).1
  have chosen (isAlone : alone) : ∀ step ∈ operation.plannedJobs, step.stepId ∈ ready →
      Chosen read operation step := by
    intro step member listed
    obtain ⟨pending, considered, decided⟩ := ready_of_readySteps wellFormed yielded member listed
    rw [toRead.unchanged isAlone]
    exact ⟨member, pending, considered, reads_of_seen plannedJobReady_readOnly decided isAlone⟩
  have loop : (enqueueReady nowMs (operation.bindAll []) ready).Ensures (protocol alone) _
      loaded read :=
    ensures_enqueueReady materializes (held.relies toRead)
      (by simpa using wellFormed.pendingDistinct.sublist sublist)
      (fun stepId member => sublist.subset member) (fun step member => by cases member)
      (fun _ => PassFrom.refl read operation) chosen
  rw [bindAll_nil] at loop
  refine ensures_bind_ok loop ?_
  rintro bound marked after ⟨rfl, toAfter, stillHeld, steps, rfl, listed, enqueued⟩
  simp only [map_nil, nil_append] at listed
  have planned : ∀ step ∈ steps,
      step ∈ operation.plannedJobs ∧ step.stepId ∈ operation.pendingStepIds := by
    intro step member
    exact ⟨(enqueued step member).1, (enqueued step member).2.1⟩
  have compensated {next : DurableOperation} (binds : operation.Binds next steps)
      (holding : Holding alone marked stores operation) (running : operation.status = .running) :
      NotReadySince marked next := by
    apply notReadySince_of_pass holding running yielded binds.operationId binds.plannedJobs
    · intro binding present
      rw [binds.bindings]
      exact mem_append_left _ present
    · intro stepId pending
      rw [binds.pending, mem_filter, listed] at pending
      exact ⟨pending.1, by simpa using pending.2⟩
  have toNow := toRead.evolves.trans toAfter
  split_ifs with nothing
  · have none : steps = [] := by simpa [nothing.1] using listed
    have same : settleMaterialized (operation.bindAll steps) ready nowMs = operation := by
      rw [none, nothing.1]
      exact settleMaterialized_nil nothing.2 nowMs
    rw [same]
    refine ⟨rfl, toNow, stillHeld, rfl, ?_, ?_⟩
    · cases status : operation.status <;> simp_all [materialized]
    · intro holding running
      apply notReadySince_of_pass holding running yielded rfl rfl (fun _ member => member)
      intro stepId pending
      exact ⟨pending, by simp [nothing.1]⟩
  · have binds := settleMaterialized_binds nowMs materializes planned
    rw [listed] at binds
    have status := settleMaterialized_status (operation.bindAll steps) ready nowMs
    refine (ensures_save ?_).imp ?_
    · intro now toSave sound
      refine ⟨operation, (stillHeld.relies toSave).remembered, ?_, .binds steps binds ?_ ?_ ?_⟩
      · unfold settleMaterialized
        split_ifs <;> rfl
      · intro step member
        exact (enqueued.evolve toSave.evolves step member).2.2
      · change (settleMaterialized _ ready nowMs).status = _ ∨
          (settleMaterialized _ ready nowMs).status = _
        rw [status]
        change operation.status.materialized = _ ∨ operation.status.materialized = _
        cases active : operation.status <;>
          simp_all [DurableOperationStatus.materializes, materialized]
      · intro step member
        have collected : step.stepId ∈ ready := listed ▸ mem_map_of_mem member
        obtain ⟨_, _, decided⟩ :=
          ready_of_readySteps wellFormed yielded (planned step member).1 collected
        refine (enabled_of_ready wellFormed.graph seen_activeStatus (planned step member).1
          decided).imp id ?_
        exact fun enabled => enabled.evolve (toAfter.trans toSave.evolves).jobs
    · rintro saved last final ⟨sameMark, rfl, stored, toFinal⟩
      exact ⟨sameMark, toNow.trans toFinal, stored, binds.operationId, status, compensated binds⟩

variable {projection : Projection} {fuel : Nat}

/-- The reasons a call has for storing a projection of the record it holds. -/
structure Justified (loaded stores : Stores) (operation : DurableOperation)
    (projection : Projection) : Prop where
  started : projection.status.hasStarted = true
  ended : projection.status.isFinal = true → ∀ planned ∈ operation.plannedJobs,
    operation.activeBinding planned.stepId ≠ none →
    ∃ status, stores.ActiveStatus operation planned.stepId status ∧ status.isTerminal = true ∧
      status ≠ .needsAttention
  failing : projection.status = .failed → operation.status = .running
  compensated : operation.status = .running → NotReadySince loaded operation
  succeeding : projection.status = .succeeded ∨ projection.status = .rolledBack →
    operation.status = .running ∧ stores.Completed operation

omit [Digests] in
theorem Justified.evolve (justified : Justified loaded stores operation projection)
    (evolves : stores.Evolves now) : Justified loaded now operation projection := by
  refine ⟨justified.started, ?_, justified.failing, justified.compensated, ?_⟩
  · intro final planned member bound
    obtain ⟨status, shown, terminal, known⟩ := justified.ended final planned member bound
    exact ⟨status, shown.evolve evolves.jobs terminal, terminal, known⟩
  · intro success
    obtain ⟨running, completed⟩ := justified.succeeding success
    exact ⟨running, completed.evolve evolves.jobs⟩

theorem not_impossible_of_forward (graph : PlanGraph operation.plannedJobs)
    (complete : ∀ planned ∈ operation.plannedJobs, operation.activeBinding planned.stepId ≠ none →
      now.ActiveStatus operation planned.stepId .succeeded) {visiting : Finset String}
    {planned : PlannedJob} (member : planned ∈ operation.plannedJobs)
    (forward : planned.stepId ∉ compensationStepIds operation) :
    ¬ (plannedStepIsImpossible operation fuel visiting planned).Yields
      ((protocol alone).Seen stores now) (.ok true) := by
  induction fuel using Nat.strongRecOn generalizing visiting planned with
  | ind fuel ih =>
    intro yielded
    obtain ⟨fewer, _, less, yielded⟩ := yields_impossible yielded
    obtain ⟨dependency, needed, ⟨_, shown, terminal, failed⟩ | ⟨_, source, found, impossible⟩⟩ :=
      yields_impossibleFrom_onSuccess (onSuccess_of_forward member forward) yielded
    · obtain ⟨binding, job, active, seen, rfl⟩ := shown
      obtain ⟨source, sourceMember, rfl⟩ := graph.known planned member dependency needed
      have succeeded := complete source sourceMember (by simp [active])
      have ended := seen_activeStatus ⟨binding, job, active, seen, rfl⟩ terminal
      exact failed (ended.unique succeeded)
    · obtain ⟨sourceMember, rfl⟩ := findPlanned_some found
      apply ih fewer less sourceMember _ impossible
      exact fun compensates =>
        forward (mem_compensation_of_dependency member needed compensates)

theorem justified_of_derive (graph : PlanGraph operation.plannedJobs)
    (yielded : (deriveProjection operation).Yields
      ((protocol alone).Seen stores now) (.ok projection))
    (active : operation.status = .running ∨ operation.status = .cancelling)
    (compensated : operation.status = .running → NotReadySince loaded operation) :
    Justified loaded now operation projection := by
  refine ⟨yields_deriveProjection_hasStarted yielded, ?_, ?_, compensated, ?_⟩
  · intro final planned member bound
    obtain ⟨status, shown, terminal, known⟩ :=
      yields_deriveProjection_final yielded final planned member bound
    exact ⟨status, seen_activeStatus shown terminal, terminal, known⟩
  · intro failed
    by_contra notRunning
    have cancelling : operation.status = .cancelling := active.resolve_left notRunning
    by_cases calm : operation.attentionJobIds = []
    · obtain ⟨_, _, ⟨status, _⟩ | ⟨status, _⟩ | ⟨status, _⟩⟩ :=
        yields_deriveCancelling calm cancelling yielded
      all_goals simp [status] at failed
    · simp only [deriveProjection, ne_eq, calm, not_false_eq_true, if_true] at yielded
      cases yielded
      cases failed
  · intro success
    obtain ⟨notCancelling, each⟩ := yields_deriveProjection_success yielded success
    have complete : ∀ planned ∈ operation.plannedJobs,
        operation.activeBinding planned.stepId ≠ none →
        now.ActiveStatus operation planned.stepId .succeeded :=
      fun planned member bound => seen_activeStatus ((each planned member).1 bound) rfl
    refine ⟨active.resolve_right notCancelling, complete, ?_⟩
    intro planned member forward unbound
    exact not_impossible_of_forward graph complete member forward
      ((each planned member).2 unbound (onSuccess_of_forward member forward))

theorem ensures_saveProjection (held : Held alone stores operation)
    (justified : Justified loaded stores operation projection) :
    (saveProjection operation projection nowMs).Ensures (protocol alone) (fun _ _ _ => True)
      loaded stores := by
  unfold saveProjection
  split_ifs with same
  · trivial
  · refine (ensures_save ?_).weaken fun _ _ _ _ => trivial
    intro now toSave sound
    have there := justified.evolve toSave.evolves
    refine ⟨operation, (held.relies toSave).remembered, rfl, .moves ?_ there.ended there.failing ?_
      there.succeeding⟩
    · exact ⟨rfl, rfl, rfl, rfl, rfl, fun _ => there.started⟩
    · intro running _
      exact there.compensated running

theorem ensures_derive (graph : PlanGraph operation.plannedJobs)
    (active : operation.status = .running ∨ operation.status = .cancelling)
    (compensated : operation.status = .running → NotReadySince loaded operation) :
    (deriveProjection operation).Ensures (protocol alone) (OnOk fun projection marked after =>
        marked = loaded ∧ Relies alone stores after ∧ Justified loaded after operation projection)
      loaded stores := by
  refine (ensures_reads deriveProjection_readOnly).imp ?_
  rintro projection marked now ⟨rfl, toNow, yielded⟩
  exact ⟨rfl, toNow, justified_of_derive graph yielded active compensated⟩

theorem ensures_cancellingFixedPoint (held : Held alone stores operation)
    (cancelling : operation.status = .cancelling)
    (justified : Justified loaded stores operation projection) :
    (cancellingFixedPoint nowMs fuel operation projection).Ensures (protocol alone)
      (OnOk fun settled marked after => marked = loaded ∧ Held alone after settled.1 ∧
          Justified loaded after settled.1 settled.2) loaded stores := by
  induction fuel generalizing operation projection stores with
  | zero => trivial
  | succ fuel ih =>
    simp only [cancellingFixedPoint]
    split_ifs with finished
    · exact ⟨rfl, held, justified⟩
    · refine ensures_bind_ok (ensures_reads cancellationHasActiveJobs_readOnly) ?_
      rintro live marked read ⟨rfl, toRead, _⟩
      cases live with
      | true => exact ⟨rfl, held.relies toRead, justified.evolve toRead.evolves⟩
      | false =>
        refine ensures_bind_ok
          (ensures_materializePending (held.relies toRead) (by rw [cancelling]; rfl)) ?_
        rintro materialized marked after ⟨rfl, toAfter, pass⟩
        have stillCancelling : materialized.status = .cancelling := by
          rw [pass.status, cancelling]
          rfl
        refine ensures_bind_ok
          (ensures_derive pass.held.remembered.wellFormed.graph (.inr stillCancelling)
            (by simp [stillCancelling])) ?_
        rintro next marked final ⟨rfl, toFinal, derived⟩
        split_ifs with stuck
        · refine ⟨rfl, pass.held.relies toFinal, rfl, ?_, ?_, derived.compensated, ?_⟩
          · intro final
            cases final
          · intro failed
            cases failed
          · intro success
            simp at success
        · exact ih (pass.held.relies toFinal) stillCancelling derived

theorem not_yields_hasMissingActiveJob (remembered : stores.Remembers operation) :
    ¬ (hasMissingActiveJob operation).Yields ((protocol alone).Seen stores now) (.ok true) := by
  intro yielded
  obtain ⟨_, _, missing⟩ := Program.yields_anyItem_true yielded
  split at missing
  · rename_i binding active
    obtain ⟨reply, read, shape⟩ := Program.yields_bind_ok.mp missing
    cases reply with
    | some job => cases shape
    | none =>
      exact seen_bound remembered (activeBinding_some active).1 (yields_getJob.mp read)
  · cases missing

theorem ensures_materializeUnlessMissing (holding : Holding alone loaded stores operation)
    (active : operation.status = .running ∨ operation.status = .cancelling) :
    (materializeUnlessMissing operation nowMs).Ensures (protocol alone)
      (OnOk fun result marked after =>
        marked = loaded ∧ Held alone after result ∧ result.status = operation.status ∧
          (operation.status = .running → NotReadySince loaded result)) loaded stores := by
  have held := holding.held
  unfold materializeUnlessMissing
  split_ifs with empty
  · refine ⟨rfl, held, rfl, ?_⟩
    intro running
    refine ⟨operation, holding.found, running, fun _ member => member, ?_⟩
    simp [empty]
  · refine ensures_bind_ok (ensures_reads hasMissingActiveJob_readOnly) ?_
    rintro missing marked read ⟨rfl, toRead, yielded⟩
    cases missing with
    | true => exact absurd yielded (not_yields_hasMissingActiveJob held.remembered)
    | false =>
      have materializes : operation.status.materializes = true := by
        rcases active with status | status <;> rw [status] <;> rfl
      refine (ensures_materializePending (held.relies toRead) materializes).imp ?_
      rintro result marked after ⟨sameMark, _, pass⟩
      refine ⟨sameMark, pass.held, ?_, pass.compensated (holding.relies toRead)⟩
      rw [pass.status]
      rcases active with status | status <;> rw [status] <;> rfl

variable {moved : DurableOperation} {operationId : String} (fuel : Nat) (jobId : String)

/-- The program makes only guaranteed calls, however it is interrupted. -/
abbrev Complies (alone : Prop) {α : Type} (program : Coordinated α) : Prop :=
  program.Preserves (protocol alone) fun _ => True

theorem complies_of_required {continuation : DurableOperation → Coordinated α}
    (rest : ∀ operation loaded stores, Holding alone loaded stores operation →
      (continuation operation).Ensures (protocol alone) (fun _ _ _ => True) loaded stores) :
    Complies alone (required operationId >>= continuation) := by
  intro loaded stores _
  refine ensures_bind_true (ensures_required operationId) ?_
  intro operation marked now holds
  exact rest operation marked now holds.2

section

variable (held : Held alone stores operation) (same : operation.SameWork moved)
  (revision : moved.revision = operation.revision)
include held same revision

theorem ensures_save_move (ended : moved.status.isFinal = true → ∀ planned ∈ operation.plannedJobs,
      operation.activeBinding planned.stepId = none) (failing : moved.status ≠ .failed)
    (cancelled : operation.status = .running → moved.status ≠ .cancelled)
    (unsuccessful : ¬ (moved.status = .succeeded ∨ moved.status = .rolledBack)) :
    (save moved nowMs).Ensures (protocol alone) (OnOk fun saved marked after =>
        marked = loaded ∧ saved = moved.revised nowMs ∧ Held alone after saved ∧
          stores.Evolves after) loaded stores := by
  refine ensures_save ?_
  intro now toSave sound
  refine ⟨operation, (held.relies toSave).remembered, revision.symm,
    .moves ?_ ?_ ?_ ?_ fun success => absurd success unsuccessful⟩
  · exact ⟨same.operationId, same.plannedJobs, same.generation, same.bindings, same.pending,
      same.started⟩
  · intro final planned member bound
    exact absurd (ended final planned member) bound
  · intro failed
    exact absurd failed failing
  · intro running outcome
    exact absurd outcome (not_or.mpr ⟨failing, cancelled running⟩)

theorem ensures_save_unfinished (unfinished : moved.status.isFinal = false) :
    (save moved nowMs).Ensures (protocol alone) (OnOk fun saved marked after =>
        marked = loaded ∧ saved = moved.revised nowMs ∧ Held alone after saved ∧
          stores.Evolves after) loaded stores := by
  have other {status : DurableOperationStatus} (final : status.isFinal = true) :
      moved.status ≠ status := by
    rintro rfl
    simp [final] at unfinished
  refine ensures_save_move held same revision ?_ (other rfl) (fun _ => other rfl) ?_
  · simp [unfinished]
  · exact not_or.mpr ⟨other rfl, other rfl⟩

end

theorem retryOnConflict_complies {attempt : Coordinated α} (complies : Complies alone attempt)
    (retries : Nat) : Complies alone (retryOnConflict attempt retries) := by
  induction retries with
  | zero => exact complies
  | succ retries ih =>
    refine complies.handle fun abort => ?_
    split
    · exact ih
    · exact preserves_fail _

theorem create_complies (wellFormed : operation.WellFormed) (status : operation.status = .planned) :
    Complies alone (create operation) := by
  intro loaded stores _ now _ sound
  refine ⟨⟨wellFormed, status⟩, ?_⟩
  simp only [protocol, exec]
  generalize now.operations.create operation = result
  obtain ⟨outcome, _⟩ := result
  cases outcome <;> trivial

theorem getOperation_complies {continuation : Option DurableOperation → Coordinated α}
    (rest : ∀ reply, Complies alone (continuation reply)) :
    Complies alone (callStore (.getOperation operationId) >>= continuation) := by
  intro loaded stores _ now _ sound
  exact ⟨trivial, rest _ _ _ trivial⟩

theorem materializePending_complies
    (held : Held alone stores operation) (materializes : operation.status.materializes = true) :
    (materializePending operation nowMs).Ensures (protocol alone)
      (fun _ _ _ => True) loaded stores :=
  (ensures_materializePending held materializes).weaken fun _ _ _ _ => trivial

variable (operationId : String) (nowMs : Int)

theorem plan_complies (request : PlanOperation) : Complies alone (plan request nowMs) := by
  unfold plan
  split
  · exact preserves_fail _
  · rename_i accepted
    refine getOperation_complies fun reply => ?_
    split
    · split_ifs
      · exact preserves_done _
      · exact preserves_fail _
    · exact create_complies (operationFromPlan_wellFormed accepted _ _ _ _) rfl

theorem confirm_complies : Complies alone (confirm operationId nowMs) := by
  refine complies_of_required fun operation loaded stores holding => ?_
  split
  · rename_i planned
    refine (ensures_save_unfinished holding.held ?_ (by rfl) (by rfl)).weaken fun _ _ _ _ => trivial
    exact ⟨rfl, rfl, rfl, rfl, rfl, by simp [planned, hasStarted]⟩
  · trivial
  · trivial

theorem projectOnce_complies : Complies alone (projectOnce fuel operationId nowMs) := by
  refine complies_of_required fun operation loaded stores holding => ?_
  split_ifs with inactive
  · trivial
  · have active : operation.status = .running ∨ operation.status = .cancelling := by
      by_contra neither
      push Not at neither
      exact inactive neither
    refine ensures_bind_true (ensures_materializeUnlessMissing holding active) ?_
    rintro result marked after ⟨rfl, held, status, compensated⟩
    rw [← status] at active compensated
    refine ensures_bind_true (ensures_derive held.remembered.wellFormed.graph active compensated) ?_
    rintro projection marked final ⟨rfl, toFinal, justified⟩
    have there := held.relies toFinal
    split_ifs with cancelling
    · refine ensures_bind_true (ensures_cancellingFixedPoint there cancelling justified) ?_
      rintro settled marked last ⟨rfl, settledHeld, settledJustified⟩
      exact ensures_saveProjection settledHeld settledJustified
    · exact ensures_saveProjection there justified

theorem project_complies : Complies alone (project fuel operationId nowMs) :=
  retryOnConflict_complies (projectOnce_complies fuel operationId nowMs) _

theorem enqueueOnce_complies : Complies alone (enqueueOnce fuel operationId nowMs) := by
  refine complies_of_required fun operation loaded stores holding => ?_
  have held := holding.held
  split
  · refine ensures_bind_true
      (ensures_save_unfinished held ⟨rfl, rfl, rfl, rfl, rfl, fun _ => rfl⟩ rfl rfl) ?_
    rintro enqueuing marked after ⟨rfl, rfl, there, _⟩
    exact materializePending_complies there rfl
  · rename_i enqueuing
    exact materializePending_complies held (by rw [enqueuing]; rfl)
  · exact project_complies fuel operationId nowMs loaded stores trivial
  · trivial

theorem enqueue_complies : Complies alone (enqueue fuel operationId nowMs) :=
  retryOnConflict_complies (enqueueOnce_complies fuel operationId nowMs) _

theorem requestCancel_complies : Complies alone (requestCancel jobId nowMs) := by
  intro loaded stores _ now _ sound
  refine ⟨trivial, ?_⟩
  simp only [protocol, exec]
  generalize now.jobs.requestCancel jobId nowMs = result
  obtain ⟨outcome, _⟩ := result
  cases outcome <;> trivial

theorem getJob_complies : Complies alone (getJob jobId) := fun _ _ _ _ _ _ => ⟨trivial, trivial⟩

theorem cancelJobs_complies (operation : DurableOperation) :
    Complies alone (cancelJobs operation nowMs) := by
  refine Program.Preserves.bind (preserves_forEach fun jobId => ?_) fun _ => preserves_done _
  refine (getJob_complies jobId).bind fun reply => ?_
  split
  · split_ifs
    · exact preserves_done _
    · exact (requestCancel_complies jobId nowMs).bind fun _ => preserves_done _
  · exact preserves_done _

theorem cancel_complies : Complies alone (cancel fuel operationId nowMs) := by
  refine complies_of_required fun operation loaded stores holding => ?_
  have held := holding.held
  -- nothing is bound before the first pass, so an early cancellation leaves no job
  have early (unstarted : operation.status.hasStarted = false) :
      (save { operation with status := .cancelled, finishedAtMs := some nowMs } nowMs).Ensures
        (protocol alone) (fun _ _ _ => True) loaded stores := by
    refine (ensures_save_move held ?_ (by rfl) ?_ ?_ ?_ (by simp)).weaken fun _ _ _ _ => trivial
    · exact ⟨rfl, rfl, rfl, rfl, rfl, fun _ => rfl⟩
    · intro _ planned _
      rw [activeBinding_eq_none, (held.remembered.wellFormed.unstarted unstarted).1]
      simp
    · simp
    · intro running
      simp [running, hasStarted] at unstarted
  have settle (current : DurableOperation) : Complies alone (do
      cancelJobs current nowMs
      project fuel operationId nowMs) :=
    (cancelJobs_complies nowMs current).bind fun _ => project_complies fuel operationId nowMs
  have start : (save { operation with status := .cancelling } nowMs >>= fun cancelling => do
      cancelJobs cancelling nowMs
      project fuel operationId nowMs).Ensures (protocol alone)
        (fun _ _ _ => True) loaded stores := by
    refine ensures_bind_true
      (ensures_save_unfinished held ⟨rfl, rfl, rfl, rfl, rfl, fun _ => rfl⟩ rfl rfl) ?_
    intro cancelling marked after _
    exact settle cancelling marked after trivial
  split
  · rename_i status
    exact early (by rw [status]; rfl)
  · rename_i status
    exact early (by rw [status]; rfl)
  · exact start
  · exact start
  · exact settle operation loaded stores trivial
  · trivial
  · trivial

theorem retry_complies : Complies alone (retry operationId nowMs) := by
  refine complies_of_required fun operation loaded stores holding => ?_
  have held := holding.held
  split_ifs with _ notFailed
  · trivial
  · trivial
  have failed : operation.status = .failed := by simpa using notFailed
  refine ensures_bind_true (ensures_reads (retryPending_readOnly _)) ?_
  rintro pending marked now ⟨rfl, toNow, yielded⟩
  obtain ⟨chosen, each⟩ := yields_retryPending held.remembered.wellFormed.graph.distinct yielded
  split_ifs
  · trivial
  refine ensures_bind_true (ensures_save ?_) ?_
  · intro later toLater _
    refine ⟨operation, (held.relies (toNow.trans toLater)).remembered, rfl,
      .reopens ?_ failed ?_ rfl⟩
    · refine ⟨rfl, rfl, rfl, rfl, chosen, ?_, rfl⟩
      intro planned member unbound
      rcases each planned member with ⟨_, restarted⟩ | ⟨_, ⟨_, _, active, _⟩, _⟩
      · exact restarted
      · simp [unbound] at active
    · intro planned member
      rcases each planned member with ⟨unbound, _⟩ | ⟨status, shown, verdict⟩
      · exact .inl unbound
      · have terminal : status.isTerminal = true := by
          rcases verdict with ⟨_, failure⟩ | ⟨_, rfl⟩
          · exact JobStatus.isTerminal_of_isFailure failure
          · rfl
        exact .inr ⟨status,
          (seen_activeStatus shown terminal).evolve toLater.evolves.jobs terminal, verdict⟩
  · rintro enqueuing marked after ⟨rfl, rfl, there, _⟩
    exact materializePending_complies there rfl

theorem rollback_complies (sourceOperationId : String) (rollbackPlan : PlanOperation) :
    Complies alone (rollback sourceOperationId rollbackPlan nowMs) := by
  refine complies_of_required fun source loaded stores _ => ?_
  split_ifs
  · trivial
  · trivial
  split
  · trivial
  · rename_i accepted
    refine getOperation_complies (fun reply => ?_) loaded stores trivial
    split
    · split_ifs
      · exact preserves_done _
      · exact preserves_fail _
    · exact create_complies (operationFromPlan_wellFormed accepted _ _ _ _) rfl

theorem markNeedsAttention_complies (reason : String) :
    Complies alone (markNeedsAttention operationId jobId reason nowMs) := by
  refine complies_of_required fun operation loaded stores holding => ?_
  exact ensures_bind_true
    (ensures_save_unfinished holding.held ⟨rfl, rfl, rfl, rfl, rfl, fun _ => rfl⟩ rfl rfl)
    fun _ _ _ _ => trivial

theorem recoverExpiredOutcome_complies (job : Job) :
    Complies alone (recoverExpiredOutcome nowMs job) := by
  unfold recoverExpiredOutcome
  split_ifs
  · exact (requestCancel_complies job.jobId nowMs).bind fun cancelled =>
      markNeedsAttention_complies cancelled.jobId job.operationId nowMs _
  · exact markNeedsAttention_complies job.jobId job.operationId nowMs _
  · exact preserves_done _

theorem recoverOperation_complies (operation : DurableOperation) :
    Complies alone (recoverOperation fuel nowMs operation) := by
  refine complies_of_required fun current loaded stores holding => ?_
  split
  · split_ifs
    · exact enqueue_complies fuel current.operationId nowMs loaded stores trivial
    · trivial
  · rename_i enqueuing
    exact materializePending_complies holding.held (by rw [enqueuing]; rfl)
  · exact ((cancelJobs_complies nowMs current).bind fun _ =>
      project_complies fuel current.operationId nowMs) loaded stores trivial
  · exact project_complies fuel current.operationId nowMs loaded stores trivial
  · trivial

theorem recover_complies : Complies alone (recover fuel nowMs) := by
  have operations : Complies alone (do
      let recoverable ← callStore .recoverable
      Program.forEach (recoverOperation fuel nowMs) recoverable) := by
    intro loaded stores _ now _ sound
    exact ⟨trivial, preserves_forEach (recoverOperation_complies fuel nowMs) _ _ trivial⟩
  intro loaded stores _ now _ sound
  exact ⟨trivial, (preserves_forEach (recoverExpiredOutcome_complies nowMs)).bind
    (fun _ => operations) _ _ trivial⟩

theorem program_complies (task : CoordinatorTask) : Complies alone task.program := by
  unfold CoordinatorTask.program
  split
  · exact (plan_complies _ _).bind fun _ => preserves_done _
  · exact (confirm_complies _ _).bind fun _ => preserves_done _
  · exact (enqueue_complies _ _ _).bind fun _ => preserves_done _
  · exact (cancel_complies _ _ _).bind fun _ => preserves_done _
  · exact (retry_complies _ _).bind fun _ => preserves_done _
  · exact (rollback_complies _ _ _).bind fun _ => preserves_done _
  · exact (project_complies _ _ _).bind fun _ => preserves_done _
  · exact (recover_complies _ _).bind fun _ => preserves_done _

end UntitledOJ
