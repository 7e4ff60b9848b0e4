import UntitledOJ.CoordinatorPlatform
import UntitledOJ.CoordinatorReads

/-!
# The invariant of the two stores

The job store and the operation store are written separately.  Together, bindings point to jobs,
jobs belong to a planned step of a stored operation, and jobs of closed generations are settled.
`Effect` lists everything that one atomic step can do to the stores.
-/

namespace UntitledOJ

open DurableOperation List
open MemoryOperationStore (Accepts forall_insert get_insert)

/-- The job was made for this step in this generation. -/
def Job.IsFor (job : Job) (operationId : String) (generation : Nat) (stepId : String) : Prop :=
  job.operationId = operationId ∧
    job.idempotencyKey = stepIdempotencyKey operationId generation stepId
deriving Decidable

theorem Job.IsFor.unique {job : Job} {operationId firstStep secondStep : String}
    {firstGeneration secondGeneration : Nat}
    (first : job.IsFor operationId firstGeneration firstStep)
    (second : job.IsFor operationId secondGeneration secondStep) :
    firstGeneration = secondGeneration ∧ firstStep = secondStep :=
  stepIdempotencyKey_injective (first.2.symm.trans second.2)

variable {job : Job} {generation : Nat}

theorem Job.IsFor.of_identity [Digests] {operationId : String} {planned : PlannedJob}
    (identity : job.identity = stepIdentity operationId generation planned) :
    job.IsFor operationId generation planned.stepId :=
  ⟨congrArg JobIdentity.operationId identity, congrArg JobIdentity.idempotencyKey identity⟩

variable {stepId : String} {before after : Job}

theorem Job.IsFor.evolve {operationId : String} (evolves : before.Evolves after)
    (belongs : before.IsFor operationId generation stepId) :
    after.IsFor operationId generation stepId := by
  constructor
  · exact (congrArg JobIdentity.operationId evolves.identity).trans belongs.1
  · exact (congrArg JobIdentity.idempotencyKey evolves.identity).trans belongs.2

theorem Job.IsFor.of_evolves {operationId : String}
    (belongs : after.IsFor operationId generation stepId) (evolves : before.Evolves after) :
    before.IsFor operationId generation stepId := by
  constructor
  · exact (congrArg JobIdentity.operationId evolves.identity).symm.trans belongs.1
  · exact (congrArg JobIdentity.idempotencyKey evolves.identity).symm.trans belongs.2

variable {status : JobStatus}

theorem JobStatus.isTerminal_of_isFailure (failure : status.isFailure = true) :
    status.isTerminal = true := by
  cases status <;> simp_all [isFailure, isTerminal]

variable {operation : DurableOperation} {snapshot : DurableOperation}

namespace Stores

/-- The job that the step is bound to has this status. -/
def ActiveStatus (stores : Stores) (operation : DurableOperation) (stepId : String)
    (status : JobStatus) : Prop :=
  ∃ binding job, operation.activeBinding stepId = some binding ∧
    stores.jobs.get binding.jobId = some job ∧ job.status = status

instance (stores : Stores) (operation : DurableOperation) (stepId : String)
    (status : JobStatus) : Decidable (stores.ActiveStatus operation stepId status) :=
  decidable_of_iff
    (∃ binding ∈ operation.activeBinding stepId, ∃ job ∈ stores.jobs.get binding.jobId,
      job.status = status)
    ⟨fun ⟨binding, active, job, found, shown⟩ => ⟨binding, job, active, found, shown⟩,
      fun ⟨binding, job, active, found, shown⟩ => ⟨binding, active, job, found, shown⟩⟩

structure Evolves (before after : Stores) : Prop where
  jobs : before.jobs.Evolves after.jobs
  operations : ∀ {operationId operation}, before.operations.get operationId = some operation →
    ∃ later, after.operations.get operationId = some later ∧ operation.Evolves later

theorem Evolves.refl (stores : Stores) : stores.Evolves stores :=
  ⟨.refl _, fun {_ operation} found => ⟨operation, found, .refl operation⟩⟩

theorem Evolves.trans {first second third : Stores} (earlier : first.Evolves second)
    (later : second.Evolves third) : first.Evolves third := by
  refine ⟨earlier.jobs.trans later.jobs, ?_⟩
  intro operationId operation found
  obtain ⟨_, middleFound, toMiddle⟩ := earlier.operations found
  obtain ⟨last, lastFound, toLast⟩ := later.operations middleFound
  exact ⟨last, lastFound, toMiddle.trans toLast⟩

variable {before after : Stores}

theorem ActiveStatus.evolve (shown : before.ActiveStatus operation stepId status)
    (evolves : before.jobs.Evolves after.jobs) (terminal : status.isTerminal = true) :
    after.ActiveStatus operation stepId status := by
  obtain ⟨binding, _, active, found, rfl⟩ := shown
  obtain ⟨later, laterFound, evolved⟩ := evolves.keeps found
  exact ⟨binding, later, active, laterFound, evolved.settled terminal⟩

variable {stores : Stores}

theorem ActiveStatus.of_activeBinding {before after : DurableOperation}
    (shown : stores.ActiveStatus before stepId status)
    (same : after.activeBinding stepId = before.activeBinding stepId) :
    stores.ActiveStatus after stepId status := by
  obtain ⟨binding, job, active, found⟩ := shown
  exact ⟨binding, job, same.trans active, found⟩

theorem ActiveStatus.bound (shown : stores.ActiveStatus operation stepId status) :
    operation.activeBinding stepId ≠ none := by
  obtain ⟨_, _, active, _⟩ := shown
  simp [active]

theorem ActiveStatus.unique
    {first second : JobStatus} (firstShown : stores.ActiveStatus operation stepId first)
    (secondShown : stores.ActiveStatus operation stepId second) : first = second := by
  obtain ⟨_, _, firstActive, firstFound, rfl⟩ := firstShown
  obtain ⟨_, _, secondActive, secondFound, rfl⟩ := secondShown
  rw [firstActive] at secondActive
  cases secondActive
  rw [firstFound] at secondFound
  cases secondFound
  rfl

/-- The statuses that make the step ready, but for a compensator of a cancelled operation; being
terminal, they stay. -/
structure Enabled (stores : Stores) (operation : DurableOperation) (planned : PlannedJob) :
    Prop where
  succeeded : planned.condition = .onSuccess → ∀ dependency ∈ planned.dependsOn,
    stores.ActiveStatus operation dependency .succeeded
  settled : planned.condition = .onFailure → ∀ dependency ∈ planned.dependsOn,
    operation.activeBinding dependency ≠ none →
    ∃ status, stores.ActiveStatus operation dependency status ∧ status.isTerminal = true ∧
      status ≠ .needsAttention
  failed : planned.condition = .onFailure → ∃ dependency ∈ planned.dependsOn, ∃ status,
    stores.ActiveStatus operation dependency status ∧ status.isFailure = true

theorem Enabled.evolve {planned : PlannedJob} (enabled : before.Enabled operation planned)
    (evolves : before.jobs.Evolves after.jobs) : after.Enabled operation planned := by
  refine ⟨?_, ?_, ?_⟩
  · intro onSuccess dependency needed
    exact (enabled.succeeded onSuccess dependency needed).evolve evolves rfl
  · intro onFailure dependency needed bound
    obtain ⟨status, shown, terminal, known⟩ := enabled.settled onFailure dependency needed bound
    exact ⟨status, shown.evolve evolves terminal, terminal, known⟩
  · intro onFailure
    obtain ⟨dependency, needed, status, shown, failure⟩ := enabled.failed onFailure
    exact ⟨dependency, needed, status,
      shown.evolve evolves (JobStatus.isTerminal_of_isFailure failure), failure⟩

/-- Every active job has succeeded, and every forward step has one. -/
structure Completed (stores : Stores) (operation : DurableOperation) : Prop where
  active : ∀ planned ∈ operation.plannedJobs, operation.activeBinding planned.stepId ≠ none →
    stores.ActiveStatus operation planned.stepId .succeeded
  forward : ∀ planned ∈ operation.plannedJobs,
    planned.stepId ∉ compensationStepIds operation →
    operation.activeBinding planned.stepId ≠ none

theorem Completed.evolve (completed : before.Completed operation)
    (evolves : before.jobs.Evolves after.jobs) : after.Completed operation :=
  ⟨fun planned member bound => (completed.active planned member bound).evolve evolves rfl,
    completed.forward⟩

variable [Digests]

/-- A record that was stored at some time, as a coordinator call holds it. -/
structure Remembers (stores : Stores) (snapshot : DurableOperation) : Prop where
  wellFormed : snapshot.WellFormed
  stored : ∃ current, stores.operations.get snapshot.operationId = some current ∧
    snapshot.Evolves current

theorem Remembers.evolve (remembered : before.Remembers snapshot) (evolves : before.Evolves after) :
    after.Remembers snapshot := by
  obtain ⟨wellFormed, _, found, evolved⟩ := remembered
  obtain ⟨later, laterFound, laterEvolved⟩ := evolves.operations found
  exact ⟨wellFormed, later, laterFound, evolved.trans laterEvolved⟩

theorem Remembers.eq_of_revision {current : DurableOperation}
    (remembered : stores.Remembers snapshot)
    (found : stores.operations.get snapshot.operationId = some current)
    (same : current.revision = snapshot.revision) : current = snapshot := by
  obtain ⟨_, _, storedFound, evolved⟩ := remembered
  rw [storedFound] at found
  cases found
  exact evolved.unchanged same

/-- The job was enqueued for a planned step, which is pending until the job is bound. -/
def Originates (operations : MemoryOperationStore) (job : Job) : Prop :=
  ∃ operation planned generation,
    operations.get job.operationId = some operation ∧
    planned ∈ operation.plannedJobs ∧ generation ≤ operation.generation ∧
    job.identity = stepIdentity operation.operationId generation planned ∧
    operation.status.hasStarted = true ∧
    (generation = operation.generation → planned.stepId ∈ operation.pendingStepIds ∨
      ∃ binding ∈ operation.jobBindings, binding.stepId = planned.stepId ∧
        binding.generation = generation)

/-- What holds of the two stores together. -/
structure Sound (stores : Stores) : Prop where
  indexed : stores.jobs.Indexed
  record : ∀ {operationId operation}, stores.operations.get operationId = some operation →
    operation.operationId = operationId ∧ operation.WellFormed
  bound : ∀ {operationId operation}, stores.operations.get operationId = some operation →
    ∀ binding ∈ operation.jobBindings, ∃ job, stores.jobs.get binding.jobId = some job ∧
      job.IsFor operation.operationId binding.generation binding.stepId
  superseded : ∀ {operationId operation}, stores.operations.get operationId = some operation →
    ∀ older ∈ operation.jobBindings, ∀ newer ∈ operation.jobBindings,
      older.stepId = newer.stepId → older.generation < newer.generation →
      ∃ job, stores.jobs.get older.jobId = some job ∧ job.status.isFailure = true
  closed : ∀ {operationId operation}, stores.operations.get operationId = some operation →
    ∀ {stepId binding}, operation.activeBinding stepId = some binding →
      binding.generation < operation.generation →
      ∃ status, stores.ActiveStatus operation stepId status ∧
        (stepId ∈ operation.pendingStepIds → status.isFailure = true) ∧
        (stepId ∉ operation.pendingStepIds → status = .succeeded)
  origin : ∀ {jobId job}, stores.jobs.get jobId = some job → Originates stores.operations job

theorem sound_empty : Sound empty := by
  refine ⟨MemoryJobStore.indexed_empty, ?_, ?_, ?_, ?_, ?_⟩ <;>
    simp [empty, MemoryOperationStore.get, MemoryOperationStore.empty, MemoryJobStore.get,
      MemoryJobStore.empty]

end Stores

variable [Digests] {loaded now after : Stores}

/-- No pending ON_FAILURE step of the new record was ready when the call, which had loaded the
running record, read its dependencies. -/
def NotReadySince (loaded : Stores) (next : DurableOperation) : Prop :=
  ∃ before, loaded.operations.get next.operationId = some before ∧
    before.status = .running ∧ (∀ binding ∈ before.jobBindings, binding ∈ next.jobBindings) ∧
    ∀ planned ∈ next.plannedJobs, planned.condition = .onFailure →
      planned.stepId ∈ next.pendingStepIds →
      ∃ statuses, statusesReady planned statuses = false ∧
        List.Forall₂
          (fun binding status => ∀ job, loaded.jobs.get binding.jobId = some job →
            job.status.isTerminal = true → job.status = status)
          (planned.dependsOn.filterMap before.activeBinding) statuses

/-- The ways in which a coordinator call rewrites the record it holds. -/
inductive Update (loaded now : Stores) (snapshot next : DurableOperation) : Prop where
  | moves (same : snapshot.SameWork next)
      (ended : next.status.isFinal = true → ∀ planned ∈ snapshot.plannedJobs,
        snapshot.activeBinding planned.stepId ≠ none →
        ∃ status, now.ActiveStatus snapshot planned.stepId status ∧ status.isTerminal = true ∧
          status ≠ .needsAttention)
      (failing : next.status = .failed → snapshot.status = .running)
      (compensated : snapshot.status = .running → next.status = .failed ∨
        next.status = .cancelled → NotReadySince loaded next)
      (succeeding : next.status = .succeeded ∨ next.status = .rolledBack →
        snapshot.status = .running ∧ now.Completed snapshot)
  | binds (ready : List PlannedJob) (binding : snapshot.Binds next ready)
      (jobs : ∀ step ∈ ready, ∃ job,
        now.jobs.get (bindingFor snapshot step).jobId = some job ∧
          job.IsFor snapshot.operationId snapshot.generation step.stepId)
      (active : next.status = .running ∨ next.status = .cancelling)
      (enabled : ∀ step ∈ ready,
        snapshot.status = .cancelling ∧ step.condition = .onFailure ∨ now.Enabled snapshot step)
  | reopens (reopening : snapshot.Reopens next) (failed : snapshot.status = .failed)
      (each : ∀ planned ∈ snapshot.plannedJobs,
        snapshot.activeBinding planned.stepId = none ∨
          ∃ status, now.ActiveStatus snapshot planned.stepId status ∧
            ((planned.stepId ∈ next.pendingStepIds ∧ status.isFailure = true) ∨
              (planned.stepId ∉ next.pendingStepIds ∧ status = .succeeded)))
      (enqueuing : next.status = .enqueuing)

/-- Everything that one atomic step can do to the stores. -/
inductive Effect (loaded now : Stores) : Stores → Prop where
  | idle : Effect loaded now now
  | updated {jobs : MemoryJobStore} (updates : now.jobs.Updates jobs) :
      Effect loaded now { now with jobs }
  | enqueued {snapshot : DurableOperation} {planned : PlannedJob} {job : Job}
      (remembered : now.Remembers snapshot) (started : snapshot.status.hasStarted = true)
      (member : planned ∈ snapshot.plannedJobs)
      (pending : planned.stepId ∈ snapshot.pendingStepIds)
      (unlisted : now.jobs.lookup job.nodeId job.idempotencyKey = none)
      (fresh : now.jobs.get job.jobId = none)
      (identity : job.identity =
        stepIdentity snapshot.operationId snapshot.generation planned)
      (queued : job.status = .queued) :
      Effect loaded now { now with jobs := now.jobs.addJob job }
  | planned {operation : DurableOperation} (wellFormed : operation.WellFormed)
      (status : operation.status = .planned)
      (fresh : now.operations.get operation.operationId = none) :
      Effect loaded now { now with operations := now.operations.insert operation }
  | replaced {current next : DurableOperation}
      (found : now.operations.get next.operationId = some current)
      (accepts : Accepts current current.revision next)
      (update : Update loaded now current next) :
      Effect loaded now { now with operations := now.operations.insert next }

namespace Update

variable {next : DurableOperation} (update : Update loaded now snapshot next)
include update

theorem operationId : next.operationId = snapshot.operationId := by
  cases update with
  | moves same => exact same.operationId
  | binds ready binding => exact binding.operationId
  | reopens reopening => exact reopening.operationId

theorem evolves (revision : next.revision = snapshot.revision + 1) : snapshot.Evolves next := by
  cases update with
  | moves same => exact same.evolves revision
  | binds ready binding => exact binding.evolves revision
  | reopens reopening => exact reopening.evolves revision

theorem wellFormed (before : snapshot.WellFormed) : next.WellFormed := by
  cases update with
  | moves same => exact before.sameWork same
  | binds ready binding => exact before.binds binding
  | reopens reopening => exact before.reopens reopening

end Update

theorem Effect.evolves (effect : Effect loaded now after) : now.Evolves after := by
  cases effect with
  | idle => exact .refl now
  | updated updates =>
    exact ⟨updates.evolves, fun {_ operation} found => ⟨operation, found, .refl operation⟩⟩
  | enqueued remembered started member pending unlisted fresh identity queued =>
    exact ⟨MemoryJobStore.addJob_evolves fresh,
      fun {_ operation} found => ⟨operation, found, .refl operation⟩⟩
  | @planned operation wellFormed status fresh =>
    refine ⟨.refl _, ?_⟩
    intro operationId other found
    have different : operationId ≠ operation.operationId := by
      rintro rfl
      simp [fresh] at found
    exact ⟨other, by rw [get_insert, if_neg different, found], .refl other⟩
  | @replaced current next found accepts update =>
    refine ⟨.refl _, ?_⟩
    intro operationId other otherFound
    rw [get_insert]
    split_ifs with same
    · subst same
      rw [found] at otherFound
      cases otherFound
      exact ⟨next, rfl, update.evolves accepts.revision⟩
    · exact ⟨other, otherFound, .refl other⟩

namespace Stores.Sound

variable (sound : now.Sound)
include sound

variable {binding : JobBinding} {operationId : String}

theorem closed_terminal (found : now.operations.get operationId = some operation)
    (active : operation.activeBinding stepId = some binding)
    (older : binding.generation < operation.generation) :
    ∃ status, now.ActiveStatus operation stepId status ∧ status.isTerminal = true ∧
      (stepId ∈ operation.pendingStepIds → status.isFailure = true) ∧
      (stepId ∉ operation.pendingStepIds → status = .succeeded) := by
  obtain ⟨status, shown, restarted, kept⟩ := sound.closed found active older
  refine ⟨status, shown, ?_, restarted, kept⟩
  by_cases pending : stepId ∈ operation.pendingStepIds
  · exact JobStatus.isTerminal_of_isFailure (restarted pending)
  · rw [kept pending]
    rfl

/-- Once the active job of a step is terminal, so is every job that a binding of
the step names. -/
theorem binding_terminal (found : now.operations.get operationId = some operation)
    (present : binding ∈ operation.jobBindings)
    (ended : operation.activeBinding binding.stepId ≠ none →
      ∃ status, now.ActiveStatus operation binding.stepId status ∧ status.isTerminal = true) :
    ∃ job, now.jobs.get binding.jobId = some job ∧ job.status.isTerminal = true := by
  obtain ⟨active, isActive⟩ := activeBinding_isSome present
  obtain ⟨activePresent, sameStep, newest⟩ := activeBinding_some isActive
  rcases (newest binding present rfl).lt_or_eq with older | same
  · -- a later generation replaced this job, which had failed by then
    obtain ⟨job, jobFound, failure⟩ :=
      sound.superseded found binding present active activePresent sameStep.symm older
    exact ⟨job, jobFound, JobStatus.isTerminal_of_isFailure failure⟩
  · obtain rfl : active = binding :=
      (sound.record found).2.binding_unique activePresent present sameStep same.symm
    obtain ⟨_, ⟨_, job, shownActive, jobFound, rfl⟩, terminal⟩ := ended (by simp [isActive])
    rw [isActive] at shownActive
    cases shownActive
    exact ⟨job, jobFound, terminal⟩

variable {jobId : String} {jobs : MemoryJobStore}

theorem identity_of_isFor (remembered : now.Remembers snapshot) {step : PlannedJob}
    (member : step ∈ snapshot.plannedJobs) (found : now.jobs.get jobId = some job)
    (belongs : job.IsFor snapshot.operationId generation step.stepId) :
    job.identity = stepIdentity snapshot.operationId generation step := by
  obtain ⟨_, source, _, operationFound, sourceMember, _, identity, _⟩ := sound.origin found
  obtain ⟨wellFormed, _, currentFound, evolved⟩ := remembered
  rw [belongs.1, currentFound] at operationFound
  cases operationFound
  rw [evolved.operationId] at identity
  rw [evolved.plannedJobs] at sourceMember
  obtain ⟨sameGeneration, sameStep⟩ := (Job.IsFor.of_identity identity).unique belongs
  have same : source = step := wellFormed.graph.eq_of_stepId sourceMember member sameStep
  rw [identity, sameGeneration, same]

theorem origin_of_isFor (found : now.jobs.get jobId = some job)
    (belongs : job.IsFor operationId generation stepId) :
    ∃ operation planned, now.operations.get operationId = some operation ∧
      planned ∈ operation.plannedJobs ∧ planned.stepId = stepId ∧
      generation ≤ operation.generation ∧
      job.identity = stepIdentity operationId generation planned := by
  obtain ⟨operation, planned, _, operationFound, member, reached, identity, _⟩ := sound.origin found
  have named := (sound.record operationFound).1
  have isFor := Job.IsFor.of_identity identity
  rw [named, belongs.1] at isFor identity
  rw [belongs.1] at operationFound
  obtain ⟨rfl, rfl⟩ := isFor.unique belongs
  exact ⟨operation, planned, operationFound, member, rfl, reached, identity⟩

theorem job_unique {firstId secondId : String} {first second : Job}
    (firstFound : now.jobs.get firstId = some first)
    (secondFound : now.jobs.get secondId = some second)
    (firstFor : first.IsFor operationId generation stepId)
    (secondFor : second.IsFor operationId generation stepId) : first = second := by
  obtain ⟨_, planned, found, member, named, _, firstIdentity⟩ :=
    sound.origin_of_isFor firstFound firstFor
  obtain ⟨_, other, otherFound, otherMember, otherNamed, _, secondIdentity⟩ :=
    sound.origin_of_isFor secondFound secondFor
  rw [found] at otherFound
  cases otherFound
  have samePlanned : planned = other :=
    (sound.record found).2.graph.eq_of_stepId member otherMember (named.trans otherNamed.symm)
  have sameId : firstId = secondId := by
    rw [← sound.indexed.keyed firstFound, ← sound.indexed.keyed secondFound]
    have same := congrArg JobIdentity.jobId
      (firstIdentity.trans (samePlanned ▸ secondIdentity.symm))
    exact same
  rw [sameId, secondFound] at firstFound
  exact (Option.some.inj firstFound).symm

private theorem of_jobs (evolves : now.jobs.Evolves jobs) (indexed : jobs.Indexed)
    (origin : ∀ {jobId job}, jobs.get jobId = some job → Originates now.operations job) :
    Stores.Sound { now with jobs } := by
  refine ⟨indexed, sound.record, ?_, ?_, ?_, origin⟩
  · intro operationId operation found binding present
    obtain ⟨job, jobFound, belongs⟩ := sound.bound found binding present
    obtain ⟨later, laterFound, evolved⟩ := evolves.keeps jobFound
    exact ⟨later, laterFound, belongs.evolve evolved⟩
  · intro operationId operation found older olderPresent newer newerPresent same lower
    obtain ⟨job, jobFound, failure⟩ :=
      sound.superseded found older olderPresent newer newerPresent same lower
    obtain ⟨later, laterFound, evolved⟩ := evolves.keeps jobFound
    refine ⟨later, laterFound, ?_⟩
    rw [evolved.settled (JobStatus.isTerminal_of_isFailure failure), failure]
  · intro operationId operation found stepId binding active older
    obtain ⟨status, shown, terminal, verdict⟩ := sound.closed_terminal found active older
    exact ⟨status, shown.evolve evolves terminal, verdict⟩

theorem updated (updates : now.jobs.Updates jobs) : Stores.Sound { now with jobs } := by
  apply sound.of_jobs updates.evolves (sound.indexed.update updates)
  intro jobId job found
  obtain ⟨earlier, earlierFound, evolved⟩ := updates.origin found
  have sameOperation : job.operationId = earlier.operationId :=
    congrArg JobIdentity.operationId evolved.identity
  rw [Originates, sameOperation, evolved.identity]
  exact sound.origin earlierFound

theorem enqueued {planned : PlannedJob} (remembered : now.Remembers snapshot)
    (started : snapshot.status.hasStarted = true) (member : planned ∈ snapshot.plannedJobs)
    (pending : planned.stepId ∈ snapshot.pendingStepIds)
    (unlisted : now.jobs.lookup job.nodeId job.idempotencyKey = none)
    (fresh : now.jobs.get job.jobId = none)
    (identity : job.identity = stepIdentity snapshot.operationId snapshot.generation planned) :
    Stores.Sound { now with jobs := now.jobs.addJob job } := by
  apply sound.of_jobs (MemoryJobStore.addJob_evolves fresh) (sound.indexed.addJob unlisted fresh)
  intro jobId other found
  rw [MemoryJobStore.get_addJob] at found
  split_ifs at found with same
  · cases found
    obtain ⟨_, current, currentFound, evolved⟩ := remembered
    have named : job.operationId = snapshot.operationId := congrArg JobIdentity.operationId identity
    refine ⟨current, planned, snapshot.generation, ?_, ?_, evolved.generation, ?_,
      evolved.started started, ?_⟩
    · rw [named, currentFound]
    · rw [evolved.plannedJobs]
      exact member
    · rw [evolved.operationId, identity]
    · intro same
      rcases evolved.pending same.symm _ pending with waiting | ⟨binding, present, step, current⟩
      · exact .inl waiting
      · exact .inr ⟨binding, present, step, current.trans same.symm⟩
  · exact sound.origin found

private theorem origin_evolve {operations : MemoryOperationStore}
    (evolves : ∀ {operationId operation}, now.operations.get operationId = some operation →
      ∃ later, operations.get operationId = some later ∧ operation.Evolves later)
    (found : now.jobs.get jobId = some job) : Originates operations job := by
  obtain ⟨operation, planned, generation, operationFound, member, bounded, identity, started,
    current⟩ := sound.origin found
  obtain ⟨later, laterFound, evolved⟩ := evolves operationFound
  have grows := evolved.generation
  refine ⟨later, planned, generation, laterFound, ?_, by omega, ?_, evolved.started started, ?_⟩
  · rw [evolved.plannedJobs]
    exact member
  · rw [evolved.operationId, identity]
  · intro same
    have unchanged : generation = operation.generation := by omega
    rcases current unchanged with waiting | ⟨binding, present, step, bindingGeneration⟩
    · rcases evolved.pending (by omega) _ waiting with still | ⟨binding, present, step, newest⟩
      · exact .inl still
      · exact .inr ⟨binding, present, step, by omega⟩
    · exact .inr ⟨binding, evolved.bindings binding present, step, bindingGeneration⟩

theorem planned (wellFormed : operation.WellFormed) (status : operation.status = .planned)
    (fresh : now.operations.get operation.operationId = none) :
    Stores.Sound { now with operations := now.operations.insert operation } := by
  have effect : Effect now now { now with operations := now.operations.insert operation } :=
    .planned wellFormed status fresh
  have unbound : operation.jobBindings = [] := (wellFormed.unstarted (by rw [status]; rfl)).1
  refine ⟨sound.indexed, forall_insert ⟨rfl, wellFormed⟩ sound.record,
    forall_insert (by simp [unbound]) sound.bound,
    forall_insert (by simp [unbound]) sound.superseded, forall_insert ?_ sound.closed,
    sound.origin_evolve effect.evolves.operations⟩
  intro stepId binding active
  have present := (activeBinding_some active).1
  simp [unbound] at present

variable {loaded : Stores} {current next : DurableOperation}
  (found : now.operations.get next.operationId = some current)

include found

private theorem bound_update (update : Update loaded now current next) :
    ∀ binding ∈ next.jobBindings, ∃ job, now.jobs.get binding.jobId = some job ∧
      job.IsFor next.operationId binding.generation binding.stepId := by
  rw [update.operationId]
  cases update with
  | moves same =>
    rw [same.bindings]
    exact sound.bound found
  | binds ready binds jobs =>
    intro binding present
    rw [binds.bindings] at present
    rcases mem_append.mp present with old | new
    · exact sound.bound found binding old
    · obtain ⟨step, member, rfl⟩ := mem_map.mp new
      exact jobs step member
  | reopens reopening =>
    rw [reopening.bindings]
    exact sound.bound found

private theorem stale_failure (present : binding ∈ current.jobBindings)
    (pending : binding.stepId ∈ current.pendingStepIds) :
    ∃ job, now.jobs.get binding.jobId = some job ∧ job.status.isFailure = true := by
  obtain ⟨active, activeFound⟩ := activeBinding_isSome present
  obtain ⟨activePresent, sameStep, newest⟩ := activeBinding_some activeFound
  have wellFormed := (sound.record found).2
  have older := wellFormed.pendingOlder _ pending active activePresent sameStep
  by_cases same : binding.generation = active.generation
  · have identical : binding = active :=
      wellFormed.binding_unique present activePresent sameStep.symm same
    subst identical
    obtain ⟨status, ⟨shownBinding, job, shown, jobFound, rfl⟩, restarted, _⟩ :=
      sound.closed found activeFound older
    rw [activeFound] at shown
    cases shown
    exact ⟨job, jobFound, restarted pending⟩
  · have lower := newest binding present rfl
    exact sound.superseded found binding present active activePresent sameStep.symm (by omega)

private theorem superseded_update (update : Update loaded now current next) :
    ∀ older ∈ next.jobBindings, ∀ newer ∈ next.jobBindings,
      older.stepId = newer.stepId → older.generation < newer.generation →
      ∃ job, now.jobs.get older.jobId = some job ∧ job.status.isFailure = true := by
  cases update with
  | moves same =>
    rw [same.bindings]
    exact sound.superseded found
  | reopens reopening =>
    rw [reopening.bindings]
    exact sound.superseded found
  | binds ready binds =>
    rw [binds.bindings]
    intro older olderPresent newer newerPresent same lower
    rcases mem_append.mp olderPresent with old | new
    · rcases mem_append.mp newerPresent with newerOld | newerNew
      · exact sound.superseded found older old newer newerOld same lower
      · obtain ⟨step, member, rfl⟩ := mem_map.mp newerNew
        apply sound.stale_failure found old
        rw [same]
        exact (binds.planned step member).2
    · -- a binding of the current generation is not superseded
      obtain ⟨step, member, rfl⟩ := mem_map.mp new
      have bounded : newer.generation ≤ current.generation := by
        rcases mem_append.mp newerPresent with newerOld | newerNew
        · exact ((sound.record found).2.bound newer newerOld).1
        · obtain ⟨other, _, rfl⟩ := mem_map.mp newerNew
          exact le_rfl
      rw [bindingFor_generation] at lower
      omega

private theorem closed_update (update : Update loaded now current next)
    (active : next.activeBinding stepId = some binding)
    (older : binding.generation < next.generation) : ∃ status, now.ActiveStatus next stepId status ∧
      (stepId ∈ next.pendingStepIds → status.isFailure = true) ∧
      (stepId ∉ next.pendingStepIds → status = .succeeded) := by
  have wellFormed := (sound.record found).2
  obtain ⟨present, sameStep, newest⟩ := activeBinding_some active
  cases update with
  | moves same =>
    have sameActive := same.activeBinding_eq stepId
    rw [sameActive] at active
    rw [same.generation] at older
    simpa only [Stores.ActiveStatus, sameActive, same.pending] using sound.closed found active older
  | reopens reopening _ each =>
    have sameActive := reopening.activeBinding_eq stepId
    rw [sameActive] at active
    rw [reopening.bindings] at present
    obtain ⟨_, planned, member, shape⟩ := wellFormed.bound binding present
    have named : planned.stepId = stepId := by
      rw [← sameStep, shape]
      rfl
    have verdict := each planned member
    rw [named] at verdict
    rcases verdict with unbound | ⟨status, shown, restarted | kept⟩
    · rw [unbound] at active
      cases active
    · refine ⟨status, ?_, fun _ => restarted.2, fun absent => absurd restarted.1 absent⟩
      simpa only [Stores.ActiveStatus, sameActive] using shown
    · refine ⟨status, ?_, fun pending => absurd pending kept.1, fun _ => kept.2⟩
      simpa only [Stores.ActiveStatus, sameActive] using shown
  | binds ready binds =>
    rw [binds.generation] at older
    -- the newest binding is an old one, so the step was not bound by this update
    have notReady : stepId ∉ ready.map PlannedJob.stepId := by
      intro listed
      obtain ⟨step, member, same⟩ := mem_map.mp listed
      have added : bindingFor current step ∈ next.jobBindings := by
        rw [binds.bindings]
        exact mem_append_right _ (mem_map_of_mem member)
      have bounded := newest _ added same
      rw [bindingFor_generation] at bounded
      omega
    have samePending : stepId ∈ next.pendingStepIds ↔ stepId ∈ current.pendingStepIds := by
      rw [binds.pending, mem_filter]
      simp only [notReady, not_false_eq_true, decide_true, and_true]
    have sameActive := binds.activeBinding_eq notReady
    rw [sameActive] at active
    simpa only [Stores.ActiveStatus, sameActive, samePending] using sound.closed found active older

theorem replaced (accepts : Accepts current current.revision next)
    (update : Update loaded now current next) :
    Stores.Sound { now with operations := now.operations.insert next } := by
  have effect : Effect loaded now { now with operations := now.operations.insert next } :=
    .replaced found accepts update
  refine ⟨sound.indexed,
    forall_insert ⟨rfl, update.wellFormed (sound.record found).2⟩ sound.record,
    forall_insert (sound.bound_update found update) sound.bound,
    forall_insert (sound.superseded_update found update) sound.superseded,
    forall_insert ?_ sound.closed, sound.origin_evolve effect.evolves.operations⟩
  intro stepId binding active older
  exact sound.closed_update found update active older

end Stores.Sound

theorem Effect.sound (before : now.Sound) (effect : Effect loaded now after) : after.Sound := by
  cases effect with
  | idle => exact before
  | updated updates => exact before.updated updates
  | enqueued remembered started member pending unlisted fresh identity queued =>
    exact before.enqueued remembered started member pending unlisted fresh identity
  | planned wellFormed status fresh => exact before.planned wellFormed status fresh
  | replaced found accepts update => exact before.replaced found accepts update

end UntitledOJ
