import UntitledOJ.AtomicPasses

/-!
# Compensators and what they compensate

An ON_FAILURE step is enqueued once its bound dependencies have ended and one of them has failed.
An unbound dependency may start after its compensator, unless it is already impossible: no later
pass of the generation enters the set of impossible steps.
-/

namespace UntitledOJ

open Platform

section

theorem compensationStepIds_congr (same : next.plannedJobs = operation.plannedJobs) :
    compensationStepIds next = compensationStepIds operation := by
  simp only [compensationStepIds, same]

variable {now after : Stores} {operation next : DurableOperation} {planned : PlannedJob}
variable {doomed : Set String}

/-- The step can never be enqueued in this generation, as long as the doomed
ones are not. -/
structure Stores.Hopeless (stores : Stores) (operation : DurableOperation)
    (doomed : Set String) (planned : PlannedJob) : Prop where
  onSuccess : planned.condition = .onSuccess → ∃ dependency ∈ planned.dependsOn,
    dependency ∈ doomed ∨ ∃ status, stores.ActiveStatus operation dependency status ∧
      status.isTerminal = true ∧ status ≠ .succeeded
  onFailure : planned.condition = .onFailure →
    (∃ dependency ∈ planned.dependsOn,
      stores.ActiveStatus operation dependency .needsAttention) ∨
    ∀ dependency ∈ planned.dependsOn,
      dependency ∈ doomed ∨ stores.ActiveStatus operation dependency .succeeded

/-- The doomed steps are pending, none of them can be enqueued, and nothing
that is bound can be bound again. -/
structure Stores.Sealed (stores : Stores) (operation : DurableOperation) (doomed : Set String) :
    Prop where
  unbound : ∀ stepId ∈ operation.pendingStepIds, operation.activeBinding stepId = none
  pending : ∀ stepId ∈ doomed, stepId ∈ operation.pendingStepIds
  hopeless : ∀ planned ∈ operation.plannedJobs, planned.stepId ∈ doomed →
    stores.Hopeless operation doomed planned

theorem Stores.Hopeless.transport (hopeless : now.Hopeless operation doomed planned)
    (kept : ∀ dependency ∈ planned.dependsOn, ∀ status, status.isTerminal = true →
      now.ActiveStatus operation dependency status → after.ActiveStatus next dependency status) :
    after.Hopeless next doomed planned := by
  constructor
  · intro onSuccess
    obtain ⟨dependency, needed, lost | ⟨status, shown, terminal, failure⟩⟩ :=
      hopeless.onSuccess onSuccess
    · exact ⟨dependency, needed, .inl lost⟩
    · exact ⟨dependency, needed, .inr
        ⟨status, kept dependency needed status terminal shown, terminal, failure⟩⟩
  · intro onFailure
    rcases hopeless.onFailure onFailure with ⟨dependency, needed, shown⟩ | skipped
    · exact .inl ⟨dependency, needed, kept dependency needed _ rfl shown⟩
    · refine .inr fun dependency needed => ?_
      exact (skipped dependency needed).imp_right (kept dependency needed _ rfl)

namespace Stores.Sealed

theorem evolve (closed : now.Sealed operation doomed) (evolves : now.jobs.Evolves after.jobs) :
    after.Sealed operation doomed := by
  refine ⟨closed.unbound, closed.pending, ?_⟩
  intro planned member lost
  exact (closed.hopeless planned member lost).transport
    fun _ _ _ terminal shown => shown.evolve evolves terminal

theorem sameWork (closed : now.Sealed operation doomed) (same : operation.SameWork next) :
    now.Sealed next doomed := by
  refine ⟨?_, ?_, ?_⟩
  · intro stepId waiting
    rw [same.activeBinding_eq]
    exact closed.unbound stepId (same.pending ▸ waiting)
  · rw [same.pending]
    exact closed.pending
  · intro planned member lost
    exact (closed.hopeless planned (same.plannedJobs ▸ member) lost).transport
      fun dependency _ _ _ shown => shown.of_activeBinding (same.activeBinding_eq dependency)

theorem not_enabled (closed : now.Sealed operation doomed)
    (member : planned ∈ operation.plannedJobs) (lost : planned.stepId ∈ doomed) :
    ¬ now.Enabled operation planned := by
  intro enabled
  have hopeless := closed.hopeless planned member lost
  have unbound {dependency : String} (doomedToo : dependency ∈ doomed) :
      operation.activeBinding dependency = none :=
    closed.unbound dependency (closed.pending dependency doomedToo)
  cases condition : planned.condition with
  | onSuccess =>
    obtain ⟨dependency, needed, doomedToo | ⟨status, shown, _, failure⟩⟩ :=
      hopeless.onSuccess condition
    · exact (enabled.succeeded condition dependency needed).bound (unbound doomedToo)
    · exact failure (shown.unique (enabled.succeeded condition dependency needed))
  | onFailure =>
    rcases hopeless.onFailure condition with ⟨dependency, needed, attention⟩ | skipped
    · obtain ⟨status, shown, _, known⟩ :=
        enabled.settled condition dependency needed attention.bound
      exact known (shown.unique attention)
    · obtain ⟨dependency, needed, _, shown, failure⟩ := enabled.failed condition
      rcases skipped dependency needed with doomedToo | succeeded
      · exact shown.bound (unbound doomedToo)
      · rw [shown.unique succeeded] at failure
        cases failure

end Stores.Sealed

/-- No dependency of the step can be enqueued any more in this generation:
the pending ones are doomed, or the operation was cancelled and they are
forward steps. -/
def Stores.Guards (stores : Stores) (operation : DurableOperation) (planned : PlannedJob)
    (doomed : Set String) : Prop :=
  (operation.status ≠ .cancelling ∧ stores.Sealed operation doomed ∧
      ∀ dependency ∈ planned.dependsOn, dependency ∈ operation.pendingStepIds →
        dependency ∈ doomed) ∨
    (operation.status = .cancelling ∨ operation.status = .cancelled ∨
        operation.status = .needsAttention) ∧
      ∀ dependency ∈ planned.dependsOn, dependency ∈ operation.pendingStepIds →
        dependency ∉ compensationStepIds operation

/-- The ON_FAILURE step has a job in this generation, and while the generation
lasts none of its dependencies can be enqueued. -/
structure Stores.Guarded (stores : Stores) (operationId : String) (generation : Nat)
    (planned : PlannedJob) (doomed : Set String) : Prop where
  started : ∃ job ∈ stores.jobs.values, job.IsFor operationId generation planned.stepId
  record : ∀ operation, stores.operations.get operationId = some operation →
    operation.generation = generation →
    planned ∈ operation.plannedJobs ∧ stores.Guards operation planned doomed

variable {operationId : String} {generation : Nat}

theorem Stores.Guards.evolve (guards : now.Guards operation planned doomed)
    (evolves : now.jobs.Evolves after.jobs) : after.Guards operation planned doomed :=
  guards.imp_left fun ⟨running, closed, lost⟩ => ⟨running, closed.evolve evolves, lost⟩

theorem Stores.Guarded.evolve (guarded : now.Guarded operationId generation planned doomed)
    (evolves : now.jobs.Evolves after.jobs)
    (record : ∀ operation, after.operations.get operationId = some operation →
      operation.generation = generation →
      planned ∈ operation.plannedJobs ∧ now.Guards operation planned doomed) :
    after.Guarded operationId generation planned doomed := by
  obtain ⟨_, stored, belongs⟩ := guarded.started
  obtain ⟨jobId, found⟩ := MemoryJobStore.mem_values.mp stored
  obtain ⟨later, laterFound, evolved⟩ := evolves.keeps found
  refine ⟨⟨later, MemoryJobStore.mem_values.mpr ⟨jobId, laterFound⟩, belongs.evolve evolved⟩, ?_⟩
  intro operation operationFound current
  obtain ⟨member, guards⟩ := record operation operationFound current
  exact ⟨member, guards.evolve evolves⟩

variable [Digests]

/-- While the operation is enqueued or runs, a job of an ON_FAILURE step is
added although a dependency has a live job, or gets a job later in the same
generation. -/
def Stores.Overtakes (now after later : Stores) : Prop :=
  ∃ operation ∈ now.operations.values,
    (operation.status = .enqueuing ∨ operation.status = .running) ∧
    ∃ planned ∈ operation.plannedJobs, planned.condition = .onFailure ∧
      (∃ job ∈ now.created after,
        job.IsFor operation.operationId operation.generation planned.stepId) ∧
      ∃ dependency ∈ planned.dependsOn,
        (∃ other ∈ now.jobs.values, other.status.isTerminal = false ∧
          ∃ generation, other.IsFor operation.operationId generation dependency) ∨
        ∃ other ∈ after.created later,
          other.IsFor operation.operationId operation.generation dependency

/-- Nothing that the step depends on can get a job any more: no pending step is bound already, the
pending dependencies are impossible, and jobs of dependencies are bound. -/
def Stores.IdleBefore (stores : Stores) (operation : DurableOperation) (planned : PlannedJob) :
    Prop :=
  (∀ stepId ∈ operation.pendingStepIds, operation.activeBinding stepId = none) ∧
    (∀ source ∈ operation.plannedJobs, source.stepId ∈ planned.dependsOn →
      source.stepId ∈ operation.pendingStepIds →
      stores.reads (stepIsImpossible operation source) = .ok true) ∧
    ∀ job ∈ stores.jobs.values, ∀ dependency ∈ planned.dependsOn,
      ∀ generation ∈ List.range (operation.generation + 1),
        job.IsFor operation.operationId generation dependency →
        ∃ binding ∈ operation.jobBindings, binding.jobId = job.jobId
deriving Decidable

/-- Jobs of ON_FAILURE steps are added only over idle dependencies, and an
operation is cancelled only while no compensation step is pending that an
ON_FAILURE step with a job depends on. -/
def CompensatesIdleSteps (_loaded now after : Stores) : Prop :=
  ∀ operation ∈ now.operations.values, ∀ planned ∈ operation.plannedJobs,
    planned.condition = .onFailure →
    (operation.status = .enqueuing ∨ operation.status = .running →
      (∃ job ∈ now.created after,
        job.IsFor operation.operationId operation.generation planned.stepId) →
      now.IdleBefore operation planned) ∧
    ((∃ job ∈ now.jobs.values,
        job.IsFor operation.operationId operation.generation planned.stepId) →
      ∀ next ∈ after.operations.get operation.operationId,
        operation.status ≠ .cancelling → next.status = .cancelling →
        ∀ dependency ∈ planned.dependsOn, dependency ∈ operation.pendingStepIds →
          dependency ∉ compensationStepIds operation)
deriving Decidable

theorem Stores.Sealed.binds (closed : now.Sealed operation doomed) {ready : List PlannedJob}
    (binding : operation.Binds next ready) (enabled : ∀ step ∈ ready, now.Enabled operation step) :
    now.Sealed next doomed := by
  have stays {stepId : String} (notPending : stepId ∉ operation.pendingStepIds) :
      stepId ∉ ready.map PlannedJob.stepId := by
    intro listed
    obtain ⟨step, member, rfl⟩ := List.mem_map.mp listed
    exact notPending (binding.planned step member).2
  refine ⟨?_, ?_, ?_⟩
  · intro stepId waiting
    rw [binding.pending] at waiting
    obtain ⟨pending, notReady⟩ := List.mem_filter.mp waiting
    rw [binding.activeBinding_eq (of_decide_eq_true notReady)]
    exact closed.unbound stepId pending
  · intro stepId lost
    rw [binding.pending]
    refine List.mem_filter.mpr ⟨closed.pending stepId lost, ?_⟩
    rw [decide_eq_true_eq]
    intro listed
    obtain ⟨step, member, rfl⟩ := List.mem_map.mp listed
    exact closed.not_enabled (binding.planned step member).1 lost (enabled step member)
  · intro planned member lost
    apply (closed.hopeless planned (binding.plannedJobs ▸ member) lost).transport
    intro dependency _ status _ shown
    -- a bound step is not pending, so it keeps its binding
    have notPending : dependency ∉ operation.pendingStepIds :=
      fun pending => shown.bound (closed.unbound dependency pending)
    exact shown.of_activeBinding (binding.activeBinding_eq (stays notPending))

def Stores.impossibleSteps (stores : Stores) (operation : DurableOperation) : Set String :=
  { stepId | ∃ source fuel visiting, operation.findPlanned stepId = some source ∧
      operation.activeBinding stepId = none ∧
      (plannedStepIsImpossible operation fuel visiting source).Yields stores.Answers (.ok true) }

theorem Stores.Hopeless.of_impossible (graph : PlanGraph operation.plannedJobs)
    (member : planned ∈ operation.plannedJobs)
    (lost : planned.stepId ∈ now.impossibleSteps operation) :
    now.Hopeless operation (now.impossibleSteps operation) planned := by
  obtain ⟨_, _, _, found, _, yielded⟩ := lost
  rw [findPlanned_stepId graph member] at found
  cases found
  obtain ⟨fewer, wider, _, yielded⟩ := yields_impossible yielded
  constructor
  · intro onSuccess
    obtain ⟨dependency, needed, ⟨status, shown, ended⟩ |
      ⟨unbound, other, otherFound, impossible⟩⟩ :=
      yields_impossibleFrom_onSuccess onSuccess yielded
    · exact ⟨dependency, needed, .inr ⟨status, shown.activeStatus, ended⟩⟩
    · exact ⟨dependency, needed, .inl ⟨other, fewer, wider, otherFound, unbound, impossible⟩⟩
  · intro onFailure
    rcases yields_impossibleFrom_onFailure onFailure yielded with
      ⟨dependency, needed, shown⟩ | ⟨_, skipped⟩
    · exact .inl ⟨dependency, needed, shown.activeStatus⟩
    · refine .inr fun dependency needed => ?_
      rcases skipped dependency needed with shown | ⟨unbound, other, otherFound, impossible⟩
      · exact .inr shown.activeStatus
      · exact .inl ⟨other, fewer, wider, otherFound, unbound, impossible⟩

section

variable (wellFormed : operation.WellFormed) (idle : now.IdleBefore operation planned)
include wellFormed idle

theorem Stores.IdleBefore.sealed : now.Sealed operation (now.impossibleSteps operation) := by
  refine ⟨idle.1, ?_, ?_⟩
  · rintro stepId ⟨source, _, _, found, unbound, _⟩
    obtain ⟨member, rfl⟩ := findPlanned_some found
    exact wellFormed.pending_of_unbound member unbound
  · intro source member lost
    exact Stores.Hopeless.of_impossible wellFormed.graph member lost

theorem Stores.IdleBefore.dependencies :
    ∀ dependency ∈ planned.dependsOn, dependency ∈ operation.pendingStepIds →
      dependency ∈ now.impossibleSteps operation := by
  intro dependency needed pending
  obtain ⟨source, member, rfl⟩ := wellFormed.pendingPlanned dependency pending
  have impossible := idle.2.1 source member needed pending
  exact ⟨source, _, _, findPlanned_stepId wellFormed.graph member,
    idle.1 _ pending,
    (Stores.yields_iff_reads (plannedStepIsImpossible_readOnly _ _ _)).mpr impossible⟩

end

theorem Stores.Guards.update {loaded : Stores} (guards : now.Guards operation planned doomed)
    (accepts : MemoryOperationStore.Accepts operation operation.revision next)
    (update : Update loaded now operation next) (same : next.generation = operation.generation)
    (frozen : operation.status ≠ .cancelling → next.status = .cancelling →
      ∀ dependency ∈ planned.dependsOn, dependency ∈ operation.pendingStepIds →
        dependency ∉ compensationStepIds operation) : now.Guards next planned doomed := by
  have evolves := update.evolves accepts.revision
  have fewer : ∀ stepId ∈ next.pendingStepIds, stepId ∈ operation.pendingStepIds := by
    cases update with
    | moves work => exact fun stepId pending => work.pending ▸ pending
    | binds ready binding =>
      intro stepId pending
      rw [binding.pending] at pending
      exact (List.mem_filter.mp pending).1
    | reopens reopening =>
      have raised := reopening.generation
      omega
  rcases guards with ⟨running, closed, lost⟩ | ⟨ended, forward⟩
  · by_cases cancelling : next.status = .cancelling
    · refine .inr ⟨.inl cancelling, ?_⟩
      intro dependency needed pending
      rw [compensationStepIds_congr evolves.plannedJobs]
      exact frozen running cancelling dependency needed (fewer dependency pending)
    · refine .inl ⟨cancelling, ?_, fun dependency needed pending =>
        lost dependency needed (fewer dependency pending)⟩
      cases update with
      | moves work => exact closed.sameWork work
      | binds ready binding jobs active enabled =>
        apply closed.binds binding
        intro step member
        exact (enabled step member).resolve_left fun contrary => running contrary.1
      | reopens reopening =>
        have raised := reopening.generation
        omega
  · refine .inr ⟨?_, ?_⟩
    · have transition := accepts.transition
      have notFailed : next.status = .failed → operation.status = .running := by
        cases update with
        | moves _ _ failing => exact failing
        | binds _ _ _ active => rcases active with active | active <;> simp [active]
        | reopens _ _ _ enqueuing => simp [enqueuing]
      rcases ended with status | status | _ <;>
        cases target : next.status <;>
        simp_all [validStatusTransition]
    · intro dependency needed pending
      rw [compensationStepIds_congr evolves.plannedJobs]
      exact forward dependency needed (fewer dependency pending)

variable {first last : controlPlane.Config} {dependency : String}

theorem guarded_step {loaded : Stores} (onFailure : planned.condition = .onFailure)
    (sound : now.Sound) (meets : CompensatesIdleSteps loaded now after)
    (effect : Effect loaded now after)
    (guarded : now.Guarded operationId generation planned doomed) :
    after.Guarded operationId generation planned doomed := by
  apply guarded.evolve effect.evolves.jobs
  intro next nextFound currentGeneration
  obtain ⟨job, jobStored, belongs⟩ := guarded.started
  obtain ⟨current, _, found, _⟩ := sound.origin_of_isFor (sound.mem_jobs.mp jobStored) belongs
  rcases effect.record_cases nextFound with unchanged | ⟨missing, _⟩ |
    ⟨_, beforeFound, accepts, update, _⟩
  · exact guarded.record next unchanged currentGeneration
  · simp [found] at missing
  · rw [found] at beforeFound
    cases beforeFound
    have evolves := update.evolves accepts.revision
    have grows := evolves.generation
    have same : current.generation = generation := by omega
    obtain ⟨member, guards⟩ := guarded.record current found same
    have named := (sound.record found).1
    refine ⟨evolves.plannedJobs ▸ member, guards.update accepts update (by omega) ?_⟩
    have stored := sound.mem_operations.mpr (named ▸ found)
    refine (meets current stored planned member onFailure).2 ⟨job, jobStored, ?_⟩ next
      (by rw [named]; exact nextFound)
    rw [named, same]
    exact belongs

theorem guarded_run (onFailure : planned.condition = .onFailure)
    (reached : Run (stepsMeet CompensatesIdleSteps) startup first)
    (guarded : first.state.Guarded operationId generation planned doomed)
    (run : Run (stepsMeet CompensatesIdleSteps) first last) :
    last.state.Guarded operationId generation planned doomed := by
  apply run_steps reached guarded (guarded_step onFailure) _ run
  intro now jobs _ updates holds
  exact holds.evolve updates.evolves holds.record

theorem no_dependency_created {config next : controlPlane.Config}
    (run : Run (atomicCalls CompensatesIdleSteps) startup config)
    (step : Step (atomicCalls CompensatesIdleSteps) config next)
    (guarded : config.state.Guarded operationId generation planned doomed) {job : Job}
    (created : job ∈ config.state.created next.state) (needed : dependency ∈ planned.dependsOn) :
    ¬ job.IsFor operationId generation dependency := by
  intro belongs
  obtain ⟨operation, _, passing, member, pending, identity⟩ :=
    created_passing (run_serial run) (step_serial step) created
  have isFor := Job.IsFor.of_identity identity
  obtain rfl : operation.operationId = operationId := isFor.1.symm.trans belongs.1
  obtain ⟨rfl, rfl⟩ := isFor.unique belongs
  rcases (guarded.record operation passing.stored rfl).2 with ⟨running, closed, lost⟩ |
    ⟨ended, forward⟩
  · have graph := ((run_sound run).record passing.stored).2.graph
    apply closed.not_enabled member (lost _ needed pending)
    exact (passing.enabled graph).resolve_left fun contrary => running contrary.1
  · have cancelling : operation.status = .cancelling := by
      have materializes := passing.materializes
      rcases ended with status | status | status
      · exact status
      · simp [status, DurableOperationStatus.materializes] at materializes
      · simp [status, DurableOperationStatus.materializes] at materializes
    obtain ⟨_, _, chosen⟩ := passing.pass
    exact forward _ needed pending (chosen.considered cancelling)

theorem no_dependency_enqueued (onFailure : planned.condition = .onFailure)
    (reached : Run (atomicCalls CompensatesIdleSteps) startup first)
    (guarded : first.state.Guarded operationId generation planned doomed)
    (run : Run (atomicCalls CompensatesIdleSteps) first last)
    (needed : dependency ∈ planned.dependsOn) :
    ∀ job ∈ first.state.created last.state, ¬ job.IsFor operationId generation dependency := by
  induction run with
  | refl =>
    intro job created
    obtain ⟨fresh, found⟩ := (run_sound reached).mem_created.mp created
    simp [fresh] at found
  | @tail config next earlier step ih =>
    intro job created belongs
    have sofar := reached.trans earlier
    have soundNext : next.state.Sound := run_sound (sofar.tail step)
    obtain ⟨fresh, found⟩ := soundNext.mem_created.mp created
    cases before : config.state.jobs.get job.jobId with
    | none =>
      have still := guarded_run onFailure (run_of_atomic reached) guarded (run_of_atomic earlier)
      exact no_dependency_created sofar step still
        (soundNext.mem_created.mpr ⟨before, found⟩) needed belongs
    | some other =>
      obtain ⟨_, laterFound, evolved⟩ := (step_evolves sofar step).jobs.keeps before
      rw [found] at laterFound
      cases laterFound
      have named := (run_sound sofar).indexed.keyed before
      refine ih other ((run_sound sofar).mem_created.mpr ?_) (belongs.of_evolves evolved)
      rw [named]
      exact ⟨fresh, before⟩

/-- A compensator never overtakes what it compensates, in every run of atomic
calls that enqueues compensators only over idle dependencies. -/
theorem no_compensator_overtakes {config next last : controlPlane.Config}
    (run : Run (atomicCalls CompensatesIdleSteps) startup config)
    (step : Step (atomicCalls CompensatesIdleSteps) config next)
    (later : Run (atomicCalls CompensatesIdleSteps) next last) :
    ¬ config.state.Overtakes next.state last.state := by
  rintro ⟨operation, stored, status, planned, member, onFailure, ⟨job, created, belongs⟩,
    dependency, needed, overtaken⟩
  have sound := run_sound run
  have found := sound.mem_operations.mp stored
  have wellFormed := (sound.record found).2
  have running : operation.status ≠ .cancelling := by
    rcases status with status | status <;> simp [status]
  obtain ⟨⟨_, meets⟩, unchanged⟩ := created_meets (run_of_atomic run) (step_of_atomic step) created
  have idle : config.state.IdleBefore operation planned :=
    (meets operation stored planned member onFailure).1 status ⟨job, created, belongs⟩
  rcases overtaken with ⟨other, otherStored, live, generation, otherFor⟩ | ⟨other, added, otherFor⟩
  · have otherFound := sound.mem_jobs.mp otherStored
    obtain ⟨_, _, sameFound, _⟩ := sound.origin_of_isFor otherFound otherFor
    rw [found] at sameFound
    cases sameFound
    obtain ⟨binding, present, named⟩ := idle.2.2 other otherStored dependency needed generation
      (List.mem_range.mpr (by omega)) otherFor
    have passing := (passing_of_created (run_serial run) (step_serial step) created stored member
      belongs).1
    have enabled := (passing.enabled wellFormed.graph).resolve_left fun contrary =>
      running contrary.1
    obtain ⟨bound, boundFound, boundFor⟩ := sound.bound found binding present
    rw [named, otherFound] at boundFound
    cases boundFound
    obtain ⟨_, rfl⟩ := boundFor.unique otherFor
    obtain ⟨_, endedFound, terminal⟩ := sound.binding_terminal found present fun bound => by
      obtain ⟨status, shown, terminal, _⟩ := enabled.settled onFailure _ needed bound
      exact ⟨status, shown, terminal⟩
    rw [named, otherFound] at endedFound
    cases endedFound
    simp [live] at terminal
  · have evolves := step_evolves run step
    have guarded : next.state.Guarded operation.operationId operation.generation planned
        (config.state.impossibleSteps operation) := by
      refine ⟨⟨job, ?_, belongs⟩, ?_⟩
      · have soundNext : next.state.Sound := run_sound (run.tail step)
        exact soundNext.mem_jobs.mpr (soundNext.mem_created.mp created).2
      · intro current currentFound _
        rw [unchanged, found] at currentFound
        cases currentFound
        exact ⟨member, .inl ⟨running, (idle.sealed wellFormed).evolve evolves.jobs,
          idle.dependencies wellFormed⟩⟩
    exact no_dependency_enqueued onFailure (run.tail step) guarded later needed other added otherFor

end

open Scenario

/-- `B` can no longer run when `C` is enqueued, and has no job at the end. -/
theorem compensator_after_impossible_step : ∃ config next last,
      Run (atomicCalls CompensatesIdleSteps) startup config ∧
      Step (atomicCalls CompensatesIdleSteps) config next ∧
      Run (atomicCalls CompensatesIdleSteps) next last ∧
      (∃ job ∈ config.state.created next.state, job.IsFor "op" 0 "C") ∧
      (∃ operation ∈ last.state.operations.values, operation.status = .failed) ∧
      ¬ config.state.Overtakes next.state last.state := by
  let failing := forward "A" []
  let compensating := compensator "C" ["A", "B"]
  obtain ⟨config, next, last, run, step, later, created, failed⟩ :=
    exists_step_run (atomicCalls CompensatesIdleSteps)
      (deployed [failing, forward "B" ["A"], compensating] 4 ++ settled 0 failing .failed ++
        (.start ⟨.project "op" 0, 4⟩ :: steps 0 4))
      (.step 0) (steps 0 5 ++ settled 0 compensating .succeeded ++ projected 8)
      (fun now after later => (∃ job ∈ now.created after, job.IsFor "op" 0 "C") ∧
        ∃ operation ∈ later.operations.values, operation.status = .failed)
      (by decide +kernel)
  exact ⟨config, next, last, run, step, later, created, failed,
    no_compensator_overtakes run step later⟩

/-- `A` has failed, so `C` is enqueued while `B` waits for `X`.  Then `X`
succeeds, and `B` starts after the step that compensates it. -/
theorem dependency_enqueued_after_compensator :
    ∃ config next last, Run serialSchedule startup config ∧
      Step serialSchedule config next ∧ Run serialSchedule next last ∧
      config.state.Overtakes next.state last.state := by
  let failing := forward "A" []
  let slow := forward "X" []
  obtain ⟨config, next, last, run, step, later, operation, stored, status, planned, member,
    onFailure, added, dependency, needed, enqueued⟩ := exists_step_run serialSchedule
      (deployed [failing, slow, forward "B" ["X"], compensator "C" ["A", "B"]] 5 ++
        settled 0 failing .failed ++ (.start ⟨.project "op" 0, 4⟩ :: steps 0 5))
      (.step 0) (steps 0 6 ++ settled 0 slow .succeeded ++ projected 12)
      (fun now after later => ∃ operation ∈ now.operations.values,
        (operation.status = .enqueuing ∨ operation.status = .running) ∧
        ∃ planned ∈ operation.plannedJobs, planned.condition = .onFailure ∧
          (∃ job ∈ now.created after,
            job.IsFor operation.operationId operation.generation planned.stepId) ∧
          ∃ dependency ∈ planned.dependsOn, ∃ other ∈ after.created later,
            other.IsFor operation.operationId operation.generation dependency)
      (by decide +kernel)
  exact ⟨config, next, last, run, step, later, operation, stored, status, planned, member,
    onFailure, added, dependency, needed, .inr enqueued⟩

end UntitledOJ
