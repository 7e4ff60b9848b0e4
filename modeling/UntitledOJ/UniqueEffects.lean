import UntitledOJ.CoordinatorRuns

/-!
# Each step takes effect once

One generation never holds two jobs for a step.  Across generations this rests on what `retry`
knows: it restarts every step without a successful binding, and does not see a job whose binding was
never saved.
-/

namespace UntitledOJ

open Platform JobStatus

section

variable {loaded now after : Stores} {operationId : String} {generation : Nat} {stepId : String}
  {job : Job}

/-- The jobs of closed generations are settled, and a step that succeeded in
one of them is over. -/
structure Stores.ClosedJobs (stores : Stores) : Prop where
  settled : ∀ {jobId job operationId operation generation stepId},
    stores.jobs.get jobId = some job → stores.operations.get operationId = some operation →
    job.IsFor operationId generation stepId → generation < operation.generation →
    job.status.isTerminal = true ∧ (job.status = .succeeded →
      stepId ∉ operation.pendingStepIds ∧ ∀ {otherId other again},
        stores.jobs.get otherId = some other → other.IsFor operationId again stepId →
        again ≤ generation)

theorem closedJobs_update {jobs : MemoryJobStore} (updates : now.jobs.Updates jobs)
    (holds : now.ClosedJobs) : Stores.ClosedJobs { now with jobs } := by
  refine ⟨?_⟩
  intro jobId job operationId operation generation stepId found operationFound belongs closed
  obtain ⟨earlier, earlierFound, evolved⟩ := updates.origin found
  have earlierFor : earlier.IsFor operationId generation stepId := belongs.of_evolves evolved
  obtain ⟨terminal, ended⟩ := holds.settled earlierFound operationFound earlierFor closed
  rw [evolved.settled terminal]
  refine ⟨terminal, ?_⟩
  intro succeeded
  obtain ⟨done, latest⟩ := ended succeeded
  refine ⟨done, ?_⟩
  intro otherId other again otherFound otherFor
  obtain ⟨_, earlierOtherFound, otherEvolved⟩ := updates.origin otherFound
  exact latest earlierOtherFound (otherFor.of_evolves otherEvolved)

variable [Digests]

/-- A step of which a job had succeeded was enqueued again, in a later
generation of the same operation. -/
def Stores.RepeatsStep (earlier later : Stores) : Prop :=
  ∃ done ∈ earlier.jobs.values, done.status = .succeeded ∧
    ∃ job ∈ earlier.created later, ∃ stepId generation again, generation < again ∧
      done.IsFor done.operationId generation stepId ∧ job.IsFor done.operationId again stepId

/-- The next generation is opened only when the jobs that no binding names have
ended without success. -/
def ReopensOverBoundJobs (now after : Stores) : Prop :=
  ∀ before ∈ now.operations.values, ∀ next ∈ after.operations.get before.operationId,
    before.generation < next.generation →
      ∀ job ∈ now.jobs.values, job.operationId = before.operationId →
        (∀ binding ∈ before.jobBindings, binding.jobId ≠ job.jobId) →
        job.status.isTerminal = true ∧ job.status ≠ .succeeded
deriving Decidable

/-- A step adds jobs for the current generation of the stored record only, and
opens the next generation only over bound jobs. -/
def RetriesRecordedJobs (_loaded now after : Stores) : Prop :=
  (∀ job ∈ now.created after, ∀ operation ∈ now.operations.get job.operationId,
    ∃ planned ∈ operation.plannedJobs,
      job.IsFor operation.operationId operation.generation planned.stepId) ∧
  ReopensOverBoundJobs now after
deriving Decidable

theorem closedJobs_reopens {current next : DurableOperation} (sound : now.Sound)
    (found : now.operations.get operationId = some current)
    (each : ∀ planned ∈ current.plannedJobs, current.activeBinding planned.stepId = none ∨
      ∃ status, now.ActiveStatus current planned.stepId status ∧
        ((planned.stepId ∈ next.pendingStepIds ∧ status.isFailure = true) ∨
          (planned.stepId ∉ next.pendingStepIds ∧ status = .succeeded)))
    (unseen : ∀ job ∈ now.jobs.values, job.operationId = current.operationId →
      (∀ binding ∈ current.jobBindings, binding.jobId ≠ job.jobId) →
      job.status.isTerminal = true ∧ job.status ≠ .succeeded)
    (holds : now.ClosedJobs) {jobId : String} (jobFound : now.jobs.get jobId = some job)
    (belongs : job.IsFor operationId generation stepId) :
    job.status.isTerminal = true ∧ (job.status = .succeeded →
      stepId ∉ next.pendingStepIds ∧ ∀ {otherId other again},
        now.jobs.get otherId = some other → other.IsFor operationId again stepId →
        again ≤ generation) := by
  obtain ⟨currentId, wellFormed⟩ := sound.record found
  have keyed := sound.indexed.keyed jobFound
  by_cases bound : ∃ binding ∈ current.jobBindings, binding.jobId = job.jobId
  · obtain ⟨binding, present, names⟩ := bound
    obtain ⟨shown, shownFound, shownFor⟩ := sound.bound found binding present
    rw [names, keyed, jobFound] at shownFound
    cases shownFound
    rw [currentId] at shownFor
    obtain ⟨rfl, rfl⟩ := shownFor.unique belongs
    obtain ⟨active, isActive⟩ := DurableOperation.activeBinding_isSome present
    obtain ⟨activePresent, sameStep, newest⟩ := DurableOperation.activeBinding_some isActive
    rcases (newest binding present rfl).lt_or_eq with older | same
    · obtain ⟨_, failedFound, failure⟩ :=
        sound.superseded found binding present active activePresent sameStep.symm older
      rw [names, keyed, jobFound] at failedFound
      cases failedFound
      refine ⟨isTerminal_of_isFailure failure, ?_⟩
      intro succeeded
      simp [succeeded, isFailure] at failure
    · have isBinding : active = binding :=
        wellFormed.binding_unique activePresent present sameStep same.symm
      rw [isBinding] at isActive
      obtain ⟨_, planned, member, shape⟩ := wellFormed.bound binding present
      have named : planned.stepId = binding.stepId := (congrArg JobBinding.stepId shape).symm
      rw [← named] at isActive ⊢
      rcases each planned member with unbound | ⟨_, shown, verdict⟩
      · simp [isActive] at unbound
      · obtain ⟨_, _, shownActive, shownFound, rfl⟩ := shown
        rw [isActive] at shownActive
        cases shownActive
        rw [names, keyed, jobFound] at shownFound
        cases shownFound
        rcases verdict with ⟨_, failure⟩ | ⟨kept, succeeded⟩
        · refine ⟨isTerminal_of_isFailure failure, ?_⟩
          intro succeeded
          simp [succeeded, isFailure] at failure
        · refine ⟨by rw [succeeded]; rfl, fun _ => ⟨kept, ?_⟩⟩
          intro otherId other again otherFound otherFor
          -- a job of this very generation is the latest one there can be
          rcases (wellFormed.bound binding present).1.lt_or_eq with closed | _
          · rw [named] at otherFor
            exact ((holds.settled jobFound found belongs closed).2 succeeded).2 otherFound otherFor
          · obtain ⟨_, _, otherOperation, _⟩ := sound.origin_of_isFor otherFound otherFor
            rw [found] at otherOperation
            cases otherOperation
            omega
  · push Not at bound
    obtain ⟨terminal, unsuccessful⟩ := unseen job (sound.mem_jobs.mpr (keyed ▸ jobFound))
      (by rw [currentId, belongs.1]) bound
    exact ⟨terminal, fun succeeded => absurd succeeded unsuccessful⟩

/-- A job that is added for the current generation belongs to a step that has
not succeeded before. -/
theorem unfinished_of_created {operation : DurableOperation} (sound : now.Sound)
    (holds : now.ClosedJobs) (found : now.operations.get operationId = some operation)
    {snapshot : DurableOperation} (remembered : now.Remembers snapshot) {planned : PlannedJob}
    (pending : planned.stepId ∈ snapshot.pendingStepIds)
    (identity : job.identity = stepIdentity snapshot.operationId snapshot.generation planned)
    (belongs : job.IsFor operationId operation.generation stepId) {doneId : String} {done : Job}
    (doneFound : now.jobs.get doneId = some done)
    (doneFor : done.IsFor operationId generation stepId)
    (closed : generation < operation.generation) : done.status ≠ .succeeded := by
  intro succeeded
  obtain ⟨kept, latest⟩ := (holds.settled doneFound found doneFor closed).2 succeeded
  obtain ⟨_, current, currentFound, evolved⟩ := remembered
  have isFor := Job.IsFor.of_identity identity
  have sameOperation : snapshot.operationId = operationId := isFor.1.symm.trans belongs.1
  rw [sameOperation] at isFor currentFound
  rw [found] at currentFound
  cases currentFound
  obtain ⟨sameGeneration, rfl⟩ := isFor.unique belongs
  rcases evolved.pending sameGeneration.symm planned.stepId pending with
    stillPending | ⟨binding, present, named, current⟩
  · exact kept stillPending
  · obtain ⟨_, boundFound, boundFor⟩ := sound.bound found binding present
    rw [named, current, (sound.record found).1] at boundFor
    have := latest boundFound boundFor
    omega

theorem closedJobs_step (sound : now.Sound) (recorded : RetriesRecordedJobs loaded now after)
    (effect : Effect loaded now after) (holds : now.ClosedJobs) : after.ClosedJobs := by
  have soundAfter := effect.sound sound
  obtain ⟨current, unseen⟩ := recorded
  -- what is added belongs to the current generation
  have added {jobId : String} {job : Job} (found : after.jobs.get jobId = some job)
      (fresh : now.jobs.get jobId = none) {operationId : String} {operation : DurableOperation}
      (operationFound : now.operations.get operationId = some operation) {generation : Nat}
      {stepId : String} (belongs : job.IsFor operationId generation stepId) :
      generation = operation.generation := by
    have keyed := soundAfter.indexed.keyed found
    obtain ⟨planned, _, isFor⟩ := current job
      (soundAfter.mem_created.mpr ⟨keyed.symm ▸ fresh, keyed.symm ▸ found⟩) operation
      (by rw [belongs.1, operationFound]; rfl)
    rw [(sound.record operationFound).1] at isFor
    exact (belongs.unique isFor).1
  refine ⟨?_⟩
  intro jobId job operationId operation generation stepId found operationFound belongs closed
  rcases effect.record_cases operationFound with unchanged | ⟨missing, _, sameJobs⟩ |
    ⟨before, beforeFound, _, update, sameJobs⟩
  · rcases effect.job_cases found with ⟨earlier, earlierFound, evolved⟩ | ⟨fresh, _⟩
    · have earlierFor : earlier.IsFor operationId generation stepId := belongs.of_evolves evolved
      obtain ⟨terminal, ended⟩ := holds.settled earlierFound unchanged earlierFor closed
      rw [evolved.settled terminal]
      refine ⟨terminal, fun succeeded => ⟨(ended succeeded).1, ?_⟩⟩
      intro otherId other again otherFound otherFor
      rcases effect.job_cases otherFound with ⟨_, earlierOtherFound, otherEvolved⟩ |
        ⟨fresh, _, _, _, _, remembered, _, _, pending, identity⟩
      · exact (ended succeeded).2 earlierOtherFound (otherFor.of_evolves otherEvolved)
      · have latest := added otherFound fresh unchanged otherFor
        rw [latest] at otherFor
        exact absurd succeeded (unfinished_of_created sound holds unchanged remembered pending
          identity otherFor earlierFound earlierFor closed)
    · have latest := added found fresh unchanged belongs
      omega
  · rw [sameJobs] at found
    obtain ⟨_, _, stored, _⟩ := sound.origin_of_isFor found belongs
    simp [missing] at stored
  · rw [sameJobs] at found ⊢
    obtain ⟨beforeId, _⟩ := sound.record beforeFound
    cases update with
    | moves same =>
      rw [same.pending]
      exact holds.settled found beforeFound belongs (same.generation ▸ closed)
    | binds ready binding =>
      obtain ⟨terminal, ended⟩ :=
        holds.settled found beforeFound belongs (binding.generation ▸ closed)
      refine ⟨terminal, fun succeeded => ⟨?_, (ended succeeded).2⟩⟩
      rw [binding.pending]
      exact fun pending => (ended succeeded).1 (List.mem_of_mem_filter pending)
    | reopens reopening _ each =>
      apply closedJobs_reopens sound beforeFound each _ holds found belongs
      apply unseen before
      · rw [sound.mem_operations, beforeId, beforeFound]
      · rw [beforeId, operationFound]
        rfl
      · rw [reopening.generation]
        exact Nat.lt_succ_self _

theorem closedJobs_run {last : controlPlane.Config}
    (run : Run (stepsMeet RetriesRecordedJobs) startup last) : last.state.ClosedJobs := by
  apply run_steps Relation.ReflTransGen.refl _ closedJobs_step _ run
  · refine ⟨?_⟩
    intro jobId job operationId operation generation stepId found
    simp [startup, Stores.empty, MemoryJobStore.empty, MemoryJobStore.get] at found
  · intro now jobs _ updates holds
    exact closedJobs_update updates holds

/-- Each planned step takes effect at most once: no generation ever holds two
jobs for it and, in every run that adds and retries only what the stored record
shows, a step that has succeeded is not enqueued again. -/
theorem step_takes_effect_once : (∀ last, Run anySchedule startup last →
      ∀ first ∈ last.state.jobs.values, ∀ second ∈ last.state.jobs.values,
        ∀ operationId generation stepId, first.IsFor operationId generation stepId →
          second.IsFor operationId generation stepId → first = second) ∧
    ∀ middle last, Run (stepsMeet RetriesRecordedJobs) startup middle →
      Run (stepsMeet RetriesRecordedJobs) middle last → ¬ middle.state.RepeatsStep last.state := by
  constructor
  · intro last run first firstStored second secondStored operationId generation stepId firstFor
      secondFor
    have sound := run_sound run
    exact sound.job_unique (sound.mem_jobs.mp firstStored) (sound.mem_jobs.mp secondStored)
      firstFor secondFor
  · rintro middle last before between ⟨done, stored, succeeded, job, created, stepId, generation,
      again, later, doneFor, jobFor⟩
    have whole := before.trans between
    have sound := run_sound whole
    have evolves := run_evolves before between
    obtain ⟨doneLater, doneFound, evolved⟩ :=
      evolves.jobs.keeps ((run_sound before).mem_jobs.mp stored)
    have stillSucceeded : doneLater.status = .succeeded := by
      rw [evolved.settled (by rw [succeeded]; rfl), succeeded]
    have jobFound := (sound.mem_created.mp created).2
    obtain ⟨_, _, operationFound, _⟩ := sound.origin_of_isFor jobFound jobFor
    have latest :=
      (((closedJobs_run whole).settled doneFound operationFound (doneFor.evolve evolved)
      (by omega)).2 stillSucceeded).2 jobFound jobFor
    omega

end

open Scenario

theorem retry_keeps_succeeded_step :
    ∃ middle last, Run (stepsMeet RetriesRecordedJobs) startup middle ∧
      Run (stepsMeet RetriesRecordedJobs) middle last ∧
      (∃ done ∈ middle.state.jobs.values, done.status = .succeeded) ∧
      middle.state.created last.state ≠ [] ∧ ¬ middle.state.RepeatsStep last.state := by
  let failing := forward "A" []
  let other := forward "X" []
  obtain ⟨middle, last, before, between, done, added⟩ :=
    exists_runs (stepsMeet RetriesRecordedJobs)
      (deployed [failing, other] 5 ++ settled 0 failing .failed ++ settled 0 other .succeeded ++
        projected 4)
      (retried 6)
      (fun earlier later => (∃ done ∈ earlier.jobs.values, done.status = .succeeded) ∧
        earlier.created later ≠ [])
      (by decide +kernel)
  exact ⟨middle, last, before, between, done, added,
    step_takes_effect_once.2 middle last before between⟩

/-- One projection has read that `S` is not ready.  Another enqueues `S` and stops before it
saves the binding.  `S` succeeds, the first projection ends the operation as failed, and the
retry enqueues `S` once more. -/
theorem succeeded_step_enqueued_again : ∃ middle last, Run anySchedule startup middle ∧
      Run anySchedule middle last ∧ middle.state.RepeatsStep last.state := by
  let first := forward "A" []
  let other := forward "X" []
  let second := forward "S" ["A"]
  obtain ⟨middle, last, before, between, done, stored, succeeded, doneFor, job, created, jobFor⟩ :=
    exists_runs anySchedule
      (deployed [first, other, second] 5 ++
        (.start ⟨.project "op" 0, 4⟩ :: steps 0 4) ++ settled 0 first .succeeded ++
        (.start ⟨.project "op" 0, 4⟩ :: steps 1 5) ++ [.crash 1] ++
        settled 0 second .succeeded ++ settled 0 other .failed ++ steps 0 4)
      (retried 8)
      (fun earlier later => ∃ done ∈ earlier.jobs.values, done.status = .succeeded ∧
        done.IsFor "op" 0 "S" ∧ ∃ job ∈ earlier.created later, job.IsFor "op" 1 "S")
      (by decide +kernel)
  have sameOperation := doneFor.1
  rw [← sameOperation] at doneFor jobFor
  exact ⟨middle, last, before, between, done, stored, succeeded, job, created, "S", 0, 1,
    Nat.zero_lt_one, doneFor, jobFor⟩

end UntitledOJ
