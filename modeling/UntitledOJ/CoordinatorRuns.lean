import UntitledOJ.CoordinatorProtocol

/-!
# Runs of coordinators and workers

Every configuration that a schedule reaches from empty stores is sound, and each step has one of
the listed effects.  A property of runs needs one argument for a job that a step finds or adds and
one for a record that it finds or replaces.
-/

namespace UntitledOJ

open Platform MemoryOperationStore

variable [Digests]

def Stores.created (now after : Stores) : List Job :=
  after.jobs.values.filter fun job => (now.jobs.get job.jobId).isNone

variable {job : Job} {loaded now after : Stores}

namespace Stores.Sound

theorem mem_jobs (sound : now.Sound) :
    job ∈ now.jobs.values ↔ now.jobs.get job.jobId = some job := by
  rw [MemoryJobStore.mem_values]
  constructor
  · rintro ⟨jobId, found⟩
    rw [sound.indexed.keyed found, found]
  · exact fun found => ⟨job.jobId, found⟩

theorem mem_operations (sound : now.Sound) {operation : DurableOperation} :
    operation ∈ now.operations.values ↔
      now.operations.get operation.operationId = some operation := by
  rw [mem_values]
  constructor
  · rintro ⟨operationId, found⟩
    rw [(sound.record found).1, found]
  · exact fun found => ⟨operation.operationId, found⟩

theorem mem_created (sound : after.Sound) : job ∈ now.created after ↔
      now.jobs.get job.jobId = none ∧ after.jobs.get job.jobId = some job := by
  simp only [created, List.mem_filter, sound.mem_jobs, Option.isNone_iff_eq_none]
  exact and_comm

end Stores.Sound

theorem Effect.job_cases (effect : Effect loaded now after) {jobId : String}
    (found : after.jobs.get jobId = some job) :
    (∃ earlier, now.jobs.get jobId = some earlier ∧ earlier.Evolves job) ∨
      now.jobs.get jobId = none ∧ job.status = .queued ∧ after.operations = now.operations ∧
        ∃ snapshot planned, now.Remembers snapshot ∧ snapshot.status.hasStarted = true ∧
          planned ∈ snapshot.plannedJobs ∧ planned.stepId ∈ snapshot.pendingStepIds ∧
          job.identity = stepIdentity snapshot.operationId snapshot.generation planned := by
  cases effect with
  | idle | planned wellFormed status fresh | replaced found' accepts update =>
    exact .inl ⟨job, found, .refl job⟩
  | updated updates => exact .inl (updates.origin found)
  | @enqueued snapshot planned added remembered started member pending _ fresh identity queued =>
    rw [MemoryJobStore.get_addJob] at found
    split_ifs at found with same
    · cases found
      subst same
      exact .inr ⟨fresh, queued, rfl, snapshot, planned, remembered, started, member, pending,
        identity⟩
    · exact .inl ⟨job, found, .refl job⟩

theorem Effect.record_cases (effect : Effect loaded now after) {operationId : String}
    {next : DurableOperation} (found : after.operations.get operationId = some next) :
    now.operations.get operationId = some next ∨
      (now.operations.get operationId = none ∧ next.status = .planned ∧ after.jobs = now.jobs) ∨
      ∃ current, now.operations.get operationId = some current ∧
        MemoryOperationStore.Accepts current current.revision next ∧
        Update loaded now current next ∧ after.jobs = now.jobs := by
  cases effect with
  | idle | updated updates
  | enqueued remembered started member pending unlisted fresh identity queued => exact .inl found
  | @planned operation wellFormed status fresh =>
    rw [get_insert] at found
    split_ifs at found with same
    · cases found
      exact .inr (.inl ⟨same ▸ fresh, status, rfl⟩)
    · exact .inl found
  | @replaced current stored currentFound accepts update =>
    rw [get_insert] at found
    split_ifs at found with same
    · cases found
      exact .inr (.inr ⟨current, same ▸ currentFound, accepts, update, rfl⟩)
    · exact .inl found

variable {permits : controlPlane.Discipline} {last : controlPlane.Config} {request : StoreCall}
  {loaded : Stores} {index : Nat}

section

variable (run : Run permits startup last)
include run

private theorem run_complies : last.state.Sound ∧ ∀ thread ∈ last.threads,
      (∃ request next, thread.program = .call request next) ∧
        thread.program.Ensures (protocol False) (fun _ _ _ => True) thread.loaded last.state := by
  refine @run_invariant controlPlane (Relies False) (Guarantee False) Stores.Sound
    (Relies.refl False) Relies.trans ?_ ?_ ?_ permits startup last rfl Stores.sound_empty run
  · exact fun task state _ => program_complies task state state trivial
  · intro loaded request state sound guaranteed
    have effect := Guarantee.effect sound guaranteed
    exact ⟨effect.sound sound, effect.evolves, False.elim⟩
  · intro happening state sound
    obtain ⟨jobs, shape, updates⟩ := react_updates sound happening
    have effect : Effect state state { state with jobs } := .updated updates
    simp only [shape]
    exact ⟨effect.sound sound, effect.evolves, False.elim⟩

theorem run_sound : last.state.Sound := (run_complies run).1

theorem run_effect (performs : last.Performs index loaded request) :
    Effect loaded last.state (request.exec last.state).2 := by
  obtain ⟨sound, complies⟩ := run_complies run
  obtain ⟨_, found⟩ := performs
  have ensured := (complies _ (List.mem_of_getElem? found)).2
  exact Guarantee.effect sound (ensured last.state (Relies.refl False _) sound).1

end

variable {config after : controlPlane.Config} {condition : Stores → Stores → Stores → Prop}
  {first : controlPlane.Config}

section

variable (run : Run permits startup config) (step : Step permits config after)
include run step

theorem step_effect :
    (∃ jobs, config.state.jobs.Updates jobs ∧ after.state = { config.state with jobs }) ∨
      ∃ index loaded request, permits config (.step index) ∧
        config.Performs index loaded request ∧
        after.state = (request.exec config.state).2 ∧ Effect loaded config.state after.state := by
  rcases step_cases step with same | ⟨index, loaded, request, permitted, performs, same⟩ |
    ⟨happening, _, same⟩
  · exact .inl ⟨config.state.jobs, .refl _, same⟩
  · rw [same]
    exact .inr ⟨index, loaded, request, permitted, performs, rfl, run_effect run performs⟩
  · obtain ⟨jobs, shape, updates⟩ := react_updates (run_sound run) happening
    exact .inl ⟨jobs, updates, same.trans shape⟩

theorem step_evolves : config.state.Evolves after.state := by
  rcases step_effect run step with ⟨jobs, updates, same⟩ | ⟨_, _, _, _, _, _, effect⟩
  · have effect : Effect config.state config.state { config.state with jobs } := .updated updates
    rw [same]
    exact effect.evolves
  · exact effect.evolves

end

theorem run_evolves (reached : Run permits startup first) (run : Run permits first last) :
    first.state.Evolves last.state := by
  induction run with
  | refl => exact .refl _
  | tail earlier step ih => exact ih.trans (step_evolves (reached.trans earlier) step)

theorem loaded_evolves (run : Run permits startup last)
    (performs : last.Performs index loaded request) : loaded.Evolves last.state := by
  obtain ⟨_, found⟩ := performs
  exact @run_loaded controlPlane Stores.Evolves Stores.Evolves.refl Stores.Evolves.trans
    permits startup last step_evolves rfl run _ (List.mem_of_getElem? found)

theorem step_meets (run : Run (stepsMeet condition) startup config)
    (step : Step (stepsMeet condition) config after) :
    (∃ jobs, config.state.jobs.Updates jobs ∧ after.state = { config.state with jobs }) ∨
      ∃ loaded, loaded.Evolves config.state ∧ condition loaded config.state after.state ∧
        Effect loaded config.state after.state := by
  rcases step_effect run step with updated | ⟨_, loaded, _, meets, performs, same, effect⟩
  · exact .inl updated
  · have condition := threadsMeet_performs meets performs
    rw [same] at effect ⊢
    exact .inr ⟨loaded, loaded_evolves run performs, condition, effect⟩

/-- What every effect under the condition preserves holds after every run
whose steps meet the condition. -/
theorem run_steps {property : Stores → Prop} (reached : Run (stepsMeet condition) startup first)
    (initial : property first.state)
    (acts : ∀ {loaded now after}, now.Sound → condition loaded now after →
      Effect loaded now after → property now → property after)
    (reacts : ∀ {now jobs}, Stores.Sound now → now.jobs.Updates jobs → property now →
      property { now with jobs })
    (run : Run (stepsMeet condition) first last) : property last.state := by
  induction run with
  | refl => exact initial
  | tail earlier step ih =>
    have sofar := reached.trans earlier
    have sound := run_sound sofar
    rcases step_meets sofar step with ⟨_, updates, same⟩ | ⟨_, _, meets, effect⟩
    · rw [same]
      exact reacts sound updates ih
    · exact acts sound meets effect ih

/-- Coordinator calls are executed one at a time and to their end, and their
store calls meet the condition. -/
def atomicCalls (condition : Stores → Stores → Stores → Prop) : controlPlane.Discipline :=
  serialSchedule.both (stepsMeet condition)

instance [∀ loaded before after, Decidable (condition loaded before after)] :
    Discipline.Checkable (atomicCalls condition) :=
  inferInstanceAs (@Discipline.Checkable controlPlane (serialSchedule.both (stepsMeet condition)))

variable {config after : controlPlane.Config}

theorem run_of_atomic (run : Run (atomicCalls condition) config after) :
    Run (stepsMeet condition) config after :=
  run.mono fun _ _ permitted => permitted.2

theorem step_of_atomic (step : Step (atomicCalls condition) config after) :
    Step (stepsMeet condition) config after := by
  obtain ⟨action, permitted, taken⟩ := step
  exact ⟨action, permitted.2, taken⟩

theorem run_serial (run : Run (atomicCalls condition) config after) :
    Run serialSchedule config after :=
  run.mono fun _ _ permitted => permitted.1

theorem step_serial (step : Step (atomicCalls condition) config after) :
    Step serialSchedule config after := by
  obtain ⟨action, permitted, taken⟩ := step
  exact ⟨action, permitted.1, taken⟩

theorem created_passing (run : Run serialSchedule startup config)
    (step : Step serialSchedule config after)
    (created : job ∈ config.state.created after.state) :
    ∃ operation planned, Passing config.state operation planned ∧
      planned ∈ operation.plannedJobs ∧ planned.stepId ∈ operation.pendingStepIds ∧
      job.identity = stepIdentity operation.operationId operation.generation planned := by
  have sound := run_sound run
  have soundAfter : after.state.Sound := run_sound (run.tail step)
  obtain ⟨fresh, found⟩ := soundAfter.mem_created.mp created
  rcases step_effect run step with ⟨_, updates, same⟩ | ⟨_, _, _, _, performs,
    same, _⟩
  · rw [same] at found
    obtain ⟨_, earlierFound, _⟩ := updates.origin found
    simp [fresh] at earlierFound
  · have orderly := @serial_orderly controlPlane (Relies True) Stores.Sound (Guarantee True)
      serialSchedule (fun _ _ permitted => permitted) (Relies.refl True)
      (fun task state => program_complies task state state trivial) startup config
      (fun _ part => run_sound part) rfl run
    have guaranteed := orderly.performs (Relies.refl True) sound performs
    rw [same] at found
    obtain ⟨operation, planned, member, pending, identity, passing⟩ :=
      Guarantee.created sound guaranteed fresh found
    exact ⟨operation, planned, passing trivial, member, pending, identity⟩

end UntitledOJ

/-!
## Schedules

One operation, a node of its own for each step, and one worker per node.
-/

namespace UntitledOJ.Scenario

open Platform

def job (stepId : String) (dependsOn : List String) (condition : PlannedJobCondition) :
    PlannedJob :=
  { stepId, nodeId := "node-" ++ stepId, kind := .install, dependsOn, condition,
    payload := .null, maxAttempts := 1 }

def forward (stepId : String) (dependsOn : List String) : PlannedJob :=
  job stepId dependsOn .onSuccess

def compensator (stepId : String) (dependsOn : List String) : PlannedJob :=
  job stepId dependsOn .onFailure

def deployment (jobs : List PlannedJob) : PlanOperation :=
  { operationId := "op", action := "deploy", targetType := "package", targetId := "demo",
    request := .null, jobs }

abbrev Schedule :=
  List controlPlane.Action

def steps (position storeCalls : Nat) : Schedule :=
  List.replicate storeCalls (.step position)

/-- Start a coordinator call as the only one and let it make its store calls. -/
def whole (call : CoordinatorCall) (storeCalls : Nat) : Schedule :=
  .start ⟨call, 4⟩ :: steps 0 storeCalls

def deployed (jobs : List PlannedJob) (storeCalls : Nat) : Schedule :=
  whole (.plan (deployment jobs) 0) 2 ++ whole (.confirm "op" 0) 2 ++
    whole (.enqueue "op" 0) storeCalls

def projected (storeCalls : Nat) : Schedule :=
  whole (.project "op" 0) storeCalls

def cancelled (storeCalls : Nat) : Schedule :=
  whole (.cancel "op" 0) storeCalls

def retried (storeCalls : Nat) : Schedule :=
  whole (.retry "op" 0) storeCalls

def claimed (planned : PlannedJob) : Schedule :=
  [.event (.claim ⟨planned.nodeId, "worker", planned.stepId, 0, 1000⟩)]

def ended (generation : Nat) (planned : PlannedJob) (status : CompletionStatus) : Schedule :=
  [.event (.complete ⟨(bindingAt "op" generation planned).jobId, planned.stepId, status, .null,
    "", 0, []⟩)]

def settled (generation : Nat) (planned : PlannedJob) (status : CompletionStatus) : Schedule :=
  claimed planned ++ ended generation planned status

variable (permits : controlPlane.Discipline) (schedule : Schedule)
include permits

theorem exists_runs [permits.Checkable]
    (schedule later : Schedule) (property : Stores → Stores → Prop)
    (played : ∃ middle ∈ play permits startup schedule, ∃ last ∈ play permits middle later,
      property middle.state last.state) :
    ∃ middle last, Run permits startup middle ∧ Run permits middle last ∧
      property middle.state last.state := by
  obtain ⟨middle, reached, last, continued, holds⟩ := played
  exact ⟨middle, last, run_of_play permits reached, run_of_play permits continued, holds⟩

theorem exists_step [permits.Checkable] (action : controlPlane.Action)
    (property : Stores → Stores → Prop)
    (played : ∃ config ∈ play permits startup schedule, ∃ after ∈ play permits config [action],
      property config.state after.state) :
    ∃ config after, Run permits startup config ∧ Step permits config after ∧
      property config.state after.state := by
  obtain ⟨config, reached, after, taken, holds⟩ := played
  exact ⟨config, after, run_of_play permits reached, step_of_play permits taken, holds⟩

theorem exists_step_run [permits.Checkable] (action : controlPlane.Action) (later : Schedule)
    (property : Stores → Stores → Stores → Prop)
    (played : ∃ config ∈ play permits startup schedule, ∃ after ∈ play permits config [action],
      ∃ last ∈ play permits after later, property config.state after.state last.state) :
    ∃ config after last, Run permits startup config ∧ Step permits config after ∧
      Run permits after last ∧ property config.state after.state last.state := by
  obtain ⟨config, reached, after, taken, last, continued, holds⟩ := played
  exact ⟨config, after, last, run_of_play permits reached, step_of_play permits taken,
    run_of_play permits continued, holds⟩

theorem exists_run [permits.Checkable] (property : Stores → Prop)
    (played : ∃ last ∈ play permits startup schedule, property last.state) :
    ∃ last, Run permits startup last ∧ property last.state :=
  exists_run_of_play permits played

end UntitledOJ.Scenario
