import UntitledOJ.CoordinatorRuns

/-!
# The identities of materialized jobs

The job id and the idempotency key of a job join the operation id, the generation and the
step id.  Two triples share them exactly when one id goes on past a separator over what follows the
other one, which `validate_plan` does not exclude.
-/

namespace UntitledOJ

open List Platform

/-- The id `other` goes on past the separator at which `id` ends, over the start of `rest`. -/
def TakesOver (separator : Char) (id rest other otherRest : List Char) : Prop :=
  let taken := other.drop (id.length + 1)
  other = id ++ separator :: taken ∧ rest = taken ++ separator :: otherRest
deriving Decidable

theorem joined_eq_iff {separator : Char} {id rest other otherRest : List Char} :
    id ++ separator :: rest = other ++ separator :: otherRest ↔
      id = other ∧ rest = otherRest ∨ TakesOver separator id rest other otherRest ∨
        TakesOver separator other otherRest id rest := by
  constructor
  · intro same
    rcases append_eq_append_iff.mp same with ⟨middle, longer, rests⟩ | ⟨middle, longer, rests⟩
    · cases middle with
      | nil => simp_all
      | cons character taken =>
        obtain ⟨rfl, rfl⟩ := cons.inj rests
        exact .inr (.inl (by simp [TakesOver, longer]))
    · cases middle with
      | nil => simp_all
      | cons character taken =>
        obtain ⟨rfl, rfl⟩ := cons.inj rests
        exact .inr (.inr (by simp [TakesOver, longer]))
  · rintro (⟨rfl, rfl⟩ | ⟨longer, rfl⟩ | ⟨longer, rfl⟩)
    · rfl
    · rw [← cons_append, ← append_assoc, ← longer]
    · rw [← cons_append, ← append_assoc, ← longer]

/-- A planned job in a generation of an operation. -/
structure StepInstance where
  operationId : String
  generation : Nat
  planned : PlannedJob

namespace StepInstance

/-- What a job is made for. -/
def triple (step : StepInstance) : String × Nat × String :=
  (step.operationId, step.generation, step.planned.stepId)

def key (step : StepInstance) : String :=
  stepIdempotencyKey step.operationId step.generation step.planned.stepId

def source (step : StepInstance) : String :=
  jobIdSource step.operationId step.generation step.planned

def jobId [Digests] (step : StepInstance) : String :=
  (bindingAt step.operationId step.generation step.planned).jobId

/-- What follows the operation id and a separator in the key and in the source of the job id. -/
def keyRest (step : StepInstance) : List Char :=
  ("generation/" ++ toString step.generation ++ "/step/" ++ step.planned.stepId).toList

def sourceRest (step : StepInstance) : List Char :=
  (toString step.generation ++ "\x00" ++ step.planned.stepId ++ "\x00" ++
    step.planned.nodeId).toList

/-- The operation id of the second one takes over from the key of the first one. -/
def EntersKey (first second : StepInstance) : Prop :=
  TakesOver '/' first.operationId.toList first.keyRest second.operationId.toList second.keyRest
deriving Decidable

/-- The operation id of the second one, or its step id, takes over from the source of the first
one. -/
def EntersSource (first second : StepInstance) : Prop :=
  TakesOver (Char.ofNat 0) first.operationId.toList first.sourceRest
      second.operationId.toList second.sourceRest ∨
    first.operationId = second.operationId ∧ first.generation = second.generation ∧
      TakesOver (Char.ofNat 0) first.planned.stepId.toList first.planned.nodeId.toList
        second.planned.stepId.toList second.planned.nodeId.toList
deriving Decidable

variable {first second : StepInstance} (differ : first.triple ≠ second.triple)
include differ

theorem key_eq_iff : first.key = second.key ↔ first.EntersKey second ∨ second.EntersKey first := by
  have split (step : StepInstance) : step.key.toList =
      "operation/".toList ++ (step.operationId.toList ++ '/' :: step.keyRest) := by
    simp [key, stepIdempotencyKey, keyRest]
  rw [← String.toList_inj, split, split, append_cancel_left_eq, joined_eq_iff]
  apply or_iff_right
  rintro ⟨ids, rests⟩
  apply differ
  have ids := String.toList_inj.mp ids
  have same : first.key = second.key := String.toList_inj.mp (by rw [split, split, ids, rests])
  unfold key at same
  rw [ids] at same
  obtain ⟨generations, steps⟩ := stepIdempotencyKey_injective same
  rw [triple, triple, ids, generations, steps]

theorem source_eq_iff :
    first.source = second.source ↔ first.EntersSource second ∨ second.EntersSource first := by
  have rest (step : StepInstance) : step.sourceRest = Nat.toDigits 10 step.generation ++
      Char.ofNat 0 :: (step.planned.stepId.toList ++
        Char.ofNat 0 :: step.planned.nodeId.toList) := by
    simp [sourceRest]
  have split (step : StepInstance) : step.source.toList =
      step.operationId.toList ++ Char.ofNat 0 :: step.sourceRest := by
    simp [source, jobIdSource, sourceRest]
  have rests : first.sourceRest = second.sourceRest ↔ first.generation = second.generation ∧
      first.planned.stepId.toList ++ Char.ofNat 0 :: first.planned.nodeId.toList =
        second.planned.stepId.toList ++ Char.ofNat 0 :: second.planned.nodeId.toList := by
    rw [rest, rest]
    constructor
    · intro same
      obtain ⟨digits, steps⟩ :=
        append_separator_inj (notMem_digits rfl _) (notMem_digits rfl _) same
      exact ⟨toDigits_inj digits, steps⟩
    · rintro ⟨generations, steps⟩
      rw [generations, steps]
  rw [← String.toList_inj, split, split, joined_eq_iff, rests, joined_eq_iff, String.toList_inj,
    String.toList_inj]
  have apart : ¬ (first.operationId = second.operationId ∧ first.generation = second.generation ∧
      first.planned.stepId = second.planned.stepId) := by
    simpa [triple] using differ
  unfold EntersSource
  grind

end StepInstance

section

variable [Digests]

/-- No id of the second operation takes over from a triple of the first one, and the digests of
their sources do not collide. -/
def DurableOperation.Apart (first second : DurableOperation) : Prop :=
  ∀ firstGeneration ≤ first.generation, ∀ secondGeneration ≤ second.generation,
    ∀ firstJob ∈ first.plannedJobs, ∀ secondJob ∈ second.plannedJobs,
      let one : StepInstance := ⟨first.operationId, firstGeneration, firstJob⟩
      let other : StepInstance := ⟨second.operationId, secondGeneration, secondJob⟩
      one.triple ≠ other.triple → ¬ one.EntersKey other ∧ ¬ one.EntersSource other ∧
        (one.jobId = other.jobId → one.source = other.source)
deriving Decidable

/-- The ids of the stored operations keep their triples apart. -/
def Stores.Distinguishable (stores : Stores) : Prop :=
  ∀ first ∈ stores.operations.values, ∀ second ∈ stores.operations.values, first.Apart second
deriving Decidable

section

variable {now : Stores} {operation : DurableOperation} {planned : PlannedJob}
  (sound : now.Sound) (distinguishable : now.Distinguishable)
  (stored : operation ∈ now.operations.values) (member : planned ∈ operation.plannedJobs)
include sound distinguishable stored member

/-- A stored job with the key or the id of the new one is the job of the same step. -/
theorem identity_of_same {jobId : String} {job : Job} (found : now.jobs.get jobId = some job)
    (same : job.idempotencyKey = (newJobFor operation planned).idempotencyKey ∨
      job.jobId = (newJobFor operation planned).jobId) :
    job.identity = (newJobFor operation planned).identity := by
  have current := sound.mem_operations.mp stored
  obtain ⟨other, step, generation, otherFound, stepMember, old, identity, _⟩ := sound.origin found
  have otherStored : other ∈ now.operations.values :=
    sound.mem_operations.mpr ((sound.record otherFound).1 ▸ otherFound)
  let earlier : StepInstance := ⟨other.operationId, generation, step⟩
  let new : StepInstance := ⟨operation.operationId, operation.generation, planned⟩
  have triple : earlier.triple = new.triple := by
    by_contra differ
    obtain ⟨key, source, digests⟩ := distinguishable other otherStored operation stored _ old _
      le_rfl _ stepMember _ member differ
    obtain ⟨newKey, newSource, _⟩ := distinguishable operation stored other otherStored _ le_rfl _
      old _ member _ stepMember (Ne.symm differ)
    rcases same with same | same
    · have keys : earlier.key = new.key :=
        (congrArg JobIdentity.idempotencyKey identity).symm.trans same
      exact ((StepInstance.key_eq_iff differ).mp keys).elim key newKey
    · have sources := digests ((congrArg JobIdentity.jobId identity).symm.trans same)
      exact ((StepInstance.source_eq_iff differ).mp sources).elim source newSource
  simp only [StepInstance.triple, earlier, new, Prod.mk.injEq] at triple
  have belongs := Job.IsFor.of_identity identity
  rw [triple.1, triple.2.1, triple.2.2] at belongs
  exact sound.identity_of_isFor ⟨(sound.record current).2, operation, current, .refl operation⟩
    member found belongs

theorem enqueue_accepted (nowMs : Int) :
    (∃ message, (now.jobs.enqueue (newJobFor operation planned) nowMs).1 =
        .error (.invalidJob message)) ∨
      ∃ job, (now.jobs.enqueue (newJobFor operation planned) nowMs).1 = .ok job ∧
        job.operationId = operation.operationId := by
  rcases MemoryJobStore.enqueue_cases now.jobs (newJobFor operation planned) nowMs with
    ⟨_, rejected, reason⟩ | ⟨job, outcome, _, owner⟩ | ⟨job, outcome, _, _, identity, _⟩
  · rw [rejected]
    rcases reason with ⟨message, rfl⟩ | ⟨existing, listed, differs⟩ | ⟨unlisted, taken⟩
    · exact .inl ⟨message, rfl⟩
    · obtain ⟨found, _, key⟩ := sound.indexed.of_lookup listed
      exact absurd (identity_of_same sound distinguishable stored member found (.inl key)) differs
    · obtain ⟨job, found⟩ := Option.ne_none_iff_exists'.mp taken
      have same := identity_of_same sound distinguishable stored member found
        (.inr (sound.indexed.keyed found))
      have listed := sound.indexed.lookup_eq found
      rw [show job.nodeId = _ from congrArg JobIdentity.nodeId same,
        show job.idempotencyKey = _ from congrArg JobIdentity.idempotencyKey same] at listed
      cases unlisted.symm.trans listed
  · exact .inr ⟨job, by rw [outcome], owner⟩
  · exact .inr ⟨job, by rw [outcome], congrArg JobIdentity.operationId identity⟩

end

/-- When different triples share their key or the source of their job id.  In every run whose stored
operations have ids that keep their triples apart, the enqueue of a planned job meets no other
job. -/
theorem job_identities_apart :
    (∀ first second : StepInstance, first.triple ≠ second.triple →
      (first.key = second.key ↔ first.EntersKey second ∨ second.EntersKey first) ∧
      (first.source = second.source ↔ first.EntersSource second ∨ second.EntersSource first) ∧
      ((first.jobId = second.jobId → first.source = second.source) →
        (first.jobId = second.jobId ↔
          first.EntersSource second ∨ second.EntersSource first))) ∧
    ∀ permits config,
      Run permits startup config → config.state.Distinguishable →
      ∀ operation ∈ config.state.operations.values, ∀ planned ∈ operation.plannedJobs, ∀ nowMs,
        let outcome := (config.state.jobs.enqueue (newJobFor operation planned) nowMs).1
        outcome ≠ .error .idempotencyConflict ∧
          (∀ jobId, outcome ≠ .error (.jobIdConflict jobId)) ∧
          ∀ job, outcome = .ok job → job.operationId = operation.operationId := by
  constructor
  · intro first second differ
    refine ⟨first.key_eq_iff differ, first.source_eq_iff differ, fun apart => ?_⟩
    rw [← StepInstance.source_eq_iff differ]
    refine ⟨apart, fun same => ?_⟩
    rw [StepInstance.jobId, StepInstance.jobId, bindingAt, bindingAt]
    exact congrArg
      (fun source => "job-" ++ String.ofList ((Digests.sha256Hex source).toList.take 32)) same
  · intro permits config run distinguishable operation stored planned member nowMs outcome
    have cases : (∃ message, outcome = .error (.invalidJob message)) ∨
        ∃ job, outcome = .ok job ∧ job.operationId = operation.operationId :=
      enqueue_accepted (run_sound run) distinguishable stored member nowMs
    clear_value outcome
    rcases cases with ⟨_, rfl⟩ | ⟨_, rfl, owner⟩
    · simp
    · simpa using owner

end

open Scenario

def plansStep (operationId stepId : String) : Schedule :=
  whole (.plan { deployment [{ forward stepId [] with nodeId := "node" }] with operationId } 0) 2

def secondPlanned (first firstStep second secondStep : String) : Schedule :=
  plansStep first firstStep ++ whole (.confirm first 0) 2 ++ whole (.enqueue first 0) 4 ++
    plansStep second secondStep

theorem plain_operations_kept_apart : ∃ config, Run anySchedule startup config ∧
      config.state.jobs.values.length = 1 ∧ config.state.operations.values.length = 2 ∧
      ∀ operation ∈ config.state.operations.values, ∀ planned ∈ operation.plannedJobs,
        (config.state.jobs.enqueue (newJobFor operation planned) 0).1 ≠
          .error .idempotencyConflict := by
  obtain ⟨config, run, distinguishable, job, operations⟩ := exists_run anySchedule
    (secondPlanned "a" "c" "b" "c") (fun stores => stores.Distinguishable ∧
      stores.jobs.values.length = 1 ∧ stores.operations.values.length = 2) (by decide +kernel)
  refine ⟨config, run, job, operations, ?_⟩
  intro operation stored planned member
  exact (job_identities_apart.2 _ config run distinguishable operation stored planned member 0).1

theorem joined_ids_conflict : ∃ config, Run anySchedule startup config ∧
      ∃ operation ∈ config.state.operations.values, ∃ planned ∈ operation.plannedJobs,
        (config.state.jobs.enqueue (newJobFor operation planned) 0).1 =
          .error .idempotencyConflict :=
  exists_run anySchedule (secondPlanned "a" "b/generation/0/step/c" "a/generation/0/step/b" "c")
    (fun stores => ∃ operation ∈ stores.operations.values, ∃ planned ∈ operation.plannedJobs,
      (stores.jobs.enqueue (newJobFor operation planned) 0).1 = .error .idempotencyConflict)
    (by decide +kernel)

end UntitledOJ
