import UntitledOJ.TopologyRequests
import UntitledOJ.TopologyBindings
import UntitledOJ.JobStoreInvariant

/-!
# Rules for the programs of the control plane

What each call does to the plane, and the steps by which an assertion about all
calls of a program is proved from its text.
-/

namespace UntitledOJ

open Program

def PlaneCall.isRead : PlaneCall → Bool
  | .expiredLeases _ | .heads _ | .listHeads | .revision .. | .bindings _ | .status _ => true
  | _ => false

namespace Job

theorem Move.task [Digests] {job later : Job} {call : JobCall} (move : job.Move call later) :
    later.payload = job.payload ∧ later.kind = job.kind ∧ later.operationId = job.operationId ∧
      later.jobId = job.jobId := by
  cases move with
  | claim | renew | resolve => exact ⟨rfl, rfl, rfl, rfl⟩
  | @complete request =>
    simp only [MemoryJobStore.completeJob]
    cases request.status <;> dsimp only <;> split_ifs <;> exact ⟨rfl, rfl, rfl, rfl⟩
  | cancel =>
    unfold MemoryJobStore.cancelJob
    split <;> exact ⟨rfl, rfl, rfl, rfl⟩
  | recover =>
    simp only [MemoryJobStore.recoverExpiredJob]
    split_ifs <;> exact ⟨rfl, rfl, rfl, rfl⟩

end Job

variable {jobId : String}

namespace MemoryJobStore

variable [Digests] {store : MemoryJobStore} {later : Job}

theorem exec_origin (indexed : store.Indexed) {call : JobCall}
    (updating : ∀ new nowMs, call ≠ .enqueue new nowMs)
    (found : (store.exec call).2.get jobId = some later) :
    ∃ earlier, store.get jobId = some earlier ∧ (later = earlier ∨ earlier.Move call later) := by
  rcases (exec_moves indexed call updating).jobs jobId with kept | ⟨earlier, _, stored, after, move⟩
  · exact ⟨later, kept ▸ found, .inl rfl⟩
  · cases after.symm.trans found
    exact ⟨earlier, stored, .inr move⟩

theorem enqueue_origin {new : NewJob} {nowMs : Int}
    (found : (store.enqueue new nowMs).2.get jobId = some later) : store.get jobId = some later ∨
      (later.kind = new.kind ∧ later.payload = new.payload ∧
        later.operationId = new.operationId ∧ later.status = .queued) := by
  rcases enqueue_cases store new nowMs with ⟨_, rejected, _⟩ | ⟨_, existing, _⟩ |
    ⟨job, added, _, _, identity, payload, fresh⟩
  · rw [rejected] at found
    exact .inl found
  · rw [existing] at found
    exact .inl found
  · rw [added, get_addJob] at found
    split_ifs at found
    · cases found
      exact .inr ⟨congrArg JobIdentity.kind identity, payload,
        congrArg JobIdentity.operationId identity, fresh.status⟩
    · exact .inl found

end MemoryJobStore

namespace Plane

structure SameTables (before after : Plane) : Prop where
  topology : after.topology = before.topology
  providerCalls : after.providerCalls = before.providerCalls
  plans : after.plans = before.plans
  outcomes : after.outcomes = before.outcomes

theorem SameTables.trans {first second third : Plane} (earlier : first.SameTables second)
    (later : second.SameTables third) : first.SameTables third :=
  ⟨later.topology.trans earlier.topology, later.providerCalls.trans earlier.providerCalls,
    later.plans.trans earlier.plans, later.outcomes.trans earlier.outcomes⟩

def Underway (plane : Plane) (jobId : String) : Prop :=
  ∀ job, plane.jobs.get jobId = some job → job.status ≠ .succeeded

def latestCall (plane : Plane) (topologyId operationId : String) : Option ProviderCall :=
  plane.providerCalls.find? (ProviderCall.isFor topologyId operationId)

section

variable [Digests] [AddressSyntax] {plane : Plane}

theorem exec_read {call : PlaneCall} (read : call.isRead = true) (plane : Plane) :
    (exec call plane).2 = plane := by
  cases call with
  | expiredLeases | heads | listHeads | revision | bindings | status => rfl
  | _ => cases read

def withTables (plane : Plane) (call : TopologyCall) (tables : TopologyTables) : Plane :=
  { plane with
    topology := tables
    outcomes := recordEndings plane.outcomes call.endings }

theorem exec_topology_cases (plane : Plane) (call : TopologyCall) :
    (∃ result after, plane.topology.exec plane.leaseEvidence call = (.ok result, after) ∧
      exec (.topology call) plane = (.ok result, plane.withTables call after)) ∨
    ∃ error, (plane.topology.exec plane.leaseEvidence call).1 = .error error ∧
      exec (.topology call) plane = (.error error, plane) := by
  cases answered : plane.topology.exec plane.leaseEvidence call with
  | mk reply after =>
    cases reply with
    | ok result => exact .inl ⟨result, after, rfl, by simp only [exec, answered]; rfl⟩
    | error error => exact .inr ⟨error, rfl, by simp only [exec, answered]⟩

end

variable [Digests] [AddressSyntax] {plane : Plane}

theorem heartbeat_sameTables (plane : Plane) (request : HeartbeatRequest) :
    plane.SameTables (exec (.heartbeat request) plane).2 :=
  ⟨rfl, rfl, rfl, rfl⟩

theorem complete_sameTables (plane : Plane) (request : CompleteRequest) :
    plane.SameTables (exec (.complete request) plane).2 :=
  ⟨rfl, rfl, rfl, rfl⟩

theorem claim_sameTables (plane : Plane) (request : ClaimRequest) :
    plane.SameTables (exec (.claim request) plane).2 :=
  ⟨rfl, rfl, rfl, rfl⟩

theorem heartbeat_indexed (indexed : plane.jobs.Indexed) (request : HeartbeatRequest) :
    (exec (.heartbeat request) plane).2.jobs.Indexed :=
  indexed.update (MemoryJobStore.exec_moves indexed (.heartbeat request) (by simp)).updates

theorem Underway.heartbeat (underway : plane.Underway jobId) (indexed : plane.jobs.Indexed)
    (request : HeartbeatRequest) : (exec (.heartbeat request) plane).2.Underway jobId := by
  intro job found succeeded
  rcases (MemoryJobStore.exec_moves indexed (.heartbeat request) (by simp)).jobs jobId with
    kept | ⟨_, _, earlier, stored, move⟩
  · exact underway job (kept ▸ found) succeeded
  · cases stored.symm.trans found
    cases move with
    | renew _ active => exact underway _ earlier succeeded
    | recover _ _ expired =>
      simp only [MemoryJobStore.recoverExpiredJob] at succeeded
      split_ifs at succeeded

theorem Underway.complete (underway : plane.Underway jobId)
    (indexed : plane.jobs.Indexed) {request : CompleteRequest}
    (other : request.jobId = jobId → request.status ≠ .succeeded) :
    (exec (.complete request) plane).2.Underway jobId := by
  intro job found succeeded
  rcases (MemoryJobStore.exec_moves indexed (.complete request) (by simp)).jobs jobId with
    kept | ⟨_, _, earlier, stored, move⟩
  · exact underway job (kept ▸ found) succeeded
  · cases stored.symm.trans found
    cases move with
    | complete named active =>
      have differs := other (named.trans (indexed.keyed earlier))
      simp only [MemoryJobStore.completeJob] at succeeded
      cases status : request.status <;> rw [status] at succeeded differs <;>
        dsimp only at succeeded <;> split_ifs at succeeded <;> simp_all
    | recover _ _ expired =>
      simp only [MemoryJobStore.recoverExpiredJob] at succeeded
      split_ifs at succeeded

end Plane

/-- Every call of the program is lawful when it is made, and however the program
ends, it ends in such a state. -/
def Worked.Keeps [Digests] [AddressSyntax] {α : Type} (lawful : PlaneCall → Plane → Prop)
    (ended : Plane → Prop) (program : Worked α) (plane : Plane) : Prop :=
  program.Meets Plane.exec lawful (fun _ now => ended now) plane

namespace Worked

variable [Digests] [AddressSyntax] {α β : Type} {lawful : PlaneCall → Plane → Prop}
  {ended : Plane → Prop} {plane : Plane} {next : α → Worked β}

theorem Keeps.weaken {permitted : PlaneCall → Plane → Prop} {later : Plane → Prop}
    {program : Worked α} (keeps : Keeps lawful ended program plane)
    (calls : ∀ call now, lawful call now → permitted call now)
    (ends : ∀ now, ended now → later now) : Keeps permitted later program plane :=
  (Program.Meets.permit keeps calls).weaken fun _ now => ends now

theorem keeps_orFail {Error : Type} {text : Error → String} {outcome : Except Error α}
    (succeeds : ∀ result, outcome = .ok result → Keeps lawful ended (next result) plane)
    (fails : ended plane) : Keeps lawful ended (orFail text outcome >>= next) plane := by
  cases outcome with
  | ok result => exact succeeds result rfl
  | error error => exact fails

variable {message : String}

theorem keeps_orMissing {value : Option α}
    (present : ∀ result, value = some result → Keeps lawful ended (next result) plane)
    (fails : ended plane) : Keeps lawful ended (orMissing message value >>= next) plane := by
  cases value with
  | some result => exact present result rfl
  | none => exact fails

variable {topologyId : String}

theorem keeps_heads {next : Option TopologyHeads → Worked β}
    (allowed : lawful (.heads topologyId) plane)
    (continues : Keeps lawful ended (next plane.topology.heads[topologyId]?) plane) :
    Keeps lawful ended (Worked.heads topologyId >>= next) plane :=
  ⟨allowed, continues⟩

theorem keeps_revision {revisionId : String}
    {next : Except StorageError (Option TopologyRevision) → Worked β}
    (allowed : lawful (.revision topologyId revisionId) plane)
    (continues : Keeps lawful ended (next (plane.topology.loadRevision topologyId revisionId))
      plane) : Keeps lawful ended (Worked.revision topologyId revisionId >>= next) plane :=
  ⟨allowed, continues⟩

theorem keeps_bindings {next : Except StorageError (List ApiBinding) → Worked β}
    (allowed : lawful (.bindings topologyId) plane)
    (continues : Keeps lawful ended (next (plane.topology.apiBindingsForTopology topologyId))
      plane) : Keeps lawful ended (Worked.bindings topologyId >>= next) plane :=
  ⟨allowed, continues⟩

theorem keeps_storedHeads {next : TopologyHeads → Worked β}
    (allowed : lawful (.heads topologyId) plane)
    (present : ∀ heads, plane.topology.heads[topologyId]? = some heads →
      Keeps lawful ended (next heads) plane) (fails : ended plane) :
    Keeps lawful ended (storedHeads topologyId >>= next) plane := by
  refine ⟨allowed, ?_⟩
  exact keeps_orMissing present fails

theorem keeps_storedRevision {revisionId missing : String} {next : TopologyRevision → Worked β}
    (allowed : lawful (.revision topologyId revisionId) plane)
    (present : ∀ revision, plane.topology.loadRevision topologyId revisionId = .ok (some revision) →
      Keeps lawful ended (next revision) plane) (fails : ended plane) :
    Keeps lawful ended (storedRevision topologyId revisionId missing >>= next) plane := by
  refine ⟨allowed, ?_⟩
  change Keeps lawful ended ((orFail StorageError.text
    (plane.topology.loadRevision topologyId revisionId) >>= orMissing missing) >>= next) plane
  cases loaded : plane.topology.loadRevision topologyId revisionId with
  | error error => exact fails
  | ok found => exact keeps_orMissing (fun revision same => present revision (same ▸ loaded)) fails

theorem keeps_topology {call : TopologyCall} {next : Except StorageError call.Result → Worked β}
    (allowed : lawful (.topology call) plane)
    (succeeds : ∀ result after, plane.topology.exec plane.leaseEvidence call = (.ok result, after) →
      Keeps lawful ended (next (.ok result)) (plane.withTables call after))
    (fails : ∀ error, (plane.topology.exec plane.leaseEvidence call).1 = .error error →
      Keeps lawful ended (next (.error error)) plane) :
    Keeps lawful ended (Worked.topology call >>= next) plane := by
  refine ⟨allowed, ?_⟩
  rcases Plane.exec_topology_cases plane call with ⟨result, after, committed, same⟩ |
    ⟨error, failed, same⟩
  · rw [same]
    exact succeeds result after committed
  · rw [same]
    exact fails error failed

variable {held : HeldJob} {reading : Reading} {env : WorkerEnvironment} {next : Unit → Worked β}
  {status : CompletionStatus} {result : Value}

theorem keeps_checkpoint (allowed : ∀ request, lawful (.heartbeat request) plane)
    (continues : ∀ request, Keeps lawful ended (next ()) (Plane.exec (.heartbeat request) plane).2)
    (fails : ∀ request, ended (Plane.exec (.heartbeat request) plane).2) :
    Keeps lawful ended (checkpoint env held reading >>= next) plane := by
  refine ⟨allowed _, ?_⟩
  generalize request : HeartbeatRequest.mk _ _ _ _ _ = beat
  cases (Plane.exec (.heartbeat beat) plane).1 with
  | ok job => exact continues beat
  | error error => exact fails beat

theorem keeps_compensateProviders {payload : TopologyApplyPayload}
    {previous : Option TopologyRevision} {bindings : List ApiBinding}
    {next : Except String Unit → Worked β} {call : ProviderCall}
    (called : call = .compensate payload.topologyId payload.revisionId previous bindings
      held.job.operationId env.compensated) (allowed : lawful (.provider call) plane)
    (continues : Keeps lawful ended (next env.compensated) (Plane.exec (.provider call) plane).2) :
    Keeps lawful ended (compensateProviders env held payload previous bindings >>= next) plane := by
  subst called
  exact ⟨allowed, continues⟩

theorem keeps_forEach {γ : Type} {body : α → Worked β} {items : List α}
    {next : List β → Worked γ} {invariant : Plane → Prop}
    (each : ∀ item ∈ items, ∀ now, invariant now → Keeps lawful invariant (body item) now)
    (continues : ∀ results now, invariant now → Keeps lawful ended (next results) now)
    (fails : ∀ now, invariant now → ended now) (initial : invariant plane) :
    Keeps lawful ended (Program.forEach body items >>= next) plane := by
  induction items generalizing plane next with
  | nil => exact continues [] plane initial
  | cons item rest ih =>
    have later (now : Plane) (holds : invariant now) (result : β) :
        Keeps lawful ended (forEach body rest >>= fun results =>
          next (result :: results)) now :=
      ih (fun other member => each other (List.mem_cons_of_mem _ member))
        (fun results => continues (result :: results)) holds
    refine meets_bind.mpr (meets_bind.mpr ?_)
    refine Program.Meets.weaken (each item List.mem_cons_self plane initial) ?_
    intro outcome now holds
    cases outcome with
    | error error => exact fails now holds
    | ok result =>
      refine meets_bind.mpr ?_
      refine (meets_bind.mp (later now holds result)).weaken ?_
      intro outcome after ended
      cases outcome <;> exact ended

variable
  (allowed : ∀ request, request.jobId = held.job.jobId → request.status = status →
    lawful (.complete request) plane)
include allowed

theorem keeps_completion (continues : ∀ request, request.status = status →
      Keeps lawful ended (next ()) (Plane.exec (.complete request) plane).2)
    (fails : ∀ request, ended (Plane.exec (.complete request) plane).2) : Keeps lawful ended
      (completeAndProject env held status result message >>= next) plane := by
  refine ⟨allowed _ rfl rfl, ?_⟩
  have further := continues
    { jobId := held.job.jobId, leaseToken := held.leaseToken, status, result,
      errorMessage := message, nowMs := env.clock .completion, events := [] } rfl
  revert further
  generalize CompleteRequest.mk _ _ _ _ _ _ _ = completion
  intro further
  cases (Plane.exec (.complete completion) plane).1 with
  | ok job => exact further
  | error error => exact fails completion

theorem keeps_complete (finished : ∀ request, ended (Plane.exec (.complete request) plane).2) :
    Keeps lawful ended (completeAndProject env held status result message) plane := by
  refine ⟨allowed _ rfl rfl, ?_⟩
  generalize request : CompleteRequest.mk _ _ _ _ _ _ _ = completion
  cases (Plane.exec (.complete completion) plane).1 with
  | ok job | error error => exact finished completion

end Worked

end UntitledOJ
