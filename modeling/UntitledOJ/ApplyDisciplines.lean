import UntitledOJ.AbortSettlement

/-!
# When applies begin

A head is taken by a request, or again by a first phase that finds it free; the schedules below
take heads only when a condition holds.
-/

namespace UntitledOJ

open Worked Plane Platform

/-- The topology job that a pass would claim, and its payload. -/
def Plane.task (plane : Plane) (env : WorkerEnvironment) : Option (Job × TopologyApplyPayload) :=
  match plane.claimedJob env with
  | none => none
  | some job =>
    if job.kind = .topologyApply then
      match TopologyApplyPayload.ofDocument job.payload with
      | .ok payload => some (job, payload)
      | .error _ => none
    else none

theorem Plane.Runs.task {start : Plane} {env : WorkerEnvironment} {held : HeldJob}
    {payload : TopologyApplyPayload} (runs : start.Runs env held payload) :
    start.task env = some (held.job, payload) := by
  rw [Plane.task, runs.claimed]
  simp only [runs.kind, runs.decoded, if_true]

def TopologyApplyPayload.Reacquires (payload : TopologyApplyPayload) (heads : TopologyHeads) :
    Prop :=
  payload.phase = .prepare ∧ heads.applyingRevisionId = none ∧
    heads.draftRevisionId = payload.revisionId ∧
    heads.appliedRevisionId ≠ some payload.revisionId
deriving Decidable

/-- The topology, revision and operation for which the program takes a head next. -/
def nextBegin {α : Type} : Worked α → Option (String × String × String)
  | .call (.topology (.beginApply topologyId revisionId operationId _)) _ =>
    some (topologyId, revisionId, operationId)
  | _ => none

variable [Digests] [AddressSyntax] (may : Plane → String → String → String → Prop)

def beginsWhen : topologyPlane.Discipline
  | config, .step index => ∀ thread ∈ config.threads[index]?, ∀ begun ∈ nextBegin thread.program,
      may config.state begun.1 begun.2.1 begun.2.2
  | config, .event (.pass env _) => ∀ task ∈ Plane.task config.state env,
      ∀ heads ∈ config.state.topology.heads[task.2.topologyId]?, task.2.Reacquires heads →
        may config.state task.2.topologyId task.2.revisionId task.1.operationId
  | _, _ => True

instance [decides : ∀ plane topologyId revisionId operationId,
    Decidable (may plane topologyId revisionId operationId)] : (beginsWhen may).Checkable :=
  ⟨fun _ action =>
    match action with
    | .start _ => isTrue trivial
    | .step _ => inferInstanceAs (Decidable (∀ thread ∈ _, _))
    | .crash _ => isTrue trivial
    | .event (.pass ..) => inferInstanceAs (Decidable (∀ task ∈ _, _))
    | .event (.createTopology ..) | .event (.editDraft ..) | .event (.rollbackDraft ..)
    | .event (.enqueueJob ..) | .event (.cancelJob ..) | .event (.recoverExpired ..)
    | .event (.recoverTerminal ..) => isTrue trivial⟩

variable {may} {config : topologyPlane.Config}

theorem beginsWhen_request {index : Nat} {loaded : Plane}
    {topologyId revisionId operationId updatedAt : String}
    (permitted : beginsWhen may config (.step index)) (performs : config.Performs index loaded
      (.topology (.beginApply topologyId revisionId operationId updatedAt))) :
    may config.state topologyId revisionId operationId := by
  obtain ⟨_, found⟩ := performs
  exact permitted _ found (topologyId, revisionId, operationId) rfl

theorem beginsWhen_pass {env : WorkerEnvironment} {stop : Option Nat} {held : HeldJob}
    {payload : TopologyApplyPayload} {heads : TopologyHeads}
    (permitted : beginsWhen may config (.event (.pass env stop)))
    (runs : Plane.Runs config.state env held payload)
    (found : config.state.topology.heads[payload.topologyId]? = some heads)
    (reacquires : payload.Reacquires heads) :
    may config.state payload.topologyId payload.revisionId held.job.operationId :=
  permitted _ runs.task heads found reacquires

end UntitledOJ
