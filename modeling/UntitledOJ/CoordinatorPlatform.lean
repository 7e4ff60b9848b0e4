import UntitledOJ.ConcurrentPlatform
import UntitledOJ.OperationCoordinator

/-!
# Coordinators and workers on shared stores

Any number of coordinator calls run on the same two stores; workers claim, renew and complete jobs
in between.
-/

namespace UntitledOJ

/-- The public entry points of `OperationCoordinator`. -/
inductive CoordinatorCall where
  | plan (plan : PlanOperation) (nowMs : Int)
  | confirm (operationId : String) (nowMs : Int)
  | enqueue (operationId : String) (nowMs : Int)
  | cancel (operationId : String) (nowMs : Int)
  | retry (operationId : String) (nowMs : Int)
  | rollback (sourceOperationId : String) (rollbackPlan : PlanOperation) (nowMs : Int)
  | project (operationId : String) (nowMs : Int)
  | recover (nowMs : Int)

/-- A coordinator call and the bound on its cancelling fixed-point loop. -/
structure CoordinatorTask where
  call : CoordinatorCall
  fuel : Nat

inductive WorkerCall where
  | claim (request : ClaimRequest)
  | heartbeat (request : HeartbeatRequest)
  | complete (request : CompleteRequest)
  | resolveExpiredSuccess (request : ResolveExpiredSuccessRequest)

namespace Stores

def empty : Stores :=
  ⟨.empty, .empty⟩

variable [Digests]

def react (stores : Stores) : WorkerCall → Stores
  | .claim request => { stores with jobs := (stores.jobs.claim request).2 }
  | .heartbeat request => { stores with jobs := (stores.jobs.heartbeat request).2 }
  | .complete request => { stores with jobs := (stores.jobs.complete request).2 }
  | .resolveExpiredSuccess request =>
    { stores with jobs := (stores.jobs.resolveExpiredSuccess request).2 }

end Stores

def StoreCall.loads : StoreCall → Bool
  | .getOperation _ => true
  | _ => false

variable [Digests]

/-- The program of a coordinator call; its reply goes to the caller. -/
def CoordinatorTask.program (task : CoordinatorTask) : Coordinated Unit :=
  match task.call with
  | .plan request nowMs => do let _ ← plan request nowMs
  | .confirm operationId nowMs => do let _ ← confirm operationId nowMs
  | .enqueue operationId nowMs => do let _ ← enqueue task.fuel operationId nowMs
  | .cancel operationId nowMs => do let _ ← cancel task.fuel operationId nowMs
  | .retry operationId nowMs => do let _ ← retry operationId nowMs
  | .rollback sourceOperationId rollbackPlan nowMs => do
      let _ ← rollback sourceOperationId rollbackPlan nowMs
  | .project operationId nowMs => do let _ ← project task.fuel operationId nowMs
  | .recover nowMs => do let _ ← recover task.fuel nowMs

/-- Calls of coordinators interleave with those of workers. -/
abbrev controlPlane : Platform where
  State := Stores
  Call := StoreCall
  Reply := StoreCall.Reply
  Error := Abort
  exec := StoreCall.exec
  loads := StoreCall.loads
  Task := CoordinatorTask
  program := CoordinatorTask.program
  Event := WorkerCall
  react := fun happening stores => stores.react happening

def startup : controlPlane.Config :=
  ⟨Stores.empty, []⟩

end UntitledOJ
