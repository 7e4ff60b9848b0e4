import UntitledOJ.DurableOperation
import Std.Data.TreeMap.Lemmas

/-!
# The in-memory operation store

`MemoryOperationStore` keeps the operations by id and accepts an update only as
a validated compare-and-swap on the revision.
-/

namespace UntitledOJ

structure MemoryOperationStore where
  operations : Std.TreeMap String DurableOperation

namespace MemoryOperationStore

def empty : MemoryOperationStore :=
  ⟨∅⟩

def get (store : MemoryOperationStore) (operationId : String) : Option DurableOperation :=
  store.operations[operationId]?

def values (store : MemoryOperationStore) : List DurableOperation :=
  store.operations.toList.map Prod.snd

def insert (store : MemoryOperationStore) (operation : DurableOperation) :
    MemoryOperationStore :=
  ⟨store.operations.insert operation.operationId operation⟩

def create (store : MemoryOperationStore) (operation : DurableOperation) :
    Except OperationStoreError DurableOperation × MemoryOperationStore :=
  match validateDurableOperation operation with
  | .error error => (.error error, store)
  | .ok _ =>
    if (store.get operation.operationId).isSome then
      (.error (.alreadyExists operation.operationId), store)
    else (.ok operation, store.insert operation)

/-- The checks of `compare_and_swap`, in order: the record, its presence, the revision, the
immutable fields, the transition. -/
def compareAndSwap (store : MemoryOperationStore) (expectedRevision : Nat)
    (operation : DurableOperation) :
    Except OperationStoreError DurableOperation × MemoryOperationStore :=
  match validateDurableOperation operation with
  | .error error => (.error error, store)
  | .ok _ =>
    match store.get operation.operationId with
    | none => (.error (.notFound operation.operationId), store)
    | some current =>
      match validateDurableOperationUpdate current expectedRevision operation with
      | .error error => (.error error, store)
      | .ok _ => (.ok operation, store.insert operation)

def recoverable (store : MemoryOperationStore) : List DurableOperation :=
  store.values.filter fun operation => operation.status.isRecoverable

end MemoryOperationStore

end UntitledOJ
