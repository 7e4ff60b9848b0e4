import Mathlib.Tactic.Basic

/-!
# Transactions that commit or leave nothing

A transaction computes from the tables either an error or a result with the new tables; only the
second is committed.  A transaction that succeeded went through all its steps.
-/

namespace UntitledOJ

variable {Error α β : Type} {result : β} (value : α)

theorem ok_of_bind {first : Except Error α} {rest : α → Except Error β}
    (succeeded : (first >>= rest) = .ok result) :
    ∃ value, first = .ok value ∧ rest value = .ok result := by
  cases first with
  | error error => cases succeeded
  | ok value => exact ⟨value, rfl, succeeded⟩

theorem ok_then (rest : α → Except Error β) :
    ((Except.ok value : Except Error α) >>= rest) = rest value := rfl

@[simp] theorem isOk_ok : (Except.ok value : Except Error α).isOk = true := rfl

@[simp] theorem isOk_error (error : Error) : (Except.error error : Except Error α).isOk = false :=
  rfl

theorem exists_error_of_isOk {outcome : Except Error α} (failed : outcome.isOk = false) :
    ∃ error, outcome = .error error := by
  cases outcome with
  | ok _ => cases failed
  | error error => exact ⟨error, rfl⟩

def require (condition : Bool) (error : Error) : Except Error Unit :=
  if condition then .ok () else .error error

variable {condition : Bool} {error : Error}

theorem of_require (passed : require condition error = .ok ()) : condition = true := by
  cases condition with
  | true => rfl
  | false => cases passed

theorem require_then (holds : condition = true) (error : Error) (rest : Unit → Except Error β) :
    (require condition error >>= rest) = rest () := by
  rw [holds]
  rfl

theorem ok_of_require_bind {rest : Unit → Except Error β}
    (succeeded : (require condition error >>= rest) = .ok result) :
    condition = true ∧ rest () = .ok result := by
  obtain ⟨⟨⟩, passed, later⟩ := ok_of_bind succeeded
  exact ⟨of_require passed, later⟩

variable {Error Tables α : Type}

def transact (tables : Tables) (outcome : Except Error (α × Tables)) : Except Error α × Tables :=
  match outcome with
  | .ok (result, committed) => (.ok result, committed)
  | .error error => (.error error, tables)

variable {outcome : Except Error (α × Tables)} {tables : Tables}

theorem transact_fst : (transact tables outcome).1 = Prod.fst <$> outcome := by
  cases outcome <;> rfl

theorem ok_of_transact {after : Tables} {result : α}
    (committed : transact tables outcome = (.ok result, after)) :
    outcome = .ok (result, after) := by
  match outcome, committed with
  | .ok (_, _), rfl => rfl

/-- What holds of the tables before and of the committed ones holds after a transaction. -/
theorem transact_holds (holds : Tables → Prop) (unchanged : holds tables)
    (commits : ∀ result after, outcome = .ok (result, after) → holds after) :
    holds (transact tables outcome).2 := by
  match outcome, commits with
  | .ok (result, after), commits => exact commits result after rfl
  | .error _, _ => exact unchanged

theorem transact_error {error : Error} (failed : (transact tables outcome).1 = .error error) :
    (transact tables outcome).2 = tables := by
  match outcome, failed with
  | .error _, _ => rfl

end UntitledOJ
