import UntitledOJ.AtomicProgram

/-!
# Programs that run alone

A program that nobody interferes with may still stop between any two of its calls: the states that
it leaves, and rules for assertions about its calls and its outcome.
-/

namespace UntitledOJ

namespace Program

variable {Error Call : Type} {Reply : Call → Type} {α β : Type}

def attempt : Program Error Reply α → Program Error Reply (Except Error α)
  | .done result => .done (.ok result)
  | .fail error => .done (.error error)
  | .call request next => .call request fun reply => (next reply).attempt

variable {State : Type} (exec : (request : Call) → State → Reply request × State)

def stateAfter : Nat → Program Error Reply α → State → State
  | 0, _, state => state
  | _ + 1, .done _, state => state
  | _ + 1, .fail _, state => state
  | calls + 1, .call request next, state =>
    stateAfter calls (next (exec request state).1) (exec request state).2

/-- Every call is lawful in the state in which it is performed, and the outcome
meets the postcondition. -/
def Meets (lawful : Call → State → Prop) (post : Except Error α → State → Prop) :
    Program Error Reply α → State → Prop
  | .done result, state => post (.ok result) state
  | .fail error, state => post (.error error) state
  | .call request next, state =>
    lawful request state ∧ (next (exec request state).1).Meets lawful post (exec request state).2

variable {exec : (request : Call) → State → Reply request × State} {lawful : Call → State → Prop}

variable {program : Program Error Reply α} {state : State}

theorem meets_bind {post : Except Error β → State → Prop}
    {continuation : α → Program Error Reply β} :
    (program >>= continuation).Meets exec lawful post state ↔
      program.Meets exec lawful
        (fun outcome now =>
          match outcome with
          | .ok result => (continuation result).Meets exec lawful post now
          | .error error => post (.error error) now)
        state := by
  induction program generalizing state with
  | done result => rfl
  | fail error => rfl
  | call request next ih => exact and_congr_right fun _ => ih _

theorem meets_attempt {post : Except Error (Except Error α) → State → Prop} :
    program.attempt.Meets exec lawful post state ↔
      program.Meets exec lawful (fun outcome now => post (.ok outcome) now) state := by
  induction program generalizing state with
  | done result => rfl
  | fail error => rfl
  | call request next ih => exact and_congr_right fun _ => ih _

variable {post : Except Error α → State → Prop} {invariant : State → Prop}

variable (meets : program.Meets exec lawful post state)
include meets

theorem Meets.weaken {weaker : Except Error α → State → Prop}
    (implies : ∀ outcome now, post outcome now → weaker outcome now) :
    program.Meets exec lawful weaker state := by
  induction program generalizing state with
  | done result | fail error => exact implies _ _ meets
  | call request next ih => exact ⟨meets.1, ih _ meets.2⟩

theorem Meets.permit {permitted : Call → State → Prop}
    (implies : ∀ request now, lawful request now → permitted request now) :
    program.Meets exec permitted post state := by
  induction program generalizing state with
  | done result | fail error => exact meets
  | call request next ih => exact ⟨implies _ _ meets.1, ih _ meets.2⟩

theorem Meets.strengthen (keeps : ∀ request state, invariant state → lawful request state →
      invariant (exec request state).2) (initial : invariant state) :
    program.Meets exec (fun request now => lawful request now ∧ invariant now)
      (fun outcome now => post outcome now ∧ invariant now) state := by
  induction program generalizing state with
  | done result | fail error => exact ⟨meets, initial⟩
  | call request next ih =>
    exact ⟨⟨meets.1, initial⟩, ih _ meets.2 (keeps request state initial meets.1)⟩

theorem Meets.eval : post (program.eval exec state).1 (program.eval exec state).2 := by
  induction program generalizing state with
  | done result | fail error => exact meets
  | call request next ih => exact ih _ meets.2

theorem Meets.stateAfter (keeps : ∀ request state, invariant state → lawful request state →
      invariant (exec request state).2) (initial : invariant state) (calls : Nat) :
    invariant (program.stateAfter exec calls state) := by
  induction calls generalizing program state with
  | zero => exact initial
  | succ calls ih =>
    cases program with
    | done result | fail error => exact initial
    | call request next => exact ih meets.2 (keeps request state initial meets.1)

end Program

end UntitledOJ
