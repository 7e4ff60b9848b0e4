import Mathlib.Data.List.Basic

/-!
# Sequences of atomic calls

A store that answers one atomic call at a time is run on lists of calls.  Invariants, also those
that see what was answered so far, and simulations carry over from single calls to sequences.
-/

namespace UntitledOJ

variable {State Call Reply : Type} (step : State → Call → Reply × State)

/-- The state that a sequence of calls leads to. -/
def afterCalls : State → List Call → State
  | state, [] => state
  | state, call :: rest => afterCalls (step state call).2 rest

/-- The calls with their replies. -/
def history : State → List Call → List (Call × Reply)
  | _, [] => []
  | state, call :: rest =>
    (call, (step state call).1) :: history (step state call).2 rest

/-- Each call meets the condition in the state in which it is made. -/
def CallsMeet (condition : State → Call → Prop) : State → List Call → Prop
  | _, [] => True
  | state, call :: rest => condition state call ∧ CallsMeet condition (step state call).2 rest

variable {step} (state : State)

@[simp] theorem afterCalls_nil : afterCalls step state [] = state := rfl

@[simp] theorem afterCalls_cons (call : Call) (rest : List Call) :
    afterCalls step state (call :: rest) = afterCalls step (step state call).2 rest := rfl

theorem afterCalls_append (first rest : List Call) :
    afterCalls step state (first ++ rest) = afterCalls step (afterCalls step state first) rest := by
  induction first generalizing state with
  | nil => rfl
  | cons call first ih => exact ih (step state call).2

variable {state : State}

theorem afterCalls_invariant (property : State → Prop)
    (keeps : ∀ state call, property state → property (step state call).2) (initial : property state)
    (calls : List Call) : property (afterCalls step state calls) := by
  induction calls generalizing state with
  | nil => exact initial
  | cons call rest ih => exact ih (keeps state call initial)

variable {condition : State → Call → Prop} {calls : List Call}

/-- A property that is kept by every call meeting the condition holds after
every sequence of such calls. -/
theorem CallsMeet.invariant (meets : CallsMeet step condition state calls) (property : State → Prop)
    (keeps : ∀ state call, property state → condition state call → property (step state call).2)
    (initial : property state) : property (afterCalls step state calls) := by
  induction calls generalizing state with
  | nil => exact initial
  | cons call rest ih =>
    exact ih meets.2 (keeps state call initial meets.1)

theorem history_invariant (property : List (Call × Reply) → State → Prop)
    (keeps : ∀ past state call, property past state →
      property (past ++ [(call, (step state call).1)]) (step state call).2)
    {past : List (Call × Reply)} (initial : property past state) (calls : List Call) :
    property (past ++ history step state calls) (afterCalls step state calls) := by
  induction calls generalizing past state with
  | nil => simpa [history] using initial
  | cons call rest ih =>
    have later := ih (keeps past state call initial)
    rw [List.append_assoc] at later
    exact later

theorem exists_of_mem_history {entry : Call × Reply} (member : entry ∈ history step state calls) :
    ∃ first call rest, calls = first ++ call :: rest ∧
      entry = (call, (step (afterCalls step state first) call).1) := by
  induction calls generalizing state with
  | nil => cases member
  | cons call rest ih =>
    rcases List.mem_cons.mp member with rfl | later
    · exact ⟨[], call, rest, rfl, rfl⟩
    · obtain ⟨first, other, others, rfl, answered⟩ := ih later
      exact ⟨call :: first, other, others, rfl, answered⟩

theorem CallsMeet.of_forall (each : ∀ call ∈ calls, ∀ state, condition state call) (state : State) :
    CallsMeet step condition state calls := by
  induction calls generalizing state with
  | nil => trivial
  | cons call rest ih =>
    refine ⟨each call List.mem_cons_self state, ih ?_ _⟩
    intro other member
    exact each other (List.mem_cons_of_mem _ member)

theorem CallsMeet.and_forall {shape : Call → Prop} (meets : CallsMeet step condition state calls)
    (each : ∀ call ∈ calls, shape call) :
    CallsMeet step (fun state call => condition state call ∧ shape call) state calls := by
  induction calls generalizing state with
  | nil => trivial
  | cons call rest ih =>
    refine ⟨⟨meets.1, each call List.mem_cons_self⟩, ih meets.2 ?_⟩
    intro other member
    exact each other (List.mem_cons_of_mem _ member)

theorem CallsMeet.of_append
    {first rest : List Call} (meets : CallsMeet step condition state (first ++ rest)) :
    CallsMeet step condition state first := by
  induction first generalizing state with
  | nil => trivial
  | cons call first ih => exact ⟨meets.1, ih meets.2⟩

variable {State Other Call Reply : Type}
variable {step : State → Call → Reply × State} {otherStep : Other → Call → Reply × Other}

/-- Two stores that answer alike in related states, and stay related, answer
every sequence alike. -/
theorem CallsMeet.simulation {condition : State → Call → Prop} {state : State} {other : Other}
    {calls : List Call} (meets : CallsMeet step condition state calls)
    (related : State → Other → Prop)
    (simulates : ∀ state other call, related state other → condition state call →
      (step state call).1 = (otherStep other call).1 ∧
        related (step state call).2 (otherStep other call).2) (initial : related state other) :
    history step state calls = history otherStep other calls ∧
      related (afterCalls step state calls) (afterCalls otherStep other calls) := by
  induction calls generalizing state other with
  | nil => exact ⟨rfl, initial⟩
  | cons call rest ih =>
    obtain ⟨sameReply, stillRelated⟩ := simulates state other call initial meets.1
    obtain ⟨sameHistory, atEnd⟩ := ih meets.2 stillRelated
    refine ⟨?_, atEnd⟩
    simp only [history, sameReply, sameHistory]

end UntitledOJ
