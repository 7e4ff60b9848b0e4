import Mathlib.Data.List.Forall2
import Mathlib.Logic.Relation

/-!
# Programs over atomic store calls

A service that talks to a shared store is a finite tree of requests: it returns a result, stops
with an error, or performs one atomic call and continues with the reply.  The rules prove
assertions about its calls and its outcome under interference.
-/

namespace UntitledOJ

/-- A terminating program whose only effects are the atomic calls it
performs. -/
inductive Program (Error : Type) {Call : Type} (Reply : Call → Type) (Result : Type) : Type where
  | done (result : Result)
  | fail (error : Error)
  | call (request : Call) (next : Reply request → Program Error Reply Result)

namespace Program

variable {Error Call : Type} {Reply : Call → Type} {α β : Type} (request : Call) (result : α)

protected def bind : Program Error Reply α → (α → Program Error Reply β) →
    Program Error Reply β
  | .done result, continuation => continuation result
  | .fail error, _ => .fail error
  | .call request next, continuation =>
    .call request fun reply => (next reply).bind continuation

instance : Monad (Program Error Reply) where
  pure := .done
  bind := Program.bind

def perform (request : Call) : Program Error Reply (Reply request) :=
  .call request .done

def handle : Program Error Reply α → (Error → Program Error Reply α) →
    Program Error Reply α
  | .done result, _ => .done result
  | .fail error, handler => handler error
  | .call request next, handler =>
    .call request fun reply => (next reply).handle handler

/-- Run a program for its outcome, whatever the error of the program around it. -/
def outcome {Other : Type} : Program Error Reply α → Program Other Reply (Except Error α)
  | .done result => .done (.ok result)
  | .fail error => .done (.error error)
  | .call request next => .call request fun reply => (next reply).outcome

def labelled {Label : Type} (label : Label) :
    Program Error Reply α → Program Error (fun call : Label × Call => Reply call.2) α
  | .done result => .done result
  | .fail error => .fail error
  | .call request next => .call (label, request) fun reply => (next reply).labelled label

def forEach (body : α → Program Error Reply β) : List α → Program Error Reply (List β)
  | [] => .done []
  | item :: rest => do
      let result ← body item
      let results ← forEach body rest
      pure (result :: results)

def anyItem (test : α → Program Error Reply Bool) : List α → Program Error Reply Bool
  | [] => .done false
  | item :: rest => do
      if ← test item then pure true else anyItem test rest

@[simp]
theorem pure_eq : (pure result : Program Error Reply α) = .done result := rfl

@[simp]
theorem done_bind (continuation : α → Program Error Reply β) :
    (Program.done result >>= continuation) = continuation result :=
  rfl

@[simp]
theorem fail_bind (error : Error) (continuation : α → Program Error Reply β) :
    ((Program.fail error : Program Error Reply α) >>= continuation) = .fail error :=
  rfl

@[simp]
theorem call_bind (next : Reply request → Program Error Reply α)
    (continuation : α → Program Error Reply β) : (Program.call request next >>= continuation) =
      .call request fun reply => next reply >>= continuation :=
  rfl

@[simp]
theorem perform_bind (continuation : Reply request → Program Error Reply β) :
    (perform request >>= continuation) = .call request continuation :=
  rfl

theorem bind_assoc {γ : Type} (program : Program Error Reply α)
    (first : α → Program Error Reply β) (second : β → Program Error Reply γ) :
    (program >>= first >>= second) = program >>= fun result => first result >>= second := by
  induction program with
  | done result => rfl
  | fail error => rfl
  | call request next ih => exact congrArg (Program.call request) (funext ih)

variable {State : Type} (exec : (request : Call) → State → Reply request × State)

/-- Execute a program without interference, as one atomic action. -/
def eval : Program Error Reply α → State → Except Error α × State
  | .done result, state => (.ok result, state)
  | .fail error, state => (.error error, state)
  | .call request next, state =>
    (next (exec request state).1).eval (exec request state).2

variable {exec}

@[simp]
theorem eval_done (result : α) (state : State) :
    (Program.done result : Program Error Reply α).eval exec state = (.ok result, state) :=
  rfl

@[simp]
theorem eval_fail (error : Error) (state : State) :
    (Program.fail error : Program Error Reply α).eval exec state = (.error error, state) :=
  rfl

@[simp]
theorem eval_call (request : Call) (next : Reply request → Program Error Reply α) (state : State) :
    (Program.call request next).eval exec state =
      (next (exec request state).1).eval exec (exec request state).2 :=
  rfl

theorem eval_bind (program : Program Error Reply α)
    (continuation : α → Program Error Reply β) (state : State) :
    (program >>= continuation).eval exec state =
      match program.eval exec state with
      | (.ok result, after) => (continuation result).eval exec after
      | (.error error, after) => (.error error, after) := by
  induction program generalizing state with
  | done result => rfl
  | fail error => rfl
  | call request next ih => exact ih _ _

variable {answers : (request : Call) → Reply request → Prop} {outcome : Except Error α}

/-- The outcomes a program can have when every call is answered by one of the
admitted replies. -/
def Yields (answers : (request : Call) → Reply request → Prop) :
    Program Error Reply α → Except Error α → Prop
  | .done result, outcome => outcome = .ok result
  | .fail error, outcome => outcome = .error error
  | .call request next, outcome =>
    ∃ reply, answers request reply ∧ (next reply).Yields answers outcome

@[simp]
theorem yields_done {result : α} :
    (Program.done result : Program Error Reply α).Yields answers outcome ↔ outcome = .ok result :=
  Iff.rfl

@[simp]
theorem yields_fail {error : Error} :
    (Program.fail error : Program Error Reply α).Yields answers outcome ↔ outcome = .error error :=
  Iff.rfl

@[simp]
theorem yields_call {request : Call} {next : Reply request → Program Error Reply α} :
    (Program.call request next).Yields answers outcome ↔
      ∃ reply, answers request reply ∧ (next reply).Yields answers outcome :=
  Iff.rfl

variable {program : Program Error Reply α} {continuation : α → Program Error Reply β}

theorem yields_bind {outcome : Except Error β} : (program >>= continuation).Yields answers outcome ↔
      (∃ result, program.Yields answers (.ok result) ∧
          (continuation result).Yields answers outcome) ∨
        ∃ error, program.Yields answers (.error error) ∧ outcome = .error error := by
  induction program with
  | done result => simp
  | fail error => simp
  | call request next ih =>
    simp only [call_bind, yields_call, ih]
    constructor
    · rintro ⟨reply, answered, ⟨result, first, rest⟩ | ⟨error, first, same⟩⟩
      · exact .inl ⟨result, ⟨reply, answered, first⟩, rest⟩
      · exact .inr ⟨error, ⟨reply, answered, first⟩, same⟩
    · rintro (⟨result, ⟨reply, answered, first⟩, rest⟩ | ⟨error, ⟨reply, answered, first⟩, same⟩)
      · exact ⟨reply, answered, .inl ⟨result, first, rest⟩⟩
      · exact ⟨reply, answered, .inr ⟨error, first, same⟩⟩

theorem yields_bind_ok {value : β} : (program >>= continuation).Yields answers (.ok value) ↔
      ∃ result, program.Yields answers (.ok result) ∧
        (continuation result).Yields answers (.ok value) := by
  simp [yields_bind]

theorem Yields.mono {wider : (request : Call) → Reply request → Prop}
    (implies : ∀ request reply, answers request reply → wider request reply)
    (yielded : program.Yields answers outcome) : program.Yields wider outcome := by
  induction program with
  | done result | fail error => exact yielded
  | call request next ih =>
    obtain ⟨reply, answered, rest⟩ := yielded
    exact ⟨reply, implies _ _ answered, ih reply rest⟩

variable {items : List α} {test : α → Program Error Reply Bool} {body : α → Program Error Reply β}
  {results : List β}

theorem yields_forEach_ok : (forEach body items).Yields answers (.ok results) ↔
      List.Forall₂ (fun item result => (body item).Yields answers (.ok result)) items results := by
  induction items generalizing results with
  | nil => simp [forEach]
  | cons item rest ih =>
    simp only [forEach, yields_bind_ok, ih, pure_eq, yields_done, Except.ok.injEq,
      List.forall₂_cons_left_iff]
    constructor
    · rintro ⟨result, first, others, remaining, rfl⟩
      exact ⟨result, others, first, remaining, rfl⟩
    · rintro ⟨result, others, first, remaining, rfl⟩
      exact ⟨result, first, others, remaining, rfl⟩

theorem exists_partner {γ δ : Type} {related : γ → δ → Prop} {items : List γ} {results : List δ}
    (paired : List.Forall₂ related items results) :
    ∀ item ∈ items, ∃ result ∈ results, related item result := by
  induction paired with
  | nil => simp
  | cons first _ ih =>
    rw [List.forall_mem_cons]
    refine ⟨⟨_, List.mem_cons_self, first⟩, ?_⟩
    intro item member
    obtain ⟨result, present, holds⟩ := ih item member
    exact ⟨result, List.mem_cons_of_mem _ present, holds⟩

theorem exists_yields_of_mem_items (yielded : (forEach body items).Yields answers (.ok results)) :
    ∀ item ∈ items, ∃ result ∈ results, (body item).Yields answers (.ok result) :=
  exists_partner (yields_forEach_ok.mp yielded)

theorem yields_anyItem_true (found : (anyItem test items).Yields answers (.ok true)) :
    ∃ item ∈ items, (test item).Yields answers (.ok true) := by
  induction items with
  | nil => simp [anyItem] at found
  | cons item rest ih =>
    obtain ⟨holds, tested, later⟩ := yields_bind_ok.mp found
    cases holds with
    | true => exact ⟨item, List.mem_cons_self, tested⟩
    | false =>
      obtain ⟨other, member, succeeded⟩ := ih later
      exact ⟨other, List.mem_cons_of_mem _ member, succeeded⟩

theorem yields_anyItem_false : (anyItem test items).Yields answers (.ok false) ↔
      ∀ item ∈ items, (test item).Yields answers (.ok false) := by
  induction items with
  | nil => simp [anyItem]
  | cons item rest ih =>
    simp only [anyItem, yields_bind_ok, List.forall_mem_cons]
    constructor
    · rintro ⟨holds, tested, later⟩
      cases holds with
      | true => simp at later
      | false => exact ⟨tested, ih.mp later⟩
    · rintro ⟨tested, later⟩
      exact ⟨false, tested, ih.mpr later⟩

variable (reads : Call → Prop)

/-- Every call of the program is one of the designated read calls. -/
def ReadOnly : Program Error Reply α → Prop
  | .done _ => True
  | .fail _ => True
  | .call request next => reads request ∧ ∀ reply, (next reply).ReadOnly

variable {reads}

theorem readOnly_perform {request : Call} (allowed : reads request) :
    (perform request : Program Error Reply (Reply request)).ReadOnly reads :=
  ⟨allowed, fun _ => trivial⟩

variable {program : Program Error Reply α} {items : List α} {State : Type}

theorem ReadOnly.bind (first : program.ReadOnly reads)
    (rest : ∀ result, (continuation result).ReadOnly reads) :
    (program >>= continuation).ReadOnly reads := by
  induction program with
  | done result => exact rest result
  | fail error => trivial
  | call request next ih =>
    exact ⟨first.1, fun reply => ih reply (first.2 reply)⟩

theorem ReadOnly.mono {wider : Call → Prop} (allowed : program.ReadOnly reads)
    (implies : ∀ request, reads request → wider request) : program.ReadOnly wider := by
  induction program with
  | done result => trivial
  | fail error => trivial
  | call request next ih =>
    exact ⟨implies request allowed.1, fun reply => ih reply (allowed.2 reply)⟩

theorem ReadOnly.handle {handler : Error → Program Error Reply α} (allowed : program.ReadOnly reads)
    (rest : ∀ error, (handler error).ReadOnly reads) : (program.handle handler).ReadOnly reads := by
  induction program with
  | done result => trivial
  | fail error => exact rest error
  | call request next ih => exact ⟨allowed.1, fun reply => ih reply (allowed.2 reply)⟩

theorem readOnly_forEach
    (each : ∀ item, (body item).ReadOnly reads) : (forEach body items).ReadOnly reads := by
  induction items with
  | nil => trivial
  | cons item rest ih =>
    exact (each item).bind fun _ => ih.bind fun _ => trivial

theorem readOnly_anyItem
    (each : ∀ item, (test item).ReadOnly reads) : (anyItem test items).ReadOnly reads := by
  induction items with
  | nil => trivial
  | cons item rest ih =>
    refine (each item).bind fun holds => ?_
    cases holds with
    | true => trivial
    | false => exact ih

section

variable {exec : (request : Call) → State → Reply request × State}
  (unchanged : ∀ request state, reads request → (exec request state).2 = state)
  (readOnly : program.ReadOnly reads)
include unchanged readOnly

theorem ReadOnly.eval_state (state : State) : (program.eval exec state).2 = state := by
  induction program with
  | done result => rfl
  | fail error => rfl
  | call request next ih =>
    rw [eval_call, unchanged request state readOnly.1]
    exact ih _ (readOnly.2 _)

/-- Executed alone, a program of reads has the one outcome that the replies of
the current state admit. -/
theorem ReadOnly.yields_iff_eval {state : State} :
    program.Yields (fun request reply => reply = (exec request state).1) outcome ↔
      (program.eval exec state).1 = outcome := by
  induction program with
  | done result | fail error => simp [eq_comm]
  | call request next ih =>
    simp only [yields_call, eval_call, exists_eq_left, unchanged request state readOnly.1]
    exact ih _ (readOnly.2 _)

end

/-- Interference rules over one store: what others may do between two calls, and what is asserted of
every call where it executes, with the state that was last loaded. -/
structure Logic (State : Type) {Call : Type} (Reply : Call → Type) where
  exec : (request : Call) → State → Reply request × State
  loads : Call → Bool
  rely : State → State → Prop
  known : State → Prop
  guarantee : State → Call → State → Prop

namespace Logic

variable (logic : Logic State Reply)

/-- The state remembered as loaded after one call. -/
def mark (loaded : State) (request : Call) (state : State) : State :=
  if logic.loads request then state else loaded

/-- A reply that was correct at some moment between two states. -/
def Seen (before after : State) (request : Call) (reply : Reply request) : Prop :=
  ∃ moment, logic.rely before moment ∧ logic.known moment ∧ logic.rely moment after ∧
    reply = (logic.exec request moment).1

end Logic

/-- Every call the program performs under interference meets the guarantee,
and the outcome meets the postcondition. -/
def Ensures {State : Type} (logic : Logic State Reply)
    (post : Except Error α → State → State → Prop) :
    Program Error Reply α → State → State → Prop
  | .done result, loaded, state => post (.ok result) loaded state
  | .fail error, loaded, state => post (.error error) loaded state
  | .call request next, loaded, state =>
    ∀ now, logic.rely state now → logic.known now →
      logic.guarantee loaded request now ∧
        (next (logic.exec request now).1).Ensures logic post
          (logic.mark loaded request now) (logic.exec request now).2

variable {logic : Logic State Reply} {post : Except Error β → State → State → Prop}

variable {continuation : α → Program Error Reply β} {loaded state : State}

theorem ensures_bind :
    (program >>= continuation).Ensures logic post loaded state ↔
      program.Ensures logic
        (fun outcome marked now =>
          match outcome with
          | .ok result => (continuation result).Ensures logic post marked now
          | .error error => post (.error error) marked now)
        loaded state := by
  induction program generalizing loaded state with
  | done result => rfl
  | fail error => rfl
  | call request next ih =>
    constructor
    · intro holds now relied known
      exact ⟨(holds now relied known).1, (ih _).mp (holds now relied known).2⟩
    · intro holds now relied known
      exact ⟨(holds now relied known).1, (ih _).mpr (holds now relied known).2⟩

variable {program : Program Error Reply β} {handler : Error → Program Error Reply β}
  {middle : α → State → State → Prop} {reads : Call → Prop}

theorem ensures_handle :
    (program.handle handler).Ensures logic post loaded state ↔
      program.Ensures logic
        (fun outcome marked now =>
          match outcome with
          | .ok result => post (.ok result) marked now
          | .error error => (handler error).Ensures logic post marked now)
        loaded state := by
  induction program generalizing loaded state with
  | done result => rfl
  | fail error => rfl
  | call request next ih =>
    constructor
    · intro holds now relied known
      exact ⟨(holds now relied known).1, (ih _).mp (holds now relied known).2⟩
    · intro holds now relied known
      exact ⟨(holds now relied known).1, (ih _).mpr (holds now relied known).2⟩

theorem Ensures.weaken {weaker : Except Error β → State → State → Prop}
    (holds : program.Ensures logic post loaded state)
    (implies : ∀ outcome marked now, post outcome marked now → weaker outcome marked now) :
    program.Ensures logic weaker loaded state := by
  induction program generalizing loaded state with
  | done result | fail error => exact implies _ _ _ holds
  | call request next ih =>
    intro now relied known
    exact ⟨(holds now relied known).1, ih _ (holds now relied known).2⟩

theorem Ensures.interfere {request : Call} {next : Reply request → Program Error Reply β}
    {before after : State} (transitive : ∀ {first second third}, logic.rely first second →
      logic.rely second third → logic.rely first third)
    (holds : (Program.call request next).Ensures logic post loaded before)
    (relied : logic.rely before after) :
    (Program.call request next).Ensures logic post loaded after :=
  fun now later known => holds now (transitive relied later) known

theorem ensures_of_reads (reflexive : ∀ state, logic.rely state state)
    (transitive : ∀ {first second third}, logic.rely first second →
      logic.rely second third → logic.rely first third)
    (unguarded : ∀ loaded request state, reads request → logic.guarantee loaded request state)
    (unmarked : ∀ request, reads request → logic.loads request = false)
    (unchanged : ∀ request state, reads request → (logic.exec request state).2 = state)
    (readOnly : program.ReadOnly reads) (holds : ∀ outcome now, logic.rely state now →
      program.Yields (logic.Seen state now) outcome → post outcome loaded now) :
    program.Ensures logic post loaded state := by
  induction program generalizing state with
  | done result | fail error => exact holds _ _ (reflexive state) rfl
  | call request next ih =>
    intro now relied known
    refine ⟨unguarded _ _ _ readOnly.1, ?_⟩
    have sameMark : logic.mark loaded request now = loaded := by
      simp [Logic.mark, unmarked request readOnly.1]
    rw [sameMark, unchanged _ _ readOnly.1]
    apply ih _ (readOnly.2 _)
    intro outcome later waited yielded
    refine holds outcome later (transitive relied waited) ⟨_, ⟨now, relied, known, waited, rfl⟩, ?_⟩
    refine yielded.mono ?_
    rintro other reply ⟨moment, since, knownThen, till, rfl⟩
    exact ⟨moment, transitive relied since, knownThen, till, rfl⟩

theorem ensures_of_unguarded
    (unguarded : ∀ loaded request state, reads request → logic.guarantee loaded request state)
    (calls : program.ReadOnly reads) (holds : ∀ outcome marked now, post outcome marked now)
    (loaded state : State) : program.Ensures logic post loaded state := by
  induction program generalizing loaded state with
  | done result | fail error => exact holds _ _ _
  | call request next ih =>
    intro now _ _
    exact ⟨unguarded _ _ _ calls.1, ih _ (calls.2 _) _ _⟩

/-- A postcondition for results; nothing is asserted of an error. -/
def OnOk (holds : α → State → State → Prop) : Except Error α → State → State → Prop
  | .ok result, loaded, state => holds result loaded state
  | .error _, _, _ => True

section

variable {program : Program Error Reply α}
  (first : program.Ensures logic (OnOk middle) loaded state)
include first

theorem Ensures.imp {weaker : α → State → State → Prop}
    (implies : ∀ result marked now, middle result marked now → weaker result marked now) :
    program.Ensures logic (OnOk weaker) loaded state := by
  refine first.weaken ?_
  rintro (_ | result) marked now holds
  · trivial
  · exact implies result marked now holds

theorem ensures_bind_ok {last : β → State → State → Prop}
    (rest : ∀ result marked now, middle result marked now →
      (continuation result).Ensures logic (OnOk last) marked now) :
    (program >>= continuation).Ensures logic (OnOk last) loaded state := by
  rw [ensures_bind]
  refine first.weaken ?_
  intro outcome marked now holds
  cases outcome with
  | ok result => exact rest result marked now holds
  | error error => trivial

theorem ensures_bind_true (rest : ∀ result marked now, middle result marked now →
      (continuation result).Ensures logic (fun _ _ _ => True) marked now) :
    (program >>= continuation).Ensures logic (fun _ _ _ => True) loaded state := by
  rw [ensures_bind]
  refine first.weaken ?_
  intro outcome marked now holds
  cases outcome with
  | ok result => exact rest result marked now holds
  | error error => trivial

end

/-- The program keeps an invariant of the store, however it ends. -/
def Preserves (logic : Logic State Reply) (invariant : State → Prop)
    (program : Program Error Reply α) : Prop :=
  ∀ loaded state, invariant state →
    program.Ensures logic (fun _ _ after => invariant after) loaded state

variable {invariant : State → Prop}

theorem preserves_done (result : α) :
    (Program.done result : Program Error Reply α).Preserves logic invariant :=
  fun _ _ holds => holds

theorem preserves_fail (error : Error) :
    (Program.fail error : Program Error Reply α).Preserves logic invariant :=
  fun _ _ holds => holds

theorem Preserves.bind {program : Program Error Reply α} (first : program.Preserves logic invariant)
    (rest : ∀ result, (continuation result).Preserves logic invariant) :
    (program >>= continuation).Preserves logic invariant := by
  intro loaded state holds
  rw [ensures_bind]
  refine (first loaded state holds).weaken ?_
  intro outcome marked now kept
  cases outcome with
  | ok result => exact rest result marked now kept
  | error error => exact kept

theorem Preserves.handle (first : program.Preserves logic invariant)
    (rest : ∀ error, (handler error).Preserves logic invariant) :
    (program.handle handler).Preserves logic invariant := by
  intro loaded state holds
  rw [ensures_handle]
  refine (first loaded state holds).weaken ?_
  intro outcome marked now kept
  cases outcome with
  | ok result => exact kept
  | error error => exact rest error marked now kept

theorem preserves_forEach (each : ∀ item, (body item).Preserves logic invariant) :
    (forEach body items).Preserves logic invariant := by
  induction items with
  | nil => exact preserves_done _
  | cons item rest ih =>
    exact (each item).bind fun _ => ih.bind fun _ => preserves_done _

theorem ensures_outcome {Other : Type} {program : Program Error Reply α}
    {post : Except Other (Except Error α) → State → State → Prop} :
    (program.outcome : Program Other Reply (Except Error α)).Ensures logic post loaded state ↔
      program.Ensures logic (fun outcome marked now => post (.ok outcome) marked now)
        loaded state := by
  induction program generalizing loaded state with
  | done result => rfl
  | fail error => rfl
  | call request next ih =>
    refine forall_congr' fun now => forall_congr' fun _ => forall_congr' fun _ => ?_
    exact and_congr_right fun _ => ih _

theorem ensures_labelled {Label : Type} (label : Label)
    {labelledLogic : Logic State (fun call : Label × Call => Reply call.2)}
    (exec : ∀ request state, labelledLogic.exec (label, request) state = logic.exec request state)
    (loads : ∀ request, labelledLogic.loads (label, request) = logic.loads request)
    (rely : labelledLogic.rely = logic.rely) (known : labelledLogic.known = logic.known)
    (guarantee : ∀ loaded request state,
      logic.guarantee loaded request state → labelledLogic.guarantee loaded (label, request) state)
    (holds : program.Ensures logic post loaded state) :
    (program.labelled label).Ensures labelledLogic post loaded state := by
  induction program generalizing loaded state with
  | done result | fail error => exact holds
  | call request next ih =>
    intro now relied knows
    obtain ⟨allowed, later⟩ := holds now (rely ▸ relied) (known ▸ knows)
    refine ⟨guarantee loaded request now allowed, ?_⟩
    rw [exec]
    have marked : labelledLogic.mark loaded (label, request) now =
        logic.mark loaded request now := by
      simp only [Logic.mark, loads]
    rw [marked]
    exact ih _ later

end Program

end UntitledOJ
