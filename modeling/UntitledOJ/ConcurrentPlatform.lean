import UntitledOJ.AtomicProgram

/-!
# Concurrent programs over one store

A platform is a store with atomic calls, the tasks that may be started on it, and the events of
the outside world.  An action starts a task, lets a program perform its next call, crashes one, or
lets an event happen; disciplines restrict which actions a schedule takes.
-/

namespace UntitledOJ

open List

/-- A shared store, the programs started on it, and its environment. -/
structure Platform where
  State : Type
  Call : Type
  Reply : Call → Type
  Error : Type
  exec : (request : Call) → State → Reply request × State
  loads : Call → Bool
  Task : Type
  program : Task → Program Error Reply Unit
  Event : Type
  react : Event → State → State

namespace Platform

variable (platform : Platform)

/-- A suspended program, with the store as its last loading call saw it. -/
structure Thread where
  program : Program platform.Error platform.Reply Unit
  loaded : platform.State

/-- The store and the programs that have not finished. -/
structure Config where
  state : platform.State
  threads : List platform.Thread

inductive Action where
  | start (task : platform.Task)
  | step (index : Nat)
  | crash (index : Nat)
  | event (happening : platform.Event)

variable {platform}

def inFlight (thread : platform.Thread) : List platform.Thread :=
  match thread.program with
  | .done _ => []
  | .fail _ => []
  | .call _ _ => [thread]

namespace Config

def Performs (config : platform.Config) (index : Nat) (loaded : platform.State)
    (request : platform.Call) : Prop :=
  ∃ next, config.threads[index]? = some ⟨.call request next, loaded⟩

def next (config : platform.Config) : platform.Action → Option platform.Config
  | .start task =>
    some { config with
      threads := config.threads ++ inFlight ⟨platform.program task, config.state⟩ }
  | .step index =>
    match config.threads[index]? with
    | some ⟨.call request continuation, loaded⟩ =>
      let answer := platform.exec request config.state
      let marked := if platform.loads request then config.state else loaded
      some {
        state := answer.2
        threads := config.threads.take index ++
          inFlight ⟨continuation answer.1, marked⟩ ++ config.threads.drop (index + 1) }
    | _ => none
  | .crash index =>
    if index < config.threads.length then
      some { config with threads := config.threads.eraseIdx index }
    else none
  | .event happening => some { config with state := platform.react happening config.state }

end Config

/-- Which actions a schedule may take at a configuration. -/
abbrev Discipline (platform : Platform) := platform.Config → platform.Action → Prop

/-- A discipline that can be checked along a schedule. -/
class Discipline.Checkable (permits : platform.Discipline) where
  decides : ∀ config action, Decidable (permits config action)

def Step (permits : platform.Discipline) (before after : platform.Config) : Prop :=
  ∃ action, permits before action ∧ before.next action = some after

/-- Any interleaving of the actions that are permitted. -/
abbrev Run (permits : platform.Discipline) : platform.Config → platform.Config → Prop :=
  Relation.ReflTransGen (Step permits)

/-- Every interleaving, with crashes at any point. -/
def anySchedule : platform.Discipline := fun _ _ => True

instance : Discipline.Checkable (anySchedule : platform.Discipline) :=
  ⟨fun _ _ => isTrue trivial⟩

/-- Tasks run one at a time and without interference; they do not crash. -/
def serialSchedule : platform.Discipline
  | config, .start _ => config.threads = []
  | _, .step _ => True
  | _, .crash _ => False
  | config, .event _ => config.threads = []

instance : Discipline.Checkable (serialSchedule : platform.Discipline) :=
  ⟨fun config action =>
    match action with
    | .start _ => inferInstanceAs (Decidable (config.threads = []))
    | .step _ => isTrue trivial
    | .crash _ => isFalse id
    | .event _ => inferInstanceAs (Decidable (config.threads = []))⟩

def Discipline.both (first second : platform.Discipline) : platform.Discipline :=
  fun config action => first config action ∧ second config action

instance (first second : platform.Discipline) [firstCheck : first.Checkable]
    [secondCheck : second.Checkable] :
    (first.both second).Checkable :=
  ⟨fun config action =>
    @instDecidableAnd _ _ (firstCheck.decides config action) (secondCheck.decides config action)⟩

variable {index : Nat} {request : platform.Call} {config : platform.Config}
  {loaded : platform.State}

section

variable (condition : platform.State → platform.Call → platform.State → Prop)

/-- The next call meets the condition on the loaded state, the call and the state before it. -/
def Thread.Meets (state : platform.State) : platform.Thread → Prop
  | ⟨.call request _, loaded⟩ => condition loaded request state
  | _ => True

def threadsMeet : platform.Discipline
  | config, .step index =>
    ∀ thread ∈ config.threads[index]?, thread.Meets condition config.state
  | _, _ => True

variable [∀ loaded request state, Decidable (condition loaded request state)]

instance (state : platform.State) (thread : platform.Thread) :
    Decidable (thread.Meets condition state) :=
  match thread with
  | ⟨.call request _, loaded⟩ => inferInstanceAs (Decidable (condition loaded request state))
  | ⟨.done _, _⟩ => isTrue trivial
  | ⟨.fail _, _⟩ => isTrue trivial

instance : Discipline.Checkable (threadsMeet condition) :=
  ⟨fun _ action =>
    match action with
    | .start _ => isTrue trivial
    | .step _ => inferInstanceAs (Decidable (∀ thread ∈ _, _))
    | .crash _ => isTrue trivial
    | .event _ => isTrue trivial⟩

end

/-- Every call that a program performs meets the condition on the loaded state and the states
before and after it. -/
abbrev stepsMeet (condition : platform.State → platform.State → platform.State → Prop) :
    platform.Discipline :=
  threadsMeet fun loaded request state => condition loaded state (platform.exec request state).2

/-- Every call is made in a state that meets the condition. -/
abbrev callsMeet (condition : platform.Call → platform.State → Prop) : platform.Discipline :=
  threadsMeet fun _ request state => condition request state

theorem threadsMeet_performs {condition : platform.State → platform.Call → platform.State → Prop}
    (meets : threadsMeet condition config (.step index))
    (performs : config.Performs index loaded request) : condition loaded request config.state := by
  obtain ⟨_, found⟩ := performs
  exact meets _ found

variable {condition : platform.State → platform.State → platform.State → Prop}

theorem stepsMeet_of_next {action : platform.Action} {after : platform.Config}
    (taken : config.next action = some after)
    (meets : ∀ {index loaded request}, config.Performs index loaded request →
      after.state = (platform.exec request config.state).2 →
        condition loaded config.state after.state) : stepsMeet condition config action := by
  cases action with
  | start | crash | event => trivial
  | step index =>
    rintro ⟨program, loaded⟩ found
    cases program with
    | done | fail => trivial
    | call request continuation =>
      simp only [Config.next, Option.mem_def.mp found] at taken
      cases taken
      exact meets ⟨continuation, found⟩ rfl

variable {first last : platform.Config}

variable (permits : platform.Discipline) [checkable : permits.Checkable]
  {actions : List platform.Action}

/-- Take the listed actions in order, as far as they are permitted. -/
def play (config : platform.Config) : List platform.Action → Option platform.Config
  | [] => some config
  | action :: rest =>
    match checkable.decides config action with
    | isTrue _ => (config.next action).bind fun after => play after rest
    | isFalse _ => none

theorem run_of_play (played : play permits first actions = some last) : Run permits first last := by
  induction actions generalizing first with
  | nil =>
    cases played
    exact Relation.ReflTransGen.refl
  | cons action rest ih =>
    simp only [play] at played
    split at played
    · rename_i permitted _
      obtain ⟨_, taken, later⟩ := Option.bind_eq_some_iff.mp played
      exact Relation.ReflTransGen.head ⟨action, permitted, taken⟩ (ih later)
    · cases played

theorem step_of_play {action : platform.Action} (played : play permits first [action] = some last) :
    Step permits first last := by
  simp only [play] at played
  split at played
  · rename_i permitted _
    obtain ⟨_, taken, same⟩ := Option.bind_eq_some_iff.mp played
    cases same
    exact ⟨action, permitted, taken⟩
  · cases played

theorem exists_run_of_play {property : platform.Config → Prop}
    (played : ∃ last ∈ play permits first actions, property last) :
    ∃ last, Run permits first last ∧ property last := by
  obtain ⟨last, reached, holds⟩ := played
  exact ⟨last, run_of_play permits reached, holds⟩

theorem Run.mono {permits weaker : platform.Discipline}
    (implies : ∀ config action, permits config action → weaker config action)
    (run : Run permits first last) : Run weaker first last := by
  refine run.lift id ?_
  rintro before after ⟨action, permitted, taken⟩
  exact ⟨action, implies _ _ permitted, taken⟩

theorem mem_inFlight {thread resident : platform.Thread} (member : resident ∈ inFlight thread) :
    resident = thread ∧ ∃ request next, thread.program = .call request next := by
  unfold inFlight at member
  split at member
  · simp at member
  · simp at member
  · rename_i request next shape
    exact ⟨by simpa using member, request, next, shape⟩

variable {before after : platform.Config}

theorem next_step_cases (taken : before.next (.step index) = some after) :
    ∃ request continuation loaded,
      before.threads[index]? = some ⟨.call request continuation, loaded⟩ ∧
        after.state = (platform.exec request before.state).2 ∧
        after.threads = before.threads.take index ++
          inFlight ⟨continuation (platform.exec request before.state).1,
            if platform.loads request then before.state else loaded⟩ ++
          before.threads.drop (index + 1) := by
  simp only [Config.next] at taken
  split at taken
  · rename_i request continuation loaded found
    cases taken
    exact ⟨request, continuation, loaded, found, rfl, rfl⟩
  · cases taken

theorem next_step_split (taken : before.next (.step index) = some after) :
    ∃ left right request continuation loaded,
      before.threads = left ++ ⟨.call request continuation, loaded⟩ :: right ∧
        before.threads[index]? = some ⟨.call request continuation, loaded⟩ ∧
        after.state = (platform.exec request before.state).2 ∧
        after.threads = left ++ inFlight ⟨continuation (platform.exec request before.state).1,
          if platform.loads request then before.state else loaded⟩ ++ right := by
  obtain ⟨request, continuation, loaded, found, stateEq, threadsEq⟩ := next_step_cases taken
  refine ⟨_, _, request, continuation, loaded, ?_, found, stateEq, threadsEq⟩
  obtain ⟨within, same⟩ := List.getElem?_eq_some_iff.mp found
  rw [← same, ← List.drop_eq_getElem_cons within, List.take_append_drop]

theorem next_crash (taken : before.next (.crash index) = some after) :
    after = { before with threads := before.threads.eraseIdx index } := by
  simp only [Config.next] at taken
  split at taken
  · exact (Option.some.inj taken).symm
  · cases taken

/-- A step performs a call or lets an event happen, or leaves the store as it
is. -/
theorem step_cases {permits : platform.Discipline} (step : Step permits before after) :
    after.state = before.state ∨
      (∃ index loaded request, permits before (.step index) ∧
        before.Performs index loaded request ∧
        after.state = (platform.exec request before.state).2) ∨
      ∃ happening, permits before (.event happening) ∧
        after.state = platform.react happening before.state := by
  obtain ⟨action, permitted, taken⟩ := step
  cases action with
  | start task =>
    cases taken
    exact .inl rfl
  | step index =>
    obtain ⟨request, continuation, loaded, found, stateEq, _⟩ := next_step_cases taken
    exact .inr (.inl ⟨index, loaded, request, permitted, ⟨continuation, found⟩, stateEq⟩)
  | crash index =>
    obtain rfl := next_crash taken
    exact .inl rfl
  | event happening =>
    cases taken
    exact .inr (.inr ⟨happening, permitted, rfl⟩)

/-- The logic of a platform: a rely relation, a known invariant and a guarantee. -/
def logic (platform : Platform) (rely : platform.State → platform.State → Prop)
    (known : platform.State → Prop)
    (guarantee : platform.State → platform.Call → platform.State → Prop) :
    Program.Logic platform.State platform.Reply where
  exec := platform.exec
  loads := platform.loads
  rely := rely
  known := known
  guarantee := guarantee

variable {rely : platform.State → platform.State → Prop}
variable {guarantee : platform.State → platform.Call → platform.State → Prop}
variable {invariant : platform.State → Prop}

/-- Rely-guarantee rule: when every task keeps the guarantee, which preserves the invariant within
the rely relation as events do, every interleaving satisfies the invariant. -/
theorem run_invariant
    (reflexive : ∀ state, rely state state)
    (transitive : ∀ {first second third}, rely first second → rely second third → rely first third)
    (starts : ∀ task state, invariant state →
      (platform.program task).Ensures (platform.logic rely invariant guarantee)
        (fun _ _ _ => True) state state)
    (acts : ∀ loaded request state, invariant state → guarantee loaded request state →
      invariant (platform.exec request state).2 ∧ rely state (platform.exec request state).2)
    (reacts : ∀ happening state, invariant state →
      invariant (platform.react happening state) ∧ rely state (platform.react happening state))
    {permits : platform.Discipline} {first last : platform.Config}
    (idle : first.threads = []) (initial : invariant first.state)
    (run : Run permits first last) :
    invariant last.state ∧ ∀ thread ∈ last.threads,
      (∃ request next, thread.program = .call request next) ∧
        thread.program.Ensures (platform.logic rely invariant guarantee)
          (fun _ _ _ => True) thread.loaded last.state := by
  induction run with
  | refl => simp [initial, idle]
  | @tail before after _ stepTo ih =>
    obtain ⟨holds, sound⟩ := ih
    have others {now : platform.State} (relied : rely before.state now) :
        ∀ thread ∈ before.threads,
          (∃ request next, thread.program = .call request next) ∧
            thread.program.Ensures (platform.logic rely invariant guarantee)
              (fun _ _ _ => True) thread.loaded now := by
      rintro ⟨program, loaded⟩ member
      obtain ⟨⟨request, next, shape⟩, ensured⟩ := sound _ member
      subst shape
      exact ⟨⟨request, next, rfl⟩, ensured.interfere transitive relied⟩
    obtain ⟨action, _, taken⟩ := stepTo
    cases action with
    | start task =>
      cases taken
      refine ⟨holds, ?_⟩
      intro thread member
      rcases mem_append.mp member with old | fresh
      · exact sound thread old
      · obtain ⟨rfl, request, next, shape⟩ := mem_inFlight fresh
        exact ⟨⟨request, next, shape⟩, starts task before.state holds⟩
    | step index =>
      obtain ⟨request, _, loaded, found, stateEq, threadsEq⟩ := next_step_cases taken
      have member := mem_of_getElem? found
      have ensured := (sound _ member).2 before.state (reflexive _) holds
      obtain ⟨kept, relied⟩ := acts loaded request before.state holds ensured.1
      rw [stateEq, threadsEq]
      refine ⟨kept, ?_⟩
      intro thread present
      simp only [mem_append] at present
      rcases present with (left | fresh) | right
      · exact others relied thread (mem_of_mem_take left)
      · obtain ⟨rfl, shape⟩ := mem_inFlight fresh
        exact ⟨shape, ensured.2⟩
      · exact others relied thread (mem_of_mem_drop right)
    | crash index =>
      obtain rfl := next_crash taken
      exact ⟨holds, fun thread member => sound thread (mem_of_mem_eraseIdx member)⟩
    | event happening =>
      cases taken
      obtain ⟨kept, relied⟩ := reacts happening before.state holds
      exact ⟨kept, others relied⟩

theorem run_performs {admitted : platform.Call → Prop}
    (programs : ∀ task, (platform.program task).ReadOnly admitted) {permits : platform.Discipline}
    {first last : platform.Config} (idle : first.threads = []) (run : Run permits first last)
    {index : Nat} {loaded : platform.State} {request : platform.Call}
    (performs : last.Performs index loaded request) : admitted request := by
  obtain ⟨_, found⟩ := performs
  have ensured := ((@run_invariant platform (fun _ _ => True)
    (fun _ request _ => admitted request) (fun _ => True) (fun _ => trivial) (fun _ _ => trivial)
    (fun task state _ => Program.ensures_of_unguarded (fun _ _ _ allowed => allowed)
      (programs task) (fun _ _ _ => trivial) state state)
    (fun _ _ _ _ _ => ⟨trivial, trivial⟩) (fun _ _ _ => ⟨trivial, trivial⟩) permits first last idle
      trivial run).2 _ (mem_of_getElem? found)).2
  exact (ensured last.state trivial trivial).1

/-- What a suspended program last loaded is related to the present state. -/
theorem run_loaded
    (reflexive : ∀ state, rely state state)
    (transitive : ∀ {first second third}, rely first second → rely second third → rely first third)
    {permits : platform.Discipline} {first last : platform.Config}
    (steps : ∀ {before after}, Run permits first before → Step permits before after →
      rely before.state after.state)
    (idle : first.threads = []) (run : Run permits first last) :
    ∀ thread ∈ last.threads, rely thread.loaded last.state := by
  induction run with
  | refl => simp [idle]
  | @tail before after earlier stepTo ih =>
    have relied := steps earlier stepTo
    have others : ∀ thread ∈ before.threads, rely thread.loaded after.state :=
      fun thread member => transitive (ih thread member) relied
    obtain ⟨action, _, taken⟩ := stepTo
    cases action with
    | start task =>
      cases taken
      intro thread member
      rcases mem_append.mp member with old | fresh
      · exact ih thread old
      · obtain ⟨rfl, _⟩ := mem_inFlight fresh
        exact reflexive _
    | step index =>
      obtain ⟨_, _, _, found, _, threadsEq⟩ := next_step_cases taken
      rw [threadsEq]
      intro thread present
      simp only [mem_append] at present
      rcases present with (left | fresh) | right
      · exact others thread (mem_of_mem_take left)
      · obtain ⟨rfl, _⟩ := mem_inFlight fresh
        simp only
        split_ifs
        · exact relied
        · exact others _ (mem_of_getElem? found)
      · exact others thread (mem_of_mem_drop right)
    | crash index =>
      obtain rfl := next_crash taken
      exact fun thread member => ih thread (mem_of_mem_eraseIdx member)
    | event happening =>
      cases taken
      exact others

variable {known : platform.State → Prop}
variable {guarantee : platform.State → platform.Call → platform.State → Prop}

/-- At most one program is in flight, and it will keep its guarantee. -/
def Config.Orderly (rely : platform.State → platform.State → Prop)
    (known : platform.State → Prop)
    (guarantee : platform.State → platform.Call → platform.State → Prop)
    (config : platform.Config) : Prop :=
  config.threads = [] ∨
    ∃ request next loaded, config.threads = [⟨.call request next, loaded⟩] ∧
      (Program.call request next).Ensures (platform.logic rely known guarantee)
        (fun _ _ _ => True) loaded config.state

private theorem orderly_of_inFlight {state : platform.State} {thread : platform.Thread}
    (ensured : thread.program.Ensures (platform.logic rely known guarantee)
      (fun _ _ _ => True) thread.loaded state) :
    Config.Orderly rely known guarantee ⟨state, inFlight thread⟩ := by
  obtain ⟨program, loaded⟩ := thread
  cases program with
  | done result | fail error => exact .inl rfl
  | call request next => exact .inr ⟨request, next, loaded, rfl, ensured⟩

/-- Serial rule: when every task keeps the guarantee, every configuration of a serial run is
orderly, whatever reflexive relation is relied on. -/
theorem serial_orderly {permits : platform.Discipline}
    (serial : ∀ config action, permits config action → serialSchedule config action)
    (reflexive : ∀ state, rely state state)
    (starts : ∀ task state, (platform.program task).Ensures
      (platform.logic rely known guarantee) (fun _ _ _ => True) state state)
    {first last : platform.Config}
    (holds : ∀ config, Run permits first config → known config.state)
    (idle : first.threads = []) (run : Run permits first last) :
    last.Orderly rely known guarantee := by
  induction run with
  | refl => exact .inl idle
  | @tail before after earlier stepTo ih =>
    obtain ⟨action, permitted, taken⟩ := stepTo
    have ordered := serial _ _ permitted
    cases action with
    | start task =>
      have empty : before.threads = [] := ordered
      cases taken
      simp only [empty, nil_append]
      exact orderly_of_inFlight (starts task before.state)
    | step index =>
      obtain ⟨request, continuation, _, found, _, threadsEq⟩ := next_step_cases taken
      rcases ih with empty | ⟨_, _, remembered, busy, ensured⟩
      · simp [empty] at found
      · rw [busy] at found threadsEq
        cases index with
        | succ index => simp at found
        | zero =>
          simp only [getElem?_cons_zero, Option.some.injEq, Thread.mk.injEq] at found
          obtain ⟨shape, rfl⟩ := found
          cases shape
          have shapeEq : after = ⟨(platform.exec request before.state).2,
              inFlight ⟨continuation (platform.exec request before.state).1,
                if platform.loads request then before.state else remembered⟩⟩ := by
            cases after
            simp_all
          rw [shapeEq]
          exact orderly_of_inFlight (ensured before.state (reflexive _) (holds before earlier)).2
    | crash index => exact ordered.elim
    | event happening =>
      have empty : before.threads = [] := ordered
      cases taken
      exact .inl empty

theorem Config.Orderly.performs (orderly : config.Orderly rely known guarantee)
    (reflexive : ∀ state, rely state state) (holds : known config.state)
    (performs : config.Performs index loaded request) : guarantee loaded request config.state := by
  obtain ⟨_, found⟩ := performs
  rcases orderly with empty | ⟨_, _, _, busy, ensured⟩
  · simp [empty] at found
  · rw [busy] at found
    cases index with
    | succ index => simp at found
    | zero =>
      simp only [getElem?_cons_zero, Option.some.injEq, Thread.mk.injEq] at found
      obtain ⟨shape, rfl⟩ := found
      cases shape
      exact (ensured config.state (reflexive _) holds).1

end Platform

end UntitledOJ
