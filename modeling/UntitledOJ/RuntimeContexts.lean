import UntitledOJ.AgentLedger
import UntitledOJ.Transactions

/-!
# Runtime contexts and managed volumes

The table `runtime_context_runs` has one row for each deployment: the states of its runtime context
and of its managed volume, and whether the agent owns that.  A call changes one row under the guard
of its `UPDATE`, and `recover_interrupted` changes all of them.
-/

namespace UntitledOJ

namespace RuntimeContexts

inductive RuntimeProfile where
  | standardV1
  | judgeSandboxV1
  deriving DecidableEq

structure RuntimeContract where
  id : RuntimeProfile
  profileSha256 : String
  deriving DecidableEq

structure RuntimeContext where
  contract : RuntimeContract
  (runtimePolicySha256 scratchDirectory cacheVolumeName serviceContextDirectory : String)
  deriving DecidableEq

structure ManagedVolumeSpec where
  (name deploymentId serviceId artifactDigest : String)
  runtimeContract : RuntimeContract
  (logicalName lifecycle ownerInstanceId target : String)
  deriving DecidableEq

def retainVolumeLifecycle : String := "retain"

inductive ContextState where
  | materializing | prepared | creating | bound | active | cleanupNeeded | cleanupRunning | cleaned
  | needsAttention
  deriving DecidableEq

def ContextState.text : ContextState → String
  | .materializing => "MATERIALIZING"
  | .prepared => "PREPARED"
  | .creating => "CREATING"
  | .bound => "BOUND"
  | .active => "ACTIVE"
  | .cleanupNeeded => "CLEANUP_NEEDED"
  | .cleanupRunning => "CLEANUP_RUNNING"
  | .cleaned => "CLEANED"
  | .needsAttention => "NEEDS_ATTENTION"

inductive VolumeState where
  | none | creating | created | cleanupNeeded | cleanupRunning | cleaned | needsAttention
  deriving DecidableEq

def VolumeState.text : VolumeState → String
  | .none => "NONE"
  | .creating => "CREATING"
  | .created => "CREATED"
  | .cleanupNeeded => "CLEANUP_NEEDED"
  | .cleanupRunning => "CLEANUP_RUNNING"
  | .cleaned => "CLEANED"
  | .needsAttention => "NEEDS_ATTENTION"

inductive ContextError where
  | runtimeContextConflict (deploymentId : String)
  | invalidState (text : String)
  /-- The unique index over the container ids. -/
  | containerTaken

/-- A row of `runtime_context_runs`; the contexts of the service are kept as JSON texts. -/
structure RuntimeContextRow where
  jobId : String
  context : RuntimeContext
  state : ContextState
  containerId : Option String := none
  errorMessage : Option String := none
  managedContextJson : Option String := none
  previousManagedContextJson : Option String := none
  bindingContextRevoked : Bool := false
  volumeSpec : Option ManagedVolumeSpec := none
  volumeState : VolumeState := .none
  volumeOwned : Bool := false

abbrev ContextTable := Std.TreeMap String RuntimeContextRow

abbrev Outcome := Except ContextError (Unit × ContextTable)

variable (table : ContextTable) (deploymentId jobId : String)

def invalid (subject rest : String) : ContextError :=
  .invalidState (subject ++ " for deployment " ++ deploymentId ++ " " ++ rest)

/-- `UPDATE … WHERE deployment_id = ?1 AND guard`, which must change a row. -/
def update (guard : RuntimeContextRow → Bool) (set : RuntimeContextRow → RuntimeContextRow)
    (unchanged : ContextError) : Outcome :=
  match table[deploymentId]?.filter guard with
  | some row => .ok ((), table.insert deploymentId (set row))
  | none => .error unchanged

/-- `runtime_context_for_deployment`, which must find a row. -/
def required : Except ContextError RuntimeContextRow :=
  match table[deploymentId]? with
  | some row => .ok row
  | none => .error (invalid deploymentId "runtime context" "was not found")

/-- The row after the four statements of `recover_interrupted`. -/
def RuntimeContextRow.recovered (row : RuntimeContextRow) : RuntimeContextRow :=
  let unsettled : List VolumeState := [.creating, .created, .cleanupNeeded, .cleanupRunning]
  let row := if row.state ∈ [.materializing, .prepared, .cleanupRunning] ∧
      row.volumeState ∈ unsettled then
    { row with volumeState := .cleanupNeeded } else row
  let row := if row.state ∈ [.creating, .bound] ∧ row.volumeState ∈ unsettled then
    { row with volumeState := .needsAttention } else row
  let row := if row.state ∈ [.materializing, .prepared, .cleanupRunning] then
    { row with state := .cleanupNeeded, errorMessage := some interruptedMessage } else row
  if row.state ∈ [.creating, .bound] then
    { row with state := .needsAttention, errorMessage := some interruptedMessage } else row

def recoverInterrupted : ContextTable :=
  table.map fun _ row => row.recovered

def beginRuntimeContext (context : RuntimeContext) :
    Except ContextError (RuntimeContextRow × ContextTable) :=
  let fresh : RuntimeContextRow := { jobId, context, state := .materializing }
  match table[deploymentId]? with
  | none => .ok (fresh, table.insert deploymentId fresh)
  | some row =>
    if row.context = context ∧ row.state = .cleaned then
      .ok (fresh, table.insert deploymentId
        { row with
          jobId
          state := .materializing
          containerId := none
          errorMessage := none
          volumeSpec := none
          volumeState := .none
          volumeOwned := false })
    else if row.jobId = jobId ∧ row.context = context ∧
        row.state ∈ [.materializing, .prepared] then
      .ok ({ row with
        managedContextJson := none
        previousManagedContextJson := none
        bindingContextRevoked := false }, table)
    else .error (.runtimeContextConflict deploymentId)

def recordBindingContextTransition (previous desired : Option String) (revoked : Bool) :
    Outcome :=
  update table deploymentId (·.state = .active)
    (fun row =>
      { row with
        jobId
        previousManagedContextJson := previous
        managedContextJson := desired
        bindingContextRevoked := revoked
        errorMessage := none })
    (invalid deploymentId "runtime context" "is not ACTIVE")

def transitionRuntimeContext (fromStates : List ContextState) (toState : ContextState)
    (containerId : Option (Option String)) (errorMessage : Option String) : Outcome := do
  let current ← required table deploymentId
  require (current.jobId = jobId && fromStates.contains current.state)
    (invalid deploymentId "runtime context" ("is " ++ current.state.text ++ " for job " ++
      current.jobId ++ ", expected [" ++
      ", ".intercalate (fromStates.map fun state => "\"" ++ state.text ++ "\"") ++
      "] for job " ++ jobId))
  let nextContainer := containerId.getD current.containerId
  require (!table.toList.any fun entry => entry.1 ≠ deploymentId && nextContainer.isSome &&
    entry.2.containerId = nextContainer) .containerTaken
  update table deploymentId (fun row => row.jobId = jobId && row.state = current.state)
    (fun row => { row with state := toState, containerId := nextContainer, errorMessage })
    (invalid deploymentId "runtime context" "changed concurrently")

def markRuntimeContextPrepared : Outcome :=
  transitionRuntimeContext table deploymentId jobId [.materializing] .prepared none none

/-- The volume belongs to the deployment and to its runtime profile. -/
def ManagedVolumeSpec.fits (spec : ManagedVolumeSpec) (context : RuntimeContext) : Bool :=
  spec.deploymentId = deploymentId &&
    match spec.runtimeContract.id with
    | .judgeSandboxV1 => spec.name = context.cacheVolumeName
    | .standardV1 => context.cacheVolumeName.isEmpty && spec.lifecycle = retainVolumeLifecycle

def beginManagedVolume (spec : ManagedVolumeSpec) : Outcome := do
  let current ← required table deploymentId
  require (current.jobId = jobId && current.state = .materializing &&
      spec.fits deploymentId current.context)
    (invalid deploymentId "managed volume" "does not match its MATERIALIZING runtime context")
  if current.volumeSpec = some spec ∧ current.volumeState = .creating then
    return ((), table)
  require (current.volumeState ∈ [.none, .cleaned] && !current.volumeOwned)
    (invalid deploymentId "managed volume" ("is already " ++ current.volumeState.text))
  update table deploymentId
    (fun row => row.jobId = jobId && row.state = .materializing &&
      row.volumeState ∈ [.none, .cleaned] && !row.volumeOwned)
    (fun row =>
      { row with volumeSpec := some spec, volumeState := .creating, volumeOwned := false })
    (invalid deploymentId "managed volume" "changed concurrently")

def markManagedVolumeCreated : Outcome :=
  update table deploymentId
    (fun row => row.jobId = jobId && row.state = .materializing && row.volumeSpec.isSome &&
      row.volumeState = .creating)
    (fun row => { row with volumeState := .created, volumeOwned := true })
    (invalid deploymentId "managed volume" "is not CREATING")

def beginManagedVolumeCleanup :
    Except ContextError (Option ManagedVolumeSpec × ContextTable) := do
  let current ← required table deploymentId
  match current.volumeSpec with
  | none => return (none, table)
  | some spec =>
    if current.volumeState ∈ [.none, .cleaned] then
      return (none, table)
    require (current.state = .cleanupRunning && current.volumeState ∈
        [.creating, .created, .cleanupNeeded, .cleanupRunning, .needsAttention])
      (invalid deploymentId "managed volume" ("cannot begin cleanup from context=" ++
        current.state.text ++ " volume=" ++ current.volumeState.text))
    if current.volumeState = .cleanupRunning then
      return (some spec, table)
    let (_, cleaning) ← update table deploymentId
      (fun row => row.state = .cleanupRunning &&
        row.volumeState ∈ [.creating, .created, .cleanupNeeded, .needsAttention])
      (fun row => { row with volumeState := .cleanupRunning })
      (invalid deploymentId "managed volume" "changed concurrently")
    return (some spec, cleaning)

def finishManagedVolumeCleanup : Outcome :=
  update table deploymentId
    (fun row => row.state = .cleanupRunning && row.volumeState = .cleanupRunning)
    (fun row => { row with volumeState := .cleaned, volumeOwned := false })
    (invalid deploymentId "managed volume" "is not being cleaned")

def markManagedVolumeCleanupNeeded : Outcome :=
  update table deploymentId
    (·.volumeState ∈ [.creating, .created, .cleanupRunning, .needsAttention])
    (fun row => { row with volumeState := .cleanupNeeded })
    (invalid deploymentId "managed volume" "cannot be marked for cleanup")

def bindRuntimeContext (containerId : String) : Outcome := do
  require (!isBlank containerId)
    (.invalidState "runtime context cannot bind an empty container id")
  transitionRuntimeContext table deploymentId jobId [.creating] .bound (some (some containerId))
    none

def markRuntimeContextCreating : Outcome := do
  let current ← required table deploymentId
  require (current.volumeSpec.isNone || current.volumeState = .created && current.volumeOwned)
    (invalid deploymentId "runtime context"
      "cannot create a container before its managed volume is durably owned")
  transitionRuntimeContext table deploymentId jobId [.prepared] .creating none none

def activateRuntimeContext : Outcome :=
  transitionRuntimeContext table deploymentId jobId [.bound] .active none none

def beginRuntimeContextCleanup : Outcome :=
  update table deploymentId
    (·.state ∈ [.materializing, .prepared, .creating, .bound, .active, .cleanupNeeded,
      .needsAttention])
    (fun row => { row with state := .cleanupRunning, errorMessage := none })
    (invalid deploymentId "runtime context" "cannot begin cleanup")

def finishRuntimeContextCleanup : Outcome :=
  update table deploymentId
    (fun row => row.state = .cleanupRunning && row.volumeState ∈ [.none, .cleaned] &&
      !row.volumeOwned)
    (fun row => { row with state := .cleaned, containerId := none, errorMessage := none })
    (invalid deploymentId "runtime context" "is not being cleaned")

def markRuntimeContextCleanupNeeded (errorMessage : String) : Outcome :=
  update table deploymentId (·.state ∈ [.materializing, .prepared, .cleanupRunning])
    (fun row => { row with state := .cleanupNeeded, errorMessage := some errorMessage })
    (invalid deploymentId "runtime context" "cannot be marked for cleanup")

def markRuntimeContextNeedsAttention (errorMessage : String) : Outcome :=
  update table deploymentId (·.state ≠ .cleaned)
    (fun row =>
      { row with
        state := .needsAttention
        errorMessage := some errorMessage
        volumeState :=
          if row.volumeState ∈ [.creating, .created] then .needsAttention else row.volumeState })
    (invalid deploymentId "runtime context" "cannot enter NEEDS_ATTENTION")

inductive ContextCall where
  | recoverInterrupted
  | beginRuntimeContext (deploymentId jobId : String) (context : RuntimeContext)
  | recordBindingContextTransition (deploymentId jobId : String)
      (previous desired : Option String) (revoked : Bool)
  | markRuntimeContextPrepared (deploymentId jobId : String)
  | beginManagedVolume (deploymentId jobId : String) (spec : ManagedVolumeSpec)
  | markManagedVolumeCreated (deploymentId jobId : String)
  | beginManagedVolumeCleanup (deploymentId : String)
  | finishManagedVolumeCleanup (deploymentId : String)
  | markManagedVolumeCleanupNeeded (deploymentId : String)
  | bindRuntimeContext (deploymentId jobId containerId : String)
  | markRuntimeContextCreating (deploymentId jobId : String)
  | activateRuntimeContext (deploymentId jobId : String)
  | beginRuntimeContextCleanup (deploymentId : String)
  | finishRuntimeContextCleanup (deploymentId : String)
  | markRuntimeContextCleanupNeeded (deploymentId errorMessage : String)
  | markRuntimeContextNeedsAttention (deploymentId errorMessage : String)

def unanswered {α : Type} (table : ContextTable)
    (outcome : Except ContextError (α × ContextTable)) :
    Except ContextError Unit × ContextTable :=
  ((transact table outcome).1.map fun _ => (), (transact table outcome).2)

def step (table : ContextTable) : ContextCall → Except ContextError Unit × ContextTable
  | .recoverInterrupted => (.ok (), recoverInterrupted table)
  | .beginRuntimeContext deploymentId jobId context =>
    unanswered table (beginRuntimeContext table deploymentId jobId context)
  | .recordBindingContextTransition deploymentId jobId previous desired revoked =>
    transact table
      (recordBindingContextTransition table deploymentId jobId previous desired revoked)
  | .markRuntimeContextPrepared deploymentId jobId =>
    transact table (markRuntimeContextPrepared table deploymentId jobId)
  | .beginManagedVolume deploymentId jobId spec =>
    transact table (beginManagedVolume table deploymentId jobId spec)
  | .markManagedVolumeCreated deploymentId jobId =>
    transact table (markManagedVolumeCreated table deploymentId jobId)
  | .beginManagedVolumeCleanup deploymentId =>
    unanswered table (beginManagedVolumeCleanup table deploymentId)
  | .finishManagedVolumeCleanup deploymentId =>
    transact table (finishManagedVolumeCleanup table deploymentId)
  | .markManagedVolumeCleanupNeeded deploymentId =>
    transact table (markManagedVolumeCleanupNeeded table deploymentId)
  | .bindRuntimeContext deploymentId jobId containerId =>
    transact table (bindRuntimeContext table deploymentId jobId containerId)
  | .markRuntimeContextCreating deploymentId jobId =>
    transact table (markRuntimeContextCreating table deploymentId jobId)
  | .activateRuntimeContext deploymentId jobId =>
    transact table (activateRuntimeContext table deploymentId jobId)
  | .beginRuntimeContextCleanup deploymentId =>
    transact table (beginRuntimeContextCleanup table deploymentId)
  | .finishRuntimeContextCleanup deploymentId =>
    transact table (finishRuntimeContextCleanup table deploymentId)
  | .markRuntimeContextCleanupNeeded deploymentId errorMessage =>
    transact table (markRuntimeContextCleanupNeeded table deploymentId errorMessage)
  | .markRuntimeContextNeedsAttention deploymentId errorMessage =>
    transact table (markRuntimeContextNeedsAttention table deploymentId errorMessage)

/-- The volume of a row is recorded and owned as its state says. -/
@[mk_iff]
structure RuntimeContextRow.Sound (row : RuntimeContextRow) : Prop where
  recorded : row.volumeState ≠ .none → row.volumeSpec.isSome = true
  owned : row.volumeOwned = true → row.volumeState ∉ [.none, .creating, .cleaned]
  cleaned : row.state = .cleaned → row.volumeState ∈ [.none, .cleaned]

/-- What a call that writes the row of a deployment keeps. -/
@[mk_iff]
structure Follows (call : ContextCall) (deploymentId : String)
    (before : Option RuntimeContextRow) (after : RuntimeContextRow) : Prop where
  sound : (∀ row, before = some row → row.Sound) → after.Sound
  owned : ∀ row, before = some row → row.Sound → row.volumeOwned = true →
    after.volumeOwned = true ∧ after.volumeSpec = row.volumeSpec ∨
      call = .finishManagedVolumeCleanup deploymentId
  creating : after.state = .creating → (∃ row, before = some row ∧ row.state = .creating) ∨
    after.volumeSpec = none ∨ after.volumeState = .created ∧ after.volumeOwned = true

def Advances (call : ContextCall) (table after : ContextTable) : Prop :=
  ∀ deploymentId, after[deploymentId]? = table[deploymentId]? ∨
    ∃ row, after[deploymentId]? = some row ∧ Follows call deploymentId table[deploymentId]? row

variable {call : ContextCall} {table after : ContextTable} {deploymentId : String}
  {row next : RuntimeContextRow}

theorem Advances.refl : Advances call table table := fun _ => .inl rfl

theorem Advances.insert (follows : Follows call deploymentId table[deploymentId]? next) :
    Advances call table (table.insert deploymentId next) := by
  intro other
  rw [getElem?_insert_of_eq]
  split_ifs with same
  · subst same
    exact .inr ⟨next, rfl, follows⟩
  · exact .inl rfl

variable {guard : RuntimeContextRow → Bool} {set : RuntimeContextRow → RuntimeContextRow}
  {unchanged : ContextError}

theorem update_ok (done : update table deploymentId guard set unchanged = .ok ((), after)) :
    ∃ row, table[deploymentId]? = some row ∧ guard row = true ∧
      after = table.insert deploymentId (set row) := by
  unfold update at done
  split at done
  · rename_i row found
    cases done
    obtain ⟨found, holds⟩ := Option.filter_eq_some_iff.mp found
    exact ⟨row, found, holds, rfl⟩
  · cases done

theorem update_eq (found : table[deploymentId]? = some row) (holds : guard row = true) :
    update table deploymentId guard set unchanged =
      .ok ((), table.insert deploymentId (set row)) := by
  simp [update, found, Option.filter_some, holds]

theorem advances_update (done : update table deploymentId guard set unchanged = .ok ((), after))
    (follows : ∀ row, guard row = true → Follows call deploymentId (some row) (set row)) :
    Advances call table after := by
  obtain ⟨row, found, holds, rfl⟩ := update_ok done
  exact .insert (found ▸ follows row holds)

theorem required_ok (found : required table deploymentId = .ok row) :
    table[deploymentId]? = some row := by
  unfold required at found
  split at found
  · cases found
    assumption
  · cases found

variable {jobId : String}

theorem advances_transition {fromStates : List ContextState}
    {toState : ContextState} {containerId : Option (Option String)} {errorMessage : Option String}
    (done : transitionRuntimeContext table deploymentId jobId fromStates toState containerId
      errorMessage = .ok ((), after)) (uncleaned : toState ≠ .cleaned)
    (creating : toState = .creating → ∀ row, table[deploymentId]? = some row →
      row.volumeSpec = none ∨ row.volumeState = .created ∧ row.volumeOwned = true) :
    Advances call table after := by
  obtain ⟨_, _, done⟩ := ok_of_bind done
  obtain ⟨_, done⟩ := ok_of_require_bind done
  obtain ⟨_, done⟩ := ok_of_require_bind done
  obtain ⟨row, found, _, rfl⟩ := update_ok done
  refine .insert (found ▸ ?_)
  grind [follows_iff, RuntimeContextRow.sound_iff]

theorem follows_recovered (row : RuntimeContextRow) :
    Follows .recoverInterrupted deploymentId (some row) row.recovered := by
  grind [follows_iff, RuntimeContextRow.sound_iff, RuntimeContextRow.recovered]

theorem advances_beginRuntimeContext {context : RuntimeContext} {run : RuntimeContextRow}
    (done : beginRuntimeContext table deploymentId jobId context = .ok (run, after)) :
    Advances call table after := by
  unfold beginRuntimeContext at done
  split at done
  · rename_i missing
    cases done
    refine .insert (missing ▸ ?_)
    grind [follows_iff, RuntimeContextRow.sound_iff]
  · rename_i row found
    split_ifs at done with restarts
    · cases done
      refine .insert (found ▸ ?_)
      -- a cleaned row has no volume that is owned
      grind [follows_iff, RuntimeContextRow.sound_iff]
    · cases done
      exact .refl

theorem advances_beginManagedVolume {spec : ManagedVolumeSpec}
    (done : beginManagedVolume table deploymentId jobId spec = .ok ((), after)) :
    Advances call table after := by
  obtain ⟨_, _, done⟩ := ok_of_bind done
  obtain ⟨_, done⟩ := ok_of_require_bind done
  split_ifs at done
  · cases done
    exact .refl
  · obtain ⟨_, done⟩ := ok_of_require_bind done
    refine advances_update done fun row holds => ?_
    grind [follows_iff, RuntimeContextRow.sound_iff]

theorem advances_beginManagedVolumeCleanup {answer : Option ManagedVolumeSpec}
    (done : beginManagedVolumeCleanup table deploymentId = .ok (answer, after)) :
    Advances call table after := by
  obtain ⟨_, _, done⟩ := ok_of_bind done
  split at done
  · cases done
    exact .refl
  · split_ifs at done
    · cases done
      exact .refl
    · obtain ⟨_, ⟨⟩⟩ := ok_of_require_bind done
      exact .refl
    · obtain ⟨_, done⟩ := ok_of_require_bind done
      obtain ⟨⟨_, _⟩, updated, done⟩ := ok_of_bind done
      cases done
      refine advances_update updated fun row holds => ?_
      grind [follows_iff, RuntimeContextRow.sound_iff]

theorem step_advances (table : ContextTable) (call : ContextCall) :
    Advances call table (step table call).2 := by
  cases call with
  | recoverInterrupted =>
    intro deploymentId
    cases found : table[deploymentId]? with
    | none => exact .inl (by simp [step, recoverInterrupted, found])
    | some row =>
      exact .inr ⟨row.recovered, by simp [step, recoverInterrupted, found], follows_recovered row⟩
  | beginRuntimeContext deploymentId jobId context =>
    exact transact_holds (Advances _ table) .refl fun _ _ => advances_beginRuntimeContext
  | markRuntimeContextPrepared deploymentId jobId | activateRuntimeContext deploymentId jobId =>
    exact transact_holds (Advances _ table) .refl fun _ _ done =>
      advances_transition done nofun nofun
  | beginManagedVolume deploymentId jobId spec =>
    exact transact_holds (Advances _ table) .refl fun _ _ => advances_beginManagedVolume
  | beginManagedVolumeCleanup deploymentId =>
    exact transact_holds (Advances _ table) .refl fun _ _ => advances_beginManagedVolumeCleanup
  | bindRuntimeContext deploymentId jobId containerId =>
    refine transact_holds (Advances _ table) .refl fun _ _ done => ?_
    obtain ⟨_, done⟩ := ok_of_require_bind done
    exact advances_transition done nofun nofun
  | markRuntimeContextCreating deploymentId jobId =>
    refine transact_holds (Advances _ table) .refl fun _ _ done => ?_
    obtain ⟨_, found, done⟩ := ok_of_bind done
    obtain ⟨ready, done⟩ := ok_of_require_bind done
    refine advances_transition done nofun fun _ row stored => ?_
    cases (required_ok found).symm.trans stored
    simpa using ready
  | _ =>
    refine transact_holds (Advances _ table) .refl fun _ _ done => advances_update done ?_
    grind [follows_iff, RuntimeContextRow.sound_iff]

theorem exists_cleanup (found : table[deploymentId]? = some row)
    (uncleaned : row.state ≠ .cleaned) :
    ∃ begun next, (if row.state = .cleanupRunning then begun = table
        else beginRuntimeContextCleanup table deploymentId = .ok ((), begun)) ∧
      begun[deploymentId]? = some next ∧ next.state = .cleanupRunning ∧
      next.volumeSpec = row.volumeSpec ∧ next.volumeState = row.volumeState ∧
      next.volumeOwned = row.volumeOwned := by
  by_cases running : row.state = .cleanupRunning
  · exact ⟨table, row, by rw [if_pos running], found, running, rfl, rfl, rfl⟩
  · let next := { row with state := .cleanupRunning, errorMessage := none }
    refine ⟨table.insert deploymentId next, next, ?_, Std.TreeMap.getElem?_insert_self, rfl, rfl,
      rfl, rfl⟩
    rw [if_neg running]
    refine update_eq found ?_
    cases state : row.state <;> simp_all

theorem exists_volumeCleanup (found : table[deploymentId]? = some row)
    (running : row.state = .cleanupRunning) (sound : row.Sound) :
    ∃ answer opened closed next,
      beginManagedVolumeCleanup table deploymentId = .ok (answer, opened) ∧
      (if answer.isSome then finishManagedVolumeCleanup opened deploymentId = .ok ((), closed)
        else closed = opened) ∧
      closed[deploymentId]? = some next ∧ next.state = .cleanupRunning ∧
      next.volumeState ∈ [.none, .cleaned] ∧ next.volumeOwned = false := by
  have loaded : required table deploymentId = .ok row := by simp [required, found]
  -- the volume is being cleaned, and then it is
  have finishes {opened : ContextTable} {cleaning : RuntimeContextRow}
      (present : opened[deploymentId]? = some cleaning) (state : cleaning.state = .cleanupRunning)
      (volume : cleaning.volumeState = .cleanupRunning) :
      ∃ closed next, finishManagedVolumeCleanup opened deploymentId = .ok ((), closed) ∧
        closed[deploymentId]? = some next ∧ next.state = .cleanupRunning ∧
        next.volumeState ∈ [.none, .cleaned] ∧ next.volumeOwned = false :=
    ⟨_, _, update_eq present (by simp [state, volume]), Std.TreeMap.getElem?_insert_self, state,
      by simp, rfl⟩
  by_cases settled : row.volumeSpec = none ∨ row.volumeState ∈ [.none, .cleaned]
  · have idle : row.volumeState ∈ [.none, .cleaned] ∧ row.volumeOwned = false := by
      grind [RuntimeContextRow.sound_iff]
    refine ⟨none, table, table, row, ?_, rfl, found, running, idle⟩
    rw [beginManagedVolumeCleanup, loaded, ok_then]
    cases spec : row.volumeSpec with
    | none => rfl
    | some spec => exact if_pos idle.1
  · obtain ⟨recorded, open_⟩ := not_or.mp settled
    obtain ⟨spec, specified⟩ := Option.ne_none_iff_exists'.mp recorded
    have eligible : (decide (row.state = .cleanupRunning) && decide (row.volumeState ∈
        [.creating, .created, .cleanupNeeded, .cleanupRunning, .needsAttention])) = true := by
      cases volume : row.volumeState <;> simp_all
    by_cases cleaning : row.volumeState = .cleanupRunning
    · obtain ⟨closed, next, finished, rest⟩ := finishes found running cleaning
      refine ⟨some spec, table, closed, next, ?_, finished, rest⟩
      rw [beginManagedVolumeCleanup, loaded, ok_then, specified]
      simp only [if_neg open_, require_then eligible, if_pos cleaning]
      rfl
    · obtain ⟨closed, next, finished, rest⟩ := @finishes
        (table.insert deploymentId { row with volumeState := .cleanupRunning }) _
        Std.TreeMap.getElem?_insert_self running rfl
      refine ⟨some spec, _, closed, next, ?_, finished, rest⟩
      rw [beginManagedVolumeCleanup, loaded, ok_then, specified]
      simp only [if_neg open_, require_then eligible, if_neg cleaning]
      rw [update_eq found (by cases volume : row.volumeState <;> simp_all), ← specified]
      rfl

def reached (calls : List ContextCall) : ContextTable := afterCalls step ∅ calls

theorem sound_step
    (sound : ∀ (deploymentId : String) row, table[deploymentId]? = some row → row.Sound)
    (call : ContextCall) (deploymentId : String) (row : RuntimeContextRow)
    (found : (step table call).2[deploymentId]? = some row) : row.Sound := by
  rcases step_advances table call deploymentId with same | ⟨_, written, follows⟩
  · exact sound deploymentId row (same ▸ found)
  · cases written.symm.trans found
    exact follows.sound (sound deploymentId)

theorem sound_reached (calls : List ContextCall) (deploymentId : String) (row : RuntimeContextRow)
    (found : (reached calls)[deploymentId]? = some row) : row.Sound :=
  afterCalls_invariant
    (fun table => ∀ deploymentId row, table[deploymentId]? = some row → row.Sound)
    (fun _ call sound => sound_step sound call) (by simp) calls deploymentId row found

/-- No cleanup of the volume is finished in the course of the calls. -/
def NeverFinishes (table : ContextTable) (calls : List ContextCall) (deploymentId : String) :
    Prop :=
  ∀ first rest, calls = first ++ .finishManagedVolumeCleanup deploymentId :: rest →
    (step (afterCalls step table first) (.finishManagedVolumeCleanup deploymentId)).1 ≠ .ok ()

theorem owned_afterCalls {calls : List ContextCall}
    (sound : ∀ (deploymentId : String) row, table[deploymentId]? = some row → row.Sound)
    (found : table[deploymentId]? = some row) (owned : row.volumeOwned = true)
    (never : NeverFinishes table calls deploymentId) :
    ∃ later, (afterCalls step table calls)[deploymentId]? = some later ∧
      later.volumeOwned = true ∧ later.volumeSpec = row.volumeSpec := by
  induction calls generalizing table row with
  | nil => exact ⟨row, found, owned, rfl⟩
  | cons call rest ih =>
    have onward {next : RuntimeContextRow}
        (written : (step table call).2[deploymentId]? = some next)
        (held : next.volumeOwned = true) (same : next.volumeSpec = row.volumeSpec) :
        ∃ later, (afterCalls step table (call :: rest))[deploymentId]? = some later ∧
          later.volumeOwned = true ∧ later.volumeSpec = row.volumeSpec := by
      obtain ⟨later, present, stays, spec⟩ := ih (sound_step sound call) written held
        fun first others split => never (call :: first) others (by rw [split]; rfl)
      exact ⟨later, present, stays, spec.trans same⟩
    rcases step_advances table call deploymentId with same | ⟨_, written, follows⟩
    · exact onward (same.trans found) owned rfl
    · rcases follows.owned row found (sound _ row found) owned with ⟨held, spec⟩ | rfl
      · exact onward written held spec
      · have failed := never [] rest rfl
        cases outcome : (step table (.finishManagedVolumeCleanup deploymentId)).1 with
        | ok _ => exact absurd outcome failed
        | error error =>
          exact onward ((congrArg (·[deploymentId]?) (transact_error outcome)).trans found)
            owned rfl

/-- After any calls and restarts, a cleaned row has no volume left, a created volume stays
owned until it is cleaned up, CREATING never waits for a volume, no row stays in flight over
a restart, and every row can be cleaned up. -/
theorem runtime_contexts_never_stuck (calls : List ContextCall) :
    (∀ (deploymentId : String) row, (reached calls)[deploymentId]? = some row →
      row.state = .cleaned → row.volumeState ∈ [.none, .cleaned] ∧ row.volumeOwned = false) ∧
    (∀ deploymentId jobId created more,
      markManagedVolumeCreated (reached calls) deploymentId jobId = .ok ((), created) →
      NeverFinishes created more deploymentId →
      ∃ row later, created[deploymentId]? = some row ∧
        (afterCalls step created more)[deploymentId]? = some later ∧
        later.volumeOwned = true ∧ later.volumeSpec = row.volumeSpec) ∧
    (∀ call (deploymentId : String) row,
      (step (reached calls) call).2[deploymentId]? = some row → row.state = .creating →
      (∀ old, (reached calls)[deploymentId]? = some old → old.state ≠ .creating) →
      row.volumeSpec = none ∨ row.volumeState = .created ∧ row.volumeOwned = true) ∧
    (∀ (deploymentId : String) row,
      (recoverInterrupted (reached calls))[deploymentId]? = some row →
      row.state ∉ [.materializing, .prepared, .creating, .bound, .cleanupRunning]) ∧
    ∀ deploymentId row, (reached calls)[deploymentId]? = some row →
      row.state ≠ .cleaned → ∃ begun answer opened closed cleaned,
        (if row.state = .cleanupRunning then begun = reached calls
          else beginRuntimeContextCleanup (reached calls) deploymentId = .ok ((), begun)) ∧
        beginManagedVolumeCleanup begun deploymentId = .ok (answer, opened) ∧
        (if answer.isSome then finishManagedVolumeCleanup opened deploymentId = .ok ((), closed)
          else closed = opened) ∧
        finishRuntimeContextCleanup closed deploymentId = .ok ((), cleaned) ∧
        ∃ last, cleaned[deploymentId]? = some last ∧ last.state = .cleaned := by
  refine ⟨?_, ?_, ?_, ?_, ?_⟩
  · intro deploymentId row found cleaned
    have sound := sound_reached calls deploymentId row found
    grind [RuntimeContextRow.sound_iff]
  · intro deploymentId jobId created more done never
    have same : (step (reached calls) (.markManagedVolumeCreated deploymentId jobId)).2 =
        created := by
      simp [step, done, transact]
    obtain ⟨row, _, _, rfl⟩ := update_ok done
    let marked := { row with volumeState := VolumeState.created, volumeOwned := true }
    have present : ((reached calls).insert deploymentId marked)[deploymentId]? = some marked :=
      Std.TreeMap.getElem?_insert_self
    obtain ⟨later, rest⟩ := owned_afterCalls
      (same ▸ sound_step (sound_reached calls) (.markManagedVolumeCreated deploymentId jobId))
      present rfl never
    exact ⟨marked, later, present, rest⟩
  · intro call deploymentId row found creating entered
    rcases step_advances (reached calls) call deploymentId with same | ⟨next, written, follows⟩
    · exact absurd creating (entered row (same ▸ found))
    · cases written.symm.trans found
      rcases follows.creating creating with ⟨old, stored, before⟩ | ready
      · exact absurd before (entered old stored)
      · exact ready
  · intro deploymentId row found
    simp only [recoverInterrupted, Std.TreeMap.getElem?_map, Option.map_eq_some_iff] at found
    grind [RuntimeContextRow.recovered]
  · intro deploymentId row found uncleaned
    have kept := sound_reached calls deploymentId row found
    obtain ⟨begun, next, begins, present, running, _⟩ := exists_cleanup found uncleaned
    have sound : next.Sound := by grind [RuntimeContextRow.sound_iff]
    obtain ⟨answer, opened, closed, _, opens, closes, stored, state, settled, free⟩ :=
      exists_volumeCleanup present running sound
    exact ⟨begun, answer, opened, closed, _, begins, opens, closes,
      update_eq stored (by simp [state, settled, free]), _, Std.TreeMap.getElem?_insert_self, rfl⟩

/-- No binding context was ever handed to the row. -/
def RuntimeContextRow.Unbound (row : RuntimeContextRow) : Prop :=
  row.managedContextJson = none ∧ row.previousManagedContextJson = none ∧
    row.bindingContextRevoked = false

/-- A begun context is returned without a binding context, and it is the row that the ledger
stores exactly when the row before had none. -/
theorem begun_context_is_stored (calls : List ContextCall)
    {context : RuntimeContext} {run : RuntimeContextRow}
    (begun : beginRuntimeContext (reached calls) deploymentId jobId context = .ok (run, after)) :
    run.Unbound ∧ (after[deploymentId]? = some run ↔
      ∀ row, (reached calls)[deploymentId]? = some row → row.Unbound) := by
  unfold beginRuntimeContext at begun
  split at begun
  · cases begun
    simp_all [RuntimeContextRow.Unbound]
  · -- Neither the UPDATE of a cleaned row nor the row of the same job drops the three columns.
    rename_i row found
    split_ifs at begun <;> cases begun <;> cases row <;> simp_all [RuntimeContextRow.Unbound]

def plainContext : RuntimeContext := ⟨⟨.standardV1, "p"⟩, "r", "s", "", "c"⟩

/-- A deployment whose context was made, bound as given, and cleaned up. -/
def cleanedLife (bindings : List ContextCall) : List ContextCall :=
  [.beginRuntimeContext "d" "j" plainContext, .markRuntimeContextPrepared "d" "j",
    .markRuntimeContextCreating "d" "j", .bindRuntimeContext "d" "j" "c",
    .activateRuntimeContext "d" "j"] ++ bindings ++
    [.beginRuntimeContextCleanup "d", .finishRuntimeContextCleanup "d"]

theorem begun_context_is_stored_anew : ∃ run after,
    beginRuntimeContext (reached (cleanedLife [])) "d" "k" plainContext = .ok (run, after) ∧
      after["d"]? = some run := by
  obtain ⟨run, after, begun⟩ : ∃ run after, beginRuntimeContext (reached (cleanedLife [])) "d" "k"
      plainContext = .ok (run, after) := ⟨_, _, rfl⟩
  have unbound : ∃ row, (reached (cleanedLife []))["d"]? = some row ∧ row.Unbound :=
    ⟨_, rfl, rfl, rfl, rfl⟩
  refine ⟨run, after, begun, (begun_context_is_stored _ begun).2.mpr fun row found => ?_⟩
  obtain ⟨_, stored, unbound⟩ := unbound
  exact Option.some.inj (stored.symm.trans found) ▸ unbound

theorem begun_context_keeps_binding : ∃ run after stored,
    beginRuntimeContext (reached (cleanedLife
      [.recordBindingContextTransition "d" "j" none (some "x") false])) "d" "k" plainContext =
        .ok (run, after) ∧
      after["d"]? = some stored ∧ run.managedContextJson = none ∧
      stored.managedContextJson = some "x" :=
  ⟨_, _, _, rfl, rfl, rfl, rfl⟩

end RuntimeContexts

end UntitledOJ
