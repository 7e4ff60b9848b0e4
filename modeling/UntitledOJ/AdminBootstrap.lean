import UntitledOJ.CallSequence
import UntitledOJ.PermissionGraph

/-!
# The initial administrator

`BootstrapAdmin` creates the first super administrator and consumes a marker in one serializable
transaction, which it repeats after serialization failures.  Others change users and roles in
between, and a call may crash or lose the answer of its commit.
-/

namespace UntitledOJ

namespace AdminBootstrap

open List Permission

inductive BootstrapError where
  | stateMissing | consumed | alreadyInitialized | userExists | rolesNotInstalled
  | database (code : String)

def maxAttempts : Nat := 4

variable [LetterCase]

structure User where
  id : Int
  username : String
  email : Option String
  passwordHash : String

/-- The rows that others write too.  Role names are unique. -/
structure AuthRows where
  users : List User
  tables : Tables
  distinct : (tables.roles.map Prod.snd).Nodup

/-- The marker is the row of `auth_bootstrap_state`, completed at a time for a user. -/
structure AuthState where
  rows : AuthRows
  marker : Option (Option (Int × Int))

structure BootstrapRequest where
  (username email passwordHash : String)

def BootstrapRequest.user (request : BootstrapRequest) (userId : Int) : User :=
  ⟨userId, request.username, if request.email = "" then none else some request.email,
    request.passwordHash⟩

namespace AuthRows

variable (rows : AuthRows)

/-- The query for administrators in a transaction that began at the time. -/
def administrators (started : Int) : List Int :=
  (rows.users.map (·.id)).filter fun userId =>
    rows.tables.userRoles.any (fun row => row.1 = userId && rows.tables.isSuperAdminRole row.2) ||
      rows.tables.roleBindings.any fun binding => binding.principalType = "user" &&
        binding.principalId = userId && rows.tables.isSuperAdminRole binding.roleId &&
        binding.scope = systemScope && binding.expiresAt.all (started < ·)

def hasUser (user : User) : Bool :=
  rows.users.any fun other => other.id = user.id || other.username = user.username ||
    user.email.isSome && other.email = user.email

def granted (userId : Int) : List (Int × Int) :=
  (rows.tables.roles.filter fun role => (role.2 = "user" || role.2 = "super_admin") &&
    !rows.tables.userRoles.contains (userId, role.1)).map fun role => (userId, role.1)

end AuthRows

/-- A transaction that began at the time `started` and draws the next user id. -/
def bootstrapAdminAttempt (started userId : Int) (request : BootstrapRequest)
    (state : AuthState) : Except BootstrapError Int × AuthState :=
  let rows := state.rows
  match state.marker, (rows.administrators started).min? with
  | none, _ => (.error .stateMissing, state)
  | some (some _), _ => (.error .consumed, state)
  | some none, some existing =>
    (.error .alreadyInitialized, { state with marker := some (some (started, existing)) })
  | some none, none =>
    if rows.hasUser (request.user userId) then (.error .userExists, state)
    else if (rows.granted userId).length ≠ 2 then (.error .rolesNotInstalled, state)
    else
      (.ok userId,
        { rows :=
            { rows with
              users := request.user userId :: rows.users
              tables := { rows.tables with
                userRoles := rows.granted userId ++ rows.tables.userRoles } }
          marker := some (some (started, userId)) })

/-- How a transaction ends: its commit is answered or not, or it has no effect. -/
inductive Ending where
  | committed
  | lost (code : String)
  | aborted (code : String)

inductive Event where
  | attempt (call : Nat) (request : BootstrapRequest) (started userId : Int) (ending : Ending)
  | others (rows : AuthRows)

def step (state : AuthState) : Event → Option (Except BootstrapError Int) × AuthState
  | .others rows => (none, { state with rows })
  | .attempt _ _ _ _ (.aborted _) => (none, state)
  | .attempt _ request started userId _ =>
    let ended := bootstrapAdminAttempt (min started state.rows.tables.now) userId request state
    (some ended.1, ended.2)

abbrev Past := List (Event × Option (Except BootstrapError Int))

/-- The administrators that were created. -/
def createdIn (past : Past) : List Int :=
  past.filterMap fun entry => entry.2.bind (·.toOption)

/-- The marker says that the administrator was created. -/
def AuthState.Completed (state : AuthState) : Prop :=
  ∃ completion, state.marker = some (some completion)

/-- The user is stored, as a super administrator. -/
def AuthState.Administers (state : AuthState) (userId : Int) : Prop :=
  userId ∈ state.rows.users.map (·.id) ∧ state.rows.tables.hasSuperAdmin userId = true

/-- The attempt completes the marker and creates a super administrator where no user is
one, or it fails and leaves users and roles. -/
def Settles (started drawn : Int) (request : BootstrapRequest) (state : AuthState) : Prop :=
  let ended := bootstrapAdminAttempt started drawn request state
  (ended.1 = .ok drawn ∧ ended.2.Completed ∧
      (∀ user ∈ state.rows.users, state.rows.tables.hasSuperAdmin user.id = false) ∧
      ended.2.rows.users = request.user drawn :: state.rows.users ∧
      ended.2.rows.tables.hasSuperAdmin drawn = true) ∨
    (∃ error, ended.1 = .error error) ∧ ended.2.rows.users = state.rows.users ∧
      ended.2.rows.tables = state.rows.tables

variable {state : AuthState} {started drawn userId : Int} {request : BootstrapRequest}
  {rows : AuthRows}

theorem attempt_of_completed (completed : state.Completed) :
    bootstrapAdminAttempt started drawn request state = (.error .consumed, state) := by
  obtain ⟨_, marked⟩ := completed
  simp [bootstrapAdminAttempt, marked]

theorem mem_administrators {user : User} (member : user ∈ rows.users)
    (past : started ≤ rows.tables.now) (isAdmin : rows.tables.hasSuperAdmin user.id = true) :
    user.id ∈ rows.administrators started := by
  refine mem_filter.mpr ⟨mem_map_of_mem member, ?_⟩
  simp only [Tables.hasSuperAdmin, Tables.unexpired, Bool.or_eq_true, any_eq_true,
    Bool.and_eq_true, Option.all_eq_true, decide_eq_true_eq] at isAdmin ⊢
  refine isAdmin.imp_right ?_
  rintro ⟨binding, stored, ⟨⟨principal, scope⟩, role⟩, unexpired⟩
  refine ⟨binding, stored, ⟨⟨principal, role⟩, scope⟩, ?_⟩
  intro expiry expires
  exact Int.lt_of_le_of_lt past (unexpired expiry expires)

/-- Role names are unique, and so one of two granted roles is that of a super administrator. -/
theorem superAdmin_of_granted (granted : (rows.granted userId).length = 2) :
    ∃ roleId, (roleId, "super_admin") ∈ rows.tables.roles ∧
      (userId, roleId) ∈ rows.granted userId := by
  obtain ⟨first, second, pair⟩ := length_eq_two.mp ((length_map _).symm.trans granted)
  have names : ([first, second].map Prod.snd).Nodup :=
    pair ▸ rows.distinct.sublist (filter_sublist.map Prod.snd)
  have chosen : ∀ role ∈ [first, second], role ∈ rows.tables.roles ∧
      (role.2 = "user" ∨ role.2 = "super_admin") := by
    intro role member
    obtain ⟨stored, kept⟩ := mem_filter.mp (pair ▸ member)
    simp only [Bool.and_eq_true, Bool.or_eq_true, decide_eq_true_eq] at kept
    exact ⟨stored, kept.1⟩
  have found : ∃ role ∈ [first, second], role.2 = "super_admin" := by
    by_contra missing
    push Not at missing
    have isUser : ∀ role ∈ [first, second], role.2 = "user" := fun role member =>
      (chosen role member).2.resolve_right (missing role member)
    simp [isUser first, isUser second] at names
  obtain ⟨role, member, isAdmin⟩ := found
  rw [AuthRows.granted, pair, ← isAdmin]
  exact ⟨role.1, (chosen role member).1, mem_map_of_mem member⟩

theorem attempt_settles (past : started ≤ state.rows.tables.now) :
    Settles started drawn request state := by
  unfold Settles bootstrapAdminAttempt
  dsimp only
  split
  · exact .inr ⟨⟨_, rfl⟩, rfl, rfl⟩
  · exact .inr ⟨⟨_, rfl⟩, rfl, rfl⟩
  · exact .inr ⟨⟨_, rfl⟩, rfl, rfl⟩
  · rename_i unfound
    split_ifs with taken granted
    · exact .inr ⟨⟨_, rfl⟩, rfl, rfl⟩
    · exact .inr ⟨⟨_, rfl⟩, rfl, rfl⟩
    · obtain ⟨roleId, stored, inserted⟩ := superAdmin_of_granted (not_not.mp granted)
      refine .inl ⟨rfl, ⟨_, rfl⟩, fun user member => ?_, rfl, ?_⟩
      · rw [← Bool.not_eq_true]
        intro already
        have found := mem_administrators member past already
        rw [min?_eq_none_iff.mp unfound] at found
        cases found
      · simp only [Tables.hasSuperAdmin, Bool.or_eq_true, any_eq_true]
        exact .inl ⟨_, mem_append_left _ inserted, by simpa [Tables.isSuperAdminRole] using stored⟩

theorem completed_step (completed : state.Completed) (event : Event) :
    (step state event).2.Completed := by
  unfold step
  split
  · exact completed
  · exact completed
  · simp only [attempt_of_completed completed]
    exact completed

theorem completed_of_created {event : Event}
    (created : (step state event).1.bind (·.toOption) = some userId) :
    ¬ state.Completed ∧ (step state event).2.Completed ∧
      (step state event).2.Administers userId := by
  unfold step at created ⊢
  split at created
  · cases created
  · cases created
  · refine ⟨fun already => ?_, ?_⟩
    · rw [attempt_of_completed already] at created
      cases created
    · rename_i request started drawn _ _
      have settles : Settles (min started state.rows.tables.now) drawn request state :=
        attempt_settles (Int.min_le_right _ _)
      rcases settles with ⟨ok, completed, _, users, isAdmin⟩ | ⟨⟨_, failed⟩, _⟩
      · simp only [ok] at created
        cases created
        exact ⟨completed, by simp [users, BootstrapRequest.user], isAdmin⟩
      · simp only [failed] at created
        cases created

variable {past : Past} {userId : Int}

/-- One user was created and the marker is completed, or none was. -/
def Sound (past : Past) (state : AuthState) : Prop :=
  createdIn past = [] ∨ state.Completed ∧ (createdIn past).length = 1

theorem sound_step (sound : Sound past state) (event : Event) :
    Sound (past ++ [(event, (step state event).1)]) (step state event).2 := by
  rw [Sound, createdIn, filterMap_append, ← createdIn]
  cases created : (step state event).1.bind (·.toOption) with
  | none =>
    simp only [filterMap_cons, created, filterMap_nil, append_nil]
    exact sound.imp_right fun done => ⟨completed_step done.1 event, done.2⟩
  | some userId =>
    obtain ⟨unmarked, completed, _⟩ := completed_of_created created
    have unused := sound.resolve_right fun done => unmarked done.1
    exact .inr ⟨completed, by simp [created, unused]⟩

end AdminBootstrap

end UntitledOJ
