import Mathlib.Data.List.Dedup
import UntitledOJ.GoText

/-!
# Permissions on a graph of resources

`HasPermission` of the shared permission package.  A scope inherits from its ancestors over
`resource_edges`, up to sixteen edges away, from their type-wide scopes, and from the system.
-/

namespace UntitledOJ

open List

namespace Permission

structure Principal where
  type : String
  id : Int

structure Scope where
  type : String
  id : Int
  deriving DecidableEq

inductive Effect where
  | allow
  | deny
  deriving DecidableEq

def userPrincipal (userId : Int) : Principal :=
  ⟨"user", userId⟩

def systemScope : Scope :=
  ⟨"system", 0⟩

theorem trimSpace_judge : trimSpace "judge" = "judge" :=
  trimSpace_of_ends (by simp [isTrimmed]) (by simp [isTrimmed])

variable [LetterCase]

def Effect.parse (text : String) : Option Effect :=
  let text := toLower (trimSpace text)
  if text = "allow" then some .allow else if text = "deny" then some .deny else none

def normalizePrincipal (principal : Principal) : Principal :=
  let type := toLower (trimSpace principal.type)
  { principal with type := if type = "" then "user" else type }

def normalizeScope (scope : Scope) : Scope :=
  let type := toLower (trimSpace scope.type)
  ⟨if type = "" then "system" else type, if scope.id < 0 then 0 else scope.id⟩

theorem normalizeScope_system : normalizeScope systemScope = systemScope := by
  have same : toLower (trimSpace "system") = "system" := toLower_trimSpace (by simp [isTrimmed])
  simp [normalizeScope, systemScope, same]

theorem normalizePrincipal_user (userId : Int) :
    normalizePrincipal (userPrincipal userId) = userPrincipal userId := by
  have same : toLower (trimSpace "user") = "user" := toLower_trimSpace (by simp [isTrimmed])
  simp [normalizePrincipal, userPrincipal, same]

variable {scope : Scope}

theorem normalizeScope_typeWide (normal : normalizeScope scope = scope) :
    normalizeScope ⟨scope.type, 0⟩ = ⟨scope.type, 0⟩ := by
  have type := congrArg Scope.type normal
  simp only [normalizeScope] at type ⊢
  simp [type]

theorem normalizeScope_normalizeScope (scope : Scope) :
    normalizeScope (normalizeScope scope) = normalizeScope scope := by
  by_cases blank : toLower (trimSpace scope.type) = ""
  · have system := congrArg Scope.type normalizeScope_system
    simp only [normalizeScope, systemScope] at system ⊢
    split_ifs <;> simp_all
  · simp only [normalizeScope, blank, if_false, toLower_trim]
    split_ifs <;> simp_all

/-- A row of `resource_edges`; `AddResourceEdge` stores normal scopes only. -/
structure ResourceEdge where
  (parent child : Scope)
  relation : String
  normal : normalizeScope parent = parent

structure RoleBinding where
  principalType : String
  principalId : Int
  roleId : Int
  scope : Scope
  expiresAt : Option Int

structure PermissionAssignment where
  principalType : String
  principalId : Int
  permissionCode : String
  scope : Scope
  effect : Effect
  expiresAt : Option Int

/-- The values that tell assignments apart. -/
def PermissionAssignment.key (row : PermissionAssignment) : String × Int × String × Scope :=
  (row.principalType, row.principalId, row.permissionCode, row.scope)

/-- The tables, and the time at which they are read. -/
structure Tables where
  roles : List (Int × String)
  userRoles : List (Int × Int)
  rolePermissions : List (Int × String)
  roleBindings : List RoleBinding
  permissionAssignments : List PermissionAssignment
  resourceEdges : List ResourceEdge
  now : Int

namespace Tables

variable (tables : Tables)

def unexpired (expiresAt : Option Int) : Bool :=
  expiresAt.all (tables.now < ·)

/-- The rows of the recursive query from one level of ancestors on, `depth` levels up. -/
def ancestors : Nat → List Scope → List Scope
  | 0, level => level
  | depth + 1, level => level ++ ancestors depth (level.flatMap fun scope =>
      (tables.resourceEdges.filter (·.child = scope)).map (·.parent))

def addScope (result : List Scope) (scope : Scope) : List Scope :=
  let scope := normalizeScope scope
  if scope.type = "" ∨ scope ∈ result then result else result ++ [scope]

def collectScopes (scope : Scope) : List Scope :=
  addScope (((tables.ancestors 16 [normalizeScope scope]).dedup).foldl
    (fun result row => addScope (addScope result row) ⟨row.type, 0⟩) []) systemScope

def isSuperAdminRole (roleId : Int) : Bool :=
  tables.roles.contains (roleId, "super_admin")

def hasSuperAdmin (userId : Int) : Bool :=
  tables.userRoles.any (fun row => row.1 = userId && tables.isSuperAdminRole row.2) ||
    tables.roleBindings.any fun binding => binding.principalType = "user" &&
      binding.principalId = userId && binding.scope = systemScope &&
      tables.isSuperAdminRole binding.roleId && tables.unexpired binding.expiresAt

def hasDirectAssignment (principal : Principal) (permissionCode : String) (scope : Scope)
    (effect : Effect) : Bool :=
  tables.permissionAssignments.any fun row => row.principalType = principal.type &&
    row.principalId = principal.id && row.permissionCode = permissionCode && row.scope = scope &&
    row.effect = effect && tables.unexpired row.expiresAt

def putAssignment (row : PermissionAssignment) : Tables :=
  { tables with
    permissionAssignments := row :: tables.permissionAssignments.filter (·.key ≠ row.key) }

/-- `AssignPermission`, which replaces what was assigned before. -/
def assignPermission (target : Principal) (permissionCode : String) (scope : Scope)
    (effect : String) (expiresAt : Option Int) : Except String Tables :=
  let target := normalizePrincipal target
  let permissionCode := trimSpace permissionCode
  if target.type = "" ∨ target.id ≤ 0 then .error "invalid target principal"
  else if permissionCode = "" then .error "permission code is empty"
  else match Effect.parse effect with
    | none => .error ("invalid permission effect: " ++ toLower (trimSpace effect))
    | some effect => .ok (tables.putAssignment
        ⟨target.type, target.id, permissionCode, normalizeScope scope, effect, expiresAt⟩)

def hasGlobalUserRolePermission (userId : Int) (permissionCode : String) : Bool :=
  tables.userRoles.any fun row =>
    row.1 = userId && tables.rolePermissions.contains (row.2, permissionCode)

def hasScopedRolePermission (principal : Principal) (permissionCode : String) (scope : Scope) :
    Bool :=
  tables.roleBindings.any fun binding => binding.principalType = principal.type &&
    binding.principalId = principal.id && binding.scope = scope &&
    tables.rolePermissions.contains (binding.roleId, permissionCode) &&
    tables.unexpired binding.expiresAt

def hasPermission (principal : Principal) (permissionCode : String) (scope : Scope) : Bool :=
  let principal := normalizePrincipal principal
  let scope := normalizeScope scope
  let permissionCode := trimSpace permissionCode
  if principal.type = "" ∨ principal.id ≤ 0 then false
  else if permissionCode = "" then false
  else if principal.type = "user" && tables.hasSuperAdmin principal.id then true
  else
    let scopes := tables.collectScopes scope
    if scopes.any (tables.hasDirectAssignment principal permissionCode · .deny) then false
    else if scopes.any (tables.hasDirectAssignment principal permissionCode · .allow) then true
    else if principal.type = "user" &&
        tables.hasGlobalUserRolePermission principal.id permissionCode then true
    else scopes.any (tables.hasScopedRolePermission principal permissionCode)

inductive Reaches (edges : List ResourceEdge) : Nat → Scope → Scope → Prop
  | refl (scope : Scope) : Reaches edges 0 scope scope
  | step {edge : ResourceEdge} {length : Nat} {ancestor : Scope} (stored : edge ∈ edges)
      (rest : Reaches edges length edge.parent ancestor) :
      Reaches edges (length + 1) edge.child ancestor

/-- The places where a permission may be decided: the ancestors up to `limit` edges away, their
type-wide scopes, and the system. -/
def Decides (limit : Nat) (scope place : Scope) : Prop :=
  place = systemScope ∨ ∃ length ancestor, length ≤ limit ∧
    Reaches tables.resourceEdges length scope ancestor ∧
      (place = ancestor ∨ place = ⟨ancestor.type, 0⟩)

/-- The decision that the resource graph prescribes. -/
def Permits (limit : Nat) (userId : Int) (permissionCode : String) (scope : Scope) : Prop :=
  tables.hasSuperAdmin userId = true ∨
    (¬ ∃ place, tables.Decides limit scope place ∧
      tables.hasDirectAssignment (userPrincipal userId) permissionCode place .deny = true) ∧
    ((∃ place, tables.Decides limit scope place ∧
        tables.hasDirectAssignment (userPrincipal userId) permissionCode place .allow = true) ∨
      tables.hasGlobalUserRolePermission userId permissionCode = true ∨
      ∃ place, tables.Decides limit scope place ∧
        tables.hasScopedRolePermission (userPrincipal userId) permissionCode place = true)

variable {tables} {ancestor : Scope}

theorem mem_ancestors {depth : Nat} {level : List Scope} : ancestor ∈ tables.ancestors depth level ↔
      ∃ scope ∈ level, ∃ length ≤ depth, Reaches tables.resourceEdges length scope ancestor := by
  induction depth generalizing level with
  | zero =>
    simp only [ancestors, Nat.le_zero, exists_eq_left]
    constructor
    · exact fun member => ⟨ancestor, member, .refl _⟩
    · rintro ⟨scope, member, ⟨⟩⟩
      exact member
  | succ depth ih =>
    simp only [ancestors, mem_append, ih, mem_flatMap, mem_map, mem_filter, decide_eq_true_eq]
    constructor
    · rintro (member | ⟨_, ⟨_, member, edge, ⟨stored, rfl⟩, rfl⟩, length, short, reaches⟩)
      · exact ⟨ancestor, member, 0, Nat.zero_le _, .refl _⟩
      · exact ⟨_, member, length + 1, Nat.succ_le_succ short, .step stored reaches⟩
    · rintro ⟨scope, member, length, short, reaches⟩
      cases reaches with
      | refl => exact .inl member
      | step stored rest =>
        exact .inr ⟨_, ⟨_, member, _, ⟨stored, rfl⟩, rfl⟩, _, Nat.le_of_succ_le_succ short, rest⟩

variable {place : Scope}

theorem mem_addScope {result : List Scope} :
    place ∈ addScope result scope ↔ place ∈ result ∨ place = normalizeScope scope := by
  have named : (normalizeScope scope).type ≠ "" := by
    simp only [normalizeScope]
    split_ifs with blank
    · simp
    · exact blank
  simp only [addScope, named, false_or]
  split_ifs with known
  · constructor
    · exact .inl
    · rintro (member | rfl)
      · exact member
      · exact known
  · simp

variable {length : Nat}

theorem Reaches.normal {edges : List ResourceEdge} (reaches : Reaches edges length scope ancestor)
    (normal : normalizeScope scope = scope) : normalizeScope ancestor = ancestor := by
  induction reaches with
  | refl => exact normal
  | step stored rest ih => exact ih (ResourceEdge.normal _)

theorem mem_collectScopes (normal : normalizeScope scope = scope) :
    place ∈ tables.collectScopes scope ↔ tables.Decides 16 scope place := by
  have folded (rows result : List Scope) (normals : ∀ row ∈ rows, normalizeScope row = row) :
      place ∈ rows.foldl (fun result row => addScope (addScope result row) ⟨row.type, 0⟩) result ↔
        place ∈ result ∨ ∃ row ∈ rows, place = row ∨ place = ⟨row.type, 0⟩ := by
    induction rows generalizing result with
    | nil => simp
    | cons row rest ih =>
      obtain ⟨first, others⟩ := forall_mem_cons.mp normals
      rw [foldl_cons, ih _ others, mem_addScope, mem_addScope, first, normalizeScope_typeWide first]
      simp only [exists_mem_cons_iff, or_assoc]
  have rows {row : Scope} : row ∈ (tables.ancestors 16 [normalizeScope scope]).dedup ↔
      ∃ length ≤ 16, Reaches tables.resourceEdges length scope row := by
    rw [mem_dedup, mem_ancestors, normal]
    simp
  rw [collectScopes, mem_addScope, normalizeScope_system, folded _ _ ?_]
  · simp only [not_mem_nil, false_or, rows, Decides]
    constructor
    · rintro (⟨row, ⟨length, short, reaches⟩, same⟩ | rfl)
      · exact .inr ⟨length, row, short, reaches, same⟩
      · exact .inl rfl
    · rintro (rfl | ⟨length, row, short, reaches, same⟩)
      · exact .inr rfl
      · exact .inl ⟨row, ⟨length, short, reaches⟩, same⟩
  · intro row member
    obtain ⟨_, _, reaches⟩ := rows.mp member
    exact reaches.normal normal

variable {permissionCode : String} {userId : Int}

theorem hasPermission_user (scope : Scope)
    (positive : 0 < userId) (named : trimSpace permissionCode ≠ "") :
    tables.hasPermission (userPrincipal userId) permissionCode scope = true ↔
      tables.Permits 16 userId (trimSpace permissionCode) (normalizeScope scope) := by
  have scopes (holds : Scope → Bool) :
      (tables.collectScopes (normalizeScope scope)).any holds = true ↔
        ∃ place, tables.Decides 16 (normalizeScope scope) place ∧ holds place = true := by
    simp only [any_eq_true, mem_collectScopes (normalizeScope_normalizeScope scope)]
  have user : (userPrincipal userId).type = "user" := rfl
  have id : ¬ (userPrincipal userId).id ≤ 0 := Int.not_le.mpr positive
  simp only [hasPermission, normalizePrincipal_user, user, id, named, Permits, ← scopes]
  split_ifs with super denied allowed global
  all_goals simp_all [userPrincipal]

variable {row : PermissionAssignment} {principal : Principal} {effect : Effect} {limit : Nat}

theorem hasDirectAssignment_put (lasts : tables.unexpired row.expiresAt = true)
    (same : row.effect = effect)
    (assigned : tables.hasDirectAssignment principal permissionCode place effect = true) :
    (tables.putAssignment row).hasDirectAssignment principal permissionCode place effect =
      true := by
  obtain ⟨old, stored, shown⟩ := any_eq_true.mp assigned
  refine any_eq_true.mpr ?_
  by_cases replaced : old.key = row.key
  · refine ⟨row, mem_cons_self, ?_⟩
    simp only [PermissionAssignment.key, Prod.mk.injEq] at replaced
    simp only [replaced, Bool.and_eq_true, decide_eq_true_eq] at shown ⊢
    exact ⟨⟨shown.1.1, same⟩, lasts⟩
  · exact ⟨old, mem_cons_of_mem _ (mem_filter.mpr ⟨stored, by simpa using replaced⟩), shown⟩

theorem hasDirectAssignment_of_put (other : row.effect ≠ effect)
    (assigned : (tables.putAssignment row).hasDirectAssignment
      principal permissionCode place effect =
      true) : tables.hasDirectAssignment principal permissionCode place effect = true := by
  obtain ⟨found, stored, shown⟩ := any_eq_true.mp assigned
  rcases mem_cons.mp stored with rfl | kept
  · simp [other] at shown
  · exact any_eq_true.mpr ⟨found, mem_of_mem_filter kept, shown⟩

/-- Another deny grants nothing. -/
theorem Permits.of_put_deny (lasts : tables.unexpired row.expiresAt = true)
    (deny : row.effect = .deny)
    (permits : (tables.putAssignment row).Permits limit userId permissionCode scope) :
    tables.Permits limit userId permissionCode scope := by
  refine permits.imp_right fun ⟨undenied, granted⟩ => ⟨?_, granted.imp_left ?_⟩
  · rintro ⟨place, decides, denied⟩
    exact undenied ⟨place, decides, hasDirectAssignment_put lasts deny denied⟩
  · rintro ⟨place, decides, allowed⟩
    exact ⟨place, decides, hasDirectAssignment_of_put (by simp [deny]) allowed⟩

/-- Another allow takes nothing away. -/
theorem Permits.put_allow (lasts : tables.unexpired row.expiresAt = true)
    (allow : row.effect = .allow)
    (permits : tables.Permits limit userId permissionCode scope) :
    (tables.putAssignment row).Permits limit userId permissionCode scope := by
  refine permits.imp_right fun ⟨undenied, granted⟩ => ⟨?_, granted.imp_left ?_⟩
  · rintro ⟨place, decides, denied⟩
    exact undenied ⟨place, decides, hasDirectAssignment_of_put (by simp [allow]) denied⟩
  · rintro ⟨place, decides, allowed⟩
    exact ⟨place, decides, hasDirectAssignment_put lasts allow allowed⟩

/-- Permission decisions follow the resource graph, up to sixteen edges from the scope; assigning a
deny never grants and assigning an allow never takes away, unless it is expired already. -/
theorem hasPermission_iff_permits {userId : Int} {permissionCode : String} (scope : Scope)
    (positive : 0 < userId) (named : trimSpace permissionCode ≠ "") :
    (tables.hasPermission (userPrincipal userId) permissionCode scope = true ↔
        tables.Permits 16 userId (trimSpace permissionCode) (normalizeScope scope)) ∧
      ∀ target code place effect expiresAt after, tables.unexpired expiresAt = true →
        tables.assignPermission target code place effect expiresAt = .ok after →
        (Effect.parse effect = some .deny →
          after.hasPermission (userPrincipal userId) permissionCode scope = true →
          tables.hasPermission (userPrincipal userId) permissionCode scope = true) ∧
        (Effect.parse effect = some .allow →
          tables.hasPermission (userPrincipal userId) permissionCode scope = true →
          after.hasPermission (userPrincipal userId) permissionCode scope = true) := by
  refine ⟨hasPermission_user scope positive named, ?_⟩
  intro target code place effect expiresAt after lasts assigned
  simp only [assignPermission] at assigned
  split_ifs at assigned
  cases parsed : Effect.parse effect with
  | none =>
    rw [parsed] at assigned
    cases assigned
  | some effect =>
    rw [parsed] at assigned
    cases assigned
    simp only [hasPermission_user scope positive named, Option.some.injEq]
    exact ⟨fun deny => .of_put_deny lasts deny, fun allow => .put_allow lasts allow⟩

def group (index : Nat) : Scope :=
  ⟨"group", index⟩

theorem normalizeScope_group (index : Nat) : normalizeScope (group index) = group index := by
  have same : toLower (trimSpace "group") = "group" := toLower_trimSpace (by simp [isTrimmed])
  have nonnegative : ¬ (index : Int) < 0 := by omega
  simp only [normalizeScope, group, same, nonnegative, String.reduceEq, if_false]

def chain (length : Nat) : List ResourceEdge :=
  (List.range length).map fun index =>
    ⟨group (index + 2), group (index + 1), "contains", normalizeScope_group _⟩

def chained (length : Nat) : Tables where
  roles := []
  userRoles := []
  rolePermissions := []
  roleBindings := []
  permissionAssignments := [⟨"user", 1, "judge", group 1, .allow, none⟩,
    ⟨"user", 1, "judge", group (length + 1), .deny, none⟩]
  resourceEdges := chain length
  now := 0

theorem group_of_reaches {size : Nat} (reaches : Reaches (chain size) length scope ancestor)
    (index : Nat) (start : scope = group index) : ancestor = group (index + length) := by
  induction reaches generalizing index with
  | refl => exact start
  | step stored rest ih =>
    obtain ⟨below, _, rfl⟩ := mem_map.mp stored
    have same := congrArg Scope.id start
    simp only [group] at same
    rw [ih (below + 2) rfl]
    congr 1
    omega

theorem reaches_chain {size index : Nat} (short : index + length ≤ size) :
    Reaches (chain size) length (group (index + 1)) (group (index + 1 + length)) := by
  induction length generalizing index with
  | zero => exact .refl _
  | succ length ih =>
    have stored : (⟨group (index + 2), group (index + 1), "contains", normalizeScope_group _⟩ :
        ResourceEdge) ∈ chain size := mem_map.mpr ⟨index, by simp; omega, rfl⟩
    rw [show index + 1 + (length + 1) = index + 1 + 1 + length by omega]
    exact .step stored (ih (by omega))

omit [LetterCase] in
theorem chained_follows_graph :
    let _ := plainCase
    (chained 1).hasPermission (userPrincipal 1) "judge" (group 1) = true ↔
      (chained 1).Permits 16 1 (trimSpace "judge") (normalizeScope (group 1)) := by
  intro _
  exact (hasPermission_iff_permits (group 1) (by decide) (by simp [trimSpace_judge])).1

omit [LetterCase] in
/-- A deny seventeen edges up does not count. -/
theorem distant_deny_ignored :
    let _ := plainCase
    (chained 17).hasPermission (userPrincipal 1) "judge" (group 1) = true ∧
      (chained 17).hasSuperAdmin 1 = false ∧
      ∃ length ancestor, Reaches (chained 17).resourceEdges length (group 1) ancestor ∧
        (chained 17).hasDirectAssignment (userPrincipal 1) "judge" ancestor .deny = true := by
  intro _
  refine ⟨(hasPermission_user _ (by decide) (by simp [trimSpace_judge])).mpr (.inr ?_), rfl, 17,
    group 18, reaches_chain (Nat.le_refl _), by decide⟩
  refine ⟨?_, .inl ⟨group 1, .inr ⟨0, group 1, by omega, .refl _, .inl rfl⟩, by decide⟩⟩
  rintro ⟨place, rfl | ⟨length, ancestor, short, reaches, here⟩, denied⟩
  · simp [hasDirectAssignment, chained, systemScope, group] at denied
  · rw [group_of_reaches reaches 1 rfl] at here
    obtain rfl | rfl := here
    · simp [hasDirectAssignment, chained, group] at denied
      omega
    · simp [hasDirectAssignment, chained, group] at denied

end Tables

end Permission
end UntitledOJ
