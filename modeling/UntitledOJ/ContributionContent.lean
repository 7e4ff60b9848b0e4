import UntitledOJ.ControlPlaneJob
import UntitledOJ.Transactions
import Mathlib.Data.List.Sort

/-!
# What a contribution publishes

A service contributes API surfaces, routes, permission definitions and frontend modules, which
are validated before they are stored.  Two routes conflict when some request would match both.

Identities, tags and digests are texts `sha256:<64 lowercase hex>`, which the source checks
wherever one is read; here such a text is the number that its digits write.
-/

namespace UntitledOJ

/-- A text accepted by `is_canonical_sha256`, as the number that it writes. -/
structure Sha256 where
  value : Fin (2 ^ 256)
  deriving DecidableEq, Repr

namespace Sha256

instance neZero : @NeZero Nat Zero.ofOfNat0 (2 ^ 256) := ⟨by decide⟩

instance : Ord Sha256 := ⟨compareOn value⟩

instance : Std.TransOrd Sha256 :=
  inferInstanceAs (Std.TransCmp (compareOn value))

instance : Std.LawfulEqOrd Sha256 where
  eq_of_compare {first second} same := by
    have equal : first.value = second.value := Std.LawfulEqOrd.compare_eq_iff_eq.mp same
    exact congrArg mk equal

def hex (digest : Sha256) : String :=
  String.ofList ((List.range 64).reverse.map fun place =>
    Nat.digitChar (digest.value.val / 16 ^ place % 16))

def text (digest : Sha256) : String :=
  "sha256:" ++ digest.hex

end Sha256

namespace Contribution

inductive DomainError where
  | invalid (message : String)
  | casConflict (expected actual : Option Sha256)
  | invalidTransition (entity source target : String)
  deriving DecidableEq, Repr

/-- The `Debug` text of a string; only quotes and backslashes are escaped here. -/
def debugText (text : String) : String :=
  "\"" ++ String.ofList (text.toList.flatMap fun c =>
    if c = '"' || c = '\\' then ['\\', c] else [c]) ++ "\""

def debugOption : Option Sha256 → String
  | none => "None"
  | some digest => "Some(" ++ debugText digest.text ++ ")"

def DomainError.text : DomainError → String
  | .invalid message => "invalid contribution: " ++ message
  | .casConflict expected actual =>
    "contribution head compare-and-swap conflict (expected " ++ debugOption expected ++
      ", actual " ++ debugOption actual ++ ")"
  | .invalidTransition entity source target =>
    "invalid " ++ entity ++ " transition from " ++ source ++ " to " ++ target

/-- `semver::Version::parse` and `VersionReq::parse`: what they complain about. -/
class VersionSyntax where
  (versionError requirementError : String → Option String)

def invalid {α : Type} (message : String) : Except DomainError α :=
  .error (.invalid message)

/-- `if refused { return invalid(message) }`. -/
def rejectIf (refused : Bool) (message : String) : Except DomainError Unit :=
  require (!refused) (.invalid message)

variable {message : String}

theorem of_rejectIf {refused : Bool} (passed : rejectIf refused message = .ok ()) :
    refused = false := by
  simpa using of_require passed

theorem ok_of_rejectIf_bind {α : Type} {refused : Bool} {rest : Unit → Except DomainError α}
    {result : α} (succeeded : (rejectIf refused message >>= rest) = .ok result) :
    refused = false ∧ rest () = .ok result := by
  obtain ⟨⟨⟩, passed, later⟩ := ok_of_bind succeeded
  exact ⟨of_rejectIf passed, later⟩

def maxIdentifierLen : Nat := 128

def maxPathLen : Nat := 512

def maxTextLen : Nat := 512

def beginsWith (text start : String) : Bool :=
  start.toList.isPrefixOf text.toList

def containsText (text part : String) : Bool :=
  text.toList.tails.any part.toList.isPrefixOf

def withoutEnding (text ending : String) : Option String :=
  if ending.toList.isSuffixOf text.toList then
    some (String.ofList (text.toList.take (text.length - ending.length)))
  else none

/-- The first character and the later ones each have a class of their own. -/
def hasCharacters (first later : Char → Bool) : List Char → Bool
  | [] => false
  | head :: tail => first head && tail.all later

def isLowerOrDigit (c : Char) : Bool := c.isLower || c.isDigit

/-- `validate_service_id`: at most 63 characters, no hyphen at either end. -/
def validateServiceId (serviceId : String) : Except DomainError Unit :=
  rejectIf (!(hasCharacters isLowerOrDigit (fun c => isLowerOrDigit c || c = '-')
      serviceId.toList && serviceId.length ≤ 63 &&
      serviceId.toList.getLast?.any isLowerOrDigit))
    "service_id must be a lowercase DNS label"

def validateStableIdentifier (name value : String) : Except DomainError Unit :=
  rejectIf (value.utf8ByteSize > maxIdentifierLen ||
      !hasCharacters Char.isAlphanum
        (fun c => c.isAlphanum || c = '_' || c = '.' || c = ':' || c = '-') value.toList)
    (name ++ " is not a stable identifier")

def validatePermissionKey (value : String) : Except DomainError Unit :=
  rejectIf (value.utf8ByteSize > maxIdentifierLen ||
      !hasCharacters isLowerOrDigit (fun c => isLowerOrDigit c || c = '.' || c = '-')
        value.toList || !value.toList.contains '.')
    "permission key must be a lowercase namespaced identifier"

/-- `validate_permission_scope_type`: words of lowercase letters and digits between
single separators, the first of which starts with a letter. -/
def validatePermissionScopeType (value : String) : Except DomainError Unit :=
  rejectIf (value.utf8ByteSize > maxIdentifierLen ||
      !(value.toList.head?.any Char.isLower &&
        (value.toList.splitOnP fun c => c = '.' || c = '_' || c = '-').all
          (hasCharacters isLowerOrDigit isLowerOrDigit)))
    "permission scope type must be a stable lowercase identifier"

def validateRequiredText (name value : String) (maxLen : Nat) : Except DomainError Unit :=
  rejectIf (isBlank value || value.utf8ByteSize > maxLen)
    (name ++ " must be non-empty and at most " ++ toString maxLen ++ " bytes")

def validateOptionalText (name value : String) (maxLen : Nat) : Except DomainError Unit :=
  rejectIf (value.utf8ByteSize > maxLen)
    (name ++ " must be at most " ++ toString maxLen ++ " bytes")

def validateArtifactPath (value : String) : Except DomainError Unit :=
  rejectIf (value.isEmpty || value.utf8ByteSize > maxPathLen || beginsWith value "/" ||
      value.toList.any (fun c => c = '\\' || c = '?' || c = '#') ||
      (value.toList.splitOn '/').any fun segment =>
        segment.isEmpty || segment = ['.'] || segment = ['.', '.'] ||
          !segment.all fun c => c.isAlphanum || c = '.' || c = '_' || c = '-')
    "frontend artifact must be a safe relative artifact path"

def validateContentAddressedReference (field reference : String) (digest : Sha256) :
    Except DomainError Unit :=
  rejectIf (!(beginsWith reference "https://" && !reference.toList.any isTrimmed &&
      containsText reference digest.hex))
    (field ++ " must be an HTTPS content-addressed reference containing its digest")

variable {Item Key : Type}

def validateDistinct [DecidableEq Key] (key : Item → Key)
    (early late : Item → Except DomainError Unit) (duplicate : Item → String) :
    List Key → List Item → Except DomainError Unit
  | _, [] => .ok ()
  | seen, item :: rest => do
      early item
      rejectIf (seen.contains (key item)) (duplicate item)
      late item
      validateDistinct key early late duplicate (key item :: seen) rest

def validatePairs (check : Item → Item → Except DomainError Unit) :
    List Item → Except DomainError Unit
  | [] => .ok ()
  | item :: rest => do
      rest.forM (check item)
      validatePairs check rest

def reservedContributionPaths : List String :=
  ["/_ojos", "/debug", "/health", "/healthz", "/internal", "/live", "/livez", "/metrics",
    "/ready", "/readyz"]

def isReservedContributionPath (path : String) : Bool :=
  reservedContributionPaths.any fun reserved =>
    path = reserved || beginsWith path (reserved ++ "/")

def isLiteralSegment (segment : List Char) : Bool :=
  !segment.isEmpty && segment.all fun c =>
    c.isAlphanum || c = '.' || c = '_' || c = '~' || c = '-'

def isParameterSegment (segment : List Char) : Bool :=
  segment.head? = some '{' && segment.getLast? = some '}' &&
    hasCharacters (fun c => c.isAlpha || c = '_') (fun c => c.isAlphanum || c = '_')
      (segment.drop 1).dropLast

def validateRoutePath (name path : String) (allowRoot : Bool) : Except DomainError Unit := do
  rejectIf (path.isEmpty || path.utf8ByteSize > maxPathLen || !beginsWith path "/")
    (name ++ " must be an absolute path no longer than " ++ toString maxPathLen ++ " bytes")
  rejectIf (!allowRoot && path = "/") (name ++ " cannot claim the root path")
  rejectIf ((path.utf8ByteSize > 1 && path.toList.getLast? = some '/') ||
      containsText path "//" || path.toList.any fun c => c = '?' || c = '#' || c = '%')
    (name ++ " is not canonical")
  ((path.toList.dropWhile (· = '/')).splitOn '/').forM fun segment => do
    -- the root path has one empty segment
    if segment.isEmpty && path = "/" then pure () else
    rejectIf (!isLiteralSegment segment && !isParameterSegment segment)
      (name ++ " contains invalid segment " ++ debugText (String.ofList segment))
    rejectIf (segment = ['.'] || segment = ['.', '.']) (name ++ " cannot contain dot segments")

inductive RouteSegment where
  | literal (text : List Char)
  | parameter
  deriving DecidableEq, Repr

def parseRouteTemplate (path : String) : Except DomainError (List RouteSegment) := do
  validateRoutePath "route template" path true
  if path = "/" then return []
  return ((path.toList.drop 1).splitOn '/').map fun segment =>
    if segment.head? = some '{' && segment.getLast? = some '}' then .parameter
    else .literal segment

def routeTemplateParameterNames (path : String) : Except DomainError (List (List Char)) := do
  validateRoutePath "route template" path true
  return ((path.toList.dropWhile (· = '/')).splitOn '/').filterMap fun segment =>
    if segment.head? = some '{' && segment.getLast? = some '}' && segment.length ≥ 2 then
      some (segment.drop 1).dropLast
    else none

/-- Some text is an instance of both segments. -/
def RouteSegment.overlaps : RouteSegment → RouteSegment → Bool
  | .parameter, _ | _, .parameter => true
  | .literal first, .literal second => first = second

def routeTemplatesOverlap (left right : String) : Except DomainError Bool := do
  let left ← parseRouteTemplate left
  let right ← parseRouteTemplate right
  return left.length = right.length &&
    (left.zip right).all fun pair => pair.1.overlaps pair.2

end Contribution

open Contribution

inductive ContributionAudienceV1 where
  | internal | user | «public» | admin
  deriving DecidableEq, Repr, Ord

inductive ContributionHttpMethodV1 where
  | get | post | put | patch | delete | head
  deriving DecidableEq, Repr, Ord

inductive ContributionRouteAuthV1 where
  | anonymous | optional | required
  deriving DecidableEq, Repr, Ord

structure ContributionPathPermissionScopeV1 where
  (scopeType pathParameter : String)
  deriving DecidableEq, Repr, Ord

inductive ContributionPermissionScopeV1 where
  | system
  | pathParameter (scope : ContributionPathPermissionScopeV1)
  deriving DecidableEq, Repr, Ord

structure ContributionApiSurfaceV1 where
  (apiId apiVersion protocol basePath : String)
  deriving DecidableEq, Repr, Ord

structure ContributionOperationRouteV1 where
  audience : ContributionAudienceV1
  method : ContributionHttpMethodV1
  (path apiId operationId providerPath : String)
  auth : ContributionRouteAuthV1
  permission : Option String
  permissionScope : Option ContributionPermissionScopeV1
  deriving DecidableEq, Repr, Ord

structure ContributionPermissionDefinitionV1 where
  (key title description : String)
  deriving DecidableEq, Repr, Ord

structure ContributionFrontendModuleV1 where
  (moduleId surfaceId route menuLabel : String)
  menu : Bool
  order : Int
  permission : Option String
  (artifact hostApiRange : String)
  manifestDigest : Sha256
  manifestReference : String
  bundleDigest : Sha256
  bundleReference : String
  deriving DecidableEq, Repr, Ord

def ContributionAudienceV1.debug : ContributionAudienceV1 → String
  | .internal => "Internal"
  | .user => "User"
  | .«public» => "Public"
  | .admin => "Admin"

def ContributionHttpMethodV1.asStr : ContributionHttpMethodV1 → String
  | .get => "GET"
  | .post => "POST"
  | .put => "PUT"
  | .patch => "PATCH"
  | .delete => "DELETE"
  | .head => "HEAD"

/-- `methods_overlap`: a `HEAD` request is answered by a `GET` route. -/
def methodsOverlap (left right : ContributionHttpMethodV1) : Bool :=
  left = right || (left = .get && right = .head) || (left = .head && right = .get)

def ContributionOperationRouteV1.conflictsWith (first second : ContributionOperationRouteV1) :
    Except DomainError Bool :=
  if first.audience = second.audience && methodsOverlap first.method second.method then
    routeTemplatesOverlap first.path second.path
  else .ok false

variable [VersionSyntax]

def validateApiSurface (surface : ContributionApiSurfaceV1) : Except DomainError Unit := do
  validateStableIdentifier "api_id" surface.apiId
  if let some error := VersionSyntax.versionError surface.apiVersion then
    invalid ("invalid API version: " ++ error)
  rejectIf (!(surface.protocol = "http" || surface.protocol = "https"))
    "API surface protocol must be http or https"
  validateRoutePath "API surface base_path" surface.basePath true

/-- The part of `validate_operation_route` about the scope of a permission. -/
def validatePermissionScope (route : ContributionOperationRouteV1) : Except DomainError Unit := do
  match route.permission, route.permissionScope with
  | none, some _ => invalid "route permission_scope requires a permission"
  | some _, some (.pathParameter scope) =>
    validatePermissionScopeType scope.scopeType
    rejectIf (scope.scopeType = "system") "resource permission scope type cannot be system"
    validateStableIdentifier "route permission scope path_parameter" scope.pathParameter
    let externalParameters ← routeTemplateParameterNames route.path
    let providerParameters ← routeTemplateParameterNames route.providerPath
    rejectIf (!externalParameters.contains scope.pathParameter.toList ||
        !providerParameters.contains scope.pathParameter.toList)
      ("route permission scope path_parameter " ++ scope.pathParameter ++
        " must exist in external and provider templates")
  | _, _ => pure ()

def validateOperationRoute (route : ContributionOperationRouteV1) : Except DomainError Unit := do
  validateRoutePath "route path" route.path false
  rejectIf (isReservedContributionPath route.path)
    ("route path " ++ route.path ++ " is reserved by the platform")
  validateStableIdentifier "route api_id" route.apiId
  validateStableIdentifier "route operation_id" route.operationId
  validateRoutePath "route provider_path" route.providerPath false
  if let some permission := route.permission then
    validatePermissionKey permission
    rejectIf (route.auth = .anonymous) "anonymous routes cannot require a permission"
  validatePermissionScope route

def validatePermissionDefinition (serviceId : String)
    (permission : ContributionPermissionDefinitionV1) : Except DomainError Unit := do
  validatePermissionKey permission.key
  let legacyNamespace :=
    (withoutEnding serviceId "-service").orElse fun _ => withoutEnding serviceId "-api"
  rejectIf (!beginsWith permission.key (serviceId ++ ".") &&
      !legacyNamespace.any fun name => beginsWith permission.key (name ++ "."))
    ("permission " ++ permission.key ++ " must be namespaced by service " ++ serviceId)
  Contribution.validateRequiredText "permission title" permission.title Contribution.maxTextLen
  Contribution.validateOptionalText "permission description" permission.description
    Contribution.maxTextLen

/-- The checks of one frontend module after its identity was found to be new. -/
def validateFrontendModule (frontend : ContributionFrontendModuleV1) :
    Except DomainError Unit := do
  validateRoutePath "frontend route" frontend.route false
  rejectIf (isReservedContributionPath frontend.route)
    ("frontend route " ++ frontend.route ++ " is reserved by the platform")
  Contribution.validateRequiredText "frontend menu_label" frontend.menuLabel
    Contribution.maxTextLen
  validateArtifactPath frontend.artifact
  if let some error := VersionSyntax.requirementError frontend.hostApiRange then
    invalid ("frontend host_api_range for " ++ frontend.moduleId ++ " is invalid: " ++ error)
  validateContentAddressedReference "frontend manifest_reference" frontend.manifestReference
    frontend.manifestDigest
  validateContentAddressedReference "frontend bundle_reference" frontend.bundleReference
    frontend.bundleDigest
  if let some permission := frontend.permission then
    validatePermissionKey permission

def validateFrontendModules (target : String) (modules : List ContributionFrontendModuleV1) :
    Except DomainError Unit := do
  validateDistinct (fun frontend => (frontend.moduleId, frontend.surfaceId))
    (fun frontend => do
      validateStableIdentifier "frontend module_id" frontend.moduleId
      validateStableIdentifier "frontend surface_id" frontend.surfaceId)
    validateFrontendModule
    (fun frontend => "duplicate " ++ target ++ " frontend surface " ++ frontend.surfaceId ++
      " for module " ++ frontend.moduleId)
    [] modules
  validatePairs (fun left right => do
    let overlap ← routeTemplatesOverlap left.route right.route
    rejectIf overlap
      (target ++ " frontend routes " ++ left.route ++ " and " ++ right.route ++ " overlap"))
    modules

def validateRoutesDoNotOverlap (routes : List ContributionOperationRouteV1) :
    Except DomainError Unit :=
  validatePairs (fun left right => do
    let conflict ← left.conflictsWith right
    rejectIf conflict
      ("routes " ++ left.method.asStr ++ " " ++ left.path ++ " and " ++ right.method.asStr ++
        " " ++ right.path ++ " overlap for " ++ left.audience.debug))
    routes

end UntitledOJ
