import Mathlib.Data.List.Pairwise
import UntitledOJ.ContributionRoutes
import UntitledOJ.GoText

/-!
# Contribution routes at the Gateway

The Gateway takes the first of its routes that matches a request by method, audience and
path.  The orchestrator publishes routes that it finds free of collisions, but a public
route also answers requests of users.
-/

namespace UntitledOJ

open Contribution List ContributionHttpMethodV1
open ContributionOperationRouteV1 (Avoids conflictsWith)

namespace Gateway

structure ServiceRoute where
  (audience pathTemplate routePrefix : String)
  methods : List String

structure CompiledRoute where
  source : ServiceRoute
  serviceReady : Bool

/-- A request; `net/http` admits none without a method. -/
structure Request [LetterCase] where
  (method path audience : String)
  given : toUpper (trimSpace method) ≠ ""

def cleanPrefix (path : String) : String :=
  let path := trimSpace path
  if path = "" then "" else
  let path := if beginsWith path "/" then path else "/" ++ path
  if path.utf8ByteSize > 1 then .ofList (path.toList.rdropWhile (· = '/')) else path

def matchPrefix (path start : String) : Bool :=
  path = start || beginsWith path (start ++ "/")

def templateParameter (segment : List Char) : Option String :=
  if segment.length ≥ 3 && segment.head? = some '{' && segment.getLast? = some '}' then
    some (trimSpace (.ofList (segment.drop 1).dropLast))
  else none

def isDots (segment : List Char) : Bool :=
  segment = ['.'] || segment = ['.', '.']

/-- The segments are checked with the parameters seen before them. -/
def checkSegments : List String → List (List Char) → Bool
  | _, [] => true
  | seen, segment :: rest =>
    !segment.isEmpty && !isDots segment &&
      match templateParameter segment with
      | some name => name ≠ "" && !seen.contains name && checkSegments (name :: seen) rest
      | none => !segment.any (fun c => c = '{' || c = '}') && checkSegments seen rest

def splitTemplatePath (path : String) : Option (List (List Char)) :=
  let path := cleanPrefix path
  if path = "" then none else
  if path = "/" then some [] else
  let segments := (path.toList.drop 1).splitOn '/'
  if checkSegments [] segments then some segments else none

def splitEscapedRequestPath (path : String) : Option (List (List Char)) :=
  if path = "/" then some [] else
  if !beginsWith path "/" || path.toList.getLast? = some '/' then none else
  let segments := (path.toList.drop 1).splitOn '/'
  if segments.any List.isEmpty then none else some segments

variable (pathUnescape : List Char → Option (List Char))

/-- The parameters of a path that is an instance of the template. -/
def matchSegments : List (List Char) → List (List Char) → Option (List (String × List Char))
  | [], [] => some []
  | segment :: template, part :: path =>
    match templateParameter segment with
    | some name =>
      if part.isEmpty || isDots part then none
      else (matchSegments template path).map ((name, part) :: ·)
    | none => if pathUnescape part = some segment then matchSegments template path else none
  | _, _ => none

def matchPathTemplate (template path : String) : Option (List (String × List Char)) := do
  let segments ← splitTemplatePath template
  let parts ← splitEscapedRequestPath path
  matchSegments pathUnescape segments parts

section

variable [LetterCase]

def methodAllowed (method : String) (allowed : List String) : Bool :=
  let method := toUpper (trimSpace method)
  allowed.isEmpty || method = "" || allowed.any fun item =>
    let item := toUpper (trimSpace item)
    item = method || item = "ANY" || item = "*" || (method = "HEAD" && item = "GET")

def requestAudience (request : Request) : String :=
  let audience := toLower (trimSpace request.audience)
  if audience ≠ "" then audience
  else if matchPrefix request.path "/api/admin" then "admin" else "user"

def audienceMatches (routeAudience requestAudience : String) : Bool :=
  let routeAudience := toLower (trimSpace routeAudience)
  let requestAudience := toLower (trimSpace requestAudience)
  if routeAudience = "public" then requestAudience = "public" || requestAudience = "user"
  else routeAudience = requestAudience

variable (pathUnescape : List Char → Option (List Char))

def CompiledRoute.answers (route : CompiledRoute) (request : Request) : Bool :=
  route.serviceReady && methodAllowed request.method route.source.methods &&
    if route.source.pathTemplate ≠ "" then
      audienceMatches route.source.audience (requestAudience request) &&
        (matchPathTemplate pathUnescape route.source.pathTemplate request.path).isSome
    else matchPrefix request.path route.source.routePrefix

def matchServiceRouteRequest (table : List CompiledRoute) (request : Request) :
    Option CompiledRoute :=
  table.find? (·.answers pathUnescape request)

end

def defaultReservedPrefixes : List String :=
  ["/health", "/healthz", "/readyz", "/metrics", "/__ojos/extensions", "/internal/apis",
    "/api/auth", "/api/admin", "/api/admin/services", "/api/admin/health", "/api/health",
    "/api/internal", "/api/judge/worker", "/api/v1/contributions", "/api/v1/topologies"]

/-- Longer paths come first. -/
def normalizeReservedPrefixes (items : List String) : List String :=
  let items := if items.isEmpty then defaultReservedPrefixes else items
  ((items.map cleanPrefix).filter (· ≠ "")).eraseDups.mergeSort fun first second =>
    if first.utf8ByteSize = second.utf8ByteSize then first ≤ second
    else second.utf8ByteSize < first.utf8ByteSize

def reservedPrefixMatches (path : String) (reserved : List String) : Bool :=
  reserved.any fun item =>
    path = item || beginsWith path (item ++ "/") || beginsWith item (path ++ "/")

def validContributionAudience (audience : String) : Bool :=
  audience = "public" || audience = "user" || audience = "admin" || audience = "internal"

/-- A route of the snapshot, and whether it is enabled and not blocked for what its other fields
say. -/
structure ContributionGatewayRoute where
  (audience method path : String)
  unblocked : Bool

/-- The route in the table of `ContributionRouteTable`, as far as requests are matched with it; a
template with a segment that is not valid matches nothing. -/
def compile [LetterCase] (route : ContributionGatewayRoute) : CompiledRoute :=
  let method := toUpper (trimSpace route.method)
  let path := cleanPrefix route.path
  let audience := toLower (trimSpace route.audience)
  { source := ⟨audience, path, path, [method]⟩
    serviceReady := route.unblocked && method ≠ "" && path ≠ "" &&
      validContributionAudience audience &&
      !reservedPrefixMatches path (normalizeReservedPrefixes []) }

def audienceText : ContributionAudienceV1 → String
  | .internal => "internal"
  | .user => "user"
  | .«public» => "public"
  | .admin => "admin"

/-- The route as the orchestrator publishes it and the Gateway compiles it. -/
def published [LetterCase] (unblocked : ContributionOperationRouteV1 → Bool)
    (route : ContributionOperationRouteV1) : CompiledRoute :=
  compile ⟨audienceText route.audience, route.method.asStr, route.path, unblocked route⟩

section

variable {Item : Type} {holds : Item → Bool} {items other : List Item}

/-- No two of the items hold. -/
def HoldsOnce (holds : Item → Bool) (items : List Item) : Prop :=
  items.Pairwise fun first second => ¬ (holds first = true ∧ holds second = true)

theorem find?_eq_of_perm (once : HoldsOnce holds items) (same : other.Perm items) :
    other.find? holds = items.find? holds := by
  have filtered := same.filter holds
  have alone : (items.filter holds).Pairwise fun _ _ => False :=
    (once.filter holds).imp_of_mem fun first second both =>
      both ⟨of_mem_filter first, of_mem_filter second⟩
  rw [← head?_filter, ← head?_filter]
  match found : items.filter holds with
  | [] => rw [found] at filtered; rw [filtered.eq_nil]
  | [item] => rw [found] at filtered; rw [filtered.eq_singleton]
  | _ :: _ :: _ =>
    rw [found] at alone
    exact (rel_of_pairwise_cons alone mem_cons_self).elim

end

section

variable {separator : Char}

theorem flatten_splitOn (text : List Char) :
    (text.splitOn separator).flatten = text.filter (· ≠ separator) := by
  induction text with
  | nil => rfl
  | cons c text ih =>
    have nonempty := splitOn_ne_nil separator text
    rw [splitOn_cons_eq_if_modifyHead]
    by_cases same : c = separator
    · simp [same, ih]
    · cases split : text.splitOn separator with
      | nil => exact absurd split nonempty
      | cons segment segments => simp_all

theorem intercalate_append {first second : List (List Char)} (filled : first ≠ [])
    (more : second ≠ []) : [separator].intercalate (first ++ second) =
      [separator].intercalate first ++ separator :: [separator].intercalate second := by
  induction first with
  | nil => exact absurd rfl filled
  | cons segment first ih =>
    cases first with
    | nil => simp [intercalate_cons_of_ne_nil more]
    | cons next first =>
      have later := ih (by simp)
      simp only [cons_append, intercalate_cons_cons] at later ⊢
      rw [later]
      simp

theorem getLast?_of_splitOn {text : List Char} {before : List (List Char)} {segment : List Char}
    (split : text.splitOn separator = before ++ [segment]) (filled : segment ≠ []) :
    text.getLast? = segment.getLast? := by
  obtain rfl : [separator].intercalate (before ++ [segment]) = text := by
    rw [← split, intercalate_splitOn]
  by_cases first : before = []
  · simp [first]
  · rw [intercalate_append first (by simp), getLast?_append_of_ne_nil _ (by simp),
      intercalate_singleton, getLast?_cons_of_ne_nil filled]

end

variable {name path : String} {allowRoot : Bool}

theorem isTrimmed_of_isAlphanum {c : Char} (plain : c.isAlphanum = true) : isTrimmed c = false := by
  change ((decide (65 ≤ c.val ∧ c.val ≤ 90) || (97 ≤ c.val && c.val ≤ 122)) ||
    (48 ≤ c.val && c.val ≤ 57)) = true at plain
  have printable : 0x30 ≤ c.toNat ∧ c.toNat ≤ 0x7a := by
    simp only [Bool.or_eq_true, Bool.and_eq_true, decide_eq_true_eq, UInt32.le_iff_toNat_le]
      at plain
    simp at plain
    omega
  simp only [isTrimmed, Bool.or_eq_false_iff, Bool.and_eq_false_iff, decide_eq_false_iff_not]
  omega

theorem isTrimmed_of_segment {segment : List Char}
    (valid : isLiteralSegment segment = true ∨ isParameterSegment segment = true) :
    ∃ c ∈ segment.getLast?, isTrimmed c = false := by
  simp only [isLiteralSegment, isParameterSegment, Bool.and_eq_true, Bool.not_eq_true',
    isEmpty_eq_false_iff, all_eq_true, Bool.or_eq_true, decide_eq_true_eq] at valid
  rcases valid with ⟨filled, plain⟩ | ⟨⟨_, closed⟩, _⟩
  · refine ⟨_, getLast?_eq_some_getLast filled, ?_⟩
    rcases plain _ (getLast_mem filled) with (((plain | same) | same) | same) | same
    · exact isTrimmed_of_isAlphanum plain
    all_goals rw [same]; decide
  · exact ⟨_, closed, by decide⟩

theorem isTrimmed_of_validateRoutePath (valid : validateRoutePath name path allowRoot = .ok ()) :
    ∀ c ∈ path.toList.getLast?, isTrimmed c = false := by
  obtain ⟨_, valid⟩ := ok_of_rejectIf_bind valid
  obtain ⟨_, valid⟩ := ok_of_rejectIf_bind valid
  obtain ⟨_, valid⟩ := ok_of_rejectIf_bind valid
  intro c last
  have split := dropLast_append_getLast (splitOn_ne_nil '/' (path.toList.dropWhile (· = '/')))
  have checked := ContributionTables.ok_of_forM valid _ (getLast_mem (splitOn_ne_nil '/' _))
  split_ifs at checked with root
  · simp only [Bool.and_eq_true, decide_eq_true_eq] at root
    obtain rfl : '/' = c := by simpa [root.2] using last
    decide
  · have shaped := (ok_of_rejectIf_bind checked).1
    obtain ⟨own, ends, plain⟩ := isTrimmed_of_segment
      (by simpa [Bool.or_eq_true, imp_iff_not_or, or_comm] using shaped)
    have filled := ne_nil_of_mem (mem_of_mem_getLast? ends)
    rw [← getLast?_of_splitOn split.symm filled] at ends
    rw [← takeWhile_append_dropWhile (p := (· = '/')) (l := path.toList),
      getLast?_append_of_ne_nil _ (ne_nil_of_mem (mem_of_mem_getLast? ends))] at last
    cases ends.symm.trans last
    exact plain

theorem cleanPrefix_of_valid (valid : validateRoutePath name path allowRoot = .ok ()) :
    cleanPrefix path = path := by
  have last := isTrimmed_of_validateRoutePath valid
  obtain ⟨absolute, valid⟩ := ok_of_rejectIf_bind valid
  obtain ⟨_, valid⟩ := ok_of_rejectIf_bind valid
  obtain ⟨canonical, _⟩ := ok_of_rejectIf_bind valid
  simp only [Bool.or_eq_false_iff, Bool.not_eq_false', Bool.and_eq_false_iff] at absolute canonical
  have filled : path ≠ "" := by
    rintro rfl
    simp [beginsWith] at absolute
  have first : ∀ c ∈ path.toList.head?, isTrimmed c = false := by
    obtain ⟨rest, starts⟩ := isPrefixOf_iff_prefix.mp absolute.2
    simp [← starts, isTrimmed]
  rw [cleanPrefix, trimSpace_of_ends first last]
  simp only [filled, absolute, if_true, if_false]
  split_ifs with long
  · have kept : path.toList.rdropWhile (· = '/') = path.toList := by
      refine rdropWhile_eq_self_iff.mpr fun nonempty => ?_
      simpa [long, getLast?_eq_some_getLast nonempty] using canonical.1.1
    rw [kept, String.ofList_toList]
  · rfl

variable {item : String}

/-- A segment that can stand in the path of a request for a parameter. -/
def Usable (part : List Char) : Prop :=
  part ≠ [] ∧ isDots part = false ∧ '/' ∉ part
deriving Decidable

def segmentsOf (path : String) : List (List Char) :=
  (path.toList.drop 1).splitOn '/'

/-- The reserved paths are plain paths below the root. -/
theorem shape_of_reserved : ∀ item ∈ defaultReservedPrefixes,
    item.toList = '/' :: item.toList.drop 1 ∧ item.toList.drop 1 ≠ [] ∧ cleanPrefix item = item ∧
      ∀ part ∈ segmentsOf item, Usable part ∧ '%' ∉ part := by
  decide +kernel

theorem mem_normalizeReservedPrefixes :
    item ∈ normalizeReservedPrefixes [] ↔ item ∈ defaultReservedPrefixes := by
  simp only [normalizeReservedPrefixes, isEmpty_nil, if_true, mem_mergeSort,
    mem_eraseDups, mem_filter, mem_map, decide_eq_true_eq]
  constructor
  · rintro ⟨⟨reserved, listed, rfl⟩, _⟩
    rwa [(shape_of_reserved _ listed).2.2.1]
  · intro listed
    refine ⟨⟨item, listed, (shape_of_reserved _ listed).2.2.1⟩, ?_⟩
    rintro rfl
    cases (shape_of_reserved _ listed).1

/-- What is used of `url.PathUnescape`: it changes only what is escaped, and every segment has an
escaped form. -/
structure Unescapes (pathUnescape : List Char → Option (List Char)) : Prop where
  plain : ∀ part, '%' ∉ part → pathUnescape part = some part
  onto : ∀ segment, Usable segment → ∃ part, Usable part ∧ pathUnescape part = some segment

theorem unescapes_some : Unescapes some :=
  ⟨fun _ _ => rfl, fun segment usable => ⟨segment, usable, rfl⟩⟩

/-- The part of a path can stand for the segment of a template. -/
def Fits (segment part : List Char) : Prop :=
  if (templateParameter segment).isSome then part ≠ [] ∧ isDots part = false
  else pathUnescape part = some segment

/-- Some part of a path stands for both segments. -/
def Meets (first second : List Char) : Prop :=
  (templateParameter first).isSome ∨ (templateParameter second).isSome ∨ first = second

variable {pathUnescape : List Char → Option (List Char)} {template parts : List (List Char)}

theorem matchSegments_isSome : (matchSegments pathUnescape template parts).isSome = true ↔
    Forall₂ (Fits pathUnescape) template parts := by
  induction template generalizing parts with
  | nil => cases parts <;> simp [matchSegments]
  | cons segment template ih =>
    cases parts with
    | nil => simp [matchSegments]
    | cons part parts =>
      simp only [matchSegments, forall₂_cons, ← ih, Fits]
      cases templateParameter segment with
      | none => by_cases same : pathUnescape part = some segment <;> simp [same]
      | some name => cases part <;> cases isDots _ <;> simp

theorem matchPathTemplate_isSome {template : String} :
    (matchPathTemplate pathUnescape template path).isSome = true ↔
      ∃ segments ∈ splitTemplatePath template, ∃ parts ∈ splitEscapedRequestPath path,
        Forall₂ (Fits pathUnescape) segments parts := by
  simp only [← matchSegments_isSome, matchPathTemplate, Option.isSome_iff_exists,
    Option.bind_eq_bind, Option.bind_eq_some_iff, Option.mem_def]
  grind

theorem meets_of_fits {first second : List (List Char)}
    (firstFits : Forall₂ (Fits pathUnescape) first parts)
    (secondFits : Forall₂ (Fits pathUnescape) second parts) : Forall₂ Meets first second := by
  induction firstFits generalizing second with
  | nil =>
    cases secondFits
    exact .nil
  | @cons segment part _ _ fits _ ih =>
    cases secondFits with
    | @cons other _ _ _ otherFits later =>
      refine .cons ?_ (ih later)
      unfold Meets Fits at *
      grind

/-- The path with these segments. -/
def joinPath (parts : List (List Char)) : String :=
  .ofList ('/' :: ['/'].intercalate parts)

theorem splitEscapedRequestPath_joinPath (usable : ∀ part ∈ parts, Usable part) :
    splitEscapedRequestPath (joinPath parts) = some parts := by
  by_cases root : parts = []
  · subst root
    rfl
  · have split : (['/'].intercalate parts).splitOn '/' = parts :=
      splitOn_intercalate '/' (fun part member => (usable part member).2.2) root
    have filled : parts.any List.isEmpty = false := by
      simpa using fun part member => (usable part member).1
    have longer : ['/'].intercalate parts ≠ [] := by
      intro empty
      rw [empty] at split
      rw [← split] at filled
      simp at filled
    have last : (['/'].intercalate parts).getLast? ≠ some '/' := by
      intro last
      obtain ⟨start, ends⟩ := getLast?_eq_some_iff.mp last
      rw [ends, splitOn_append_cons_self] at split
      rw [← split] at filled
      simp at filled
    simp [splitEscapedRequestPath, joinPath, ← String.toList_inj, beginsWith, split, filled, longer,
      getLast?_cons_of_ne_nil longer, last]

theorem usable_of_split {template : String} {segments : List (List Char)}
    (split : splitTemplatePath template = some segments) :
    ∀ segment ∈ segments, Usable segment := by
  have checked (seen : List String) (segments : List (List Char))
      (checks : checkSegments seen segments = true) :
      ∀ segment ∈ segments, segment ≠ [] ∧ isDots segment = false := by
    induction segments generalizing seen with
    | nil => simp
    | cons segment rest ih =>
      simp only [checkSegments, Bool.and_eq_true] at checks
      obtain ⟨⟨filled, dotless⟩, rest⟩ := checks
      refine forall_mem_cons.mpr ⟨by simpa using And.intro filled dotless, ?_⟩
      split at rest <;> simp only [Bool.and_eq_true] at rest <;> exact ih _ rest.2
  simp only [splitTemplatePath] at split
  split_ifs at split with _ _ checks <;> obtain rfl := Option.some.inj split
  · simp
  · intro segment member
    obtain ⟨filled, dotless⟩ := checked _ _ checks segment member
    refine ⟨filled, dotless, fun slash => ?_⟩
    have joined := mem_flatten.mpr ⟨segment, member, slash⟩
    rw [flatten_splitOn] at joined
    simp at joined

/-- Templates that meet segment by segment have a common instance. -/
theorem exists_fits (laws : Unescapes pathUnescape) {first second : List (List Char)}
    (meets : Forall₂ Meets first second) (firstUsable : ∀ segment ∈ first, Usable segment)
    (secondUsable : ∀ segment ∈ second, Usable segment) :
    ∃ parts, (∀ part ∈ parts, Usable part) ∧ Forall₂ (Fits pathUnescape) first parts ∧
      Forall₂ (Fits pathUnescape) second parts := by
  have both (segment other : List Char) (usable : Usable segment) (otherUsable : Usable other)
      (meets : Meets segment other) : ∃ part, Usable part ∧ Fits pathUnescape segment part ∧
        Fits pathUnescape other part := by
    obtain ⟨part, fine, unescaped⟩ := laws.onto segment usable
    obtain ⟨otherPart, otherFine, otherUnescaped⟩ := laws.onto other otherUsable
    unfold Meets at meets
    unfold Fits Usable at *
    by_cases opened : (templateParameter segment).isSome = true
    · exact ⟨otherPart, otherFine, by grind⟩
    · exact ⟨part, fine, by grind⟩
  induction meets with
  | nil => exact ⟨[], by simp, .nil, .nil⟩
  | cons here _ ih =>
    obtain ⟨firstHere, firstLater⟩ := forall_mem_cons.mp firstUsable
    obtain ⟨secondHere, secondLater⟩ := forall_mem_cons.mp secondUsable
    obtain ⟨part, usable, fits, otherFits⟩ := both _ _ firstHere secondHere here
    obtain ⟨parts, later, fitsLater, otherLater⟩ := ih firstLater secondLater
    exact ⟨part :: parts, forall_mem_cons.mpr ⟨usable, later⟩, .cons fits fitsLater,
      .cons otherFits otherLater⟩

def routeSegment (segment : List Char) : RouteSegment :=
  if segment.head? = some '{' && segment.getLast? = some '}' then .parameter else .literal segment

theorem overlaps_of_meets {first second : List (List Char)} (meets : Forall₂ Meets first second) :
    first.length = second.length ∧ ((first.map routeSegment).zip (second.map routeSegment)).all
      (fun pair => pair.1.overlaps pair.2) = true := by
  have parameter (segment : List Char) (found : (templateParameter segment).isSome = true) :
      routeSegment segment = .parameter := by
    unfold templateParameter at found
    split_ifs at found with braces
    · simp only [Bool.and_eq_true] at braces
      rw [routeSegment, if_pos (by simp [braces])]
    · cases found
  induction meets with
  | nil => simp
  | @cons segment other _ _ here _ ih =>
    have overlaps : (routeSegment segment).overlaps (routeSegment other) = true := by
      rcases here with opened | opened | rfl
      · rw [parameter segment opened]
        rfl
      · rw [parameter other opened]
        cases routeSegment segment <;> rfl
      · cases routeSegment segment <;> simp [RouteSegment.overlaps]
    simp [overlaps, ih]

theorem parsed_of_split {template : String} {segments : List RouteSegment}
    {own : List (List Char)} (parsed : parseRouteTemplate template = .ok segments)
    (split : splitTemplatePath (cleanPrefix template) = some own) :
    segments = own.map routeSegment := by
  obtain ⟨⟨⟩, valid, parsed⟩ := ok_of_bind parsed
  simp only [splitTemplatePath, cleanPrefix_of_valid valid] at split
  split_ifs at split with root <;> split_ifs at parsed
  all_goals cases parsed; cases split; rfl

section

variable {first second : ContributionHttpMethodV1}

theorem asStr_injective (same : first.asStr = second.asStr) : first = second := by
  cases first <;> cases second <;> simp [asStr] at same ⊢

theorem audienceText_injective {first second : ContributionAudienceV1}
    (same : audienceText first = audienceText second) : first = second := by
  cases first <;> cases second <;> simp [audienceText] at same ⊢

variable [LetterCase] {audience method : String}

theorem toUpper_asStr (own : ContributionHttpMethodV1) :
    toUpper (trimSpace own.asStr) = own.asStr :=
  toUpper_trimSpace (by cases own <;> simp [asStr, isTrimmed])

theorem toLower_audienceText (own : ContributionAudienceV1) :
    toLower (trimSpace (audienceText own)) = audienceText own :=
  toLower_trimSpace (by cases own <;> simp [audienceText, isTrimmed])

theorem methodAllowed_iff {own : ContributionHttpMethodV1}
    (given : toUpper (trimSpace method) ≠ "") :
    methodAllowed method [own.asStr] = true ↔ toUpper (trimSpace method) = own.asStr ∨
      toUpper (trimSpace method) = ContributionHttpMethodV1.head.asStr ∧ own = .get := by
  have listed : own.asStr ≠ "ANY" ∧ own.asStr ≠ "*" := by
    cases own <;> simp [asStr]
  have isGet : own.asStr = "GET" ↔ own = .get := ⟨fun same => asStr_injective same, (· ▸ rfl)⟩
  simp only [methodAllowed, any_cons, any_nil, toUpper_asStr, given, listed, isEmpty_cons,
    decide_false, Bool.false_or, Bool.or_false, Bool.or_eq_true, Bool.and_eq_true,
    decide_eq_true_eq, isGet]
  exact or_congr_left eq_comm

theorem methodsOverlap_of_allowed (given : toUpper (trimSpace method) ≠ "")
    (firstAllowed : methodAllowed method [first.asStr] = true)
    (secondAllowed : methodAllowed method [second.asStr] = true) :
    methodsOverlap first second = true := by
  rw [methodAllowed_iff given] at firstAllowed secondAllowed
  unfold methodsOverlap
  grind [asStr_injective]

theorem audienceMatches_iff {own : ContributionAudienceV1} :
    audienceMatches (audienceText own) audience = true ↔
      toLower (trimSpace audience) = audienceText own ∨
        toLower (trimSpace audience) = audienceText .user ∧ own = .«public» := by
  simp only [audienceMatches, toLower_audienceText]
  by_cases isPublic : own = .«public»
  · simp [isPublic, audienceText]
  · have other : audienceText own ≠ "public" := fun same => isPublic (audienceText_injective same)
    rw [if_neg other, decide_eq_true_eq]
    simp only [isPublic, and_false, or_false]
    exact eq_comm

theorem audiences_of_matches {first second : ContributionAudienceV1}
    (firstMatches : audienceMatches (audienceText first) audience = true)
    (secondMatches : audienceMatches (audienceText second) audience = true) :
    first = second ∨ first = .«public» ∧ second = .user ∨ first = .user ∧ second = .«public» := by
  rw [audienceMatches_iff] at firstMatches secondMatches
  grind [audienceText_injective]

variable {request : Request}

theorem serviceReady_iff {route : ContributionGatewayRoute} :
    (compile route).serviceReady = true ↔ (((route.unblocked = true ∧
      toUpper (trimSpace route.method) ≠ "") ∧ cleanPrefix route.path ≠ "") ∧
      validContributionAudience (toLower (trimSpace route.audience)) = true) ∧
      ∀ item ∈ defaultReservedPrefixes, (cleanPrefix route.path = item ||
        beginsWith (cleanPrefix route.path) (item ++ "/") ||
          beginsWith item (cleanPrefix route.path ++ "/")) = false := by
  simp only [compile, reservedPrefixMatches, Bool.and_eq_true, decide_eq_true_eq, Bool.not_eq_true',
    any_eq_false, mem_normalizeReservedPrefixes, Bool.not_eq_true]

theorem answers_iff {route : ContributionGatewayRoute} :
    (compile route).answers pathUnescape request = true ↔ (compile route).serviceReady = true ∧
      methodAllowed request.method [toUpper (trimSpace route.method)] = true ∧
      audienceMatches (toLower (trimSpace route.audience)) (requestAudience request) = true ∧
      ∃ segments ∈ splitTemplatePath (cleanPrefix route.path),
        ∃ parts ∈ splitEscapedRequestPath request.path,
          Forall₂ (Fits pathUnescape) segments parts := by
  rw [← matchPathTemplate_isSome, CompiledRoute.answers, Bool.and_eq_true, Bool.and_eq_true,
    and_assoc]
  refine and_congr_right fun ready => and_congr_right fun _ => ?_
  have named := (serviceReady_iff.mp ready).1.1.2
  simp only [compile, ne_eq, named, not_false_eq_true, if_true, Bool.and_eq_true]

variable {unblocked : ContributionOperationRouteV1 → Bool}
  {routes : List ContributionOperationRouteV1} {first second : ContributionOperationRouteV1}

/-- The routes are ready, share a method, and have templates that meet segment by segment. -/
def Overlap (unblocked : ContributionOperationRouteV1 → Bool)
    (first second : ContributionOperationRouteV1) : Prop :=
  ((published unblocked first).serviceReady = true ∧
      (published unblocked second).serviceReady = true) ∧
    methodsOverlap first.method second.method = true ∧
    ∃ own ∈ splitTemplatePath (cleanPrefix first.path),
      ∃ other ∈ splitTemplatePath (cleanPrefix second.path), Forall₂ Meets own other

/-- No public route overlaps with a route of users. -/
def Apart (unblocked : ContributionOperationRouteV1 → Bool)
    (routes : List ContributionOperationRouteV1) : Prop :=
  ∀ first ∈ routes, ∀ second ∈ routes, first.audience = .«public» → second.audience = .user →
    ¬ Overlap unblocked first second

theorem published_answers_iff :
    (published unblocked first).answers pathUnescape request = true ↔
      (published unblocked first).serviceReady = true ∧
      methodAllowed request.method [first.method.asStr] = true ∧
      audienceMatches (audienceText first.audience) (requestAudience request) = true ∧
      ∃ segments ∈ splitTemplatePath (cleanPrefix first.path),
        ∃ parts ∈ splitEscapedRequestPath request.path,
          Forall₂ (Fits pathUnescape) segments parts := by
  rw [published, answers_iff, toUpper_asStr, toLower_audienceText]

section

variable (firstAnswers : (published unblocked first).answers pathUnescape request = true)
  (secondAnswers : (published unblocked second).answers pathUnescape request = true)
include firstAnswers secondAnswers

theorem overlap_of_answers : Overlap unblocked first second := by
  obtain ⟨ready, allowed, _, own, split, parts, requested, fits⟩ :=
    published_answers_iff.mp firstAnswers
  obtain ⟨otherReady, otherAllowed, _, other, otherSplit, again, same, otherFits⟩ :=
    published_answers_iff.mp secondAnswers
  cases requested.symm.trans same
  exact ⟨⟨ready, otherReady⟩, methodsOverlap_of_allowed request.given allowed otherAllowed, own,
    split, other, otherSplit, meets_of_fits fits otherFits⟩

theorem audience_ne_of_avoids (avoids : first.Avoids second) :
    first.audience ≠ second.audience := by
  intro same
  obtain ⟨_, methods, own, split, other, otherSplit, meets⟩ :=
    overlap_of_answers firstAnswers secondAnswers
  unfold Avoids conflictsWith at avoids
  rw [if_pos (by simp [same, methods])] at avoids
  obtain ⟨_, parsed, avoids⟩ := ok_of_bind avoids
  obtain ⟨_, otherParsed, avoids⟩ := ok_of_bind avoids
  obtain ⟨lengths, overlaps⟩ := overlaps_of_meets meets
  have refuted := Except.ok.inj avoids
  rw [parsed_of_split parsed split, parsed_of_split otherParsed otherSplit] at refuted
  simp [lengths, overlaps] at refuted

end

theorem Apart.once (apart : Apart unblocked routes) (avoid : routes.Pairwise Avoids)
    (request : Request) :
    HoldsOnce (·.answers pathUnescape request) (routes.map (published unblocked)) := by
  refine pairwise_map.mpr (avoid.imp_of_mem ?_)
  rintro first second firstIn secondIn avoids ⟨firstAnswers, secondAnswers⟩
  have differ := audience_ne_of_avoids firstAnswers secondAnswers avoids
  obtain ⟨_, _, asked, _⟩ := published_answers_iff.mp firstAnswers
  obtain ⟨_, _, otherAsked, _⟩ := published_answers_iff.mp secondAnswers
  rcases audiences_of_matches asked otherAsked with same | ⟨isPublic, isUser⟩ | ⟨isUser, isPublic⟩
  · exact differ same
  · exact apart _ firstIn _ secondIn isPublic isUser (overlap_of_answers firstAnswers secondAnswers)
  · exact apart _ secondIn _ firstIn isPublic isUser (overlap_of_answers secondAnswers firstAnswers)

/-- A request of users with a method that both routes take and a path that both templates have. -/
theorem apart_of_once (laws : Unescapes pathUnescape)
    (once : ∀ request : Request,
      HoldsOnce (·.answers pathUnescape request) (routes.map (published unblocked))) :
    Apart unblocked routes := by
  rintro first firstIn second secondIn isPublic isUser
    ⟨⟨ready, otherReady⟩, methods, own, split, other, otherSplit, meets⟩
  obtain ⟨parts, usable, fits, otherFits⟩ :=
    exists_fits laws meets (usable_of_split split) (usable_of_split otherSplit)
  have requested := splitEscapedRequestPath_joinPath usable
  simp only [methodsOverlap, Bool.or_eq_true, Bool.and_eq_true, decide_eq_true_eq] at methods
  let asked : ContributionHttpMethodV1 := if second.method = .head then .head else first.method
  let request : Request := ⟨asked.asStr, joinPath parts, "user", by
    rw [toUpper_asStr]
    cases asked <;> simp [asStr]⟩
  have allowed (own : ContributionHttpMethodV1) (taken : asked = own ∨ asked = .head ∧ own = .get) :
      methodAllowed request.method [own.asStr] = true := by
    rw [methodAllowed_iff request.given, toUpper_asStr]
    exact taken.imp (congrArg asStr) (And.imp_left (congrArg asStr))
  have audience : requestAudience request = audienceText .user := by
    have user := toLower_audienceText .user
    simp only [requestAudience, request, audienceText] at user ⊢
    simp [user]
  have matched (own : ContributionAudienceV1) (taken : own = .«public» ∨ own = .user) :
      audienceMatches (audienceText own) (requestAudience request) = true := by
    rw [audience, audienceMatches_iff, toLower_audienceText]
    exact taken.symm.imp (congrArg audienceText ·.symm) (⟨rfl, ·⟩)
  have differ : published unblocked first ≠ published unblocked second := by
    intro same
    have texts := congrArg (·.source.audience) same
    simp only [compile, published, toLower_audienceText, isPublic, isUser] at texts
    simp [audienceText] at texts
  have symmetric : Std.Symm fun first second : CompiledRoute =>
      ¬ (first.answers pathUnescape request = true ∧ second.answers pathUnescape request = true) :=
    ⟨fun _ _ apart both => apart both.symm⟩
  refine (once request).forall (mem_map_of_mem firstIn) (mem_map_of_mem secondIn) differ ⟨?_, ?_⟩
  · exact published_answers_iff.mpr ⟨ready, allowed _ (by grind), matched _ (.inl isPublic), own,
      split, parts, requested, fits⟩
  · exact published_answers_iff.mpr ⟨otherReady, allowed _ (by grind), matched _ (.inr isUser),
      other, otherSplit, parts, requested, otherFits⟩

/-- No two routes answer the same request exactly when no public route overlaps with a route of
users; then the order of the table does not matter. -/
theorem contribution_routing_unambiguous (avoid : routes.Pairwise Avoids)
    (laws : Unescapes pathUnescape) :
    let table := routes.map (published unblocked)
    (Apart unblocked routes ↔
      ∀ request : Request, HoldsOnce (·.answers pathUnescape request) table) ∧
    (Apart unblocked routes → ∀ (request : Request) other, other.Perm table →
      matchServiceRouteRequest pathUnescape other request =
        matchServiceRouteRequest pathUnescape table request) :=
  ⟨⟨fun apart => apart.once avoid, apart_of_once laws⟩,
    fun apart request _ same => find?_eq_of_perm (apart.once avoid request) same⟩

end

local instance sampleCase : LetterCase := plainCase

def sampleRoute (audience : ContributionAudienceV1) (method : ContributionHttpMethodV1) :
    ContributionOperationRouteV1 :=
  ⟨audience, method, "/p", "a", "o", "/p", .required, none, none⟩

def sampleRequest : Request where
  method := "GET"
  path := "/p"
  audience := ""
  given := by simp [show toUpper (trimSpace "GET") = "GET" from toUpper_asStr .get]

/-- A request without an audience is answered by the public route and by that of users. -/
theorem public_and_user_both_answer :
    let routes := [sampleRoute .«public» .get, sampleRoute .user .get]
    routes.Pairwise Avoids ∧ ∀ route ∈ routes,
      (published (fun _ => true) route).answers some sampleRequest = true := by
  refine ⟨by simp [Avoids, conflictsWith, sampleRoute], fun route listed => ?_⟩
  simp only [mem_cons, not_mem_nil, or_false] at listed
  rcases listed with rfl | rfl <;>
    exact published_answers_iff.mpr ⟨serviceReady_iff.mpr (by decide +kernel), by decide +kernel,
      by decide +kernel, matchPathTemplate_isSome.mp (by decide +kernel)⟩

theorem methods_keep_routes_apart :
    HoldsOnce (·.answers some sampleRequest) ([sampleRoute .«public» .get,
      sampleRoute .user .post].map (published fun _ => true)) := by
  refine (contribution_routing_unambiguous (by simp [Avoids, conflictsWith, sampleRoute])
    unescapes_some).1.mp ?_ sampleRequest
  rintro first firstIn second secondIn isPublic isUser ⟨_, methods, _⟩
  simp only [mem_cons, not_mem_nil, or_false] at firstIn secondIn
  rcases firstIn with rfl | rfl <;> rcases secondIn with rfl | rfl <;>
    simp [sampleRoute, methodsOverlap] at isPublic isUser methods

end Gateway
end UntitledOJ
