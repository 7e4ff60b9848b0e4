import UntitledOJ.GatewayRoutes

/-!
# Paths that the platform reserves

The Gateway blocks a contributed route whose template is a path of the platform or lies
above or below one.  Templates are compared as texts, so a parameter may still take the
place of a reserved segment.
-/

namespace UntitledOJ

open Contribution List

namespace Gateway

/-- The template can take the place of these segments, and of others below them. -/
def covers : List (List Char) → List (List Char) → Bool
  | _, [] => true
  | [], _ :: _ => false
  | segment :: template, part :: path =>
    ((templateParameter segment).isSome || segment = part) && covers template path

variable {pathUnescape : List Char → Option (List Char)} (laws : Unescapes pathUnescape)
  {template start rest : List (List Char)}

section

include laws

theorem covers_of_fits (plain : ∀ part ∈ start, Usable part ∧ '%' ∉ part)
    (fits : Forall₂ (Fits pathUnescape) template (start ++ rest)) :
    covers template start = true := by
  induction start generalizing template with
  | nil => cases template <;> rfl
  | cons part start ih =>
    obtain ⟨segment, template, here, later, rfl⟩ := forall₂_cons_right_iff.mp fits
    obtain ⟨first, others⟩ := forall_mem_cons.mp plain
    rw [covers, ih others later, Bool.and_true]
    unfold Fits at here
    split_ifs at here with opened
    · simp [opened]
    · cases (laws.plain part first.2).symm.trans here
      simp

theorem fits_of_covers (covered : covers template start = true)
    (plain : ∀ part ∈ start, Usable part ∧ '%' ∉ part)
    (usable : ∀ segment ∈ template, Usable segment) : ∃ rest, (∀ part ∈ rest, Usable part) ∧
      Forall₂ (Fits pathUnescape) template (start ++ rest) := by
  induction start generalizing template with
  | nil =>
    have meets : Forall₂ Meets template template := forall₂_same.mpr fun _ _ => .inr (.inr rfl)
    obtain ⟨rest, fine, fits, _⟩ := exists_fits laws meets usable usable
    exact ⟨rest, fine, fits⟩
  | cons part start ih =>
    cases template with
    | nil => cases covered
    | cons segment template =>
      obtain ⟨first, others⟩ := forall_mem_cons.mp plain
      simp only [covers, Bool.and_eq_true, Bool.or_eq_true, decide_eq_true_eq] at covered
      obtain ⟨rest, fine, fits⟩ := ih covered.2 others (forall_mem_cons.mp usable).2
      refine ⟨rest, fine, .cons ?_ fits⟩
      have same := laws.plain part first.2
      unfold Fits Usable at *
      grind

end

variable {path start : String} {name : List Char}

theorem segments_below (named : start.toList = '/' :: name) (filled : name ≠ [])
    (below : matchPrefix path start = true) {parts : List (List Char)}
    (split : splitEscapedRequestPath path = some parts) :
    ∃ rest, parts = segmentsOf start ++ rest := by
  have longer : path ≠ "/" → (path.toList.drop 1).splitOn '/' = parts := by
    intro longer
    simp only [splitEscapedRequestPath, longer, if_false] at split
    split_ifs at split
    exact Option.some.inj split
  simp only [matchPrefix, beginsWith, Bool.or_eq_true, decide_eq_true_eq, isPrefixOf_iff_prefix]
    at below
  rcases below with rfl | ⟨tail, same⟩
  · rw [← longer (by rintro rfl; simp at named; exact filled named)]
    exact ⟨[], by simp [segmentsOf]⟩
  · rw [← longer (by rintro rfl; simp [named] at same), ← same]
    exact ⟨tail.splitOn '/', by simp [segmentsOf, named, splitOn_append_cons_self]⟩

theorem matchPrefix_joinPath (named : start.toList = '/' :: name) (rest : List (List Char)) :
    matchPrefix (joinPath (segmentsOf start ++ rest)) start = true := by
  have own : segmentsOf start = name.splitOn '/' := by simp [segmentsOf, named]
  simp only [matchPrefix, beginsWith, Bool.or_eq_true, decide_eq_true_eq, isPrefixOf_iff_prefix,
    joinPath, own]
  by_cases last : rest = []
  · left
    apply String.ext
    simp [last, intercalate_splitOn, named]
  · right
    rw [intercalate_append (splitOn_ne_nil _ _) last, intercalate_splitOn]
    exact ⟨['/'].intercalate rest, by simp [named]⟩

section

variable [LetterCase] {routes : List ContributionGatewayRoute}

/-- A request for the route, at the given path. -/
theorem exists_answered {route : ContributionGatewayRoute}
    (ready : (compile route).serviceReady = true) {segments parts : List (List Char)}
    (split : splitTemplatePath (cleanPrefix route.path) = some segments)
    (fits : Forall₂ (Fits pathUnescape) segments parts) (usable : ∀ part ∈ parts, Usable part) :
    ∃ request : Request, request.path = joinPath parts ∧
      (compile route).answers pathUnescape request = true := by
  obtain ⟨⟨⟨⟨_, given⟩, _⟩, valid⟩, _⟩ := serviceReady_iff.mp ready
  refine ⟨⟨route.method, joinPath parts, route.audience, given⟩, rfl, answers_iff.mpr
    ⟨ready, ?_, ?_, segments, split, parts, splitEscapedRequestPath_joinPath usable, fits⟩⟩
  · simp [methodAllowed, toUpper_trim]
  · have named : toLower (trimSpace route.audience) ≠ "" := by
      rintro blank
      simp [blank, validContributionAudience] at valid
    have asked : requestAudience ⟨route.method, joinPath parts, route.audience, given⟩ =
        toLower (trimSpace route.audience) := by
      simp [requestAudience, named]
    rw [asked, audienceMatches, toLower_trim]
    split_ifs with isPublic <;> simp [isPublic]

/-- No contributed route answers a request at or below a reserved path exactly when the template of
no route that is ready can take the place of one. -/
theorem reserved_never_contributed (laws : Unescapes pathUnescape) :
    (∀ route ∈ routes, (compile route).serviceReady = true → ∀ item ∈ defaultReservedPrefixes,
      ∀ segments ∈ splitTemplatePath (cleanPrefix route.path),
        covers segments (segmentsOf item) = false) ↔
    ∀ request : Request, ∀ item ∈ defaultReservedPrefixes, matchPrefix request.path item = true →
      ∀ table found, matchServiceRouteRequest pathUnescape table request = some found →
        found ∉ routes.map compile := by
  constructor
  · intro uncovered request item reserved below table found matched member
    obtain ⟨route, inside, rfl⟩ := mem_map.mp member
    have answers := find?_some matched
    obtain ⟨ready, _, _, segments, split, parts, requested, fits⟩ := answers_iff.mp answers
    obtain ⟨named, filled, _, plain⟩ := shape_of_reserved _ reserved
    obtain ⟨rest, rfl⟩ := segments_below named filled below requested
    have covered := covers_of_fits laws plain fits
    rw [uncovered route inside ready item reserved segments split] at covered
    cases covered
  · intro never route inside ready item reserved segments split
    rw [Bool.eq_false_iff]
    intro covered
    obtain ⟨named, _, _, plain⟩ := shape_of_reserved _ reserved
    obtain ⟨rest, fine, fits⟩ := fits_of_covers laws covered plain (usable_of_split split)
    have usable : ∀ part ∈ segmentsOf item ++ rest, Usable part := by
      simpa [or_imp, forall_and] using And.intro (fun part member => (plain part member).1) fine
    obtain ⟨request, path, answers⟩ := exists_answered ready split fits usable
    have below : matchPrefix request.path item = true := path ▸ matchPrefix_joinPath named rest
    have matched : (matchServiceRouteRequest pathUnescape (routes.map compile) request).isSome =
        true := find?_isSome.mpr ⟨compile route, mem_map_of_mem inside, answers⟩
    obtain ⟨found, matched⟩ := Option.isSome_iff_exists.mp matched
    exact never request item reserved below _ found matched (mem_of_find?_eq_some matched)

end

local instance reservedCase : LetterCase := plainCase

def sampleTemplate (path : String) : ContributionGatewayRoute :=
  ⟨"user", "GET", path, true⟩

def sampleLookup (path : String) : Request where
  method := "GET"
  path := path
  audience := ""
  given := by simp [toUpper, mapCase, trimSpace, isTrimmed, rdropWhile]

/-- No text of the template is reserved, but it answers at a reserved path. -/
theorem parameters_answer_reserved :
    let route := compile (sampleTemplate "/\x7ba\x7d/\x7bb\x7d")
    matchPrefix "/api/internal" "/api/internal" = true ∧
      matchServiceRouteRequest some [route] (sampleLookup "/api/internal") = some route :=
  ⟨by decide +kernel, find?_cons_of_pos (answers_iff.mpr ⟨serviceReady_iff.mpr (by decide +kernel),
    by decide +kernel, by decide +kernel, matchPathTemplate_isSome.mp (by decide +kernel)⟩)⟩

def healthRoute : CompiledRoute :=
  ⟨⟨"", "", "/health", []⟩, true⟩

/-- A template with a parameter of its own leaves the health check to the platform. -/
theorem shop_leaves_health :
    let shop := sampleTemplate "/shop/\x7bitem\x7d"
    matchServiceRouteRequest some [healthRoute, compile shop] (sampleLookup "/health") =
      some healthRoute ∧ healthRoute ∉ [shop].map compile := by
  intro shop
  have uncovered : ∀ route ∈ [sampleTemplate "/shop/\x7bitem\x7d"],
      ∀ item ∈ defaultReservedPrefixes, ∀ segments ∈ splitTemplatePath (cleanPrefix route.path),
        covers segments (segmentsOf item) = false := by
    decide +kernel
  have found : matchServiceRouteRequest some [healthRoute, compile shop] (sampleLookup "/health") =
      some healthRoute := find?_cons_of_pos (by decide +kernel)
  exact ⟨found, (reserved_never_contributed unescapes_some).mp
    (fun route inside _ => uncovered route inside) (sampleLookup "/health") "/health" (by decide)
      (by decide +kernel) _ _ found⟩

end Gateway

end UntitledOJ
