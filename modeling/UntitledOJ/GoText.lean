import Mathlib.Data.List.DropRight
import UntitledOJ.ControlPlaneJob

/-!
# Texts in the Go services

`strings.TrimSpace` drops the same characters as `str::trim`.  `strings.ToLower` and
`strings.ToUpper` map every character; outside ASCII the Unicode tables are left open.
-/

namespace UntitledOJ

def trimSpace (text : String) : String :=
  .ofList ((text.toList.dropWhile isTrimmed).rdropWhile isTrimmed)

def mapCase (ascii beyond : Char → Char) (c : Char) : Char :=
  if c.toNat < 128 then ascii c else beyond c

/-- What a mapping of the case yields has that case, and blanks have none. -/
def Settles (map : Char → Char) (c : Char) : Prop :=
  map (map c) = map c ∧ isTrimmed (map c) = isTrimmed c
deriving Decidable

/-- `unicode.ToLower` and `unicode.ToUpper` outside ASCII. -/
class LetterCase where
  (lower upper : Char → Char)
  lower_settles : ∀ c, 128 ≤ c.toNat → Settles (mapCase Char.toLower lower) c
  upper_settles : ∀ c, 128 ≤ c.toNat → Settles (mapCase Char.toUpper upper) c

def toLower [LetterCase] (text : String) : String :=
  .ofList (text.toList.map (mapCase Char.toLower LetterCase.lower))

def toUpper [LetterCase] (text : String) : String :=
  .ofList (text.toList.map (mapCase Char.toUpper LetterCase.upper))

theorem trimSpace_of_ends {text : String} (first : ∀ c ∈ text.toList.head?, isTrimmed c = false)
    (last : ∀ c ∈ text.toList.getLast?, isTrimmed c = false) : trimSpace text = text := by
  have front : text.toList.dropWhile isTrimmed = text.toList := by
    cases split : text.toList <;> simp_all
  have back : text.toList.rdropWhile isTrimmed = text.toList :=
    List.rdropWhile_eq_self_iff.mpr fun nonempty => by
      simp [last _ (List.getLast?_eq_some_getLast nonempty)]
  rw [trimSpace, front, back, String.ofList_toList]

theorem trimSpace_trimSpace (text : String) : trimSpace (trimSpace text) = trimSpace text := by
  have front : ((text.toList.dropWhile isTrimmed).rdropWhile isTrimmed).dropWhile isTrimmed =
      (text.toList.dropWhile isTrimmed).rdropWhile isTrimmed := by
    refine List.dropWhile_eq_self_iff.mpr fun nonempty => ?_
    have start := List.rdropWhile_prefix isTrimmed (text.toList.dropWhile isTrimmed)
    rw [start.getElem nonempty]
    exact List.dropWhile_get_zero_not isTrimmed text.toList _
  rw [trimSpace, trimSpace, String.toList_ofList, front, List.rdropWhile_idempotent]

/-- A trimmed text in one case is trimmed and in that case. -/
theorem map_trimSpace {map : Char → Char} (settles : ∀ c, Settles map c) (text : String) :
    .ofList ((trimSpace (.ofList ((trimSpace text).toList.map map))).toList.map map) =
      String.ofList ((trimSpace text).toList.map map) := by
  have blanks : isTrimmed ∘ map = isTrimmed := funext fun c => (settles c).2
  have trimmed : trimSpace (.ofList ((trimSpace text).toList.map map)) =
      .ofList ((trimSpace text).toList.map map) := by
    conv_rhs => rw [← trimSpace_trimSpace]
    simp only [trimSpace, String.toList_ofList, List.dropWhile_map, blanks, List.rdropWhile,
      ← List.map_reverse]
  rw [trimmed, String.toList_ofList, List.map_map]
  congr 2
  exact funext fun c => (settles c).1

theorem settles_of_ascii {ascii beyond : Char → Char}
    (checked : ∀ code < 128, Settles (mapCase ascii id) (Char.ofNat code) ∧
      (mapCase ascii id (Char.ofNat code)).toNat < 128)
    (others : ∀ c, 128 ≤ c.toNat → Settles (mapCase ascii beyond) c) (c : Char) :
    Settles (mapCase ascii beyond) c := by
  by_cases low : c.toNat < 128
  · have here := checked c.toNat low
    rw [Char.ofNat_toNat] at here
    simp only [Settles, mapCase, low, if_true] at here ⊢
    simpa [here.2] using here.1
  · exact others c (not_lt.mp low)

theorem map_trimSpace_of_forall {text : String} {ascii beyond : Char → Char}
    (plain : ∀ c ∈ text.toList, isTrimmed c = false ∧ c.toNat < 128 ∧ ascii c = c) :
    String.ofList ((trimSpace text).toList.map (mapCase ascii beyond)) = text := by
  rw [trimSpace_of_ends (fun c first => (plain c (List.mem_of_mem_head? first)).1)
    fun c last => (plain c (List.mem_of_mem_getLast? last)).1,
    List.map_congr_left (g := id) fun c member => by simp [mapCase, plain c member]]
  simp

section

variable [LetterCase] {text : String}

theorem toLower_trim (text : String) :
    toLower (trimSpace (toLower (trimSpace text))) = toLower (trimSpace text) :=
  map_trimSpace (settles_of_ascii (by decide) LetterCase.lower_settles) text

theorem toUpper_trim (text : String) :
    toUpper (trimSpace (toUpper (trimSpace text))) = toUpper (trimSpace text) :=
  map_trimSpace (settles_of_ascii (by decide) LetterCase.upper_settles) text

theorem toLower_trimSpace
    (plain : ∀ c ∈ text.toList, isTrimmed c = false ∧ c.toNat < 128 ∧ c.toLower = c) :
    toLower (trimSpace text) = text :=
  map_trimSpace_of_forall plain

theorem toUpper_trimSpace
    (plain : ∀ c ∈ text.toList, isTrimmed c = false ∧ c.toNat < 128 ∧ c.toUpper = c) :
    toUpper (trimSpace text) = text :=
  map_trimSpace_of_forall plain

end

@[reducible] def plainCase : LetterCase where
  lower := id
  upper := id
  lower_settles c high := by simp [Settles, mapCase, not_lt.mpr high]
  upper_settles c high := by simp [Settles, mapCase, not_lt.mpr high]

end UntitledOJ
