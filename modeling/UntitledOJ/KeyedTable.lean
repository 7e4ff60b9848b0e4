import Mathlib.Data.List.Sort
import Std.Data.TreeMap.Lemmas

/-!
# Tables by primary key

A database table is a map from primary keys to rows, searched by scanning its rows.  Tables that
correspond key by key have corresponding rows, and writing a row changes a count by that row alone.
-/

namespace UntitledOJ

open List Std.TreeMap

variable {Key Row : Type} {order : Key → Key → Ordering} (table : Std.TreeMap Key Row order)

def tableRows (table : Std.TreeMap Key Row order) : List Row :=
  table.toList.map Prod.snd

theorem length_tableRows : (tableRows table).length = table.size := by
  simp [tableRows, length_toList]

variable [Std.TransCmp order] [Std.LawfulEqCmp order]

theorem getElem?_insert_of_eq [DecidableEq Key] (key other : Key) (row : Row) :
    (table.insert key row)[other]? = if other = key then some row else table[other]? := by
  simp only [Std.TreeMap.getElem?_insert, Std.LawfulEqCmp.compare_eq_iff_eq]
  by_cases same : key = other
  · simp [same]
  · simp [same, Ne.symm same]

theorem mem_tableRows {table : Std.TreeMap Key Row order} {row : Row} :
    row ∈ tableRows table ↔ ∃ key : Key, table[key]? = some row := by
  constructor
  · intro member
    obtain ⟨⟨key, _⟩, listed, rfl⟩ := mem_map.mp member
    exact ⟨key, mem_toList_iff_getElem?_eq_some.mp listed⟩
  · rintro ⟨key, found⟩
    exact mem_map.mpr ⟨(key, row), mem_toList_iff_getElem?_eq_some.mpr found, rfl⟩

theorem tableRows_eq_map {Other : Type} {table : Std.TreeMap Key Other order}
    {source : Std.TreeMap Key Row order} {view : Row → Other}
    (corresponds : ∀ key : Key, table[key]? = source[key]?.map view) :
    tableRows table = (tableRows source).map view := by
  have same : table.Equiv (source.map fun _ row => view row) := by
    apply Std.TreeMap.Equiv.of_forall_constGet?_eq
    intro key
    rw [corresponds, Std.TreeMap.getElem?_map]
  simp only [tableRows, same.toList_eq, Std.TreeMap.toList_map, List.map_map]
  rfl

variable {First Second : Type} [Ord First] [Ord Second]

/-- Pairs are compared by their first components, then by their second ones. -/
def pairOrder : First × Second → First × Second → Ordering :=
  compareLex (compareOn Prod.fst) (compareOn Prod.snd)

instance [Std.TransOrd First] [Std.TransOrd Second] :
    Std.TransCmp (pairOrder : First × Second → First × Second → Ordering) :=
  inferInstanceAs (Std.TransCmp (compareLex _ _))

instance [Std.TransOrd First] [Std.TransOrd Second] [Std.LawfulEqOrd First]
    [Std.LawfulEqOrd Second] :
    Std.LawfulEqCmp (pairOrder : First × Second → First × Second → Ordering) where
  eq_of_compare := by
    rintro ⟨first, second⟩ ⟨other, another⟩ same
    simp only [pairOrder, compareLex_eq_eq, compareOn, Std.LawfulEqOrd.compare_eq_iff_eq] at same
    rw [same.1, same.2]

section

variable [DecidableEq Key] {table : Std.TreeMap Key Row order} {key : Key}

variable (test : Row → Bool) (row : Row)
include test row

private theorem countP_tableRows_insert :
    (tableRows (table.insert key row)).countP test =
      (table.toList.filter fun entry => ¬(key == entry.1) = true).countP (test ∘ Prod.snd) +
        if test row then 1 else 0 := by
  rw [tableRows, countP_map, toList_insert_perm.countP_eq, countP_cons]
  rfl

theorem countP_insert_new (missing : table[key]? = none) :
    (tableRows (table.insert key row)).countP test =
      (tableRows table).countP test + if test row then 1 else 0 := by
  rw [countP_tableRows_insert, tableRows, countP_map]
  congr 2
  apply filter_eq_self.mpr
  rintro ⟨other, stored⟩ member
  have found := mem_toList_iff_getElem?_eq_some.mp member
  have different : key ≠ other := by
    rintro rfl
    simp [missing] at found
  simpa using different

theorem countP_insert_found {previous : Row} (found : table[key]? = some previous) :
    (tableRows (table.insert key row)).countP test + (if test previous then 1 else 0) =
      (tableRows table).countP test + if test row then 1 else 0 := by
  have same : (table.insert key previous).Equiv table := by
    apply Std.TreeMap.Equiv.of_forall_constGet?_eq
    intro other
    rw [Std.TreeMap.getElem?_insert]
    split_ifs with equal
    · rw [← Std.LawfulEqCmp.eq_of_compare equal, found]
    · rfl
  have before : tableRows table = tableRows (table.insert key previous) := by
    rw [tableRows, tableRows, same.toList_eq]
  rw [before, countP_tableRows_insert, countP_tableRows_insert]
  omega

end

/-- The first of the rows in an order, as `ORDER BY … LIMIT 1` selects it. -/
theorem head?_insertionSort_cons {order : Row → Row → Prop} [DecidableRel order]
    (row : Row) (rest : List Row) :
    ((row :: rest).insertionSort order).head? =
      match (rest.insertionSort order).head? with
      | none => some row
      | some best => if order row best then some row else some best := by
  rw [insertionSort_cons]
  cases rest.insertionSort order with
  | nil => rfl
  | cons best others =>
    simp only [orderedInsert, List.head?_cons]
    split_ifs <;> rfl

end UntitledOJ
