import Mathlib.Data.Finset.Card
import Mathlib.Data.Finset.Insert

/-!
# Saturation of a finite set by passes over a list of rules

A pass runs over the items and inserts the key of every item that the set found so far enables,
until a pass inserts nothing.  The saturated set is closed under its rules, and a set in which every
key was inserted after its dependencies has a rank.
-/

namespace UntitledOJ

variable {Item Key : Type} [DecidableEq Key] (key : Item → Key) (enabled : Item → Finset Key → Bool)

def saturatePass (items : List Item) (found : Finset Key) : Finset Key :=
  items.foldl
    (fun current item => if enabled item current then insert (key item) current else current)
    found

def saturate (items : List Item) : Nat → Finset Key → Finset Key
  | 0, found => found
  | fuel + 1, found =>
    let grown := saturatePass key enabled items found
    if grown.card = found.card then grown else saturate items fuel grown

variable {key enabled}

variable {found : Finset Key} {items : List Item} {motive : Finset Key → Prop} {fuel : Nat}

theorem saturatePass_induction (start : motive found)
    (grow : ∀ item ∈ items, ∀ current, motive current → enabled item current = true →
      motive (insert (key item) current)) : motive (saturatePass key enabled items found) := by
  induction items generalizing found with
  | nil => exact start
  | cons item rest ih =>
    apply ih
    · change motive (if enabled item found = true then insert (key item) found else found)
      split_ifs with fires
      · exact grow item List.mem_cons_self found start fires
      · exact start
    · intro other member
      exact grow other (List.mem_cons_of_mem _ member)

theorem subset_saturatePass (items : List Item) (found : Finset Key) :
    found ⊆ saturatePass key enabled items found := by
  apply saturatePass_induction (motive := fun current => found ⊆ current)
  · exact Finset.Subset.refl found
  · intro item _ current contained _
    exact contained.trans (Finset.subset_insert _ _)

theorem saturatePass_eq_of_card_eq
    (same : (saturatePass key enabled items found).card = found.card) :
    saturatePass key enabled items found = found :=
  (Finset.eq_of_subset_of_card_le (subset_saturatePass items found) same.le).symm

theorem mem_of_saturatePass_eq (same : saturatePass key enabled items found = found) :
    ∀ item ∈ items, enabled item found = true → key item ∈ found := by
  induction items with
  | nil => simp
  | cons item rest ih =>
    have head : enabled item found = true → key item ∈ found := by
      intro fires
      have unfolded : saturatePass key enabled rest (insert (key item) found) = found := by
        simpa [saturatePass, fires] using same
      rw [← unfolded]
      exact subset_saturatePass _ _ (Finset.mem_insert_self _ _)
    have tail : saturatePass key enabled rest found = found := by
      by_cases fires : enabled item found = true
      · simpa [saturatePass, fires, Finset.insert_eq_of_mem (head fires)] using same
      · simpa [saturatePass, fires] using same
    intro other member
    rcases List.mem_cons.mp member with rfl | later
    · exact head
    · exact ih tail other later

theorem saturate_induction (start : motive found)
    (grow : ∀ item ∈ items, ∀ current, motive current → enabled item current = true →
      motive (insert (key item) current)) : motive (saturate key enabled items fuel found) := by
  induction fuel generalizing found with
  | zero => exact start
  | succ fuel ih =>
    have grown := saturatePass_induction start grow
    simp only [saturate]
    split_ifs
    · exact grown
    · exact ih grown

/-- With a pass for every key that can be inserted, and one more, the result is
closed under the rules. -/
theorem mem_saturate_of_enabled (bound : Finset Key) (keys : ∀ item ∈ items, key item ∈ bound)
    (start : found ⊆ bound) (enough : bound.card < found.card + fuel) :
    ∀ item ∈ items, enabled item (saturate key enabled items fuel found) = true →
      key item ∈ saturate key enabled items fuel found := by
  induction fuel generalizing found with
  | zero =>
    have atMost := Finset.card_le_card start
    omega
  | succ fuel ih =>
    simp only [saturate]
    split_ifs with same
    · have fixed := saturatePass_eq_of_card_eq same
      rw [fixed]
      exact mem_of_saturatePass_eq fixed
    · have grows : found.card ≤ (saturatePass key enabled items found).card :=
        Finset.card_le_card (subset_saturatePass items found)
      apply ih
      · apply saturatePass_induction (motive := fun current => current ⊆ bound) start
        intro item member current contained _
        exact Finset.insert_subset (keys item member) contained
      · omega

theorem subset_saturate (items : List Item) (fuel : Nat) (found : Finset Key) :
    found ⊆ saturate key enabled items fuel found := by
  apply saturate_induction (motive := fun current => found ⊆ current)
  · exact Finset.Subset.refl found
  · intro item _ current contained _
    exact contained.trans (Finset.subset_insert _ _)

variable {Item Key : Type} (key : Item → Key) (deps : Item → List Key)

/-- Every key of the set belongs to an item all of whose dependencies are in
the set and rank below it. -/
def Ranked (items : List Item) (found : Finset Key) (rank : Key → Nat) : Prop :=
  ∀ name ∈ found, rank name < found.card ∧
    ∃ item ∈ items, key item = name ∧
      ∀ dependency ∈ deps item, dependency ∈ found ∧ rank dependency < rank name

variable {key deps}

theorem ranked_empty (items : List Item) (rank : Key → Nat) : Ranked key deps items ∅ rank := by
  simp [Ranked]

theorem Ranked.insert [DecidableEq Key] {items : List Item} {found : Finset Key} {rank : Key → Nat}
    (ranked : Ranked key deps items found rank) {item : Item} (member : item ∈ items)
    (fresh : key item ∉ found) (resolved : ∀ dependency ∈ deps item, dependency ∈ found) :
    Ranked key deps items (insert (key item) found)
      (fun name => if name = key item then found.card else rank name) := by
  have old {name : Key} (present : name ∈ found) : name ≠ key item := by
    rintro rfl
    exact fresh present
  intro name present
  rw [Finset.card_insert_of_notMem fresh]
  rcases Finset.mem_insert.mp present with rfl | before
  · refine ⟨by simp, item, member, rfl, ?_⟩
    intro dependency needed
    have known := resolved dependency needed
    refine ⟨Finset.mem_insert_of_mem known, ?_⟩
    simpa [old known] using (ranked dependency known).1
  · obtain ⟨_, source, sourceMember, sourceKey, lower⟩ := ranked name before
    refine ⟨?_, source, sourceMember, sourceKey, ?_⟩
    · simp only [old before, if_false]
      omega
    · intro dependency needed
      obtain ⟨known, ranksBelow⟩ := lower dependency needed
      refine ⟨Finset.mem_insert_of_mem known, ?_⟩
      simpa [old known, old before] using ranksBelow

end UntitledOJ
