import Mathlib.Data.Set.Insert

namespace Agreements

/-!
# The value that all items agree on

A scan keeps the value of the first qualified item and gives up at the first
qualified item with another one.  It answers exactly with the one element of
the set of values, so neither the order nor the multiplicity of the items
matters.
-/

section Scan

variable
  {Item Value : Type}
  [DecidableEq Value]
  (qualifies : Item → Prop)
  [DecidablePred qualifies]
  (value : Item → Value)

/-- The scan, with the value found so far. -/
def agreedFrom : Option Value → List Item → Option Value
  | found, [] => found
  | found, item :: later =>
      if qualifies item then
        if found = none ∨ found = some (value item) then
          agreedFrom (some (value item)) later
        else
          none
      else
        agreedFrom found later

/-- The values of the qualified items. -/
def values (items : List Item) : Set Value :=
  { held | ∃ item ∈ items, qualifies item ∧ value item = held }

variable {qualifies value}

/-- Once a value was found, the others have to be the same. -/
theorem agreedFrom_some_iff
    {items : List Item}
    {earlier held : Value} :
    agreedFrom qualifies value (some earlier) items = some held ↔
      earlier = held ∧
        ∀ item ∈ items, qualifies item → value item = held := by
  induction items generalizing earlier with
  | nil =>
      simp [agreedFrom]
  | cons item later inductionHypothesis =>
      rw [agreedFrom, List.forall_mem_cons]
      by_cases qualified : qualifies item
      · rw [if_pos qualified]
        by_cases same : earlier = value item
        · subst same
          rw [if_pos (.inr rfl), inductionHypothesis]
          exact ⟨fun agreed => ⟨agreed.1, fun _ => agreed.1, agreed.2⟩,
            fun agreed => ⟨agreed.1, agreed.2.2⟩⟩
        · rw [if_neg (by simp [same])]
          constructor
          · intro nothing
            cases nothing
          · rintro ⟨rfl, here, _⟩
            exact (same (here qualified).symm).elim
      · rw [if_neg qualified, inductionHypothesis]
        exact ⟨fun agreed =>
            ⟨agreed.1, fun isQualified => absurd isQualified qualified,
              agreed.2⟩,
          fun agreed => ⟨agreed.1, agreed.2.2⟩⟩

/-- The scan answers exactly with the only value there is. -/
theorem agreedFrom_none_iff
    {items : List Item}
    {held : Value} :
    agreedFrom qualifies value none items = some held ↔
      values qualifies value items = {held} := by
  rw [Set.eq_singleton_iff_unique_mem]
  induction items with
  | nil =>
      simp [agreedFrom, values]
  | cons item later inductionHypothesis =>
      rw [agreedFrom]
      by_cases qualified : qualifies item
      · rw [if_pos qualified, if_pos (.inl rfl), agreedFrom_some_iff]
        constructor
        · rintro ⟨rfl, others⟩
          refine ⟨⟨item, List.mem_cons_self, qualified, rfl⟩, ?_⟩
          rintro other ⟨holder, member, isQualified, rfl⟩
          rcases List.mem_cons.mp member with rfl | isLater
          · rfl
          · exact others holder isLater isQualified
        · rintro ⟨_, only⟩
          refine ⟨only _ ⟨item, List.mem_cons_self, qualified, rfl⟩,
            fun holder isLater isQualified => ?_⟩
          exact only _
            ⟨holder, List.mem_cons_of_mem item isLater, isQualified, rfl⟩
      · have sameValues :
            values qualifies value (item :: later) =
              values qualifies value later := by
          ext other
          simp [values, qualified]
        rw [if_neg qualified, inductionHypothesis, sameValues]

/-- The order of the items does not matter. -/
theorem agreedFrom_none_perm
    {items others : List Item}
    (same : items.Perm others) :
    agreedFrom qualifies value none items =
      agreedFrom qualifies value none others := by
  have sameValues :
      values qualifies value items = values qualifies value others := by
    ext held
    exact exists_congr fun item => and_congr_left fun _ => same.mem_iff
  refine Option.ext fun held => ?_
  rw [agreedFrom_none_iff, agreedFrom_none_iff, sameValues]

end Scan

end Agreements
