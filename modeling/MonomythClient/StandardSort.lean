import Mathlib.Data.List.Destutter
import Mathlib.Data.List.Pairwise
import Mathlib.Data.List.Sort

namespace StandardSort

/-!
# Unstable sorting as a contract

A library sort promises a permutation in which no element precedes a smaller
one, and says nothing about the order of equivalent elements.  A `Sorter`
carries exactly this promise, so that a result proved for every sorter holds
whichever algorithm an implementation chooses.  Insertion sort is one of them.
-/

variable {Entry Key : Type}

/-- A sorting function with the guarantees of `std::sort`. -/
structure Sorter (before : Entry → Entry → Bool) where
  sort : List Entry → List Entry
  permutes : ∀ entries, (sort entries).Perm entries
  ordered :
    ∀ entries,
      (sort entries).Pairwise fun left right => before right left = false

namespace Sorter

variable {before : Entry → Entry → Bool}

/-- Sorting keeps exactly the records it was given. -/
@[simp] theorem mem_sort
    (sorter : Sorter before)
    {entry : Entry}
    {entries : List Entry} :
    entry ∈ sorter.sort entries ↔ entry ∈ entries :=
  (sorter.permutes entries).mem_iff

/-- A selection of at most one record survives any reordering. -/
theorem filter_sort
    (sorter : Sorter before)
    {selects : Entry → Bool}
    {entries : List Entry}
    {selected : Option Entry}
    (atMostOne : entries.filter selects = selected.toList) :
    (sorter.sort entries).filter selects = selected.toList := by
  have reordered := (sorter.permutes entries).filter selects
  rw [atMostOne] at reordered
  cases selected with
  | none =>
      exact List.perm_nil.mp reordered
  | some entry =>
      exact List.perm_singleton.mp reordered

/-- Sorting keeps keys distinct. -/
theorem nodup_map_sort
    (sorter : Sorter before)
    {key : Entry → Key}
    {entries : List Entry}
    (distinct : (entries.map key).Nodup) :
    ((sorter.sort entries).map key).Nodup :=
  ((sorter.permutes entries).map key).nodup_iff.mpr distinct

/-- A list that is strictly in order already is its own sorting. -/
theorem sort_eq_self
    (sorter : Sorter before)
    (asymmetric :
      ∀ left right, before left right = true → before right left = false)
    {entries : List Entry}
    (inOrder :
      entries.Pairwise fun left right => before left right = true) :
    sorter.sort entries = entries := by
  have compared :
      ∀ left ∈ entries, ∀ right ∈ entries,
        left = right ∨ before left right = true ∨
          before right left = true := by
    have symmetric :
        Std.Symm fun left right : Entry =>
          before left right = true ∨ before right left = true :=
      ⟨fun _ _ => Or.symm⟩
    have comparedPairs :
        entries.Pairwise fun left right =>
          before left right = true ∨ before right left = true :=
      inOrder.imp .inl
    intro left leftMember right rightMember
    by_cases same : left = right
    · exact .inl same
    · exact .inr (comparedPairs.forall leftMember rightMember same)
  refine
    (sorter.permutes entries).eq_of_pairwise ?_
      (sorter.ordered entries)
      (inOrder.imp fun isBefore => asymmetric _ _ isBefore)
  intro left right leftMember rightMember notAfter notBefore
  rcases compared left (sorter.mem_sort.mp leftMember) right rightMember
    with same | before | after
  · exact same
  · exact absurd before (by simp [notBefore])
  · exact absurd after (by simp [notAfter])

/-- Insertion sort is a sorter for every strict weak order. -/
def ofWeakOrder
    (before : Entry → Entry → Bool)
    (asymmetric :
      ∀ left right, before left right = true → before right left = false)
    (transitive :
      ∀ first middle last,
        before middle first = false → before last middle = false →
          before last first = false) :
    Sorter before where
  sort := List.insertionSort fun left right => before right left = false
  permutes := List.perm_insertionSort _
  ordered := by
    intro entries
    have total :
        Std.Total fun left right : Entry => before right left = false :=
      ⟨fun left right => by
        cases isBefore : before right left with
        | true => exact .inr (asymmetric _ _ isBefore)
        | false => exact .inl rfl⟩
    have isTrans :
        IsTrans Entry fun left right => before right left = false :=
      ⟨transitive⟩
    exact List.pairwise_insertionSort _ entries

end Sorter

section ByKey

variable [LT Key] [DecidableLT Key]

/-- Compare records by a key. -/
def byKey (key : Entry → Key) (left right : Entry) : Bool :=
  decide (key left < key right)

/-- Insertion sort on a linearly ordered key is a sorter. -/
def insertion
    [LE Key] [Std.IsLinearOrder Key] [Std.LawfulOrderLT Key]
    (key : Entry → Key) :
    Sorter (byKey key) where
  sort :=
    List.insertionSort fun left right => ¬ key right < key left
  permutes := List.perm_insertionSort _
  ordered := by
    intro entries
    have total :
        Std.Total fun left right : Entry => ¬ key right < key left :=
      ⟨fun left right => by
        simp only [Std.not_lt]
        exact Std.le_total⟩
    have transitive :
        IsTrans Entry fun left right => ¬ key right < key left :=
      ⟨fun first middle last => by
        simp only [Std.not_lt]
        exact Std.le_trans⟩
    refine (List.pairwise_insertionSort _ entries).imp ?_
    intro left right inOrder
    simpa [byKey] using inOrder

/-- Distinct keys leave a sorter no choice: the result is strictly increasing. -/
theorem strictlyIncreasing_sort
    [LE Key] [Std.IsLinearOrder Key] [Std.LawfulOrderLT Key]
    {key : Entry → Key}
    (sorter : Sorter (byKey key))
    {entries : List Entry}
    (distinct : (entries.map key).Nodup) :
    (sorter.sort entries).Pairwise fun left right =>
      key left < key right := by
  have separated :=
    List.pairwise_map.mp (sorter.nodup_map_sort distinct)
  refine ((sorter.ordered entries).and separated).imp ?_
  rintro left right ⟨notAfter, different⟩
  have atMost : key left ≤ key right := by
    simpa [byKey, Std.not_lt] using notAfter
  exact Std.lt_of_le_of_ne atMost different

end ByKey

section Unique

variable [DecidableEq Entry]

/-- `std::unique` with the erasure behind it: no element equals the last kept. -/
def unique (entries : List Entry) : List Entry :=
  entries.destutter (· ≠ ·)

variable [LT Entry] [DecidableLT Entry]
variable [LE Entry] [Std.IsLinearOrder Entry] [Std.LawfulOrderLT Entry]

/-- Behind a sort, equal elements are neighbours. -/
theorem unique_sort_eq_dedup
    (sorter : Sorter (byKey fun entry : Entry => entry))
    (entries : List Entry) :
    unique (sorter.sort entries) = (sorter.sort entries).dedup := by
  have antisymmetric : Std.Antisymm fun left right : Entry => left ≤ right :=
    ⟨fun _ _ => Std.le_antisymm⟩
  refine List.Pairwise.destutter_eq_dedup
    (r := fun left right : Entry => left ≤ right) ?_
  refine (sorter.ordered entries).imp ?_
  intro left right notAfter
  simpa [byKey, Std.not_lt] using notAfter

/-- A sort made unique keeps exactly the elements it was given. -/
theorem mem_unique_sort
    (sorter : Sorter (byKey fun entry : Entry => entry))
    {entry : Entry}
    {entries : List Entry} :
    entry ∈ unique (sorter.sort entries) ↔ entry ∈ entries := by
  rw [unique_sort_eq_dedup, List.mem_dedup, Sorter.mem_sort]

/-- A sort made unique is strictly increasing. -/
theorem strictlyIncreasing_unique_sort
    (sorter : Sorter (byKey fun entry : Entry => entry))
    (entries : List Entry) :
    (unique (sorter.sort entries)).Pairwise fun left right =>
      left < right := by
  rw [unique_sort_eq_dedup]
  have sorted := (sorter.ordered entries).sublist (List.dedup_sublist _)
  refine (sorted.and (List.nodup_dedup _)).imp ?_
  rintro left right ⟨notAfter, different⟩
  have atMost : left ≤ right := by
    simpa [byKey, Std.not_lt] using notAfter
  exact Std.lt_of_le_of_ne atMost different

end Unique

end StandardSort
