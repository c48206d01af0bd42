import Mathlib.Data.List.Nodup

namespace SortedTables

/-!
# Tables searched by halving

`std::lower_bound` finds where the elements that come before a wanted one end,
if they all stand in front of the others.  Nothing is promised for a table with
an element out of place.  The halving search still works when only the last
element may be out of place, provided that the number of elements makes the
search look at the last element last.

The second half is a quick check that the keys of a table differ.
-/

section LowerBound

variable (isBefore : Nat → Bool)

/-- `std::lower_bound` over some elements, which are tested by their index. -/
def lowerBound (first count : Nat) : Nat :=
  if count = 0 then
    first
  else if isBefore (first + count / 2) = true then
    lowerBound (first + count / 2 + 1) (count - (count / 2 + 1))
  else
    lowerBound first (count / 2)
termination_by count

/-- A search over so many elements looks at the last one last, if ever. -/
def lastSeenLast (count : Nat) : Bool :=
  if count ≤ 1 then
    true
  else
    decide (count / 2 + 1 < count) &&
      lastSeenLast (count - (count / 2 + 1))
termination_by count

variable {isBefore}

/-- Where the elements are parted, the search finds the point. -/
theorem lowerBound_eq
    {first count point : Nat}
    (parted :
      ∀ index, first ≤ index → index < first + count →
        (isBefore index = true ↔ index < point))
    (lower : first ≤ point)
    (upper : point ≤ first + count) :
    lowerBound isBefore first count = point := by
  fun_induction lowerBound isBefore first count with
  | case1 first =>
      omega
  | case2 first count notEmpty middleBefore inductionHypothesis =>
      have inside := (parted (first + count / 2) (by omega) (by omega)).mp
        middleBefore
      exact inductionHypothesis
        (fun index isLower isUpper =>
          parted index (by omega) (by omega))
        (by omega) (by omega)
  | case3 first count notEmpty middleNotBefore inductionHypothesis =>
      have outside := mt
        (parted (first + count / 2) (by omega) (by omega)).mpr
        middleNotBefore
      exact inductionHypothesis
        (fun index isLower isUpper =>
          parted index (by omega) (by omega))
        lower (by omega)

/-- The search does not see a misplaced last element before the others. -/
theorem lowerBound_lastMisplaced
    {first count last point : Nat}
    (isCount : first + count = last + 1)
    (sizeFits : lastSeenLast count = true)
    (parted :
      ∀ index, first ≤ index → index < last →
        (isBefore index = true ↔ index < point))
    (lower : first ≤ point)
    (upper : point ≤ last) :
    lowerBound isBefore first count =
      if point = last ∧ isBefore last = true then last + 1 else point := by
  fun_induction lowerBound isBefore first count with
  | case1 first =>
      omega
  | case2 first count notEmpty middleBefore inductionHypothesis =>
      by_cases isLast : count = 1
      · subst isLast
        have onlyOne : first = last := by omega
        subst onlyOne
        have atPoint : point = first := by omega
        have lastBefore : isBefore first = true := by
          simpa using middleBefore
        rw [if_pos ⟨atPoint, lastBefore⟩, lowerBound, if_pos rfl]
      · rw [lastSeenLast, if_neg (by omega), Bool.and_eq_true,
          decide_eq_true_eq] at sizeFits
        have inside := (parted (first + count / 2) (by omega) (by omega)).mp
          middleBefore
        exact inductionHypothesis (by omega) sizeFits.2
          (fun index isLower isUpper =>
            parted index (by omega) isUpper)
          (by omega)
  | case3 first count notEmpty middleNotBefore inductionHypothesis =>
      by_cases isLast : count = 1
      · subst isLast
        have onlyOne : first = last := by omega
        subst onlyOne
        have lastNotBefore : ¬ isBefore first = true := by
          simpa using middleNotBefore
        rw [if_neg fun atLast => lastNotBefore atLast.2, lowerBound,
          if_pos (by omega)]
        omega
      · rw [lastSeenLast, if_neg (by omega), Bool.and_eq_true,
          decide_eq_true_eq] at sizeFits
        have outside := mt
          (parted (first + count / 2) (by omega) (by omega)).mpr
          middleNotBefore
        rw [if_neg (by omega)]
        exact lowerBound_eq
          (fun index isLower isUpper =>
            parted index isLower (by omega))
          lower (by omega)

end LowerBound

section Rows

variable {Row Key : Type}

/-- The row that `std::lower_bound` points at; none at the end. -/
def lowerBoundRow (isBefore : Row → Bool) (rows : List Row) : Option Row :=
  rows[lowerBound (fun index => rows[index]?.any isBefore) 0 rows.length]?

/-- With the others parted, a last row is found only if nothing is before it. -/
theorem lowerBoundRow_eq
    {isBefore : Row → Bool}
    {front back : List Row}
    {last : Row}
    (sizeFits : lastSeenLast ((front ++ back).length + 1) = true)
    (inFront : ∀ row ∈ front, isBefore row = true)
    (inBack : ∀ row ∈ back, isBefore row = false) :
    lowerBoundRow isBefore (front ++ (back ++ [last])) =
      if back = [] ∧ isBefore last = true then
        none
      else
        (back ++ [last]).head? := by
  have length :
      (front ++ (back ++ [last])).length = (front ++ back).length + 1 := by
    simp only [List.length_append, List.length_singleton]
    omega
  have lastAt :
      (front ++ (back ++ [last]))[(front ++ back).length]? = some last := by
    rw [← List.append_assoc, List.getElem?_concat_length]
  have parted :
      ∀ index, 0 ≤ index → index < (front ++ back).length →
        ((front ++ (back ++ [last]))[index]?.any isBefore = true ↔
          index < front.length) := by
    intro index _ inside
    rw [← List.append_assoc, List.getElem?_append_left inside]
    by_cases isFront : index < front.length
    · rw [List.getElem?_append_left isFront,
        List.getElem?_eq_getElem isFront, Option.any_some,
        inFront _ (List.getElem_mem isFront)]
      simp [isFront]
    · rw [List.length_append] at inside
      have isBack : index - front.length < back.length := by omega
      rw [List.getElem?_append_right (Nat.not_lt.mp isFront),
        List.getElem?_eq_getElem isBack, Option.any_some,
        inBack _ (List.getElem_mem isBack)]
      simp [isFront]
  have found :=
    lowerBound_lastMisplaced (Nat.zero_add _) sizeFits parted
      (Nat.zero_le _)
      (by rw [List.length_append]; exact Nat.le_add_right _ _)
  rw [lastAt, Option.any_some] at found
  have atEnd : front.length = (front ++ back).length ↔ back = [] := by
    rw [List.length_append, ← List.length_eq_zero_iff]
    omega
  rw [lowerBoundRow, length, found]
  simp only [atEnd]
  by_cases ended : back = [] ∧ isBefore last = true
  · rw [if_pos ended, if_pos ended]
    exact List.getElem?_eq_none (Nat.le_of_eq length)
  · rw [if_neg ended, if_neg ended,
      List.getElem?_append_right (Nat.le_refl _), Nat.sub_self,
      List.head?_eq_getElem?]

variable [LT Key] [DecidableLT Key]
variable [LE Key] [Std.IsLinearOrder Key] [Std.LawfulOrderLT Key]

/-- Sorted rows are parted by every key. -/
theorem exists_parted
    {key : Row → Key}
    {sorted : List Row}
    (increasing : sorted.Pairwise fun left right => key left < key right)
    (wanted : Key) :
    ∃ front back,
      front ++ back = sorted ∧ (∀ row ∈ front, key row < wanted) ∧
        ∀ row ∈ back, ¬ key row < wanted := by
  induction sorted with
  | nil =>
      exact ⟨[], [], rfl, nofun, nofun⟩
  | cons first later inductionHypothesis =>
      obtain ⟨firstLess, laterIncreasing⟩ := List.pairwise_cons.mp increasing
      by_cases isFront : key first < wanted
      · obtain ⟨front, back, rfl, inFront, inBack⟩ :=
          inductionHypothesis laterIncreasing
        exact
          ⟨first :: front, back, rfl,
            List.forall_mem_cons.mpr ⟨isFront, inFront⟩, inBack⟩
      · refine ⟨[], first :: later, rfl, nofun,
          List.forall_mem_cons.mpr ⟨isFront, ?_⟩⟩
        intro row isLater less
        exact isFront (Std.lt_trans (firstLess row isLater) less)

/--
In rows that are sorted but for the last one, the halving search and a scan
agree on every key that the last row does not have.
-/
theorem search_eq_scan
    [DecidableEq Key]
    {key : Row → Key}
    {sorted : List Row}
    {last : Row}
    {wanted : Key}
    (sizeFits : lastSeenLast (sorted.length + 1) = true)
    (increasing : sorted.Pairwise fun left right => key left < key right)
    (lastOther : key last ≠ wanted) :
    (lowerBoundRow (fun row => decide (key row < wanted))
        (sorted ++ [last])).filter (fun row => decide (key row = wanted)) =
      (sorted ++ [last]).find? fun row => decide (key row = wanted) := by
  obtain ⟨front, back, rfl, inFront, inBack⟩ :=
    exists_parted increasing wanted
  have frontOther :
      front.find? (fun row => decide (key row = wanted)) = none := by
    rw [List.find?_eq_none]
    intro row member isWanted
    have less := inFront row member
    rw [of_decide_eq_true isWanted] at less
    exact Std.lt_irrefl less
  rw [List.append_assoc, List.find?_append, frontOther, Option.none_or,
    lowerBoundRow_eq sizeFits
      (fun row member => decide_eq_true (inFront row member))
      (fun row member => decide_eq_false (inBack row member))]
  cases back with
  | nil =>
      rw [List.nil_append, List.head?_singleton, List.find?_singleton]
      split
      next =>
        simp [lastOther]
      next =>
        rfl
  | cons first later =>
      rw [if_neg (by simp), List.cons_append, List.head?_cons]
      by_cases isWanted : key first = wanted
      · simp [isWanted]
      · have notFound :
            (some first).filter (fun row => decide (key row = wanted)) =
              none := by
          simp [isWanted]
        rw [notFound, List.find?_cons, decide_eq_false isWanted, eq_comm,
          List.find?_eq_none]
        intro row member rowWanted
        rcases List.mem_append.mp member with isLater | isLast
        · have ordered := (List.pairwise_append.mp increasing).2.1
          have less := (List.pairwise_cons.mp ordered).1 row isLater
          rw [of_decide_eq_true rowWanted] at less
          exact inBack first List.mem_cons_self less
        · rw [List.mem_singleton.mp isLast] at rowWanted
          exact lastOther (of_decide_eq_true rowWanted)

end Rows

section Marks

/-- Each mark is set in a number where it was not set before. -/
def marksDiffer (seen : Nat) : List Nat → Bool
  | [] => true
  | mark :: later =>
      !seen.testBit mark && marksDiffer (seen ||| 1 <<< mark) later

/-- Marks that are set one after another differ. -/
theorem nodup_of_marksDiffer
    {seen : Nat}
    {marks : List Nat}
    (differ : marksDiffer seen marks = true) :
    marks.Nodup ∧ ∀ mark ∈ marks, seen.testBit mark = false := by
  induction marks generalizing seen with
  | nil =>
      exact ⟨List.nodup_nil, nofun⟩
  | cons mark later inductionHypothesis =>
      rw [marksDiffer, Bool.and_eq_true, Bool.not_eq_true'] at differ
      obtain ⟨laterDiffer, laterUnset⟩ := inductionHypothesis differ.2
      have unset :
          ∀ other ∈ later, seen.testBit other = false ∧ other ≠ mark := by
        intro other member
        have unsetNow := laterUnset other member
        rw [Nat.testBit_or, Bool.or_eq_false_iff, Nat.one_shiftLeft,
          Nat.testBit_two_pow] at unsetNow
        exact ⟨unsetNow.1, fun same => of_decide_eq_false unsetNow.2 same.symm⟩
      refine ⟨List.nodup_cons.mpr
        ⟨fun member => (unset mark member).2 rfl, laterDiffer⟩, ?_⟩
      intro other member
      rcases List.mem_cons.mp member with rfl | isLater
      · exact differ.1
      · exact (unset other isLater).1

end Marks

end SortedTables
