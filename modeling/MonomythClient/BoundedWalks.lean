import Mathlib.Data.List.Chain

namespace BoundedWalks

/-!
# Walks of bounded length

From a place there is a next one, or none.  A walk goes from one place to the
next up to a number of times, and gathers the places it arrives at; it ends
even where the places lead back to each other.  Two ways to go on that agree on
every place the walk leaves make the same walk.
-/

variable {Place : Type} (next : Place → Option Place)

/-- The places arrived at, in order. -/
def walk : Nat → Place → List Place
  | 0, _ => []
  | limit + 1, place =>
      match next place with
      | none => []
      | some arrived => arrived :: walk limit arrived

/-- Every place that a walk leaves is one of the given places. -/
def LeavesOnly (inside : Place → Prop) : Nat → Place → Prop
  | 0, _ => True
  | limit + 1, place =>
      ∀ arrived, next place = some arrived →
        inside place ∧ LeavesOnly inside limit arrived

instance decidableLeavesOnly
    (inside : Place → Prop)
    [DecidablePred inside] :
    (limit : Nat) → (place : Place) →
      Decidable (LeavesOnly next inside limit place)
  | 0, _ => inferInstanceAs (Decidable True)
  | limit + 1, place =>
      match found : next place with
      | none =>
          isTrue fun arrived isNext => by
            rw [found] at isNext
            cases isNext
      | some arrived =>
          have : Decidable (LeavesOnly next inside limit arrived) :=
            decidableLeavesOnly inside limit arrived
          decidable_of_iff
            (inside place ∧ LeavesOnly next inside limit arrived) (by
              constructor
              · intro kept other isNext
                rw [found] at isNext
                obtain rfl := Option.some.inj isNext
                exact kept
              · intro leavesOnly
                exact leavesOnly arrived found)

variable {next}

/-- A walk does not exceed its limit. -/
theorem length_walk_le (limit : Nat) (place : Place) :
    (walk next limit place).length ≤ limit := by
  induction limit generalizing place with
  | zero =>
      exact Nat.le_refl 0
  | succ limit inductionHypothesis =>
      rw [walk]
      cases next place with
      | none =>
          exact Nat.zero_le _
      | some arrived =>
          exact Nat.succ_le_succ (inductionHypothesis arrived)

/-- Each place is followed by the next one. -/
theorem isChain_walk (limit : Nat) (place : Place) :
    (place :: walk next limit place).IsChain fun left right =>
      next left = some right := by
  induction limit generalizing place with
  | zero =>
      exact .singleton place
  | succ limit inductionHypothesis =>
      rw [walk]
      cases found : next place with
      | none =>
          exact .singleton place
      | some arrived =>
          exact List.isChain_cons_cons.mpr
            ⟨found, inductionHypothesis arrived⟩

/-- A walk that leaves no other places may be confined to them. -/
theorem walk_confined
    {inside : Place → Prop}
    [DecidablePred inside]
    {limit : Nat}
    {place : Place}
    (leavesOnly : LeavesOnly next inside limit place) :
    walk (fun left => if inside left then next left else none) limit place =
      walk next limit place := by
  induction limit generalizing place with
  | zero =>
      rfl
  | succ limit inductionHypothesis =>
      rw [walk, walk]
      cases found : next place with
      | none =>
          simp
      | some arrived =>
          obtain ⟨isInside, later⟩ := leavesOnly arrived found
          rw [if_pos isInside]
          exact congrArg (arrived :: ·) (inductionHypothesis later)

/-- Two ways to go on that agree on the places of a walk make the same walk. -/
theorem walk_congr
    {other : Place → Option Place}
    {limit : Nat}
    {place : Place}
    (agree : ∀ left ∈ place :: walk next limit place,
      other left = next left) :
    walk other limit place = walk next limit place := by
  induction limit generalizing place with
  | zero =>
      rfl
  | succ limit inductionHypothesis =>
      rw [walk, walk, agree place List.mem_cons_self]
      cases found : next place with
      | none =>
          rfl
      | some arrived =>
          apply congrArg (arrived :: ·)
          apply inductionHypothesis
          intro left isLeft
          apply agree left
          rw [walk, found]
          exact List.mem_cons_of_mem place isLeft

end BoundedWalks
