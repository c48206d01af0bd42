import Mathlib.Data.List.Basic

namespace FrontReaders

/-!
# Reading from the front of a list

A layout of bytes is read piece by piece: so many symbols, or the symbols
before the next terminator.  Each reader here returns a piece and what is left,
and succeeds exactly on the lists that start with such a piece, so that a
parser built from them accepts exactly the lists that its pieces make up.
-/

variable {α : Type}

/-- The given number of symbols, and what is left. -/
def takeFront (count : Nat) (items : List α) : Option (List α × List α) :=
  if count ≤ items.length then
    some (items.take count, items.drop count)
  else
    none

/-- The symbols before the first terminator, and what is left behind it. -/
def takeUntil [DecidableEq α] (terminator : α) :
    List α → Option (List α × List α)
  | [] => none
  | symbol :: later =>
      if symbol = terminator then
        some ([], later)
      else
        (takeUntil terminator later).map fun (text, rest) =>
          (symbol :: text, rest)

/-- So many symbols are there exactly when they are the front. -/
theorem takeFront_eq_some_iff
    {count : Nat}
    {items front rest : List α} :
    takeFront count items = some (front, rest) ↔
      items = front ++ rest ∧ front.length = count := by
  rw [takeFront]
  constructor
  · intro taken
    split at taken
    next enough =>
      obtain ⟨rfl, rfl⟩ := Prod.mk.inj (Option.some.inj taken)
      exact ⟨(List.take_append_drop count items).symm,
        List.length_take_of_le enough⟩
    next =>
      cases taken
  · rintro ⟨rfl, rfl⟩
    rw [if_pos (by rw [List.length_append]; exact Nat.le_add_right _ _),
      List.take_left, List.drop_left]

/-- They are missing exactly from a list that is too short. -/
theorem takeFront_eq_none_iff
    {count : Nat}
    {items : List α} :
    takeFront count items = none ↔ items.length < count := by
  rw [takeFront]
  split
  next enough =>
    simp [Nat.not_lt.mpr enough]
  next short =>
    simp [Nat.not_le.mp short]

variable [DecidableEq α]

/-- A text is found exactly up to its own terminator. -/
theorem takeUntil_eq_some_iff
    {terminator : α}
    {items text rest : List α} :
    takeUntil terminator items = some (text, rest) ↔
      items = text ++ terminator :: rest ∧ terminator ∉ text := by
  induction items generalizing text with
  | nil =>
      simp [takeUntil]
  | cons symbol later inductionHypothesis =>
      rw [takeUntil]
      by_cases isTerminator : symbol = terminator
      · subst isTerminator
        rw [if_pos rfl]
        constructor
        · intro found
          obtain ⟨rfl, rfl⟩ := Prod.mk.inj (Option.some.inj found)
          exact ⟨rfl, List.not_mem_nil⟩
        · rintro ⟨shape, absent⟩
          cases text with
          | nil =>
              rw [List.nil_append] at shape
              rw [(List.cons.inj shape).2]
          | cons first _ =>
              obtain rfl := (List.cons.inj shape).1
              exact (absent List.mem_cons_self).elim
      · rw [if_neg isTerminator, Option.map_eq_some_iff]
        constructor
        · rintro ⟨⟨found, left⟩, isFound, same⟩
          obtain ⟨rfl, rfl⟩ := Prod.mk.inj same
          obtain ⟨shape, absent⟩ := inductionHypothesis.mp isFound
          refine ⟨by rw [shape]; rfl, fun member => ?_⟩
          rcases List.mem_cons.mp member with isFirst | isLater
          · exact isTerminator isFirst.symm
          · exact absent isLater
        · rintro ⟨shape, absent⟩
          cases text with
          | nil =>
              exact (isTerminator (List.cons.inj shape).1).elim
          | cons first others =>
              obtain ⟨rfl, laterShape⟩ := List.cons.inj shape
              refine ⟨(others, rest), inductionHypothesis.mpr
                ⟨laterShape, fun member => ?_⟩, rfl⟩
              exact absent (List.mem_cons_of_mem symbol member)

/-- None is found in a list without terminator. -/
theorem takeUntil_eq_none_iff
    {terminator : α}
    {items : List α} :
    takeUntil terminator items = none ↔ terminator ∉ items := by
  induction items with
  | nil =>
      simp [takeUntil]
  | cons symbol later inductionHypothesis =>
      rw [takeUntil]
      by_cases isTerminator : symbol = terminator
      · simp [isTerminator]
      · rw [if_neg isTerminator, Option.map_eq_none_iff, inductionHypothesis,
          List.mem_cons, not_or]
        exact ⟨fun absent => ⟨Ne.symm isTerminator, absent⟩, And.right⟩

/-- What is left behind a terminator is shorter. -/
theorem length_lt_of_takeUntil
    {terminator : α}
    {items text rest : List α}
    (found : takeUntil terminator items = some (text, rest)) :
    rest.length < items.length := by
  obtain ⟨shape, -⟩ := takeUntil_eq_some_iff.mp found
  rw [shape, List.length_append, List.length_cons]
  omega

/-- The text up to the first terminator is the first piece of a list. -/
theorem splitOn_of_takeUntil
    {terminator : α}
    {items text rest : List α}
    (found : takeUntil terminator items = some (text, rest)) :
    items.splitOn terminator = text :: rest.splitOn terminator := by
  obtain ⟨rfl, absent⟩ := takeUntil_eq_some_iff.mp found
  exact List.splitOn_append_cons_self_of_not_mem absent rest

/-- A list without terminator is its only piece. -/
theorem splitOn_of_takeUntil_none
    {terminator : α}
    {items : List α}
    (missing : takeUntil terminator items = none) :
    items.splitOn terminator = [items] :=
  List.splitOn_eq_singleton (takeUntil_eq_none_iff.mp missing)

/-- The pieces of a list introduce no symbol. -/
theorem mem_of_mem_splitOn
    {terminator symbol : α}
    {items piece : List α}
    (isPiece : piece ∈ items.splitOn terminator)
    (member : symbol ∈ piece) :
    symbol ∈ items := by
  cases found : takeUntil terminator items with
  | none =>
      rw [splitOn_of_takeUntil_none found] at isPiece
      rwa [List.mem_singleton.mp isPiece] at member
  | some pair =>
      obtain ⟨text, rest⟩ := pair
      have shorter := length_lt_of_takeUntil found
      obtain ⟨shape, -⟩ := takeUntil_eq_some_iff.mp found
      rw [splitOn_of_takeUntil found] at isPiece
      rw [shape]
      rcases List.mem_cons.mp isPiece with rfl | isLater
      · exact List.mem_append_left _ member
      · exact List.mem_append_right _ (List.mem_cons_of_mem _
          (mem_of_mem_splitOn isLater member))
termination_by items.length

end FrontReaders
