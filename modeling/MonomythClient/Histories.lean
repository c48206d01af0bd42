import Mathlib.Data.List.Induction

namespace Histories

/-!
# Since

The past operator over finite histories: some event had a property, seen with
its own past, and only quiet events followed it.  A history grows at its end, so
the rules say what one more event does.
-/

variable {Event : Type}

/-- A marked event in the history, and quiet events ever since. -/
def Since
    (quiet : Event → Prop)
    (marks : List Event → Event → Prop)
    (history : List Event) : Prop :=
  ∃ past event later,
    history = past ++ event :: later ∧ marks past event ∧
      ∀ next ∈ later, quiet next

variable {quiet : Event → Prop} {marks : List Event → Event → Prop}

/-- The marked event may be the last one. -/
theorem Since.now
    {history : List Event}
    {event : Event}
    (marked : marks history event) :
    Since quiet marks (history ++ [event]) :=
  ⟨history, event, [], rfl, marked, by simp⟩

/-- A quiet event changes nothing. -/
theorem Since.quietly
    {history : List Event}
    (since : Since quiet marks history)
    {event : Event}
    (isQuiet : quiet event) :
    Since quiet marks (history ++ [event]) := by
  obtain ⟨past, marked, later, rfl, isMarked, allQuiet⟩ := since
  refine ⟨past, marked, later ++ [event], by simp, isMarked, ?_⟩
  intro next member
  rcases List.mem_append.mp member with inLater | isLast
  · exact allQuiet next inLater
  · rw [List.mem_singleton.mp isLast]
    exact isQuiet

/-- The last event is marked, or it is quiet and the rest was so before. -/
theorem since_append_singleton
    {history : List Event}
    {event : Event} :
    Since quiet marks (history ++ [event]) ↔
      marks history event ∨ (quiet event ∧ Since quiet marks history) := by
  constructor
  · rintro ⟨past, marked, later, shape, isMarked, allQuiet⟩
    rcases List.eq_nil_or_concat later with rfl | ⟨earlier, last, rfl⟩
    · obtain ⟨rfl, same⟩ := List.append_inj' shape rfl
      cases same
      exact .inl isMarked
    · rw [List.concat_eq_append, ← List.cons_append,
        ← List.append_assoc] at shape
      obtain ⟨rfl, same⟩ := List.append_inj' shape rfl
      cases same
      exact .inr
        ⟨allQuiet event (by simp),
          past, marked, earlier, rfl, isMarked,
          fun next member => allQuiet next (by simp [member])⟩
  · rintro (isMarked | ⟨isQuiet, since⟩)
    · exact .now isMarked
    · exact since.quietly isQuiet

/-- Behind an event that is neither quiet nor marked, the mark is later. -/
theorem Since.after
    {past later : List Event}
    {barrier : Event}
    (since : Since quiet marks (past ++ barrier :: later))
    (notQuiet : ¬ quiet barrier)
    (notMarked : ¬ marks past barrier) :
    ∃ event ∈ later, ∃ history, marks history event := by
  induction later using List.reverseRecOn with
  | nil =>
      rcases since_append_singleton.mp since with marked | ⟨isQuiet, _⟩
      · exact (notMarked marked).elim
      · exact (notQuiet isQuiet).elim
  | append_singleton earlier last inductionHypothesis =>
      rw [← List.cons_append, ← List.append_assoc] at since
      rcases since_append_singleton.mp since with marked | ⟨_, before⟩
      · exact ⟨last, by simp, _, marked⟩
      · obtain ⟨event, member, marked⟩ := inductionHypothesis before
        exact ⟨event, by simp [member], marked⟩

end Histories
