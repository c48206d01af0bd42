import Mathlib.Data.List.Basic
import Mathlib.Data.List.Induction
import Mathlib.Order.Basic

namespace MonomythClient.LearnedDisciplines

/-!
# Learned disciplines as combat abilities

The client's array of learned disciplines has gaps and may name a discipline
twice; the array of combat abilities has to start with the abilities, each
once.  The loop in `multiclass_combat_ability.cpp` writes through a cursor into
an array of fixed size and remembers every id it has met.  It is embedded here
with arrays of any size, in which a write outside the array has no result, and
it is shown to write the first occurrences of the positive ids.
-/

section FirstOccurrences

variable {α : Type} [DecidableEq α]

/-- The items that pass a test, each where it occurs first. -/
def firstOccurrences (keep : α → Bool) (items : List α) : List α :=
  (items.filter keep).eraseDups

theorem mem_firstOccurrences
    {keep : α → Bool}
    {items : List α}
    {item : α} :
    item ∈ firstOccurrences keep items ↔ item ∈ items ∧ keep item = true := by
  rw [firstOccurrences, List.mem_eraseDups, List.mem_filter]

/-- Later items only add to the first occurrences. -/
theorem firstOccurrences_prefix
    (keep : α → Bool)
    (earlier later : List α) :
    firstOccurrences keep earlier <+:
      firstOccurrences keep (earlier ++ later) := by
  rw [firstOccurrences, firstOccurrences, List.filter_append,
    List.eraseDups_append]
  exact List.prefix_append _ _

/-- One item more is added if it passes and is new. -/
theorem firstOccurrences_append_singleton
    (keep : α → Bool)
    (earlier : List α)
    (item : α) :
    firstOccurrences keep (earlier ++ [item]) =
      if keep item = true ∧ item ∉ earlier then
        firstOccurrences keep earlier ++ [item]
      else
        firstOccurrences keep earlier := by
  rw [firstOccurrences, List.filter_append, List.eraseDups_append,
    ← firstOccurrences]
  by_cases passes : keep item = true
  · by_cases isOld : item ∈ earlier
    · simp [passes, isOld, List.removeAll]
    · simp [passes, isOld, List.removeAll, List.eraseDups_cons]
  · simp [passes, List.removeAll]

/-- They come in the order in which they occur first. -/
theorem firstOccurrences_ordered
    (keep : α → Bool)
    (items : List α) :
    (firstOccurrences keep items).Pairwise fun first second =>
      items.idxOf first < items.idxOf second := by
  induction items using List.reverseRecOn with
  | nil =>
      exact List.Pairwise.nil
  | append_singleton earlier item inductionHypothesis =>
      have stillOrdered :
          (firstOccurrences keep earlier).Pairwise fun first second =>
            (earlier ++ [item]).idxOf first <
              (earlier ++ [item]).idxOf second := by
        refine inductionHypothesis.imp_of_mem ?_
        intro first second firstMember secondMember less
        rw [List.idxOf_append_of_mem (mem_firstOccurrences.mp firstMember).1,
          List.idxOf_append_of_mem (mem_firstOccurrences.mp secondMember).1]
        exact less
      rw [firstOccurrences_append_singleton]
      split
      next isNew =>
        refine List.pairwise_append.mpr
          ⟨stillOrdered, List.pairwise_singleton _ _, ?_⟩
        intro first firstMember second isItem
        obtain rfl := List.mem_singleton.mp isItem
        have isEarlier := (mem_firstOccurrences.mp firstMember).1
        rw [List.idxOf_append_of_mem isEarlier,
          List.idxOf_append_of_notMem isNew.2]
        exact Nat.lt_of_lt_of_le (List.idxOf_lt_length_of_mem isEarlier)
          (Nat.le_add_right _ _)
      next =>
        exact stillOrdered

end FirstOccurrences

/-! ## The loop -/

/-- A write to an array, which has to be inside it. -/
def writeEntry
    (entries : List Int32)
    (index : Nat)
    (value : Int32) :
    Option (List Int32) :=
  if index < entries.length then
    some (entries.set index value)
  else
    none

/-- What the loop carries on. -/
structure Compaction where
  combatAbilities : List Int32
  seenSpellIds : List Int32
  writeIndex : Nat
  deriving DecidableEq, Repr

/-- The loop of `BuildCombatAbilityArrayFromLearnedDisciplines`. -/
def compact (state : Compaction) : List Int32 → Option Compaction
  | [] => some state
  | disciplineSpellId :: later =>
      if disciplineSpellId ≤ 0 ∨
          disciplineSpellId ∈ state.seenSpellIds then
        compact state later
      else
        let seenSpellIds := disciplineSpellId :: state.seenSpellIds
        if state.combatAbilities.length ≤ state.writeIndex then
          some { state with seenSpellIds := seenSpellIds }
        else
          match writeEntry state.combatAbilities state.writeIndex
              disciplineSpellId with
          | none => none
          | some combatAbilities =>
              compact
                {
                  combatAbilities := combatAbilities
                  seenSpellIds := seenSpellIds
                  writeIndex := state.writeIndex + 1
                }
                later

/-- The array, the count in the output argument and the count returned. -/
structure CombatAbilityArray where
  combatAbilities : List Int32
  nonzeroEntries : Nat
  written : Nat
  deriving DecidableEq, Repr

/-- `BuildCombatAbilityArrayFromLearnedDisciplines`, on arrays of any size. -/
def buildCombatAbilityArrayFromLearnedDisciplines
    (learnedDisciplines combatAbilities : List Int32) :
    Option CombatAbilityArray :=
  (compact
    {
      combatAbilities := combatAbilities.map fun _ => 0
      seenSpellIds := []
      writeIndex := 0
    }
    learnedDisciplines).map
    fun state => {
      combatAbilities := state.combatAbilities
      nonzeroEntries := state.writeIndex
      written := state.writeIndex
    }

/-! ## What it writes -/

/-- The positive ids, each where it occurs first. -/
def positiveIds (learnedDisciplines : List Int32) : List Int32 :=
  firstOccurrences (fun spellId => decide (0 < spellId)) learnedDisciplines

/-- An array that starts with some ids, as many as fit. -/
def filled (capacity : Nat) (ids : List Int32) : List Int32 :=
  ids.take capacity ++ List.replicate (capacity - ids.length) 0

/-- A state between two rounds, after some disciplines that all fitted. -/
structure Compacted
    (capacity : Nat)
    (disciplines : List Int32)
    (state : Compaction) :
    Prop where
  fits : (positiveIds disciplines).length ≤ capacity
  entries :
    state.combatAbilities = filled capacity (positiveIds disciplines)
  seen :
    ∀ spellId,
      spellId ∈ state.seenSpellIds ↔ spellId ∈ positiveIds disciplines
  cursor : state.writeIndex = (positiveIds disciplines).length

theorem length_filled (capacity : Nat) (ids : List Int32) :
    (filled capacity ids).length = capacity := by
  rw [filled, List.length_append, List.length_take, List.length_replicate]
  omega

/-- A full array has no zeros behind its ids. -/
theorem filled_of_full
    {capacity : Nat}
    {ids : List Int32}
    (isFull : capacity ≤ ids.length) :
    filled capacity ids = ids.take capacity := by
  rw [filled, Nat.sub_eq_zero_of_le isFull, List.replicate_zero,
    List.append_nil]

/-- A write at the cursor appends an id. -/
theorem writeEntry_filled
    {capacity : Nat}
    {ids : List Int32}
    (room : ids.length < capacity)
    (spellId : Int32) :
    writeEntry (filled capacity ids) ids.length spellId =
      some (filled capacity (ids ++ [spellId])) := by
  have oneZero :
      List.replicate (capacity - ids.length) (0 : Int32) =
        0 :: List.replicate (capacity - (ids.length + 1)) 0 := by
    rw [← List.replicate_succ]
    congr 1
    omega
  rw [writeEntry, length_filled, if_pos room, filled, filled,
    List.take_of_length_le (Nat.le_of_lt room),
    List.take_of_length_le (List.length_append.trans_le room), oneZero,
    List.set_append_right _ _ (Nat.le_refl _), Nat.sub_self]
  simp

/-- The loop skips what is not positive or occurred before. -/
theorem Compacted.skipped_iff
    {capacity : Nat}
    {earlier : List Int32}
    {state : Compaction}
    (compacted : Compacted capacity earlier state)
    (spellId : Int32) :
    (spellId ≤ 0 ∨ spellId ∈ state.seenSpellIds) ↔
      ¬ (0 < spellId ∧ spellId ∉ earlier) := by
  rw [compacted.seen, positiveIds, mem_firstOccurrences, decide_eq_true_iff,
    ← Int32.not_lt]
  by_cases positive : 0 < spellId
  · simp [positive]
  · simp [positive]

/-- Positive ids with one discipline more. -/
theorem positiveIds_append_singleton
    (earlier : List Int32)
    (spellId : Int32) :
    positiveIds (earlier ++ [spellId]) =
      if 0 < spellId ∧ spellId ∉ earlier then
        positiveIds earlier ++ [spellId]
      else
        positiveIds earlier := by
  rw [positiveIds, firstOccurrences_append_singleton]
  simp only [decide_eq_true_eq]
  rfl

/-- A round that skips a discipline. -/
theorem Compacted.skip
    {capacity : Nat}
    {earlier : List Int32}
    {state : Compaction}
    (compacted : Compacted capacity earlier state)
    {spellId : Int32}
    (skipped : ¬ (0 < spellId ∧ spellId ∉ earlier)) :
    Compacted capacity (earlier ++ [spellId]) state := by
  have sameIds :
      positiveIds (earlier ++ [spellId]) = positiveIds earlier := by
    rw [positiveIds_append_singleton, if_neg skipped]
  obtain ⟨fits, entries, seen, cursor⟩ := compacted
  exact ⟨sameIds ▸ fits, sameIds ▸ entries, sameIds ▸ seen, sameIds ▸ cursor⟩

/-- A round that writes a discipline. -/
theorem Compacted.write
    {capacity : Nat}
    {earlier : List Int32}
    {state : Compaction}
    (compacted : Compacted capacity earlier state)
    {spellId : Int32}
    (written : 0 < spellId ∧ spellId ∉ earlier)
    (room : state.writeIndex < capacity) :
    ∃ combatAbilities,
      writeEntry state.combatAbilities state.writeIndex spellId =
          some combatAbilities ∧
        Compacted capacity (earlier ++ [spellId]) {
          combatAbilities := combatAbilities
          seenSpellIds := spellId :: state.seenSpellIds
          writeIndex := state.writeIndex + 1
        } := by
  have oneMore :
      positiveIds (earlier ++ [spellId]) = positiveIds earlier ++ [spellId] := by
    rw [positiveIds_append_singleton, if_pos written]
  obtain ⟨_, entries, seen, cursor⟩ := compacted
  rw [cursor] at room
  refine ⟨filled capacity (positiveIds (earlier ++ [spellId])), ?_, ?_, rfl,
    fun other => ?_, ?_⟩
  · rw [entries, cursor, oneMore]
    exact writeEntry_filled room spellId
  · rw [oneMore, List.length_append]
    exact room
  · rw [oneMore, List.mem_cons, seen, List.mem_append, List.mem_singleton]
    exact Or.comm
  · rw [oneMore, cursor, List.length_append]
    rfl

/-- Once the array is full, no later id changes what it should hold. -/
theorem Compacted.full
    {capacity : Nat}
    {earlier : List Int32}
    {state : Compaction}
    (compacted : Compacted capacity earlier state)
    (isFull : capacity ≤ state.writeIndex)
    (later : List Int32) :
    state.combatAbilities =
        filled capacity (positiveIds (earlier ++ later)) ∧
      state.writeIndex =
        ((positiveIds (earlier ++ later)).take capacity).length := by
  have exactly : (positiveIds earlier).length = capacity :=
    Nat.le_antisymm compacted.fits (compacted.cursor ▸ isFull)
  obtain ⟨others, shape⟩ :
      positiveIds earlier <+: positiveIds (earlier ++ later) :=
    firstOccurrences_prefix _ earlier later
  have allTaken :
      (positiveIds (earlier ++ later)).take capacity =
        positiveIds earlier := by
    rw [← shape, ← exactly, List.take_left]
  have stillFull :
      capacity ≤ (positiveIds (earlier ++ later)).length := by
    rw [← shape, List.length_append, exactly]
    exact Nat.le_add_right _ _
  constructor
  · calc
      state.combatAbilities = filled capacity (positiveIds earlier) :=
        compacted.entries
      _ = positiveIds earlier := by
        rw [filled_of_full (Nat.le_of_eq exactly.symm),
          List.take_of_length_le compacted.fits]
      _ = filled capacity (positiveIds (earlier ++ later)) := by
        rw [filled_of_full stillFull, allTaken]
  · rw [allTaken]
    exact compacted.cursor

/-- From such a state the loop ends, inside the array, with the positive ids
of all disciplines. -/
theorem Compacted.rest
    {capacity : Nat}
    {earlier : List Int32}
    {state : Compaction}
    (compacted : Compacted capacity earlier state)
    (later : List Int32) :
    ∃ final,
      compact state later = some final ∧
        final.combatAbilities =
          filled capacity (positiveIds (earlier ++ later)) ∧
        final.writeIndex =
          ((positiveIds (earlier ++ later)).take capacity).length := by
  induction later generalizing earlier state with
  | nil =>
      rw [List.append_nil, List.take_of_length_le compacted.fits]
      exact ⟨state, rfl, compacted.entries, compacted.cursor⟩
  | cons spellId rest inductionHypothesis =>
      have split :
          earlier ++ spellId :: rest = earlier ++ [spellId] ++ rest := by
        rw [List.append_assoc]
        rfl
      have arrayLength : state.combatAbilities.length = capacity := by
        rw [compacted.entries, length_filled]
      rw [compact, arrayLength]
      by_cases written : 0 < spellId ∧ spellId ∉ earlier
      · rw [if_neg (fun skipped =>
          (compacted.skipped_iff spellId).mp skipped written)]
        by_cases isFull : capacity ≤ state.writeIndex
        · rw [if_pos isFull]
          exact ⟨_, rfl, compacted.full isFull (spellId :: rest)⟩
        · rw [if_neg isFull]
          obtain ⟨combatAbilities, stored, next⟩ :=
            compacted.write written (Nat.not_le.mp isFull)
          rw [stored, split]
          exact inductionHypothesis next
      · rw [if_pos ((compacted.skipped_iff spellId).mpr written), split]
        exact inductionHypothesis (compacted.skip written)

/-- The whole array. -/
theorem buildCombatAbilityArray_eq
    (learnedDisciplines combatAbilities : List Int32) :
    buildCombatAbilityArrayFromLearnedDisciplines learnedDisciplines
        combatAbilities =
      some {
        combatAbilities :=
          filled combatAbilities.length (positiveIds learnedDisciplines)
        nonzeroEntries :=
          ((positiveIds learnedDisciplines).take
            combatAbilities.length).length
        written :=
          ((positiveIds learnedDisciplines).take
            combatAbilities.length).length
      } := by
  have start :
      Compacted combatAbilities.length [] {
        combatAbilities := combatAbilities.map fun _ => 0
        seenSpellIds := []
        writeIndex := 0
      } := by
    refine ⟨Nat.zero_le _, ?_, fun spellId => Iff.rfl, rfl⟩
    change _ = [].take combatAbilities.length ++
      List.replicate combatAbilities.length 0
    rw [List.map_const', List.take_nil, List.nil_append]
  obtain ⟨final, ended, entries, cursor⟩ := start.rest learnedDisciplines
  rw [List.nil_append] at entries cursor
  rw [buildCombatAbilityArrayFromLearnedDisciplines, ended, Option.map_some,
    entries, cursor]

/--
Whatever the disciplines and whatever the array held before: all writes are
inside the array, which then has the positive ids in the order in which they
occur first, each once, and zeros behind them; both counts are the number of
ids written, and an id is left out only if the array is full.
-/
theorem learnedDisciplines_compacted
    (learnedDisciplines combatAbilities : List Int32) :
    ∃ (ids : List Int32) (written : CombatAbilityArray),
      (∀ spellId, spellId ∈ ids ↔ spellId ∈ learnedDisciplines ∧ 0 < spellId) ∧
      ids.Nodup ∧
      ids.Pairwise
        (fun first second =>
          learnedDisciplines.idxOf first < learnedDisciplines.idxOf second) ∧
      buildCombatAbilityArrayFromLearnedDisciplines learnedDisciplines
        combatAbilities = some written ∧
      written.combatAbilities =
        ids.take combatAbilities.length ++
          List.replicate (combatAbilities.length - ids.length) 0 ∧
      written.nonzeroEntries = min ids.length combatAbilities.length ∧
      written.written = min ids.length combatAbilities.length ∧
      ((∃ spellId ∈ ids, spellId ∉ written.combatAbilities) →
        written.written = combatAbilities.length) := by
  have ordered :=
    firstOccurrences_ordered (fun spellId => decide ((0 : Int32) < spellId))
      learnedDisciplines
  have nodup : (positiveIds learnedDisciplines).Nodup :=
    ordered.imp fun less same => by
      rw [same] at less
      exact Nat.lt_irrefl _ less
  have taken :
      ((positiveIds learnedDisciplines).take combatAbilities.length).length =
        min (positiveIds learnedDisciplines).length combatAbilities.length := by
    rw [List.length_take, Nat.min_comm]
  refine ⟨positiveIds learnedDisciplines, _, fun spellId => ?_, nodup, ordered,
    buildCombatAbilityArray_eq learnedDisciplines combatAbilities, rfl, taken,
    taken, ?_⟩
  · rw [positiveIds, mem_firstOccurrences, decide_eq_true_iff]
  · rintro ⟨spellId, isPositive, missing⟩
    refine Eq.trans taken ?_
    by_contra notFull
    have fits :
        (positiveIds learnedDisciplines).length ≤ combatAbilities.length := by
      omega
    refine missing (List.mem_append_left _ ?_)
    rw [List.take_of_length_le fits]
    exact isPositive

example :
    buildCombatAbilityArrayFromLearnedDisciplines [101, -2, 202, 101, 0, 303]
        [7, 7, 7, 7] =
      some ⟨[101, 202, 303, 0], 3, 3⟩ := by
  decide

end MonomythClient.LearnedDisciplines
