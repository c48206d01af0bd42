import MonomythClient.Contests
import MonomythClient.ServerAuthStatsSnapshot
import MonomythClient.TemporaryClassOverride

namespace MonomythClient.SkillsWindowRows

open MulticlassIdentity TemporaryClassOverride LocalPlayer ServerAuthStats
open ProtectedMemory Contests Runs

/-!
# Rows of the skills window

The game's helper fills in the record of a row.  The hook calls it again for
each assigned class, into the same record, and keeps the best row.  In the end
it puts the three numbers of that row into the record; the two names stay what
the last call made them, whether it succeeded or not.
-/

/-- `SkillsWindowRowRecordLayout`. -/
structure SkillsWindowRowRecordLayout where
  nameFieldA : UInt32
  nameFieldB : UInt32
  rankSkillValue : Int32
  displayedValue : Int32
  displayedCap : Int32
deriving DecidableEq, Repr

/-- `SkillsWindowRowRecordBetter`. -/
def skillsWindowRowRecordBetter
    (candidate best : SkillsWindowRowRecordLayout) :
    Bool :=
  if candidate.displayedValue ≠ best.displayedValue then
    decide (best.displayedValue < candidate.displayedValue)
  else if candidate.displayedCap ≠ best.displayedCap then
    decide (best.displayedCap < candidate.displayedCap)
  else
    decide (best.rankSkillValue < candidate.rankSkillValue)

/-! ## The helper -/

/-- What a call of the helper does to the record.  It fills it in, or it
returns false or faults after it has written some of it. -/
inductive RowOutcome where
  | succeeded (row : SkillsWindowRowRecordLayout)
  | failed
      (left : SkillsWindowRowRecordLayout → SkillsWindowRowRecordLayout)

/-- What a call of the helper leaves. -/
structure RowCall where
  outcome : RowOutcome
  memory : Memory

/-- The helper with its arguments, and for the class it is to find. -/
structure RowHelper where
  native : Memory → RowCall
  overridden : UInt32 → Memory → RowCall

/-! ## The hook -/

/-- The record and the best row in the loop over the classes. -/
structure RowLoop where
  record : SkillsWindowRowRecordLayout
  bestRow : SkillsWindowRowRecordLayout

/-- What a call does to the record and the best row. -/
def RowLoop.take (loop : RowLoop) : RowOutcome → RowLoop
  | .failed left => { loop with record := left loop.record }
  | .succeeded candidateRow =>
      { record := candidateRow
        bestRow :=
          challenge skillsWindowRowRecordBetter loop.bestRow candidateRow }

/-- The call for one class, under an override, if that could be applied, and
the memory behind it. -/
def callForClass
    (moduleBase : UInt32)
    (helper : RowHelper)
    (memory : Memory)
    (classId : UInt32) :
    Option RowOutcome × Memory :=
  let applied :=
    tryApplyTemporaryLocalClassOverride moduleBase classId.toUInt8 memory
  if applied.1.active then
    let called := helper.overridden classId applied.2
    (some called.outcome,
      restoreTemporaryLocalClassOverride applied.1 called.memory)
  else
    (none, applied.2)

/-- One turn of the loop over the classes. -/
def considerClass
    (moduleBase : UInt32)
    (helper : RowHelper)
    (state : RowLoop × Memory)
    (classId : UInt32) :
    RowLoop × Memory :=
  let called := callForClass moduleBase helper state.2 classId
  (called.1.elim state.1 state.1.take, called.2)

/-- What the hook returns, and leaves. -/
structure RowResult where
  returned : Bool
  record : SkillsWindowRowRecordLayout
  memory : Memory

/-- The assigned classes, in the order of their ids. -/
def assignedClasses (snapshot : Snapshot) : List UInt32 :=
  playableClassIds.filter
    (hasAuthoritativeClass snapshot.classesBitmask.has
      snapshot.classesBitmask.value)

/-- `InvokeSkillsWindowRowHelperHook`, for a record that is there. -/
def invokeSkillsWindowRowHelperHook
    (moduleBase : UInt32)
    (helper : Option RowHelper)
    (snapshot : Snapshot)
    (skillId : Int32)
    (record : SkillsWindowRowRecordLayout)
    (memory : Memory) :
    RowResult :=
  match helper with
  | none => ⟨false, record, memory⟩
  | some helper =>
      let called := helper.native memory
      match called.outcome with
      | .failed left => ⟨false, left record, called.memory⟩
      | .succeeded nativeRow =>
          if skillId < 0 ∨ 100 ≤ skillId ∨ ¬ snapshot.classesBitmask.has ∨
              snapshot.classesBitmask.value = 0 ∨
              ¬ isPlayableClassMask snapshot.classesBitmask.value then
            ⟨true, nativeRow, called.memory⟩
          else
            let looped :=
              (assignedClasses snapshot).foldl
                (considerClass moduleBase helper)
                (⟨nativeRow, nativeRow⟩, called.memory)
            { returned := true
              record :=
                { looped.1.record with
                  rankSkillValue := looped.1.bestRow.rankSkillValue
                  displayedValue := looped.1.bestRow.displayedValue
                  displayedCap := looped.1.bestRow.displayedCap }
              memory := looped.2 }

/-! ## The order of the rows -/

/-- One row is better than another in the lexicographic order of value, cap and
rank. -/
theorem skillsWindowRowRecordBetter_iff
    {candidate best : SkillsWindowRowRecordLayout} :
    skillsWindowRowRecordBetter candidate best = true ↔
      best.displayedValue < candidate.displayedValue ∨
        (candidate.displayedValue = best.displayedValue ∧
          (best.displayedCap < candidate.displayedCap ∨
            (candidate.displayedCap = best.displayedCap ∧
              best.rankSkillValue < candidate.rankSkillValue))) := by
  rw [skillsWindowRowRecordBetter]
  split
  next otherValue =>
    simp [otherValue]
  next sameValue =>
    have isValue := not_not.mp sameValue
    split
    next otherCap =>
      simp [isValue, otherCap]
    next sameCap =>
      simp [isValue, not_not.mp sameCap]

theorem skillsWindowRowRecordBetter_irrefl
    (row : SkillsWindowRowRecordLayout) :
    skillsWindowRowRecordBetter row row = false := by
  simp [skillsWindowRowRecordBetter]

theorem skillsWindowRowRecordBetter_trans
    (first second third : SkillsWindowRowRecordLayout)
    (firstBetter : skillsWindowRowRecordBetter first second = true)
    (secondBetter : skillsWindowRowRecordBetter second third = true) :
    skillsWindowRowRecordBetter first third = true := by
  rw [skillsWindowRowRecordBetter_iff] at *
  simp only [Int32.lt_iff_toInt_lt, ← Int32.toInt_inj] at *
  omega

/-- Two rows have the same numbers. -/
def SameNumbers (first second : SkillsWindowRowRecordLayout) : Prop :=
  first.displayedValue = second.displayedValue ∧
    first.displayedCap = second.displayedCap ∧
      first.rankSkillValue = second.rankSkillValue

/-- Two rows have the same names. -/
def SameNames (first second : SkillsWindowRowRecordLayout) : Prop :=
  first.nameFieldA = second.nameFieldA ∧
    first.nameFieldB = second.nameFieldB

theorem SameNumbers.symm
    {first second : SkillsWindowRowRecordLayout}
    (same : SameNumbers first second) :
    SameNumbers second first :=
  ⟨same.1.symm, same.2.1.symm, same.2.2.symm⟩

theorem SameNumbers.trans
    {first second third : SkillsWindowRowRecordLayout}
    (same : SameNumbers first second)
    (sameNext : SameNumbers second third) :
    SameNumbers first third :=
  ⟨same.1.trans sameNext.1, same.2.1.trans sameNext.2.1,
    same.2.2.trans sameNext.2.2⟩

theorem SameNames.symm
    {first second : SkillsWindowRowRecordLayout}
    (same : SameNames first second) :
    SameNames second first :=
  ⟨same.1.symm, same.2.symm⟩

theorem SameNames.trans
    {first second third : SkillsWindowRowRecordLayout}
    (same : SameNames first second)
    (sameNext : SameNames second third) :
    SameNames first third :=
  ⟨same.1.trans sameNext.1, same.2.trans sameNext.2⟩

/-- Rows of which neither is better have the same numbers. -/
theorem sameNumbers_of_not_better
    {first second : SkillsWindowRowRecordLayout}
    (notFirst : skillsWindowRowRecordBetter first second = false)
    (notSecond : skillsWindowRowRecordBetter second first = false) :
    SameNumbers first second := by
  rw [← Bool.not_eq_true, skillsWindowRowRecordBetter_iff] at notFirst
  rw [← Bool.not_eq_true, skillsWindowRowRecordBetter_iff] at notSecond
  rw [SameNumbers]
  simp only [Int32.lt_iff_toInt_lt, ← Int32.toInt_inj] at *
  omega

/-- Only the numbers of a row decide what is better. -/
theorem better_congr
    {row first second : SkillsWindowRowRecordLayout}
    (sameNumbers : SameNumbers first second) :
    skillsWindowRowRecordBetter row first =
      skillsWindowRowRecordBetter row second := by
  obtain ⟨sameValue, sameCap, sameRank⟩ := sameNumbers
  rw [skillsWindowRowRecordBetter, skillsWindowRowRecordBetter, sameValue,
    sameCap, sameRank]

/-! ## The calls of the loop -/

/-- What the calls for some classes do, where the override could be applied. -/
def outcomesFor
    (moduleBase : UInt32)
    (helper : RowHelper) :
    List UInt32 → Memory → List RowOutcome
  | [], _ => []
  | classId :: later, memory =>
      (callForClass moduleBase helper memory classId).1.toList ++
        outcomesFor moduleBase helper later
          (callForClass moduleBase helper memory classId).2

/-- The row that a successful call produced. -/
def RowOutcome.row : RowOutcome → Option SkillsWindowRowRecordLayout
  | .succeeded row => some row
  | .failed _ => none

/-- What a call makes of the record. -/
def RowOutcome.leave
    (record : SkillsWindowRowRecordLayout) :
    RowOutcome → SkillsWindowRowRecordLayout
  | .succeeded row => row
  | .failed left => left record

/-- A call that writes nothing when it fails. -/
def RowOutcome.silenced : RowOutcome → RowOutcome
  | .succeeded row => .succeeded row
  | .failed _ => .failed fun record => record

/-- The same helper, except that a call for a class writes nothing to the
record when it fails. -/
def RowHelper.silenced (helper : RowHelper) : RowHelper where
  native := helper.native
  overridden classId memory :=
    { outcome := (helper.overridden classId memory).outcome.silenced
      memory := (helper.overridden classId memory).memory }

/-- The loop takes the outcomes of its calls. -/
theorem foldl_considerClass
    (moduleBase : UInt32)
    (helper : RowHelper)
    (classIds : List UInt32)
    (loop : RowLoop)
    (memory : Memory) :
    (classIds.foldl (considerClass moduleBase helper) (loop, memory)).1 =
      (outcomesFor moduleBase helper classIds memory).foldl RowLoop.take
        loop := by
  induction classIds generalizing loop memory with
  | nil =>
      rfl
  | cons classId later inductionHypothesis =>
      rw [List.foldl_cons, considerClass, inductionHypothesis, outcomesFor,
        List.foldl_append]
      cases (callForClass moduleBase helper memory classId).1 with
      | none =>
          rfl
      | some outcome =>
          rfl

/-- The silenced helper makes the same calls. -/
theorem outcomesFor_silenced
    (moduleBase : UInt32)
    (helper : RowHelper)
    (classIds : List UInt32)
    (memory : Memory) :
    outcomesFor moduleBase helper.silenced classIds memory =
      (outcomesFor moduleBase helper classIds memory).map
        RowOutcome.silenced := by
  have sameCall :
      ∀ memory classId,
        callForClass moduleBase helper.silenced memory classId =
          ((callForClass moduleBase helper memory classId).1.map
              RowOutcome.silenced,
            (callForClass moduleBase helper memory classId).2) := by
    intro memory classId
    rw [callForClass, callForClass]
    dsimp only
    split
    · rfl
    · rfl
  induction classIds generalizing memory with
  | nil =>
      rfl
  | cons classId later inductionHypothesis =>
      rw [outcomesFor, outcomesFor, sameCall, inductionHypothesis,
        List.map_append]
      cases (callForClass moduleBase helper memory classId).1 with
      | none =>
          rfl
      | some outcome =>
          rfl

/-- The record behind the calls is what they leave one after another. -/
theorem foldl_take_record
    (outcomes : List RowOutcome)
    (loop : RowLoop) :
    (outcomes.foldl RowLoop.take loop).record =
      outcomes.foldl RowOutcome.leave loop.record := by
  induction outcomes generalizing loop with
  | nil =>
      rfl
  | cons outcome later inductionHypothesis =>
      rw [List.foldl_cons, List.foldl_cons, inductionHypothesis]
      cases outcome with
      | succeeded row =>
          rfl
      | failed left =>
          rfl

/-- The best row is the champion of the rows that were produced. -/
theorem foldl_take_bestRow
    (outcomes : List RowOutcome)
    (loop : RowLoop) :
    (outcomes.foldl RowLoop.take loop).bestRow =
      (outcomes.filterMap RowOutcome.row).foldl
        (challenge skillsWindowRowRecordBetter) loop.bestRow := by
  induction outcomes generalizing loop with
  | nil =>
      rfl
  | cons outcome later inductionHypothesis =>
      rw [List.foldl_cons, inductionHypothesis]
      cases outcome with
      | succeeded row =>
          rfl
      | failed left =>
          rfl

/-- The silenced calls leave the row of the last successful one. -/
theorem foldl_leave_silenced
    (outcomes : List RowOutcome)
    (record : SkillsWindowRowRecordLayout) :
    (outcomes.map RowOutcome.silenced).foldl RowOutcome.leave record =
      (outcomes.filterMap RowOutcome.row).getLast?.getD record := by
  induction outcomes using List.reverseRecOn with
  | nil =>
      rfl
  | append_singleton earlier outcome inductionHypothesis =>
      rw [List.map_append, List.foldl_append, inductionHypothesis,
        List.filterMap_append]
      cases outcome with
      | succeeded row =>
          simp [RowOutcome.silenced, RowOutcome.leave, RowOutcome.row]
      | failed left =>
          simp [RowOutcome.silenced, RowOutcome.leave, RowOutcome.row]

/-- Silencing changes no row that is produced. -/
theorem filterMap_row_silenced (outcomes : List RowOutcome) :
    (outcomes.map RowOutcome.silenced).filterMap RowOutcome.row =
      outcomes.filterMap RowOutcome.row := by
  rw [List.filterMap_map]
  congr 1
  funext outcome
  cases outcome with
  | succeeded row =>
      rfl
  | failed left =>
      rfl

/-! ## Coherent rows -/

/-- What the calls of the hook do, behind the native one. -/
def outcomes
    (moduleBase : UInt32)
    (helper : RowHelper)
    (snapshot : Snapshot)
    (memory : Memory) :
    List RowOutcome :=
  outcomesFor moduleBase helper (assignedClasses snapshot)
    (helper.native memory).memory

/-- The rows that were completely produced by one successful call. -/
def producedRows
    (nativeRow : SkillsWindowRowRecordLayout)
    (outcomes : List RowOutcome) :
    List SkillsWindowRowRecordLayout :=
  nativeRow :: outcomes.filterMap RowOutcome.row

/-- The row of the last successful call. -/
def lastRow
    (nativeRow : SkillsWindowRowRecordLayout)
    (outcomes : List RowOutcome) :
    SkillsWindowRowRecordLayout :=
  (outcomes.filterMap RowOutcome.row).getLast?.getD nativeRow

/-- The names that the last call leaves are those of the last successful one,
and a row that no other one beats has these names. -/
def NamesAgree
    (nativeRow : SkillsWindowRowRecordLayout)
    (outcomes : List RowOutcome) :
    Prop :=
  SameNames (outcomes.foldl RowOutcome.leave nativeRow)
      (lastRow nativeRow outcomes) ∧
    ∃ row ∈ producedRows nativeRow outcomes,
      (∀ other ∈ producedRows nativeRow outcomes,
        skillsWindowRowRecordBetter other row = false) ∧
        SameNames row (lastRow nativeRow outcomes)

/-- The record that the hook leaves behind a successful native call. -/
theorem invoke_record
    {moduleBase : UInt32}
    {helper : RowHelper}
    {snapshot : Snapshot}
    {skillId : Int32}
    {memory : Memory}
    {nativeRow : SkillsWindowRowRecordLayout}
    (succeeded : (helper.native memory).outcome = .succeeded nativeRow)
    (inRange : 0 ≤ skillId ∧ skillId < 100)
    (has : snapshot.classesBitmask.has = true)
    (notEmpty : snapshot.classesBitmask.value ≠ 0)
    (valid : isPlayableClassMask snapshot.classesBitmask.value = true)
    (record : SkillsWindowRowRecordLayout) :
    ∃ best,
      champion skillsWindowRowRecordBetter
            (producedRows nativeRow
              (outcomes moduleBase helper snapshot memory)) =
          some best ∧
        SameNumbers
            (invokeSkillsWindowRowHelperHook moduleBase (some helper) snapshot
              skillId record memory).record
            best ∧
          SameNames
            (invokeSkillsWindowRowHelperHook moduleBase (some helper) snapshot
              skillId record memory).record
            ((outcomes moduleBase helper snapshot memory).foldl
              RowOutcome.leave nativeRow) := by
  have asked :
      ¬ (skillId < 0 ∨ 100 ≤ skillId ∨ ¬ snapshot.classesBitmask.has ∨
        snapshot.classesBitmask.value = 0 ∨
        ¬ isPlayableClassMask snapshot.classesBitmask.value) := by
    rintro (below | above | hasNot | isEmpty | invalid)
    · exact Int32.not_lt.mpr inRange.1 below
    · exact Int32.not_le.mpr inRange.2 above
    · exact hasNot has
    · exact notEmpty isEmpty
    · exact invalid valid
  refine ⟨_, rfl, ?_, ?_⟩
  · simp only [invokeSkillsWindowRowHelperHook, succeeded, if_neg asked,
      foldl_considerClass, foldl_take_bestRow]
    exact ⟨rfl, rfl, rfl⟩
  · simp only [invokeSkillsWindowRowHelperHook, succeeded, if_neg asked,
      foldl_considerClass, foldl_take_record]
    exact ⟨rfl, rfl⟩

/-- The rows of which nothing is better have the numbers of the champion. -/
theorem undominated_iff
    {rows : List SkillsWindowRowRecordLayout}
    {best row : SkillsWindowRowRecordLayout}
    (isChampion : champion skillsWindowRowRecordBetter rows = some best)
    (produced : row ∈ rows) :
    (∀ other ∈ rows, skillsWindowRowRecordBetter other row = false) ↔
      SameNumbers row best := by
  have bestMaximal :
      ∀ other ∈ rows, skillsWindowRowRecordBetter other best = false :=
    champion_maximal skillsWindowRowRecordBetter_irrefl
      skillsWindowRowRecordBetter_trans isChampion
  constructor
  · intro undominated
    exact sameNumbers_of_not_better (bestMaximal row produced)
      (undominated best (champion_mem isChampion))
  · intro sameNumbers other member
    rw [better_congr sameNumbers]
    exact bestMaximal other member

/-- A row is its names and its numbers. -/
theorem eq_of_sameNames_of_sameNumbers
    {first second : SkillsWindowRowRecordLayout}
    (sameNames : SameNames first second)
    (sameNumbers : SameNumbers first second) :
    first = second := by
  obtain ⟨sameNameA, sameNameB⟩ := sameNames
  obtain ⟨sameValue, sameCap, sameRank⟩ := sameNumbers
  cases first
  cases second
  simp_all

/-- The record that a hook leaves is one of the rows that were produced, and a
best one, and calls that failed leave no trace in it. -/
structure Coherent
    (moduleBase : UInt32)
    (helper : RowHelper)
    (snapshot : Snapshot)
    (skillId : Int32)
    (record : SkillsWindowRowRecordLayout)
    (memory : Memory)
    (rows : List SkillsWindowRowRecordLayout) :
    Prop where
  produced :
    (invokeSkillsWindowRowHelperHook moduleBase (some helper) snapshot skillId
      record memory).record ∈ rows
  best :
    ∀ row ∈ rows,
      skillsWindowRowRecordBetter row
          (invokeSkillsWindowRowHelperHook moduleBase (some helper) snapshot
            skillId record memory).record =
        false
  noTrace :
    (invokeSkillsWindowRowHelperHook moduleBase (some helper.silenced) snapshot
        skillId record memory).record =
      (invokeSkillsWindowRowHelperHook moduleBase (some helper) snapshot
        skillId record memory).record

/-- Exactly when the names agree, the rows of the window are coherent and
best. -/
theorem skills_row_coherent_iff
    {moduleBase : UInt32}
    {helper : RowHelper}
    {snapshot : Snapshot}
    {skillId : Int32}
    {memory : Memory}
    {nativeRow : SkillsWindowRowRecordLayout}
    (succeeded : (helper.native memory).outcome = .succeeded nativeRow)
    (inRange : 0 ≤ skillId ∧ skillId < 100)
    (has : snapshot.classesBitmask.has = true)
    (notEmpty : snapshot.classesBitmask.value ≠ 0)
    (valid : isPlayableClassMask snapshot.classesBitmask.value = true)
    (record : SkillsWindowRowRecordLayout) :
    Coherent moduleBase helper snapshot skillId record memory
        (producedRows nativeRow
          (outcomes moduleBase helper snapshot memory)) ↔
      NamesAgree nativeRow (outcomes moduleBase helper snapshot memory) := by
  obtain ⟨best, isChampion, numbers, names⟩ :=
    invoke_record succeeded inRange has notEmpty valid record
  obtain ⟨silencedBest, silencedChampion, silencedNumbers, silencedNames⟩ :=
    @invoke_record moduleBase helper.silenced snapshot skillId memory nativeRow
      succeeded inRange has notEmpty valid record
  have sameOutcomes :
      outcomes moduleBase helper.silenced snapshot memory =
        (outcomes moduleBase helper snapshot memory).map
          RowOutcome.silenced :=
    outcomesFor_silenced moduleBase helper _ _
  -- Without the traces of failures, the numbers are the same, and the names
  -- are those of the last row.
  rw [sameOutcomes, producedRows, filterMap_row_silenced] at silencedChampion
  obtain rfl : best = silencedBest :=
    Option.some.inj (isChampion.symm.trans silencedChampion)
  rw [sameOutcomes, foldl_leave_silenced] at silencedNames
  constructor
  · intro coherent
    have sameLast :
        SameNames
          ((outcomes moduleBase helper snapshot memory).foldl
            RowOutcome.leave nativeRow)
          (lastRow nativeRow
            (outcomes moduleBase helper snapshot memory)) := by
      rw [coherent.noTrace] at silencedNames
      exact names.symm.trans silencedNames
    exact
      ⟨sameLast, _, coherent.produced, coherent.best, names.trans sameLast⟩
  · rintro ⟨sameLast, row, produced, undominated, rowNames⟩
    have rowNumbers : SameNumbers row best :=
      (undominated_iff isChampion produced).mp undominated
    have isRow :
        (invokeSkillsWindowRowHelperHook moduleBase (some helper) snapshot
          skillId record memory).record = row :=
      eq_of_sameNames_of_sameNumbers
        ((names.trans sameLast).trans rowNames.symm)
        (numbers.trans rowNumbers.symm)
    have isSilencedRow :
        (invokeSkillsWindowRowHelperHook moduleBase (some helper.silenced)
          snapshot skillId record memory).record = row :=
      eq_of_sameNames_of_sameNumbers
        (silencedNames.trans rowNames.symm)
        (silencedNumbers.trans rowNumbers.symm)
    exact
      { produced := isRow ▸ produced
        best := by
          rw [isRow]
          exact undominated
        noTrace := isSilencedRow.trans isRow.symm }

/-! ## A warrior who is a cleric, too -/

/-- The row of a skill of a warrior. -/
def warriorRow : SkillsWindowRowRecordLayout :=
  ⟨0x20000010, 0x20000020, 1, 50, 100⟩

/-- A helper that finds this row for a warrior, and another for a cleric. -/
def rowsOfWarriorAnd
    (clericRow : SkillsWindowRowRecordLayout) :
    RowHelper where
  native memory := ⟨.succeeded warriorRow, memory⟩
  overridden classId memory :=
    if classId = 2 then
      ⟨.succeeded clericRow, memory⟩
    else
      ⟨.succeeded warriorRow, memory⟩

/-- What the server said about the classes. -/
def warriorCleric : Snapshot :=
  { Globals.initial with classesBitmask := ⟨true, 3⟩ }

/-- A better row under the same names is shown as it is. -/
theorem skills_row_coherent_better_cleric :
    Coherent 0x400000
      (rowsOfWarriorAnd ⟨0x20000010, 0x20000020, 1, 75, 100⟩) warriorCleric 4
      warriorRow warriorMemory
      (producedRows warriorRow
        (outcomes 0x400000
          (rowsOfWarriorAnd ⟨0x20000010, 0x20000020, 1, 75, 100⟩)
          warriorCleric warriorMemory)) := by
  have produced :
      producedRows warriorRow
          (outcomes 0x400000
            (rowsOfWarriorAnd ⟨0x20000010, 0x20000020, 1, 75, 100⟩)
            warriorCleric warriorMemory) =
        [warriorRow, warriorRow, ⟨0x20000010, 0x20000020, 1, 75, 100⟩] := by
    decide +kernel
  refine
    (skills_row_coherent_iff rfl (by decide) rfl (by decide) (by decide)
      warriorRow).mpr
      ⟨?_, ⟨0x20000010, 0x20000020, 1, 75, 100⟩, ?_, ?_, ?_⟩
  · exact ⟨by decide +kernel, by decide +kernel⟩
  · rw [produced]
    decide
  · rw [produced]
    decide
  · exact ⟨by decide +kernel, by decide +kernel⟩

/-- A row that a cleric has under other names leaves these to the numbers of
the warrior's row. -/
theorem names_of_worse_row_stay :
    ((rowsOfWarriorAnd ⟨0x20000030, 0x20000040, 1, 0, 0⟩).native
          warriorMemory).outcome.row =
        some warriorRow ∧
      (invokeSkillsWindowRowHelperHook 0x400000
          (some (rowsOfWarriorAnd ⟨0x20000030, 0x20000040, 1, 0, 0⟩))
          warriorCleric 4 warriorRow warriorMemory).record =
        ⟨0x20000030, 0x20000040, 1, 50, 100⟩ ∧
        ¬ Coherent 0x400000
          (rowsOfWarriorAnd ⟨0x20000030, 0x20000040, 1, 0, 0⟩) warriorCleric 4
          warriorRow warriorMemory
          (producedRows warriorRow
            (outcomes 0x400000
              (rowsOfWarriorAnd ⟨0x20000030, 0x20000040, 1, 0, 0⟩)
              warriorCleric warriorMemory)) := by
  refine ⟨rfl, by decide +kernel, fun coherent => ?_⟩
  have notProduced :
      (invokeSkillsWindowRowHelperHook 0x400000
          (some (rowsOfWarriorAnd ⟨0x20000030, 0x20000040, 1, 0, 0⟩))
          warriorCleric 4 warriorRow warriorMemory).record ∉
        producedRows warriorRow
          (outcomes 0x400000
            (rowsOfWarriorAnd ⟨0x20000030, 0x20000040, 1, 0, 0⟩)
            warriorCleric warriorMemory) := by
    decide +kernel
  exact notProduced coherent.produced

end MonomythClient.SkillsWindowRows
