import Mathlib.Data.Set.Card
import MonomythClient.SpellContest

namespace MonomythClient.CombatAbility

open MulticlassIdentity AuthoritativeEvaluators ServerAuthStats
open KeyedList Contests Runs

/-!
# What the synthesis keeps

With entries for all lines, each line that some assigned class can use has one
entry, and nothing in the line is better.  The entries are different spells,
and the array has zeros behind them.
-/

/-! ## Writing the array -/

/-- Writing candidates into the zeros behind what was written before. -/
theorem writeCandidate_fill
    (candidates : List CombatAbilityCandidate)
    (written : List Int32)
    (zeros nonzeroEntries count : Nat) :
    (candidates.zipIdx written.length).foldl writeCandidate
        ⟨written ++ List.replicate (candidates.length + zeros) 0,
          nonzeroEntries, count⟩ =
      ⟨written ++ candidates.map (·.spellId) ++ List.replicate zeros 0,
        nonzeroEntries +
          candidates.countP fun candidate => 0 < candidate.spellId,
        count⟩ := by
  induction candidates generalizing written nonzeroEntries with
  | nil =>
      simp
  | cons candidate later inductionHypothesis =>
      have oneWritten :
          writeCandidate
              ⟨written ++ List.replicate ((candidate :: later).length + zeros)
                  0,
                nonzeroEntries, count⟩
              (candidate, written.length) =
            ⟨(written ++ [candidate.spellId]) ++
                List.replicate (later.length + zeros) 0,
              if 0 < candidate.spellId then
                nonzeroEntries + 1
              else
                nonzeroEntries,
              count⟩ := by
        rw [writeCandidate, List.length_cons, Nat.add_right_comm,
          List.replicate_succ]
        simp
      have laterWritten :=
        inductionHypothesis (written ++ [candidate.spellId])
          (if 0 < candidate.spellId then
            nonzeroEntries + 1
          else
            nonzeroEntries)
      rw [List.length_append, List.length_singleton] at laterWritten
      rw [List.zipIdx_cons, List.foldl_cons, oneWritten, laterWritten,
        List.countP_cons]
      by_cases positive : 0 < candidate.spellId
      · simp [positive, Nat.add_assoc, Nat.add_comm]
      · simp [positive]

/-- Candidates for which there is room are written one behind the other. -/
theorem writeCandidates_eq
    {candidates : List CombatAbilityCandidate}
    (room : candidates.length ≤ kMaxCombatAbilityIndex) :
    writeCandidates candidates =
      ⟨candidates.map (·.spellId) ++
          List.replicate (kMaxCombatAbilityIndex - candidates.length) 0,
        candidates.countP fun candidate => 0 < candidate.spellId,
        candidates.length⟩ := by
  have filled :=
    writeCandidate_fill candidates []
      (kMaxCombatAbilityIndex - candidates.length) 0 candidates.length
  rw [Nat.add_sub_cancel' room, List.nil_append, List.nil_append,
    Nat.zero_add] at filled
  rw [writeCandidates, List.take_of_length_le room]
  exact filled

namespace SpellTable

/-! ## The kept candidates -/

/-- The lines with a spell that some assigned class can use. -/
def lines
    (table : SpellTable)
    (snapshot : Snapshot)
    (localPlayerLevel localPlayerDeity : UInt32) :
    Set AbilityLine :=
  {line | ∃ record,
    table.Eligible snapshot localPlayerLevel localPlayerDeity record ∧
      record.line = line}

/-- The candidates that the scan keeps. -/
def kept
    (table : SpellTable)
    (snapshot : Snapshot)
    (localPlayerLevel localPlayerDeity : UInt32)
    (displayedClassId : UInt8) :
    List CombatAbilityCandidate :=
  (table.scan snapshot localPlayerLevel localPlayerDeity
    displayedClassId).candidates

section Kept

variable
  {table : SpellTable}
  {snapshot : Snapshot}
  {localPlayerLevel localPlayerDeity : UInt32}
  {displayedClassId : UInt8}

/-- An entry is an eligible spell's. -/
theorem eligible_of_entry
    {candidate : CombatAbilityCandidate}
    (isEntry :
      candidate ∈
        table.entries snapshot localPlayerLevel localPlayerDeity
          displayedClassId) :
    ∃ record,
      table.Eligible snapshot localPlayerLevel localPlayerDeity record ∧
        candidate = record.candidate candidate.sourceClassId := by
  obtain ⟨classId, record, assigned, eligible, rfl⟩ :=
    mem_entries.mp isEntry
  exact ⟨record, ⟨classId, assigned, eligible⟩, rfl⟩

/-- An eligible spell has an entry. -/
theorem Eligible.entry
    {record : CombatAbilitySpellRecord}
    (eligible :
      table.Eligible snapshot localPlayerLevel localPlayerDeity record)
    (displayedClassId : UInt8) :
    ∃ classId,
      record.candidate classId ∈
        table.entries snapshot localPlayerLevel localPlayerDeity
          displayedClassId := by
  obtain ⟨classId, assigned, eligibleFor⟩ := eligible
  exact
    ⟨classId, mem_entries.mpr
      ⟨classId, record, assigned, eligibleFor, rfl⟩⟩

/-- The table has one record for an id. -/
theorem Eligible.same
    {first second : CombatAbilitySpellRecord}
    (isFirst :
      table.Eligible snapshot localPlayerLevel localPlayerDeity first)
    (isSecond :
      table.Eligible snapshot localPlayerLevel localPlayerDeity second)
    (sameId : first.spellId = second.spellId) :
    first = second := by
  obtain ⟨_, _, _, isRecord, _⟩ := isFirst
  obtain ⟨_, _, _, isRecordToo, _⟩ := isSecond
  rw [sameId, isRecordToo] at isRecord
  exact (Option.some.inj isRecord).symm

/-- An eligible spell's id is positive. -/
theorem Eligible.positive
    {record : CombatAbilitySpellRecord}
    (eligible :
      table.Eligible snapshot localPlayerLevel localPlayerDeity record) :
    0 < record.spellId := by
  obtain ⟨_, _, isId, _⟩ := eligible
  exact (mem_spellIds.mp isId).1

theorem kept_eq_contest
    (table : SpellTable)
    (snapshot : Snapshot)
    (localPlayerLevel localPlayerDeity : UInt32)
    (displayedClassId : UInt8) :
    table.kept snapshot localPlayerLevel localPlayerDeity displayedClassId =
      contest kMaxCombatAbilityIndex CombatAbilityCandidate.line
        combatAbilityCandidateBetter
        (table.entries snapshot localPlayerLevel localPlayerDeity
          displayedClassId) :=
  scan_eq_contest table snapshot localPlayerLevel localPlayerDeity
    displayedClassId

/-- A kept candidate is an eligible spell's. -/
theorem eligible_of_kept
    {candidate : CombatAbilityCandidate}
    (isKept :
      candidate ∈
        table.kept snapshot localPlayerLevel localPlayerDeity
          displayedClassId) :
    ∃ record,
      table.Eligible snapshot localPlayerLevel localPlayerDeity record ∧
        candidate = record.candidate candidate.sourceClassId := by
  rw [kept_eq_contest] at isKept
  exact eligible_of_entry (mem_contest isKept)

/-- The kept candidates are in different lines. -/
theorem unique_kept
    (table : SpellTable)
    (snapshot : Snapshot)
    (localPlayerLevel localPlayerDeity : UInt32)
    (displayedClassId : UInt8) :
    Unique CombatAbilityCandidate.line
      (table.kept snapshot localPlayerLevel localPlayerDeity
        displayedClassId) := by
  rw [kept_eq_contest]
  exact unique_contest _

/-- Two kept candidates of one line are the same. -/
theorem kept_line_inj
    {first second : CombatAbilityCandidate}
    (isFirst :
      first ∈
        table.kept snapshot localPlayerLevel localPlayerDeity
          displayedClassId)
    (isSecond :
      second ∈
        table.kept snapshot localPlayerLevel localPlayerDeity
          displayedClassId)
    (sameLine : first.line = second.line) :
    first = second :=
  List.inj_on_of_nodup_map
    (unique_kept table snapshot localPlayerLevel localPlayerDeity
      displayedClassId)
    isFirst isSecond sameLine

/-- The kept candidates are different spells. -/
theorem nodup_kept_spellIds
    (table : SpellTable)
    (snapshot : Snapshot)
    (localPlayerLevel localPlayerDeity : UInt32)
    (displayedClassId : UInt8) :
    ((table.kept snapshot localPlayerLevel localPlayerDeity
      displayedClassId).map (·.spellId)).Nodup := by
  have nodup :
      (table.kept snapshot localPlayerLevel localPlayerDeity
        displayedClassId).Nodup :=
    List.Nodup.of_map _
      (unique_kept table snapshot localPlayerLevel localPlayerDeity
        displayedClassId)
  refine nodup.map_on fun first isFirst second isSecond sameId => ?_
  obtain ⟨record, eligible, isCandidate⟩ := eligible_of_kept isFirst
  obtain ⟨other, eligibleToo, isCandidateToo⟩ := eligible_of_kept isSecond
  have sameRecord : record = other := by
    refine eligible.same eligibleToo ?_
    rw [isCandidate, isCandidateToo] at sameId
    exact sameId
  refine kept_line_inj isFirst isSecond ?_
  rw [isCandidate, isCandidateToo, sameRecord]
  rfl

/-- What the scan keeps fits into the array. -/
theorem length_kept_le
    (table : SpellTable)
    (snapshot : Snapshot)
    (localPlayerLevel localPlayerDeity : UInt32)
    (displayedClassId : UInt8) :
    (table.kept snapshot localPlayerLevel localPlayerDeity
      displayedClassId).length ≤ kMaxCombatAbilityIndex := by
  rw [kept_eq_contest]
  exact length_contest_le_capacity _

/-- The scan keeps an eligible spell, for one of its classes. -/
def Keeps
    (table : SpellTable)
    (snapshot : Snapshot)
    (localPlayerLevel localPlayerDeity : UInt32)
    (displayedClassId : UInt8)
    (record : CombatAbilitySpellRecord) :
    Prop :=
  table.Eligible snapshot localPlayerLevel localPlayerDeity record ∧
    ∃ classId,
      record.candidate classId ∈
        table.kept snapshot localPlayerLevel localPlayerDeity
          displayedClassId

/-- A kept candidate is that of a spell the scan keeps. -/
theorem keeps_of_kept
    {candidate : CombatAbilityCandidate}
    (isKept :
      candidate ∈
        table.kept snapshot localPlayerLevel localPlayerDeity
          displayedClassId) :
    ∃ record,
      table.Keeps snapshot localPlayerLevel localPlayerDeity
          displayedClassId record ∧
        candidate = record.candidate candidate.sourceClassId := by
  obtain ⟨record, eligible, isCandidate⟩ := eligible_of_kept isKept
  rw [isCandidate] at isKept
  exact ⟨record, ⟨eligible, _, isKept⟩, isCandidate⟩

/-- The kept ids are those of the spells that the scan keeps. -/
theorem mem_kept_spellIds
    {spellId : Int32} :
    spellId ∈
        (table.kept snapshot localPlayerLevel localPlayerDeity
          displayedClassId).map (·.spellId) ↔
      ∃ record,
        record.spellId = spellId ∧
          table.Keeps snapshot localPlayerLevel localPlayerDeity
            displayedClassId record := by
  rw [List.mem_map]
  constructor
  · rintro ⟨candidate, isKept, rfl⟩
    obtain ⟨record, keeps, isCandidate⟩ := keeps_of_kept isKept
    refine ⟨record, ?_, keeps⟩
    rw [isCandidate]
    rfl
  · rintro ⟨record, rfl, _, classId, isKept⟩
    exact ⟨record.candidate classId, isKept, rfl⟩

/-- The array has the ids of the spells that the scan keeps. -/
theorem mem_synthesized_iff
    {spellId : Int32}
    (positive : 0 < spellId) :
    spellId ∈
        (synthesizeFromSpellTable table snapshot localPlayerLevel
          localPlayerDeity displayedClassId).combatAbilities ↔
      ∃ record,
        record.spellId = spellId ∧
          table.Keeps snapshot localPlayerLevel localPlayerDeity
            displayedClassId record := by
  have notZero : spellId ≠ 0 := by
    rintro rfl
    exact Int32.lt_irrefl positive
  have fits :=
    length_kept_le table snapshot localPlayerLevel localPlayerDeity
      displayedClassId
  rw [← mem_kept_spellIds, synthesizeFromSpellTable, ← kept,
    writeCandidates_eq fits]
  dsimp only
  rw [List.mem_append, List.mem_replicate]
  constructor
  · rintro (isKept | ⟨_, isZero⟩)
    · exact isKept
    · exact absurd isZero notZero
  · exact .inl

/-- Two kept spells of one line, for one displayed class, are the same. -/
theorem Keeps.line_inj
    {record other : CombatAbilitySpellRecord}
    (keeps :
      table.Keeps snapshot localPlayerLevel localPlayerDeity
        displayedClassId record)
    (otherKeeps :
      table.Keeps snapshot localPlayerLevel localPlayerDeity
        displayedClassId other)
    (sameLine : record.line = other.line) :
    record = other := by
  obtain ⟨eligible, _, isKept⟩ := keeps
  obtain ⟨otherEligible, _, otherKept⟩ := otherKeeps
  have sameCandidate := kept_line_inj isKept otherKept sameLine
  exact eligible.same otherEligible
    (congrArg CombatAbilityCandidate.spellId sameCandidate)

/-- There are places for all entries' lines. -/
theorem places_of_lines
    (places :
      (table.lines snapshot localPlayerLevel localPlayerDeity).encard ≤
        kMaxCombatAbilityIndex)
    (displayedClassId : UInt8) :
    ((table.entries snapshot localPlayerLevel localPlayerDeity
        displayedClassId).map
      CombatAbilityCandidate.line).toFinset.card ≤
        kMaxCombatAbilityIndex := by
  have inLines :
      ((((table.entries snapshot localPlayerLevel localPlayerDeity
          displayedClassId).map
        CombatAbilityCandidate.line).toFinset : Finset AbilityLine) :
          Set AbilityLine) ⊆
        table.lines snapshot localPlayerLevel localPlayerDeity := by
    intro line isLine
    obtain ⟨candidate, isEntry, rfl⟩ :=
      List.mem_map.mp (List.mem_toFinset.mp (Finset.mem_coe.mp isLine))
    obtain ⟨record, eligible, isCandidate⟩ := eligible_of_entry isEntry
    exact ⟨record, eligible, by rw [isCandidate, line_candidate]⟩
  have fewer := (Set.encard_le_encard inLines).trans places
  rw [Set.encard_coe_eq_coe_finsetCard] at fewer
  exact Nat.cast_le.mp fewer

section Places

variable
  (places :
    (table.lines snapshot localPlayerLevel localPlayerDeity).encard ≤
      kMaxCombatAbilityIndex)

include places

/-- A kept candidate is the champion of its line. -/
theorem champion_of_kept
    {candidate : CombatAbilityCandidate}
    (isKept :
      candidate ∈
        table.kept snapshot localPlayerLevel localPlayerDeity
          displayedClassId) :
    champion combatAbilityCandidateBetter
        ((table.entries snapshot localPlayerLevel localPlayerDeity
            displayedClassId).filter fun entry =>
          entry.line = candidate.line) =
      some candidate := by
  rw [kept_eq_contest] at isKept
  exact (mem_contest_iff (places_of_lines places displayedClassId)).mp isKept

/-- Each line of an eligible spell is kept. -/
theorem exists_kept
    {record : CombatAbilitySpellRecord}
    (eligible :
      table.Eligible snapshot localPlayerLevel localPlayerDeity record)
    (displayedClassId : UInt8) :
    ∃ candidate ∈
        table.kept snapshot localPlayerLevel localPlayerDeity
          displayedClassId,
      candidate.line = record.line := by
  obtain ⟨classId, isEntry⟩ := eligible.entry displayedClassId
  have inLine :
      record.candidate classId ∈
        (table.entries snapshot localPlayerLevel localPlayerDeity
          displayedClassId).filter fun entry => entry.line = record.line :=
    List.mem_filter.mpr ⟨isEntry, by simp⟩
  have isSome :=
    (champion_isSome_iff combatAbilityCandidateBetter).mpr
      (List.ne_nil_of_mem inLine)
  rw [← lookup_contest (places_of_lines places displayedClassId),
    ← kept_eq_contest] at isSome
  obtain ⟨candidate, found⟩ := Option.isSome_iff_exists.mp isSome
  obtain ⟨isKept, sameLine⟩ := mem_of_lookup found
  exact ⟨candidate, isKept, sameLine⟩

/-- Every line with an eligible spell keeps one. -/
theorem Eligible.exists_keeps
    {record : CombatAbilitySpellRecord}
    (eligible :
      table.Eligible snapshot localPlayerLevel localPlayerDeity record)
    (displayedClassId : UInt8) :
    ∃ keptRecord,
      table.Keeps snapshot localPlayerLevel localPlayerDeity
          displayedClassId keptRecord ∧
        keptRecord.line = record.line := by
  obtain ⟨candidate, isKept, sameLine⟩ :=
    exists_kept places eligible displayedClassId
  obtain ⟨keptRecord, keeps, isCandidate⟩ := keeps_of_kept isKept
  rw [isCandidate, line_candidate] at sameLine
  exact ⟨keptRecord, keeps, sameLine⟩

/-- Nothing eligible in its line is better than a kept spell. -/
theorem Keeps.maximal
    {best record : CombatAbilitySpellRecord}
    (keeps :
      table.Keeps snapshot localPlayerLevel localPlayerDeity
        displayedClassId best)
    (eligible :
      table.Eligible snapshot localPlayerLevel localPlayerDeity record)
    (sameLine : record.line = best.line)
    (classId bestClassId : UInt32) :
    combatAbilityCandidateBetter (record.candidate classId)
        (best.candidate bestClassId) =
      false := by
  obtain ⟨entryClassId, isEntry⟩ := eligible.entry displayedClassId
  obtain ⟨_, keptClassId, isKept⟩ := keeps
  have notBetter :=
    champion_maximal combatAbilityCandidateBetter_irrefl
      combatAbilityCandidateBetter_trans (champion_of_kept places isKept)
      (record.candidate entryClassId)
      (List.mem_filter.mpr ⟨isEntry, by simp [sameLine]⟩)
  -- The class a candidate is for makes no difference to what is better.
  exact notBetter

end Places

end Kept

end SpellTable

/-! ## The synthesized array -/

/-- Spells with one group and subgroup are in one line. -/
theorem line_eq_of_group
    {first second : CombatAbilitySpellRecord}
    (hasGroup : 0 < second.group) :
    first.line = second.line ↔
      first.group = second.group ∧ first.subgroup = second.subgroup := by
  have sameLine :
      ((first.candidate 0).group == (second.candidate 0).group &&
          (first.candidate 0).subgroup == (second.candidate 0).subgroup) =
        decide ((first.candidate 0).line = (second.candidate 0).line) :=
    SpellTable.sameLine_iff hasGroup
  rw [Bool.eq_iff_iff] at sameLine
  simp only [Bool.and_eq_true, beq_iff_eq, decide_eq_true_eq] at sameLine
  exact sameLine.symm

/-- With entries for all lines, the synthesized array has different eligible
spells in front and zeros behind them: every eligible spell without a group,
and one spell of every group and subgroup that has an eligible one, with
nothing better in it.  The counts are the number of the spells. -/
theorem synthesized_best
    (table : SpellTable)
    (snapshot : Snapshot)
    (localPlayerLevel localPlayerDeity : UInt32)
    (displayedClassId : UInt8)
    (places :
      (table.lines snapshot localPlayerLevel localPlayerDeity).encard ≤
        kMaxCombatAbilityIndex) :
    ∃ spellIds : List Int32,
      spellIds.length ≤ kMaxCombatAbilityIndex ∧
      synthesizeFromSpellTable table snapshot localPlayerLevel
          localPlayerDeity displayedClassId =
        ⟨spellIds ++
            List.replicate (kMaxCombatAbilityIndex - spellIds.length) 0,
          spellIds.length, spellIds.length⟩ ∧
      spellIds.Nodup ∧
      (∀ spellId ∈ spellIds,
        0 < spellId ∧
          ∃ record,
            record.spellId = spellId ∧
              table.Eligible snapshot localPlayerLevel localPlayerDeity
                record) ∧
      (∀ record,
        table.Eligible snapshot localPlayerLevel localPlayerDeity record →
        ¬ 0 < record.group →
          record.spellId ∈ spellIds) ∧
      ∀ record,
        table.Eligible snapshot localPlayerLevel localPlayerDeity record →
        0 < record.group →
          ∃ best,
            table.Eligible snapshot localPlayerLevel localPlayerDeity
                best ∧
            best.spellId ∈ spellIds ∧
            best.group = record.group ∧
            best.subgroup = record.subgroup ∧
            (∀ other,
              table.Eligible snapshot localPlayerLevel localPlayerDeity
                  other →
              other.group = record.group →
              other.subgroup = record.subgroup →
                (other.spellId ∈ spellIds → other = best) ∧
                  ∀ classId bestClassId,
                    combatAbilityCandidateBetter (other.candidate classId)
                        (best.candidate bestClassId) =
                      false) := by
  have keptEntries :=
    SpellTable.length_kept_le table snapshot localPlayerLevel
      localPlayerDeity displayedClassId
  have positive :
      ∀ candidate ∈
          table.kept snapshot localPlayerLevel localPlayerDeity
            displayedClassId,
        decide (0 < candidate.spellId) = true := by
    intro candidate isKept
    obtain ⟨record, keeps, isCandidate⟩ := SpellTable.keeps_of_kept isKept
    rw [isCandidate]
    exact decide_eq_true keeps.1.positive
  refine
    ⟨(table.kept snapshot localPlayerLevel localPlayerDeity
        displayedClassId).map (·.spellId), ?_, ?_, ?_, ?_, ?_, ?_⟩
  · rw [List.length_map]
    exact keptEntries
  · have written := writeCandidates_eq keptEntries
    rw [List.countP_eq_length.mpr positive] at written
    rw [List.length_map]
    exact written
  · exact SpellTable.nodup_kept_spellIds table snapshot localPlayerLevel
      localPlayerDeity displayedClassId
  · intro spellId isWritten
    obtain ⟨record, rfl, keeps⟩ := SpellTable.mem_kept_spellIds.mp isWritten
    exact ⟨keeps.1.positive, record, rfl, keeps.1⟩
  · intro record eligible noGroup
    obtain ⟨keptRecord, keeps, sameLine⟩ :=
      eligible.exists_keeps places displayedClassId
    have inLine : (keptRecord.candidate 0).line = (record.candidate 0).line :=
      sameLine
    have sameId : keptRecord.spellId = record.spellId :=
      SpellTable.spellId_of_line noGroup inLine
    exact SpellTable.mem_kept_spellIds.mpr ⟨keptRecord, sameId, keeps⟩
  · intro record eligible hasGroup
    obtain ⟨best, keeps, bestLine⟩ :=
      eligible.exists_keeps places displayedClassId
    obtain ⟨sameGroup, sameSubgroup⟩ :=
      (line_eq_of_group hasGroup).mp bestLine
    refine
      ⟨best, keeps.1, SpellTable.mem_kept_spellIds.mpr ⟨best, rfl, keeps⟩,
        sameGroup, sameSubgroup,
        fun other otherEligible otherGroup otherSubgroup => ?_⟩
    have otherLine : other.line = best.line :=
      ((line_eq_of_group hasGroup).mpr ⟨otherGroup, otherSubgroup⟩).trans
        bestLine.symm
    constructor
    · intro isWritten
      obtain ⟨keptRecord, sameId, otherKeeps⟩ :=
        SpellTable.mem_kept_spellIds.mp isWritten
      obtain rfl : keptRecord = other := otherKeeps.1.same otherEligible sameId
      exact otherKeeps.line_inj keeps otherLine
    · exact keeps.maximal places otherEligible otherLine

/-! ## Tables of a few spells -/

/-- The table of some records. -/
def SpellTable.ofRecords
    (records : List CombatAbilitySpellRecord)
    (classLevel : Int32 → UInt32 → Option UInt8) :
    SpellTable where
  record spellId := records.find? fun record => record.spellId = spellId
  classLevel := classLevel

/-- A spell of the table is one of the records. -/
theorem SpellTable.mem_ofRecords
    {records : List CombatAbilitySpellRecord}
    {classLevel : Int32 → UInt32 → Option UInt8}
    {localPlayerLevel localPlayerDeity classId : UInt32}
    {record : CombatAbilitySpellRecord}
    (eligible :
      (SpellTable.ofRecords records classLevel).EligibleFor
        localPlayerLevel localPlayerDeity classId record) :
    record ∈ records :=
  List.mem_of_find?_eq_some eligible.2.1

/-- A table has no more lines than records. -/
theorem SpellTable.lines_ofRecords
    (records : List CombatAbilitySpellRecord)
    (classLevel : Int32 → UInt32 → Option UInt8)
    (snapshot : Snapshot)
    (localPlayerLevel localPlayerDeity : UInt32) :
    ((SpellTable.ofRecords records classLevel).lines snapshot
        localPlayerLevel localPlayerDeity).encard ≤
      records.length := by
  have inRecords :
      (SpellTable.ofRecords records classLevel).lines snapshot
          localPlayerLevel localPlayerDeity ⊆
        (((records.map CombatAbilitySpellRecord.line).toFinset :
          Finset AbilityLine) : Set AbilityLine) := by
    rintro _ ⟨record, ⟨_, _, eligible⟩, rfl⟩
    exact Finset.mem_coe.mpr (List.mem_toFinset.mpr
      (List.mem_map_of_mem (mem_ofRecords eligible)))
  refine (Set.encard_le_encard inRecords).trans ?_
  rw [Set.encard_coe_eq_coe_finsetCard]
  refine Nat.cast_le.mpr ?_
  exact (List.toFinset_card_le _).trans (by rw [List.length_map])

/-- A discipline without a group, and two ranks of a skill attack. -/
def someRecords : List CombatAbilitySpellRecord :=
  [⟨4501, 27, 0, 1, 0, 0, 0, 0, true⟩, ⟨5001, 166, 0, 1, 90, 1, 1, 0, true⟩,
    ⟨5002, 166, 0, 1, 90, 1, 2, 0, true⟩]

/-- A mask with the warrior and the cleric. -/
def warriorAndCleric : Snapshot :=
  { Globals.initial with classesBitmask := ⟨true, 3⟩ }

theorem synthesized_best_of_records :
    ∃ spellIds : List Int32,
      4501 ∈ spellIds ∧
        synthesizeFromSpellTable
            (SpellTable.ofRecords someRecords fun _ _ => some 20)
            warriorAndCleric 60 0 1 =
          ⟨spellIds ++ List.replicate (300 - spellIds.length) 0,
            spellIds.length, spellIds.length⟩ := by
  have places :
      ((SpellTable.ofRecords someRecords fun _ _ => some 20).lines
          warriorAndCleric 60 0).encard ≤
        kMaxCombatAbilityIndex :=
    (SpellTable.lines_ofRecords someRecords _ _ _ _).trans
      (Nat.cast_le.mpr (by decide))
  obtain ⟨spellIds, _, isWritten, _, _, ungrouped, _⟩ :=
    synthesized_best
      (SpellTable.ofRecords someRecords fun _ _ => some 20)
      warriorAndCleric 60 0 1 places
  have eligible :
      (SpellTable.ofRecords someRecords fun _ _ => some 20).Eligible
        warriorAndCleric 60 0 ⟨4501, 27, 0, 1, 0, 0, 0, 0, true⟩ :=
    ⟨1, ⟨rfl, by decide, by decide⟩,
      mem_spellIds.mpr ⟨by decide, by decide⟩, by decide, by decide⟩
  exact ⟨spellIds, ungrouped _ eligible (by decide), isWritten⟩

end MonomythClient.CombatAbility
