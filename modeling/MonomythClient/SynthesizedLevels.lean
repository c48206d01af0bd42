import MonomythClient.SynthesizedBest

namespace MonomythClient.CombatAbility

open MulticlassIdentity AuthoritativeEvaluators ServerAuthStats

/-!
# Usable levels of synthesized spells

The selection of a spell's level takes neither 0 nor 255 for a level, the
synthesis excludes only 255.  So a spell that no assigned class can use may be
synthesized by a class level of 0, and only by that.
-/

/-- `IsValidRequiredLevel`. -/
def isValidRequiredLevel (level : UInt8) : Bool :=
  level != 0 && level != 255

/-- A class level of some assigned class is a usable one, and within the
player's. -/
def HasUsableLevel
    (snapshot : Snapshot)
    (localPlayerLevel : UInt32)
    (classLevel : UInt32 → Option UInt8) :
    Prop :=
  ∃ classId level,
    Assigned snapshot classId ∧
      classLevel classId = some level ∧
        isValidRequiredLevel level = true ∧
          level.toUInt32 ≤ localPlayerLevel

/-- What the synthesis asks of a spell, whatever the class. -/
def CombatAbilitySpellRecord.isCombatAbility
    (record : CombatAbilitySpellRecord)
    (localPlayerDeity : UInt32) :
    Bool :=
  record.isSkill &&
    (isCombatAbilitySpellCategory record.category ||
      decide (0 < record.enduranceCost) ||
      decide (0 < record.reuseTimerIndex)) &&
    (record.deity == 0 || record.deity.toUInt32 == localPlayerDeity)

/-- When a class can use a spell, in the eyes of the synthesis. -/
theorem SpellTable.eligibleForClass_iff
    {table : SpellTable}
    {localPlayerLevel localPlayerDeity classId : UInt32}
    {record : CombatAbilitySpellRecord} :
    table.eligibleForClass localPlayerLevel localPlayerDeity record classId =
        true ↔
      record.isCombatAbility localPlayerDeity = true ∧
        ∃ level,
          table.classLevel record.spellId classId = some level ∧
            level ≠ 255 ∧ level.toUInt32 ≤ localPlayerLevel := by
  rw [eligibleForClass, Bool.and_eq_true, Option.any_eq_true]
  simp [CombatAbilitySpellRecord.isCombatAbility, kSpellLevelUnavailable]

/-- A spell that is alone in its table is synthesized if it is eligible. -/
theorem synthesized_alone
    {record : CombatAbilitySpellRecord}
    {classLevel : Int32 → UInt32 → Option UInt8}
    {snapshot : Snapshot}
    {localPlayerLevel localPlayerDeity : UInt32}
    (eligible :
      (SpellTable.ofRecords [record] classLevel).Eligible snapshot
        localPlayerLevel localPlayerDeity record)
    (displayedClassId : UInt8) :
    record.spellId ∈
      (synthesizeFromSpellTable (SpellTable.ofRecords [record] classLevel)
        snapshot localPlayerLevel localPlayerDeity
        displayedClassId).combatAbilities := by
  have places :
      ((SpellTable.ofRecords [record] classLevel).lines snapshot
          localPlayerLevel localPlayerDeity).encard ≤
        kMaxCombatAbilityIndex := by
    refine (SpellTable.lines_ofRecords [record] _ _ _ _).trans ?_
    rw [List.length_singleton]
    exact Nat.cast_le.mpr (by decide)
  obtain ⟨kept, keeps, _⟩ := eligible.exists_keeps places displayedClassId
  obtain ⟨_, _, inTable⟩ := keeps.1
  obtain rfl : kept = record :=
    List.mem_singleton.mp (SpellTable.mem_ofRecords inTable)
  exact
    (SpellTable.mem_synthesized_iff eligible.positive).mpr ⟨kept, rfl, keeps⟩

/-- A spell is synthesized only with a usable level of some assigned class,
whatever the other spells, exactly when it has such a level or, if it is a
combat ability at all, no assigned class has the level 0 for it. -/
theorem synthesized_usable_iff
    (record : CombatAbilitySpellRecord)
    (classLevel : UInt32 → Option UInt8)
    (snapshot : Snapshot)
    (localPlayerLevel localPlayerDeity : UInt32) :
    (∀ table displayedClassId,
      table.record record.spellId = some record →
      table.classLevel record.spellId = classLevel →
      0 < record.spellId →
      record.spellId ∈
        (synthesizeFromSpellTable table snapshot localPlayerLevel
          localPlayerDeity displayedClassId).combatAbilities →
        HasUsableLevel snapshot localPlayerLevel classLevel) ↔
      HasUsableLevel snapshot localPlayerLevel classLevel ∨
        ¬ (record.spellId ∈ spellIds ∧
          record.isCombatAbility localPlayerDeity = true ∧
            ∃ classId,
              Assigned snapshot classId ∧ classLevel classId = some 0) := by
  constructor
  · intro onlyUsable
    refine Classical.or_iff_not_imp_left.mpr ?_
    rintro notUsable ⟨isId, isAbility, classId, assigned, isZero⟩
    have eligible :
        (SpellTable.ofRecords [record] fun _ => classLevel).Eligible snapshot
          localPlayerLevel localPlayerDeity record := by
      refine ⟨classId, assigned, isId, ?_, ?_⟩
      · simp [SpellTable.ofRecords]
      · exact SpellTable.eligibleForClass_iff.mpr
          ⟨isAbility, 0, isZero, by decide, UInt32.zero_le⟩
    refine notUsable
      (onlyUsable (SpellTable.ofRecords [record] fun _ => classLevel) 0
        ?_ rfl (mem_spellIds.mp isId).1 (synthesized_alone eligible 0))
    simp [SpellTable.ofRecords]
  · intro holds table displayedClassId isRecord isLevel positive isWritten
    obtain ⟨kept, sameId, ⟨classId, assigned, isId, keptRecord, canUse⟩, _⟩ :=
      (SpellTable.mem_synthesized_iff positive).mp isWritten
    rw [sameId, isRecord] at keptRecord
    obtain rfl := Option.some.inj keptRecord
    obtain ⟨isAbility, level, levelRead, notUnavailable, within⟩ :=
      SpellTable.eligibleForClass_iff.mp canUse
    rw [isLevel] at levelRead
    rcases holds with usable | noZero
    · exact usable
    · by_cases isZero : level = 0
      · subst isZero
        exact absurd ⟨isId, isAbility, classId, assigned, levelRead⟩ noZero
      · refine ⟨classId, level, assigned, levelRead, ?_, within⟩
        simp [isValidRequiredLevel, isZero, notUnavailable]

/-- A combat ability with the level 0 for the warrior, and no other class. -/
def zeroLevelRecord : CombatAbilitySpellRecord :=
  ⟨4501, 27, 0, 1, 0, 0, 0, 0, true⟩

/-- It is synthesized for a warrior, though no level of it is usable. -/
theorem zero_level_synthesized :
    4501 ∈
        (synthesizeFromSpellTable
          (SpellTable.ofRecords [zeroLevelRecord] fun _ classId =>
            if classId = 1 then some 0 else some 255)
          warriorAndCleric 60 0 1).combatAbilities ∧
      ¬ HasUsableLevel warriorAndCleric 60 fun classId =>
          if classId = 1 then some 0 else some 255 := by
  constructor
  · have eligible :
        (SpellTable.ofRecords [zeroLevelRecord] fun _ classId =>
          if classId = 1 then some 0 else some 255).Eligible
            warriorAndCleric 60 0 zeroLevelRecord :=
      ⟨1, ⟨rfl, by decide, by decide⟩,
        mem_spellIds.mpr ⟨by decide, by decide⟩, by decide, by decide⟩
    exact synthesized_alone eligible 1
  · rintro ⟨classId, level, _, isLevel, isValid, _⟩
    dsimp only at isLevel
    split at isLevel
    · obtain rfl := Option.some.inj isLevel
      exact absurd isValid (by decide)
    · obtain rfl := Option.some.inj isLevel
      exact absurd isValid (by decide)

end MonomythClient.CombatAbility
