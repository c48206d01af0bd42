import MonomythClient.CombatAbilitySynthesis
import MonomythClient.Contests

namespace MonomythClient.CombatAbility

open MulticlassIdentity LocalPlayer AuthoritativeEvaluators ServerAuthStats
open ProtectedMemory KeyedList Contests Runs

/-!
# Synthesis from a spell table

What the synthesis reads of the spells is a table: a record for an id, and the
level at which a class may use it.  Over a table the two loops are a contest of
the spells that some assigned class can use, with a line for each group and
subgroup and a line of its own for each spell without a group.
-/

/-- The records and class levels of the spells, as far as they can be read. -/
structure SpellTable where
  record : Int32 → Option CombatAbilitySpellRecord
  classLevel : Int32 → UInt32 → Option UInt8

/-- The table in the game's memory. -/
def spellTable (moduleBase : UInt32) (memory : Memory) : SpellTable where
  record := tryReadCombatAbilitySpellRecord moduleBase memory
  classLevel := tryReadSpellClassLevel moduleBase memory

/-- The ids that the loop over the spells goes through. -/
def spellIds : List Int32 :=
  (List.range' 1 (kTotalSpellCount - 1)).map Int32.ofNat

namespace SpellTable

section Scan

variable
  (table : SpellTable)
  (snapshot : Snapshot)
  (localPlayerLevel localPlayerDeity : UInt32)

/-- `IsCombatAbilitySpellEligibleForClass`, on a table. -/
def eligibleForClass
    (record : CombatAbilitySpellRecord)
    (classId : UInt32) :
    Bool :=
  record.isSkill &&
    (isCombatAbilitySpellCategory record.category ||
      decide (0 < record.enduranceCost) ||
      decide (0 < record.reuseTimerIndex)) &&
    (record.deity == 0 || record.deity.toUInt32 == localPlayerDeity) &&
    (table.classLevel record.spellId classId).any
      fun classLevel =>
        classLevel != kSpellLevelUnavailable &&
          decide (classLevel.toUInt32 ≤ localPlayerLevel)

/-- The candidate that a spell is for a class. -/
def candidate
    (classId : UInt32)
    (spellId : Int32) :
    Option CombatAbilityCandidate :=
  match table.record spellId with
  | none => none
  | some record =>
      if record.spellId = spellId ∧
          table.eligibleForClass localPlayerLevel localPlayerDeity record
            classId = true then
        some ⟨spellId, record.category, record.group, record.subgroup,
          record.rank, classId⟩
      else
        none

/-- The turn of the loops for one class and one spell. -/
def considerSpell
    (classId : UInt32)
    (found : Candidates)
    (spellId : Int32) :
    Candidates :=
  match table.candidate localPlayerLevel localPlayerDeity classId spellId with
  | none => found
  | some candidate => found.consider candidate

/-- The two loops of `SynthesizeCombatAbilityArrayFromSpellbook`. -/
def scan (displayedClassId : UInt8) : Candidates :=
  (buildAuthoritativeCombatAbilityClassOrder snapshot
      displayedClassId.toUInt32).foldl
    (fun found classId =>
      spellIds.foldl
        (table.considerSpell localPlayerLevel localPlayerDeity classId) found)
    ⟨[], []⟩

end Scan

end SpellTable

/-- What the synthesis gives back. -/
structure SynthesizedAbilities where
  combatAbilities : List Int32
  nonzeroEntries : Nat
  count : Nat
deriving DecidableEq, Repr

/-- One candidate written to its place. -/
def writeCandidate
    (written : SynthesizedAbilities)
    (place : CombatAbilityCandidate × Nat) :
    SynthesizedAbilities :=
  { written with
    combatAbilities := written.combatAbilities.set place.2 place.1.spellId
    nonzeroEntries :=
      if 0 < place.1.spellId then
        written.nonzeroEntries + 1
      else
        written.nonzeroEntries }

/-- The loop that writes the candidates into the zeroed array. -/
def writeCandidates
    (candidates : List CombatAbilityCandidate) :
    SynthesizedAbilities :=
  (candidates.take kMaxCombatAbilityIndex).zipIdx.foldl writeCandidate
    ⟨List.replicate kMaxCombatAbilityIndex 0, 0, candidates.length⟩

/-- `SynthesizeCombatAbilityArrayFromSpellbook` from the spell table on: what it
gives back for a class mask, a level, a deity and a displayed class. -/
def synthesizeFromSpellTable
    (table : SpellTable)
    (snapshot : Snapshot)
    (localPlayerLevel localPlayerDeity : UInt32)
    (displayedClassId : UInt8) :
    SynthesizedAbilities :=
  writeCandidates
    (table.scan snapshot localPlayerLevel localPlayerDeity
      displayedClassId).candidates

/-! ## The table of the game's memory -/

@[simp] theorem spellTable_record
    (moduleBase : UInt32)
    (memory : Memory) :
    (spellTable moduleBase memory).record =
      tryReadCombatAbilitySpellRecord moduleBase memory := rfl

@[simp] theorem eligibleForClass_spellTable
    (moduleBase : UInt32)
    (memory : Memory)
    (localPlayerLevel localPlayerDeity : UInt32)
    (record : CombatAbilitySpellRecord)
    (classId : UInt32) :
    (spellTable moduleBase memory).eligibleForClass localPlayerLevel
        localPlayerDeity record classId =
      isCombatAbilitySpellEligibleForClass moduleBase memory record classId
        localPlayerLevel localPlayerDeity := rfl

/-- A record that was read is for the id it was looked up by. -/
theorem record_spellId
    {moduleBase : UInt32}
    {memory : Memory}
    {spellId : Int32}
    {record : CombatAbilitySpellRecord}
    (isRecord :
      tryReadCombatAbilitySpellRecord moduleBase memory spellId =
        some record) :
    record.spellId = spellId := by
  simp only [tryReadCombatAbilitySpellRecord, bind, pure,
    Option.bind_eq_some_iff, Option.guard_eq_some', Option.some.injEq]
    at isRecord
  obtain ⟨spell, _, readSpellId, _, category, _, enduranceCost, _,
    reuseTimerIndex, _, group, _, subgroup, _, rank, _, deity, _, isSkill, _,
    _, sameId, rfl⟩ := isRecord
  exact sameId

/-- A spell is considered as the table of the memory has it. -/
theorem considerSpell_spellTable
    (moduleBase : UInt32)
    (memory : Memory)
    (localPlayerLevel localPlayerDeity classId : UInt32)
    (found : Candidates)
    (spellId : Int32) :
    (spellTable moduleBase memory).considerSpell localPlayerLevel
        localPlayerDeity classId found spellId =
      CombatAbility.considerSpell moduleBase memory localPlayerLevel
        localPlayerDeity classId found spellId := by
  rw [SpellTable.considerSpell, SpellTable.candidate, spellTable_record,
    CombatAbility.considerSpell]
  cases isRecord :
      tryReadCombatAbilitySpellRecord moduleBase memory spellId with
  | none =>
      rfl
  | some record =>
      simp only [record_spellId isRecord, eligibleForClass_spellTable,
        true_and]
      cases isCombatAbilitySpellEligibleForClass moduleBase memory record
          classId localPlayerLevel localPlayerDeity with
      | true =>
          rfl
      | false =>
          rfl

/-- Without a learned discipline, the synthesis is the one from the table in
the game's memory. -/
theorem synthesize_spellTable
    {moduleBase localPlayerLevel localPlayerDeity : UInt32}
    {memory : Memory}
    {snapshot : Snapshot}
    (level :
      tryReadLocalPlayerLevel moduleBase memory = some localPlayerLevel)
    (deity :
      tryReadLocalPlayerDeity moduleBase memory = some localPlayerDeity)
    (noDiscipline :
      ((trySnapshotLocalLearnedDisciplines moduleBase memory).getD []).any
        (0 < ·) = false)
    (spellManager :
      (tryResolveClientSpellManager moduleBase memory).isSome = true) :
    synthesizeCombatAbilityArrayFromSpellbook moduleBase snapshot memory =
      ((spellTable moduleBase memory).scan snapshot localPlayerLevel
        localPlayerDeity
        ((tryReadLocalPlayerDisplayedClassId moduleBase memory).getD
          0)).candidates.map (·.spellId) := by
  have sameTurn :
      (spellTable moduleBase memory).considerSpell localPlayerLevel
          localPlayerDeity =
        CombatAbility.considerSpell moduleBase memory localPlayerLevel
          localPlayerDeity := by
    funext classId found spellId
    exact considerSpell_spellTable moduleBase memory localPlayerLevel
      localPlayerDeity classId found spellId
  have hasManager :
      (tryResolveClientSpellManager moduleBase memory).isNone = false := by
    rw [Option.isNone_eq_false_iff]
    exact spellManager
  rw [synthesizeCombatAbilityArrayFromSpellbook, SpellTable.scan, sameTurn]
  split
  next invalid =>
    rw [buildAuthoritativeCombatAbilityClassOrder, if_pos invalid]
    rfl
  next =>
    rw [level, deity]
    dsimp only
    rw [noDiscipline, hasManager]
    rfl

end MonomythClient.CombatAbility
