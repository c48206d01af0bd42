import MonomythClient.AuthoritativeEvaluators
import MonomythClient.LearnedDisciplines
import MonomythClient.Runs

namespace MonomythClient.CombatAbility

open MulticlassIdentity LocalPlayer AuthoritativeEvaluators ServerAuthStats
open ProtectedMemory LittleEndian LearnedDisciplines

/-!
# Synthesized combat abilities

Without a usable source for the player's combat abilities they are collected
from what the game has in memory: the learned disciplines, or else the spells
that some assigned class can use.  Spells of one group keep the best of them.

Of the counters that are only logged none is kept.
-/

/-! ## Places -/

def kPcProfileLevelOffset : UInt32 := 0x3388
def kPcProfileDeityOffset : UInt32 := 0x88e4
def kPcProfileDisciplineCountOffset : UInt32 := 0x5120
def kPcProfileDisciplinesOffset : UInt32 := 0x5124
def kSpellManagerInstanceGlobalRva : UInt32 := 0x00e646b0
def kClientSpellManagerSpellsOffset : UInt32 := 0x2c180
def kSpellDeityOffset : UInt32 := 0x15c
def kSpellIdOffset : UInt32 := 0x174
def kSpellCategoryOffset : UInt32 := 0x17c
def kSpellEnduranceCostOffset : UInt32 := 0x194
def kSpellReuseTimerIndexOffset : UInt32 := 0x198
def kSpellGroupOffset : UInt32 := 0x1d4
def kSpellSubGroupOffset : UInt32 := 0x1d8
def kSpellRankOffset : UInt32 := 0x1dc
def kSpellIsSkillOffset : UInt32 := 0x244
def kSpellClassLevelOffset : UInt32 := 0x246

def kTotalSpellCount : Nat := 45001
def kMaxLearnedDisciplineIndex : Nat := 200
def kSpellLevelUnavailable : UInt8 := 255
def kSpellCategoryCombatAbilities : Int32 := 15
def kSpellCategoryDisciplines : Int32 := 27
def kSpellCategorySkillAttacks : Int32 := 166

/-! ## The local profile -/

section Profile

variable (moduleBase : UInt32) (memory : Memory)

/-- A word of the local profile. -/
def tryReadProfileWord (offset : UInt32) : Option UInt32 := do
  let (profile, _) ← tryResolveLocalProfileClassStorage moduleBase memory
  memory.readWord (profile + offset)

/-- `TryReadLocalPlayerLevel`. -/
def tryReadLocalPlayerLevel : Option UInt32 :=
  tryReadProfileWord moduleBase memory kPcProfileLevelOffset

/-- `TryReadLocalPlayerDeity`. -/
def tryReadLocalPlayerDeity : Option UInt32 :=
  tryReadProfileWord moduleBase memory kPcProfileDeityOffset

/-- The `int`s of an array that was copied byte by byte. -/
def entries : List UInt8 → List Int32
  | byte0 :: byte1 :: byte2 :: byte3 :: later =>
      (word32 byte0 byte1 byte2 byte3).toInt32 :: entries later
  | _ => []

/-- `TrySnapshotLocalLearnedDisciplines`.  The count of the disciplines has to
be readable, but says nothing about the array. -/
def trySnapshotLocalLearnedDisciplines : Option (List Int32) := do
  let (profile, _) ← tryResolveLocalProfileClassStorage moduleBase memory
  let _ ← memory.readWord (profile + kPcProfileDisciplineCountOffset)
  let copied ←
    memory.read (profile + kPcProfileDisciplinesOffset)
      (4 * kMaxLearnedDisciplineIndex)
  return entries copied

/-! ## Spells -/

/-- `LooksLikeSpellManagerObject`. -/
def looksLikeSpellManagerObject (candidate : UInt32) : Bool :=
  (looksLikeEqgameObject memory moduleBase candidate).isSome

/-- `TryResolveClientSpellManager`. -/
def tryResolveClientSpellManager : Option UInt32 := do
  guard (moduleBase ≠ 0)
  let globalAddress := moduleBase + kSpellManagerInstanceGlobalRva
  ((memory.readWord globalAddress).filter
      (looksLikeSpellManagerObject moduleBase memory)).or
    ((some globalAddress).filter
      (looksLikeSpellManagerObject moduleBase memory))

/-- `TryReadSpellPointerById`. -/
def tryReadSpellPointerById (spellId : Int32) : Option UInt32 := do
  guard (0 < spellId ∧ spellId < Int32.ofNat kTotalSpellCount)
  let spellManager ← tryResolveClientSpellManager moduleBase memory
  memory.readWord
    (spellManager + kClientSpellManagerSpellsOffset + spellId.toUInt32 * 4)

/-- `CombatAbilitySpellRecord`. -/
structure CombatAbilitySpellRecord where
  spellId : Int32
  category : Int32
  enduranceCost : Int32
  reuseTimerIndex : Int32
  group : Int32
  subgroup : Int32
  rank : Int32
  deity : Int32
  isSkill : Bool
deriving DecidableEq, Repr

/-- `TryReadCombatAbilitySpellRecord`. -/
def tryReadCombatAbilitySpellRecord
    (spellId : Int32) :
    Option CombatAbilitySpellRecord := do
  let spell ← nonNull (tryReadSpellPointerById moduleBase memory spellId)
  let readSpellId ← memory.readWord (spell + kSpellIdOffset)
  let category ← memory.readWord (spell + kSpellCategoryOffset)
  let enduranceCost ← memory.readWord (spell + kSpellEnduranceCostOffset)
  let reuseTimerIndex ← memory.readWord (spell + kSpellReuseTimerIndexOffset)
  let group ← memory.readWord (spell + kSpellGroupOffset)
  let subgroup ← memory.readWord (spell + kSpellSubGroupOffset)
  let rank ← memory.readWord (spell + kSpellRankOffset)
  let deity ← memory.readWord (spell + kSpellDeityOffset)
  let isSkill ← memory.readByte (spell + kSpellIsSkillOffset)
  guard (readSpellId.toInt32 = spellId)
  return {
    spellId := readSpellId.toInt32
    category := category.toInt32
    enduranceCost := enduranceCost.toInt32
    reuseTimerIndex := reuseTimerIndex.toInt32
    group := group.toInt32
    subgroup := subgroup.toInt32
    rank := rank.toInt32
    deity := deity.toInt32
    isSkill := isSkill != 0 }

/-- `TryReadSpellClassLevel`. -/
def tryReadSpellClassLevel
    (spellId : Int32)
    (classId : UInt32) :
    Option UInt8 := do
  guard (isPlayableClassId classId)
  let spell ← nonNull (tryReadSpellPointerById moduleBase memory spellId)
  memory.readByte (spell + kSpellClassLevelOffset + classId)

/-- `IsCombatAbilitySpellCategory`. -/
def isCombatAbilitySpellCategory (category : Int32) : Bool :=
  category == kSpellCategoryCombatAbilities ||
    category == kSpellCategoryDisciplines ||
    category == kSpellCategorySkillAttacks

/-- `IsCombatAbilitySpellEligibleForClass`. -/
def isCombatAbilitySpellEligibleForClass
    (record : CombatAbilitySpellRecord)
    (classId localPlayerLevel localPlayerDeity : UInt32) :
    Bool :=
  record.isSkill &&
    (isCombatAbilitySpellCategory record.category ||
      decide (0 < record.enduranceCost) ||
      decide (0 < record.reuseTimerIndex)) &&
    (record.deity == 0 || record.deity.toUInt32 == localPlayerDeity) &&
    (tryReadSpellClassLevel moduleBase memory record.spellId classId).any
      fun classLevel =>
        classLevel != kSpellLevelUnavailable &&
          decide (classLevel.toUInt32 ≤ localPlayerLevel)

end Profile

/-! ## Candidates -/

/-- `CombatAbilityCandidate`. -/
structure CombatAbilityCandidate where
  spellId : Int32
  category : Int32
  group : Int32
  subgroup : Int32
  rank : Int32
  sourceClassId : UInt32
deriving DecidableEq, Repr

/-- `CombatAbilityCandidateBetter`. -/
def combatAbilityCandidateBetter
    (candidate current : CombatAbilityCandidate) :
    Bool :=
  if candidate.rank ≠ current.rank then
    decide (current.rank < candidate.rank)
  else if candidate.category ≠ current.category then
    candidate.category == kSpellCategoryDisciplines
  else
    decide (current.spellId < candidate.spellId)

/-- The candidates so far, and the spells among which they were chosen. -/
structure Candidates where
  candidates : List CombatAbilityCandidate
  seenSpellIds : List Int32
deriving DecidableEq, Repr

/-- A candidate behind the others, if there is room. -/
def Candidates.push
    (found : Candidates)
    (candidate : CombatAbilityCandidate) :
    Candidates :=
  if found.candidates.length < kMaxCombatAbilityIndex then
    ⟨found.candidates ++ [candidate],
      candidate.spellId :: found.seenSpellIds⟩
  else
    found

/-- A spell of a group competes with the candidate of its group, any other
spell is taken once. -/
def Candidates.consider
    (found : Candidates)
    (candidate : CombatAbilityCandidate) :
    Candidates :=
  if 0 < candidate.group then
    match found.candidates.findIdx? fun existing =>
        existing.group == candidate.group &&
          existing.subgroup == candidate.subgroup with
    | some index =>
        { found with
          candidates :=
            found.candidates.modify index fun existing =>
              if combatAbilityCandidateBetter candidate existing then
                candidate
              else
                existing }
    | none => found.push candidate
  else if found.seenSpellIds.contains candidate.spellId then
    found
  else
    found.push candidate

/-- The turn of the loops for one class and one spell. -/
def considerSpell
    (moduleBase : UInt32)
    (memory : Memory)
    (localPlayerLevel localPlayerDeity classId : UInt32)
    (found : Candidates)
    (spellId : Int32) :
    Candidates :=
  match tryReadCombatAbilitySpellRecord moduleBase memory spellId with
  | none => found
  | some record =>
      if isCombatAbilitySpellEligibleForClass moduleBase memory record
          classId localPlayerLevel localPlayerDeity then
        found.consider
          ⟨spellId, record.category, record.group, record.subgroup,
            record.rank, classId⟩
      else
        found

/-! ## The abilities -/

/-- What `BuildCombatAbilityArrayFromLearnedDisciplines` writes to the array of
abilities, in front of the zeros. -/
def learnedAbilities (learnedDisciplines : List Int32) : List Int32 :=
  ((buildCombatAbilityArrayFromLearnedDisciplines learnedDisciplines
      (List.replicate kMaxCombatAbilityIndex 0)).map fun built =>
    built.combatAbilities.take built.written).getD []

/-- `SynthesizeCombatAbilityArrayFromSpellbook`: the entries it fills in front
of the zeros. -/
def synthesizeCombatAbilityArrayFromSpellbook
    (moduleBase : UInt32)
    (snapshot : Snapshot)
    (memory : Memory) :
    List Int32 :=
  if !snapshot.classesBitmask.has || snapshot.classesBitmask.value == 0 ||
      !isPlayableClassMask snapshot.classesBitmask.value then
    []
  else
    match tryReadLocalPlayerLevel moduleBase memory,
        tryReadLocalPlayerDeity moduleBase memory with
    | some localPlayerLevel, some localPlayerDeity =>
        let learnedDisciplines :=
          (trySnapshotLocalLearnedDisciplines moduleBase memory).getD []
        if learnedDisciplines.any (0 < ·) then
          learnedAbilities learnedDisciplines
        else if (tryResolveClientSpellManager moduleBase memory).isNone then
          []
        else
          let displayedClassId :=
            (tryReadLocalPlayerDisplayedClassId moduleBase memory).getD 0
          let classOrder :=
            buildAuthoritativeCombatAbilityClassOrder snapshot
              displayedClassId.toUInt32
          let found :=
            classOrder.foldl
              (fun found classId =>
                ((List.range' 1 (kTotalSpellCount - 1)).map Int32.ofNat).foldl
                  (considerSpell moduleBase memory localPlayerLevel
                    localPlayerDeity classId)
                  found)
              ⟨[], []⟩
          found.candidates.map (·.spellId)
    | _, _ => []

/-! ## There is room for all of them -/

/-- The learned abilities are the positive ids, as many as fit. -/
theorem learnedAbilities_eq (learnedDisciplines : List Int32) :
    learnedAbilities learnedDisciplines =
      (positiveIds learnedDisciplines).take kMaxCombatAbilityIndex := by
  rw [learnedAbilities, buildCombatAbilityArray_eq, Option.map_some,
    Option.getD_some, filled, List.length_replicate]
  exact List.take_left' rfl

theorem learnedAbilities_length (learnedDisciplines : List Int32) :
    (learnedAbilities learnedDisciplines).length ≤
      kMaxCombatAbilityIndex := by
  rw [learnedAbilities_eq, List.length_take]
  exact Nat.min_le_left _ _

/-- There are no more candidates than entries. -/
def Candidates.Fit (found : Candidates) : Prop :=
  found.candidates.length ≤ kMaxCombatAbilityIndex

theorem Candidates.fit_consider
    {found : Candidates}
    (fits : found.Fit)
    (candidate : CombatAbilityCandidate) :
    (found.consider candidate).Fit := by
  have pushed : (found.push candidate).Fit := by
    unfold push
    split
    · rename_i room
      rw [Fit, List.length_append]
      exact room
    · exact fits
  unfold consider
  split
  · split
    · rw [Fit, List.length_modify]
      exact fits
    · exact pushed
  · split
    · exact fits
    · exact pushed

theorem fit_considerSpell
    {moduleBase : UInt32}
    {memory : Memory}
    {localPlayerLevel localPlayerDeity classId : UInt32}
    (found : Candidates)
    (spellId : Int32)
    (fits : found.Fit) :
    (considerSpell moduleBase memory localPlayerLevel localPlayerDeity
      classId found spellId).Fit := by
  unfold considerSpell
  split
  · exact fits
  · split
    · exact Candidates.fit_consider fits _
    · exact fits

/-- The synthesized abilities fit into the array. -/
theorem synthesize_length
    (moduleBase : UInt32)
    (snapshot : Snapshot)
    (memory : Memory) :
    (synthesizeCombatAbilityArrayFromSpellbook moduleBase snapshot
      memory).length ≤ kMaxCombatAbilityIndex := by
  unfold synthesizeCombatAbilityArrayFromSpellbook
  split
  · exact Nat.zero_le _
  · split
    · rename_i localPlayerLevel localPlayerDeity _ _
      dsimp only
      split
      · exact learnedAbilities_length _
      · split
        · exact Nat.zero_le _
        · rw [List.length_map]
          have oneClass :
              ∀ (found : Candidates) (classId : UInt32), found.Fit →
                (((List.range' 1 (kTotalSpellCount - 1)).map
                  Int32.ofNat).foldl
                  (considerSpell moduleBase memory localPlayerLevel
                    localPlayerDeity classId) found).Fit :=
            fun _ _ fits => Runs.invariant fit_considerSpell fits _
          exact Runs.invariant oneClass (Nat.zero_le _) _
    · exact Nat.zero_le _

end MonomythClient.CombatAbility
