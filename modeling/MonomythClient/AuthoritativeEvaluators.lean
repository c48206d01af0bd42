import Mathlib.Data.UInt
import MonomythClient.ServerAuthStatsSnapshot
import MonomythClient.TemporaryClassOverride

namespace MonomythClient.AuthoritativeEvaluators

open MulticlassIdentity LocalPlayer TemporaryClassOverride ServerAuthStats
open ProtectedMemory LittleEndian

/-!
# Asking for the best of the assigned classes

An evaluator calls one of the game's functions once for each class of the
player, under a temporary class override, and keeps the best answer.

The game's functions are parameters.  A call may do anything to the memory and
answers with a number or faults; a fault is caught around each call.  `int`
results are 32-bit.  The class that an evaluator reports and its trace are
returned, as if the caller asked for both.
-/

/-! ## Calls -/

/-- What a call of a game function leaves.  There is no result after a fault.
`rewritten` says of the overrides made during the call that each field which
was written could be written again when it was restored. -/
structure Called where
  result : Option Int32
  memory : Memory
  rewritten : Bool

/-- A game function with its arguments. -/
abbrev Native : Type :=
  Memory → Called

/-- The game functions that are wrapped. -/
inductive Routine where
  | maxMana
  | manaRegen
  | curMana
  | adjustedSkill
  | skillsWindowSkillValue
  | combatAbility
deriving DecidableEq, Repr

/-- The function an evaluator calls for each class; none when its original is
a null pointer. -/
abbrev Natives : Type :=
  Routine → Option (UInt32 → Native)

/-! ## One class -/

/-- A call under an override, if that could be applied. -/
structure Probe where
  overrideApplied : Bool
  called : Called

/-- The loop body the evaluators share: override, call, restore. -/
def probe
    (moduleBase : UInt32)
    (native : Native)
    (classId : UInt32)
    (memory : Memory) :
    Probe :=
  let applied :=
    tryApplyTemporaryLocalClassOverride moduleBase classId.toUInt8 memory
  if applied.1.active then
    let called := native applied.2
    { overrideApplied := true
      called :=
        { result := called.result
          memory :=
            restoreTemporaryLocalClassOverride applied.1 called.memory
          rewritten :=
            called.rewritten &&
              applied.1.rewritten memory called.memory } }
  else
    { overrideApplied := false
      called := { result := none, memory := applied.2, rewritten := true } }

/-! ## The best of several classes -/

/-- `PlayerManaCurrentCandidateDebug`. -/
structure PlayerManaCurrentCandidateDebug where
  classId : UInt32
  overrideApplied : Bool
  candidateOk : Bool
  candidateResult : Int32
deriving DecidableEq, Repr

/-- Where the loop over the classes is. -/
structure Best where
  result : Int32
  classId : UInt32
  candidates : List PlayerManaCurrentCandidateDebug
  memory : Memory
  rewritten : Bool

/-- One turn of the loop. -/
def Best.consider
    (moduleBase : UInt32)
    (nativeResult : Int32)
    (native : UInt32 → Native)
    (best : Best)
    (classId : UInt32) :
    Best :=
  let probed := probe moduleBase (native classId) classId best.memory
  let better := probed.called.result.any fun candidate =>
    best.result < candidate
  { result :=
      if better then probed.called.result.getD 0 else best.result
    classId := if better then classId else best.classId
    candidates :=
      best.candidates ++
        [{ classId := classId
           overrideApplied := probed.overrideApplied
           candidateOk := probed.called.result.isSome
           candidateResult :=
             if probed.overrideApplied then
               probed.called.result.getD 0
             else
               nativeResult }]
    memory := probed.called.memory
    rewritten := best.rewritten && probed.called.rewritten }

/-- The loop. -/
def bestOf
    (moduleBase : UInt32)
    (nativeResult : Int32)
    (native : UInt32 → Native)
    (classIds : List UInt32)
    (memory : Memory) :
    Best :=
  classIds.foldl (Best.consider moduleBase nativeResult native)
    ⟨nativeResult, 0, [], memory, true⟩

/-! ## Mana -/

/-- `LocalAuthoritativeCastingContext`. -/
structure LocalAuthoritativeCastingContext where
  eligible : Bool := false
  primaryClassId : UInt8 := 0
  assignedMask : UInt32 := 0
deriving DecidableEq, Repr

/-- The casting classes of a mask, in the order of their ids. -/
def castingClasses (assignedMask : UInt32) : List UInt32 :=
  playableClassIds.filter fun classId =>
    isCastingClassId classId && hasAuthoritativeClass true assignedMask classId

def kLocalCharDataHeroicIntBonusOffset : UInt32 := 0x2e98
def kLocalCharDataHeroicWisBonusOffset : UInt32 := 0x2e9c

/-- The heroic stat behind a bonus field, which holds twice of it. -/
def heroicStat (bonus : UInt32) : Int32 :=
  if 0 < bonus.toInt32 then bonus.toInt32 / 2 else 0

/-- `TryReadLocalHeroicManaBonuses`. -/
def tryReadLocalHeroicManaBonuses
    (moduleBase : UInt32)
    (memory : Memory) :
    Option (Int32 × Int32) := do
  let localCharData ← nonNull (tryReadLocalCharDataPointer moduleBase memory)
  let heroicInt ←
    memory.readWord (localCharData + kLocalCharDataHeroicIntBonusOffset)
  let heroicWis ←
    memory.readWord (localCharData + kLocalCharDataHeroicWisBonusOffset)
  return (heroicStat heroicInt, heroicStat heroicWis)

/-- `HeroicManaAdjustment`, which is there when it is valid. -/
structure HeroicManaAdjustment where
  heroicInt : Int32
  heroicWis : Int32
  assignedHeroicInt : Bool
  assignedHeroicWis : Bool
  selectedHeroicInt : Bool
  selectedHeroicWis : Bool
  maxDelta : Int32
  regenDelta : Int32
deriving DecidableEq, Repr

/-- What a heroic stat adds that the selected class does not count. -/
def heroicDelta
    (assigned selected : Bool)
    (heroic amount : Int32) :
    Int32 :=
  if assigned && !selected && decide (0 < heroic) then amount else 0

/-- `TryBuildHeroicManaAdjustment`. -/
def tryBuildHeroicManaAdjustment
    (moduleBase : UInt32)
    (memory : Memory)
    (context : LocalAuthoritativeCastingContext)
    (selectedClassId : UInt32) :
    Option HeroicManaAdjustment := do
  guard (context.eligible ∧ isPlayableClassMask context.assignedMask ∧
    classMaskUsesClientBaseMana context.assignedMask ∧
    isPlayableClassId selectedClassId)
  let (heroicInt, heroicWis) ← tryReadLocalHeroicManaBonuses moduleBase memory
  let assignedInt := classMaskUsesClientHeroicIntMana context.assignedMask
  let assignedWis := classMaskUsesClientHeroicWisMana context.assignedMask
  let selectedInt := isHeroicIntManaClassId selectedClassId
  let selectedWis := isHeroicWisManaClassId selectedClassId
  return {
    heroicInt := heroicInt
    heroicWis := heroicWis
    assignedHeroicInt := assignedInt
    assignedHeroicWis := assignedWis
    selectedHeroicInt := selectedInt
    selectedHeroicWis := selectedWis
    maxDelta :=
      heroicDelta assignedInt selectedInt heroicInt (heroicInt * 10) +
        heroicDelta assignedWis selectedWis heroicWis (heroicWis * 10)
    regenDelta :=
      heroicDelta assignedInt selectedInt heroicInt (heroicInt / 25) +
        heroicDelta assignedWis selectedWis heroicWis (heroicWis / 25) }

/-- What an evaluator returns.  It reports a class only when it got as far as
its loop. -/
structure Evaluated where
  result : Int32
  bestClassId : Option UInt32
  memory : Memory
  rewritten : Bool

/-- An evaluator that returns the native result at once. -/
def Evaluated.untouched (nativeResult : Int32) (memory : Memory) :
    Evaluated :=
  ⟨nativeResult, none, memory, true⟩

/-- The evaluators of maximal mana and mana regeneration differ in the
function they call and in the part of the heroic adjustment they add. -/
def evaluateBestMana
    (moduleBase : UInt32)
    (native : Option (UInt32 → Native))
    (delta : HeroicManaAdjustment → Int32)
    (nativeResult : Int32)
    (context : LocalAuthoritativeCastingContext)
    (memory : Memory) :
    Evaluated :=
  match context.eligible, native with
  | true, some native =>
      let best :=
        bestOf moduleBase nativeResult native
          (castingClasses context.assignedMask) memory
      let added :=
        ((tryBuildHeroicManaAdjustment moduleBase best.memory context
          best.classId).map delta).getD 0
      ⟨if 0 < added then best.result + added else best.result,
        some best.classId, best.memory, best.rewritten⟩
  | _, _ => .untouched nativeResult memory

/-- `EvaluateBestAuthoritativeMaxMana`. -/
def evaluateBestAuthoritativeMaxMana
    (moduleBase : UInt32)
    (natives : Natives) :
    Int32 → LocalAuthoritativeCastingContext → Memory → Evaluated :=
  evaluateBestMana moduleBase (natives .maxMana) (·.maxDelta)

/-- `EvaluateBestAuthoritativeManaRegen`. -/
def evaluateBestAuthoritativeManaRegen
    (moduleBase : UInt32)
    (natives : Natives) :
    Int32 → LocalAuthoritativeCastingContext → Memory → Evaluated :=
  evaluateBestMana moduleBase (natives .manaRegen) (·.regenDelta)

/-! ## Stored mana -/

def kPcProfileCurrentManaOffset : UInt32 := 0x338c

/-- The current mana of a profile or a class record. -/
def currentManaField (object value : UInt32) : Store :=
  ⟨object + kPcProfileCurrentManaOffset, bytes32 value⟩

/-- The current mana of the local profile, with its address and class. -/
def tryReadProfileMana
    (moduleBase : UInt32)
    (memory : Memory) :
    Option (UInt32 × UInt32 × UInt32) := do
  let (profile, classId) ←
    tryResolveLocalProfileClassStorage moduleBase memory
  let value ← memory.readWord (profile + kPcProfileCurrentManaOffset)
  return (profile, classId, value)

/-- The same of the class record. -/
def tryReadClassRecordMana
    (moduleBase : UInt32)
    (memory : Memory) :
    Option (UInt32 × UInt8 × UInt32) := do
  let (classRecord, classId) ←
    tryResolveLocalCharDataClassRecordStorage moduleBase memory
  let value ← memory.readWord (classRecord + kPcProfileCurrentManaOffset)
  return (classRecord, classId, value)

/-- `TryReadLocalStoredCurrentManaValue`. -/
def tryReadLocalStoredCurrentManaValue
    (moduleBase : UInt32)
    (memory : Memory) :
    Option UInt32 :=
  ((tryReadProfileMana moduleBase memory).map (·.2.2)).or
    ((tryReadClassRecordMana moduleBase memory).map (·.2.2))

/-- `LocalCurrentManaStorageSnapshot`: a copied flag with its address, class
and value is one member. -/
structure LocalCurrentManaStorageSnapshot where
  combined : Option UInt32
  profile : Option (UInt32 × UInt32 × UInt32)
  classRecord : Option (UInt32 × UInt8 × UInt32)
deriving DecidableEq, Repr

/-- `TryReadLocalCurrentManaStorageSnapshot`. -/
def readLocalCurrentManaStorageSnapshot
    (moduleBase : UInt32)
    (memory : Memory) :
    LocalCurrentManaStorageSnapshot where
  combined := tryReadLocalStoredCurrentManaValue moduleBase memory
  profile := tryReadProfileMana moduleBase memory
  classRecord := tryReadClassRecordMana moduleBase memory

/-- `DidLocalCurrentManaStorageSnapshotChange`. -/
def didLocalCurrentManaStorageSnapshotChange
    (before after : LocalCurrentManaStorageSnapshot) :
    Bool :=
  before != after

/-- The fields of a snapshot with the values it has for them. -/
def LocalCurrentManaStorageSnapshot.fields
    (snapshot : LocalCurrentManaStorageSnapshot) :
    List Store :=
  (snapshot.profile.map fun saved =>
      currentManaField saved.1 saved.2.2).toList ++
    (snapshot.classRecord.map fun saved =>
      currentManaField saved.1 saved.2.2).toList

/-- `TryInvokeCharacterZoneClientCurManaPreservingStorage`.  A fault returns
before the fields are compared. -/
def tryInvokeCurManaPreservingStorage
    (moduleBase : UInt32)
    (curMana : Native)
    (memory : Memory) :
    Called :=
  let before := readLocalCurrentManaStorageSnapshot moduleBase memory
  let called := curMana memory
  match called.result with
  | none => called
  | some _ =>
      let after :=
        readLocalCurrentManaStorageSnapshot moduleBase called.memory
      if didLocalCurrentManaStorageSnapshotChange before after then
        { called with memory := called.memory.writeEach before.fields }
      else
        called

def kPlayerManaCurrentCandidateTraceCapacity : Nat := 8

/-- `PlayerManaCurrentResolutionDebug`; stored mana that was copied is one
member with its raw and capped value. -/
structure PlayerManaCurrentResolutionDebug where
  classBestResult : Int32
  classBestClassId : UInt32
  correctedMax : Int32
  correctedMaxClassId : UInt32
  storedCurrent : Option (Int32 × Int32)
  storedCurrentUsed : Bool
  candidates : List PlayerManaCurrentCandidateDebug
deriving DecidableEq, Repr

/-- Stored mana as it is compared: not negative, and not above the maximum if
it is to be capped. -/
def cappedMana (capAtMaxLike correctedMax stored : Int32) : Int32 :=
  let present := if stored < 0 then 0 else stored
  if capAtMaxLike ≠ 0 ∧ 0 < correctedMax ∧ correctedMax < present then
    correctedMax
  else
    present

/-- What `EvaluateBestAuthoritativeCurMana` returns, with its trace. -/
structure CurManaEvaluated extends Evaluated where
  debug : Option PlayerManaCurrentResolutionDebug

/-- `EvaluateBestAuthoritativeCurMana`. -/
def evaluateBestAuthoritativeCurMana
    (moduleBase : UInt32)
    (natives : Natives)
    (capAtMaxLike nativeResult : Int32)
    (context : LocalAuthoritativeCastingContext)
    (memory : Memory) :
    CurManaEvaluated :=
  match context.eligible, natives .curMana with
  | true, some native =>
      let best :=
        bestOf moduleBase nativeResult
          (fun classId =>
            tryInvokeCurManaPreservingStorage moduleBase (native classId))
          (castingClasses context.assignedMask) memory
      let corrected :=
        evaluateBestAuthoritativeMaxMana moduleBase natives 0 context
          best.memory
      let correctedMaxClassId := corrected.bestClassId.getD 0
      let stored :=
        (tryReadLocalStoredCurrentManaValue moduleBase
          corrected.memory).map fun value =>
            (value.toInt32,
              cappedMana capAtMaxLike corrected.result value.toInt32)
      let used := stored.any fun values => best.result < values.2
      { result :=
          if used then (stored.map Prod.snd).getD 0 else best.result
        bestClassId :=
          some (if best.classId = 0 then correctedMaxClassId else best.classId)
        memory := corrected.memory
        rewritten := best.rewritten && corrected.rewritten
        debug := some
          { classBestResult := best.result
            classBestClassId := best.classId
            correctedMax := corrected.result
            correctedMaxClassId := correctedMaxClassId
            storedCurrent := stored
            storedCurrentUsed := used
            candidates :=
              best.candidates.take
                kPlayerManaCurrentCandidateTraceCapacity } }
  | _, _ => { Evaluated.untouched nativeResult memory with debug := none }

/-! ## Skills -/

/-- The evaluators of skills differ in the function they call and in the
object it has to be called for. -/
def evaluateBestSkill
    (moduleBase : UInt32)
    (native : Option (UInt32 → Native))
    (isContext : Memory → UInt32 → Bool)
    (thisContext : UInt32)
    (nativeResult : Int32)
    (snapshot : Snapshot)
    (memory : Memory) :
    Evaluated :=
  match native with
  | none => .untouched nativeResult memory
  | some native =>
      if 0 < nativeResult ∨ ¬ snapshot.classesBitmask.has ∨
          snapshot.classesBitmask.value = 0 ∨
          ¬ isPlayableClassMask snapshot.classesBitmask.value ∨
          ¬ isContext memory thisContext then
        .untouched nativeResult memory
      else
        let best :=
          bestOf moduleBase nativeResult native
            (playableClassIds.filter
              (hasAuthoritativeClass snapshot.classesBitmask.has
                snapshot.classesBitmask.value))
            memory
        ⟨best.result, none, best.memory, best.rewritten⟩

/-- `EvaluateBestAuthoritativeAdjustedSkill`. -/
def evaluateBestAuthoritativeAdjustedSkill
    (moduleBase : UInt32)
    (natives : Natives) :
    UInt32 → Int32 → Snapshot → Memory → Evaluated :=
  evaluateBestSkill moduleBase (natives .adjustedSkill)
    (isLocalPlayerCharacterContext moduleBase)

/-- `EvaluateBestAuthoritativeSkillsWindowSkillValue`. -/
def evaluateBestAuthoritativeSkillsWindowSkillValue
    (moduleBase : UInt32)
    (natives : Natives) :
    UInt32 → Int32 → Snapshot → Memory → Evaluated :=
  evaluateBestSkill moduleBase (natives .skillsWindowSkillValue)
    (isLocalCharDataContext moduleBase)

/-! ## Combat abilities -/

def kMaxCombatAbilityIndex : Nat := 300

/-- `ShouldResolveAuthoritativeCombatAbility`. -/
def shouldResolveAuthoritativeCombatAbility
    (snapshot : Snapshot)
    (abilityIndex nativeResult : Int32) :
    Bool :=
  decide (nativeResult ≤ 0) && decide (0 ≤ abilityIndex) &&
    decide (abilityIndex < Int32.ofNat kMaxCombatAbilityIndex) &&
    snapshot.classesBitmask.has && snapshot.classesBitmask.value != 0 &&
    isPlayableClassMask snapshot.classesBitmask.value

/-- `BuildAuthoritativeCombatAbilityClassOrder`. -/
def buildAuthoritativeCombatAbilityClassOrder
    (snapshot : Snapshot)
    (preferredClassId : UInt32) :
    List UInt32 :=
  if !snapshot.classesBitmask.has || snapshot.classesBitmask.value == 0 ||
      !isPlayableClassMask snapshot.classesBitmask.value then
    []
  else
    buildOrderedClassIdList
      (if hasClass snapshot.classesBitmask.value preferredClassId then
        preferredClassId
      else
        0)
      snapshot.classesBitmask.has snapshot.classesBitmask.value

/-- What `EvaluateBestAuthoritativeCombatAbility` returns.  The results are
those of the classes it tried, in order; the entries behind them stay zero. -/
structure CombatAbilityEvaluated where
  result : Int32
  resolvedClassId : UInt32
  resolvedClassOrder : List UInt32
  candidateResults : List Int32
  memory : Memory
  rewritten : Bool

/-- The loop of `EvaluateBestAuthoritativeCombatAbility`, which ends with the
first class that has the ability. -/
def tryCandidates
    (moduleBase : UInt32)
    (nativeResult : Int32)
    (native : UInt32 → Native) :
    List UInt32 → Memory → CombatAbilityEvaluated
  | [], memory =>
      { result := nativeResult
        resolvedClassId := 0
        resolvedClassOrder := []
        candidateResults := []
        memory := memory
        rewritten := true }
  | classId :: later, memory =>
      let called := (probe moduleBase (native classId) classId memory).called
      if called.result.any (0 < ·) then
        { result := called.result.getD 0
          resolvedClassId := classId
          resolvedClassOrder := []
          candidateResults := [called.result.getD 0]
          memory := called.memory
          rewritten := called.rewritten }
      else
        let rest :=
          tryCandidates moduleBase nativeResult native later called.memory
        { rest with
          candidateResults := 0 :: rest.candidateResults
          rewritten := called.rewritten && rest.rewritten }

/-- `EvaluateBestAuthoritativeCombatAbility`. -/
def evaluateBestAuthoritativeCombatAbility
    (moduleBase : UInt32)
    (natives : Natives)
    (thisContext : UInt32)
    (abilityIndex nativeResult : Int32)
    (snapshot : Snapshot)
    (memory : Memory) :
    CombatAbilityEvaluated :=
  match natives .combatAbility with
  | none =>
      ⟨nativeResult, 0, [], [], memory, true⟩
  | some native =>
      if shouldResolveAuthoritativeCombatAbility snapshot abilityIndex
            nativeResult &&
          isLocalCharDataContext moduleBase memory thisContext then
        let displayedClassId :=
          (tryReadLocalPlayerDisplayedClassId moduleBase memory).getD 0
        let classOrder :=
          buildAuthoritativeCombatAbilityClassOrder snapshot
            displayedClassId.toUInt32
        { tryCandidates moduleBase nativeResult native classOrder memory with
          resolvedClassOrder := classOrder }
      else
        ⟨nativeResult, 0, [], [], memory, true⟩

/-! ## Every evaluator -/

/-- A call of one of the evaluators. -/
inductive Request where
  | maxMana
      (nativeResult : Int32)
      (context : LocalAuthoritativeCastingContext)
  | manaRegen
      (nativeResult : Int32)
      (context : LocalAuthoritativeCastingContext)
  | curMana
      (capAtMaxLike nativeResult : Int32)
      (context : LocalAuthoritativeCastingContext)
  | adjustedSkill
      (thisContext : UInt32)
      (nativeResult : Int32)
      (snapshot : Snapshot)
  | skillsWindowSkillValue
      (thisContext : UInt32)
      (nativeResult : Int32)
      (snapshot : Snapshot)
  | combatAbility
      (thisContext : UInt32)
      (abilityIndex nativeResult : Int32)
      (snapshot : Snapshot)

/-- The called evaluator's result, and what it leaves in memory. -/
def Request.evaluate
    (moduleBase : UInt32)
    (natives : Natives)
    (memory : Memory) :
    Request → Int32 × Memory × Bool
  | .maxMana nativeResult context =>
      let evaluated :=
        evaluateBestAuthoritativeMaxMana moduleBase natives nativeResult
          context memory
      (evaluated.result, evaluated.memory, evaluated.rewritten)
  | .manaRegen nativeResult context =>
      let evaluated :=
        evaluateBestAuthoritativeManaRegen moduleBase natives nativeResult
          context memory
      (evaluated.result, evaluated.memory, evaluated.rewritten)
  | .curMana capAtMaxLike nativeResult context =>
      let evaluated :=
        evaluateBestAuthoritativeCurMana moduleBase natives capAtMaxLike
          nativeResult context memory
      (evaluated.result, evaluated.memory, evaluated.rewritten)
  | .adjustedSkill thisContext nativeResult snapshot =>
      let evaluated :=
        evaluateBestAuthoritativeAdjustedSkill moduleBase natives thisContext
          nativeResult snapshot memory
      (evaluated.result, evaluated.memory, evaluated.rewritten)
  | .skillsWindowSkillValue thisContext nativeResult snapshot =>
      let evaluated :=
        evaluateBestAuthoritativeSkillsWindowSkillValue moduleBase natives
          thisContext nativeResult snapshot memory
      (evaluated.result, evaluated.memory, evaluated.rewritten)
  | .combatAbility thisContext abilityIndex nativeResult snapshot =>
      let evaluated :=
        evaluateBestAuthoritativeCombatAbility moduleBase natives thisContext
          abilityIndex nativeResult snapshot memory
      (evaluated.result, evaluated.memory, evaluated.rewritten)

end MonomythClient.AuthoritativeEvaluators
