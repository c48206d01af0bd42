import MonomythClient.AuthoritativeEvaluators

namespace MonomythClient.AuthoritativeEvaluators

open MulticlassIdentity LocalPlayer TemporaryClassOverride ServerAuthStats
open ProtectedMemory LittleEndian

/-!
# Mana with more classes

The evaluators of maximal mana and mana regeneration pick the class with the
best answer of the game, and then add what heroic stats are worth to the
assigned classes and were not counted for that class.  With more classes the
best answer never gets less.  What is added may: a class with a slightly better
answer may count a stat itself that was added before.
-/

/-! ## Answers by class -/

/-- A game function that does nothing but answer, for the class it finds. -/
def answering (answer : UInt32 → Option Int32) : UInt32 → Native :=
  fun classId memory =>
    { result := answer classId, memory := memory, rewritten := true }

/-- Every playable class can be the temporary one. -/
def Overridable (moduleBase : UInt32) (memory : Memory) : Prop :=
  ∀ classId,
    isPlayableClassId classId = true →
      (tryApplyTemporaryLocalClassOverride moduleBase classId.toUInt8
        memory).1.active = true

/-- What was written in applying can be written again. -/
theorem rewritten_applied
    {moduleBase : UInt32}
    {classId : UInt8}
    {memory : Memory}
    (active :
      (tryApplyTemporaryLocalClassOverride moduleBase classId
        memory).1.active = true) :
    (tryApplyTemporaryLocalClassOverride moduleBase classId
        memory).1.rewritten memory
      (tryApplyTemporaryLocalClassOverride moduleBase classId
        memory).2 = true := by
  refine List.all_eq_true.mpr fun store _ => ?_
  rw [tryApply_active active, Memory.accepts_writeEach]
  cases memory.accepts store <;> rfl

/-- Restoring behind a call that only answers gives the memory back. -/
theorem restore_applied
    {moduleBase : UInt32}
    {classId : UInt8}
    {memory : Memory}
    (active :
      (tryApplyTemporaryLocalClassOverride moduleBase classId
        memory).1.active = true) :
    restoreTemporaryLocalClassOverride
        (tryApplyTemporaryLocalClassOverride moduleBase classId memory).1
        (tryApplyTemporaryLocalClassOverride moduleBase classId memory).2 =
      memory := by
  have sameBytes :
      (restoreTemporaryLocalClassOverride
          (tryApplyTemporaryLocalClassOverride moduleBase classId memory).1
          (tryApplyTemporaryLocalClassOverride moduleBase classId
            memory).2).bytes =
        memory.bytes :=
    funext fun _ => restore_apply active rfl (rewritten_applied active)
  have sameReadable :
      (restoreTemporaryLocalClassOverride
          (tryApplyTemporaryLocalClassOverride moduleBase classId memory).1
          (tryApplyTemporaryLocalClassOverride moduleBase classId
            memory).2).readable =
        memory.readable := by
    rw [restoreTemporaryLocalClassOverride, if_pos active,
      Memory.readable_writeEach, tryApply_active active,
      Memory.readable_writeEach]
  have sameWritable :
      (restoreTemporaryLocalClassOverride
          (tryApplyTemporaryLocalClassOverride moduleBase classId memory).1
          (tryApplyTemporaryLocalClassOverride moduleBase classId
            memory).2).writable =
        memory.writable := by
    rw [restoreTemporaryLocalClassOverride, if_pos active,
      Memory.writable_writeEach, tryApply_active active,
      Memory.writable_writeEach]
  exact Memory.eq_of_fields sameBytes sameReadable sameWritable

section Answering

variable
  {moduleBase : UInt32}
  {answer : UInt32 → Option Int32}
  {memory : Memory}
  {nativeResult : Int32}

/-- Asking for a playable class gets its answer and changes nothing. -/
theorem probe_answering
    (overridable : Overridable moduleBase memory)
    {classId : UInt32}
    (playable : isPlayableClassId classId = true) :
    (probe moduleBase (answering answer classId) classId memory).called =
      { result := answer classId, memory := memory, rewritten := true } := by
  have active := overridable classId playable
  have restored := restore_applied active
  rw [probe]
  dsimp only
  rw [if_pos active]
  dsimp only [answering]
  rw [restored]
  have rewritten :
      (tryApplyTemporaryLocalClassOverride moduleBase classId.toUInt8
        memory).1.rewritten memory
          (tryApplyTemporaryLocalClassOverride moduleBase classId.toUInt8
            memory).2 = true :=
    rewritten_applied active
  rw [rewritten]
  rfl

/-- The best of the native result and the answers of some classes, and a class
that gave it. -/
structure IsBest
    (answer : UInt32 → Option Int32)
    (nativeResult : Int32)
    (classIds : List UInt32)
    (result : Int32)
    (classId : UInt32) :
    Prop where
  aboveNative : nativeResult ≤ result
  aboveAnswers :
    ∀ other ∈ classIds,
      ∀ answered, answer other = some answered → answered ≤ result
  given :
    (result = nativeResult ∧ classId = 0) ∨
      (classId ∈ classIds ∧ answer classId = some result)

/-- The best of one class more. -/
theorem IsBest.append
    {earlier : List UInt32}
    {result : Int32}
    {bestClassId : UInt32}
    (isBest : IsBest answer nativeResult earlier result bestClassId)
    (classId : UInt32) :
    IsBest answer nativeResult (earlier ++ [classId])
      (if (answer classId).any fun answered => result < answered then
        (answer classId).getD 0
      else
        result)
      (if (answer classId).any fun answered => result < answered then
        classId
      else
        bestClassId) := by
  obtain ⟨aboveNative, aboveAnswers, given⟩ := isBest
  split
  next better =>
    obtain ⟨answered, isAnswer, above⟩ := (Option.any_eq_true _ _).mp better
    have higher : result < answered := of_decide_eq_true above
    rw [isAnswer, Option.getD_some]
    refine
      ⟨Int32.le_trans aboveNative (Int32.le_of_lt higher), ?_,
        .inr ⟨by simp, isAnswer⟩⟩
    intro other member otherAnswered isOther
    rcases List.mem_append.mp member with isEarlier | isLast
    · exact Int32.le_trans (aboveAnswers other isEarlier _ isOther)
        (Int32.le_of_lt higher)
    · rw [List.mem_singleton.mp isLast, isAnswer] at isOther
      obtain rfl := Option.some.inj isOther
      exact Int32.le_refl answered
  next notBetter =>
    refine ⟨aboveNative, ?_, ?_⟩
    · intro other member answered isOther
      rcases List.mem_append.mp member with isEarlier | isLast
      · exact aboveAnswers other isEarlier answered isOther
      · rw [← List.mem_singleton.mp isLast, isOther, Option.any_some,
          decide_eq_true_eq, Int32.not_lt] at notBetter
        exact notBetter
    · exact given.imp_right fun isGiven =>
        ⟨List.mem_append_left _ isGiven.1, isGiven.2⟩

/-- The loop finds the best and leaves the memory as it is. -/
theorem bestOf_answering
    (overridable : Overridable moduleBase memory)
    {classIds : List UInt32}
    (playable :
      ∀ classId ∈ classIds, isPlayableClassId classId = true) :
    (bestOf moduleBase nativeResult (answering answer) classIds
        memory).memory = memory ∧
      IsBest answer nativeResult classIds
        (bestOf moduleBase nativeResult (answering answer) classIds
          memory).result
        (bestOf moduleBase nativeResult (answering answer) classIds
          memory).classId := by
  induction classIds using List.reverseRecOn with
  | nil =>
      refine ⟨rfl, Int32.le_refl nativeResult, ?_, .inl ⟨rfl, rfl⟩⟩
      intro other member
      cases member
  | append_singleton earlier classId inductionHypothesis =>
      obtain ⟨sameMemory, isBest⟩ :=
        inductionHypothesis fun other member =>
          playable other (List.mem_append_left _ member)
      have probed :
          (probe moduleBase (answering answer classId) classId
              memory).called =
            { result := answer classId, memory := memory,
              rewritten := true } :=
        probe_answering overridable (playable classId (by simp))
      rw [bestOf, List.foldl_append, List.foldl_cons, List.foldl_nil]
      rw [bestOf] at sameMemory isBest
      rw [Best.consider, sameMemory, probed]
      exact ⟨rfl, isBest.append classId⟩

end Answering

/-! ## Two masks -/

/-- The casting classes of a mask are playable. -/
theorem isPlayableClassId_of_castingClass
    {assignedMask classId : UInt32}
    (member : classId ∈ castingClasses assignedMask) :
    isPlayableClassId classId = true :=
  mem_playableClassIds.mp (List.mem_filter.mp member).1

/-- A mask that contains another has its casting classes. -/
theorem castingClasses_subset
    {assignedMask gainedMask : UInt32}
    (valid : isPlayableClassMask gainedMask = true)
    (notEmpty : gainedMask ≠ 0)
    (contained : assignedMask &&& gainedMask = assignedMask)
    {classId : UInt32}
    (member : classId ∈ castingClasses assignedMask) :
    classId ∈ castingClasses gainedMask := by
  obtain ⟨isListed, isCasting⟩ := List.mem_filter.mp member
  simp only [hasAuthoritativeClass, Bool.and_eq_true] at isCasting
  obtain ⟨casting, _, assigned⟩ := isCasting
  refine List.mem_filter.mpr ⟨isListed, ?_⟩
  have playable :=
    isPlayableClassId_iff.mp (mem_playableClassIds.mp isListed)
  rw [hasClass_iff playable, ← contained, UInt32.toNat_and,
    Nat.testBit_and, Bool.and_eq_true, ← hasClass_iff playable] at assigned
  simp [hasAuthoritativeClass, casting, notEmpty, valid,
    (hasClass_iff playable).mpr assigned.2]

/-- A sum that is no more than the greatest number is not wrapped. -/
theorem toInt_add_of_le
    {result added : Int32}
    (positive : 0 < added.toInt)
    (fits : result.toInt + added.toInt ≤ Int32.maxValue.toInt) :
    (result + added).toInt = result.toInt + added.toInt := by
  have least := result.le_toInt
  have greatest : Int32.maxValue.toInt = 2147483647 := rfl
  rw [Int32.toInt_add]
  exact Int.bmod_eq_of_le (by omega) (by omega)

section Gain

variable
  (moduleBase : UInt32)
  (delta : HeroicManaAdjustment → Int32)
  (answer : UInt32 → Option Int32)
  (nativeResult : Int32)
  (memory : Memory)

/-- What heroic stats add for a context when a class was picked. -/
def heroicGain
    (context : LocalAuthoritativeCastingContext)
    (classId : UInt32) :
    Int :=
  max
    (((tryBuildHeroicManaAdjustment moduleBase memory context classId).map
      delta).getD 0).toInt
    0

/-- No heroic adjustment of an answer that may be picked is out of range. -/
def GainsFit (context : LocalAuthoritativeCastingContext) : Prop :=
  ∀ classId ∈ castingClasses context.assignedMask,
    ∀ result,
      answer classId = some result →
        result.toInt + heroicGain moduleBase delta memory context classId ≤
          Int32.maxValue.toInt

variable {moduleBase delta answer nativeResult memory}

/-- Heroic stats add nothing when no class was picked. -/
theorem heroicGain_zero (context : LocalAuthoritativeCastingContext) :
    heroicGain moduleBase delta memory context 0 = 0 := by
  have noAdjustment :
      tryBuildHeroicManaAdjustment moduleBase memory context 0 = none := by
    have notPlayable : isPlayableClassId 0 = false := by
      decide
    simp [tryBuildHeroicManaAdjustment, notPlayable, guard]
  rw [heroicGain, noAdjustment]
  rfl

/-- What an evaluator returns: the best answer, with what heroic stats add for
its class. -/
theorem evaluateBestMana_answering
    {context : LocalAuthoritativeCastingContext}
    (eligible : context.eligible = true)
    (overridable : Overridable moduleBase memory)
    (fits : GainsFit moduleBase delta answer memory context)
    (nativeResult : Int32) :
    ∃ best classId,
      IsBest answer nativeResult (castingClasses context.assignedMask) best
          classId ∧
        (evaluateBestMana moduleBase (some (answering answer)) delta
            nativeResult context memory).bestClassId =
          some classId ∧
        (evaluateBestMana moduleBase (some (answering answer)) delta
            nativeResult context memory).result.toInt =
          best.toInt +
            heroicGain moduleBase delta memory context classId := by
  have playable :
      ∀ classId ∈ castingClasses context.assignedMask,
        isPlayableClassId classId = true :=
    fun _ member => isPlayableClassId_of_castingClass member
  obtain ⟨sameMemory, isBest⟩ :
      _ ∧ IsBest answer nativeResult _ _ _ :=
    bestOf_answering overridable playable
  refine ⟨_, _, isBest, ?_, ?_⟩
  · unfold evaluateBestMana
    rw [eligible]
  · unfold evaluateBestMana
    rw [eligible]
    dsimp only
    rw [sameMemory]
    generalize (bestOf moduleBase nativeResult (answering answer)
      (castingClasses context.assignedMask) memory) = found at isBest ⊢
    have inRange :
        found.result.toInt +
            heroicGain moduleBase delta memory context found.classId ≤
          Int32.maxValue.toInt := by
      rcases isBest.given with ⟨_, noClass⟩ | ⟨isCasting, isAnswer⟩
      · rw [noClass, heroicGain_zero, Int.add_zero]
        exact found.result.toInt_le
      · exact fits found.classId isCasting found.result isAnswer
    rw [heroicGain] at inRange ⊢
    generalize ((tryBuildHeroicManaAdjustment moduleBase memory context
      found.classId).map delta).getD 0 = added at inRange ⊢
    split
    next positive =>
      rw [Int32.lt_iff_toInt_lt, Int32.toInt_zero] at positive
      have isAdded : max added.toInt 0 = added.toInt := by
        omega
      rw [isAdded] at inRange ⊢
      exact toInt_add_of_le positive inRange
    next notPositive =>
      rw [Int32.lt_iff_toInt_lt, Int32.toInt_zero] at notPositive
      omega

/-- What an evaluator guarantees for a mask and one that contains it: no less
than the native result and than every answer of a casting class, and for the
greater mask, less only by what heroic stats add less. -/
structure KeepsMana
    (moduleBase : UInt32)
    (delta : HeroicManaAdjustment → Int32)
    (answer : UInt32 → Option Int32)
    (nativeResult : Int32)
    (memory : Memory)
    (evaluate :
      Int32 → LocalAuthoritativeCastingContext → Memory → Evaluated)
    (context gained : LocalAuthoritativeCastingContext) :
    Prop where
  aboveNative :
    ∀ held ∈ [context, gained],
      nativeResult ≤ (evaluate nativeResult held memory).result
  aboveAnswers :
    ∀ held ∈ [context, gained],
      ∀ classId ∈ castingClasses held.assignedMask,
        ∀ answered,
          answer classId = some answered →
            answered ≤ (evaluate nativeResult held memory).result
  notLower :
    ∃ classId gainedClassId,
      (evaluate nativeResult context memory).bestClassId = some classId ∧
        (evaluate nativeResult gained memory).bestClassId =
            some gainedClassId ∧
          (evaluate nativeResult context memory).result.toInt ≤
            (evaluate nativeResult gained memory).result.toInt +
              (heroicGain moduleBase delta memory context classId -
                heroicGain moduleBase delta memory gained gainedClassId)

/-- The two evaluators guarantee it, whatever part of the adjustment they
add. -/
theorem evaluateBestMana_keepsMana
    {context gained : LocalAuthoritativeCastingContext}
    (eligible : context.eligible = true)
    (gainedEligible : gained.eligible = true)
    (valid : isPlayableClassMask gained.assignedMask = true)
    (notEmpty : gained.assignedMask ≠ 0)
    (contained :
      context.assignedMask &&& gained.assignedMask = context.assignedMask)
    (overridable : Overridable moduleBase memory)
    (fits : GainsFit moduleBase delta answer memory context)
    (gainedFits : GainsFit moduleBase delta answer memory gained) :
    KeepsMana moduleBase delta answer nativeResult memory
      (evaluateBestMana moduleBase (some (answering answer)) delta) context
      gained := by
  have noLess :
      ∀ (best : Int32) (result : Int32) held classId,
        result.toInt =
            best.toInt + heroicGain moduleBase delta memory held classId →
          best ≤ result := by
    intro best result held classId isResult
    have notNegative : 0 ≤ heroicGain moduleBase delta memory held classId :=
      le_max_right _ _
    rw [Int32.le_iff_toInt_le]
    omega
  obtain ⟨best, classId, isBest, isClass, isResult⟩ :=
    evaluateBestMana_answering eligible overridable fits nativeResult
  obtain ⟨gainedBest, gainedClassId, gainedIsBest, gainedIsClass,
    gainedIsResult⟩ :=
    evaluateBestMana_answering gainedEligible overridable gainedFits
      nativeResult
  have bestNoLess : best ≤ gainedBest := by
    rcases isBest.given with ⟨rfl, _⟩ | ⟨isCasting, isAnswer⟩
    · exact gainedIsBest.aboveNative
    · exact gainedIsBest.aboveAnswers classId
        (castingClasses_subset valid notEmpty contained isCasting) best
        isAnswer
  refine ⟨?_, ?_, classId, gainedClassId, isClass, gainedIsClass, ?_⟩
  · intro held isHeld
    rcases List.mem_pair.mp isHeld with rfl | rfl
    · exact Int32.le_trans isBest.aboveNative (noLess _ _ _ _ isResult)
    · exact Int32.le_trans gainedIsBest.aboveNative
        (noLess _ _ _ _ gainedIsResult)
  · intro held isHeld other isCasting answered isAnswer
    rcases List.mem_pair.mp isHeld with rfl | rfl
    · exact Int32.le_trans
        (isBest.aboveAnswers other isCasting answered isAnswer)
        (noLess _ _ _ _ isResult)
    · exact Int32.le_trans
        (gainedIsBest.aboveAnswers other isCasting answered isAnswer)
        (noLess _ _ _ _ gainedIsResult)
  · rw [isResult, gainedIsResult]
    rw [Int32.le_iff_toInt_le] at bestNoLess
    omega

end Gain

/-- Gaining classes never lowers the evaluated maximal mana or mana
regeneration by more than what the heroic adjustment for the picked class gets
less; both are always at least the native result and every answer of a casting
class. -/
theorem gained_class_mana
    {moduleBase : UInt32}
    {answer : UInt32 → Option Int32}
    {nativeResult : Int32}
    {memory : Memory}
    {context gained : LocalAuthoritativeCastingContext}
    (eligible : context.eligible = true)
    (gainedEligible : gained.eligible = true)
    (valid : isPlayableClassMask gained.assignedMask = true)
    (notEmpty : gained.assignedMask ≠ 0)
    (contained :
      context.assignedMask &&& gained.assignedMask = context.assignedMask)
    (overridable : Overridable moduleBase memory)
    (maxFits :
      ∀ held ∈ [context, gained],
        GainsFit moduleBase (·.maxDelta) answer memory held)
    (regenFits :
      ∀ held ∈ [context, gained],
        GainsFit moduleBase (·.regenDelta) answer memory held) :
    KeepsMana moduleBase (·.maxDelta) answer nativeResult memory
        (evaluateBestAuthoritativeMaxMana moduleBase
          fun _ => some (answering answer))
        context gained ∧
      KeepsMana moduleBase (·.regenDelta) answer nativeResult memory
        (evaluateBestAuthoritativeManaRegen moduleBase
          fun _ => some (answering answer))
        context gained :=
  ⟨evaluateBestMana_keepsMana eligible gainedEligible valid notEmpty contained
      overridable (maxFits context (by simp)) (maxFits gained (by simp)),
    evaluateBestMana_keepsMana eligible gainedEligible valid notEmpty contained
      overridable (regenFits context (by simp)) (regenFits gained (by simp))⟩

/-! ## A warrior who becomes a necromancer -/

/-- A warrior with a heroic intelligence of one hundred. -/
def heroicMemory : Memory :=
  warriorMemory.writeEach
    [⟨0x11000000 + kLocalCharDataHeroicIntBonusOffset, bytes32 200⟩]

/-- What the game answers to a cleric, a wizard and a necromancer. -/
def casterMana (classId : UInt32) : Option Int32 :=
  if classId = 2 then
    some 1000
  else if classId = 12 then
    some 500
  else if classId = 11 then
    some 1001
  else
    none

/-- Warrior, cleric and wizard. -/
def clericWizard : LocalAuthoritativeCastingContext :=
  ⟨true, 1, 0x803⟩

/-- And necromancer. -/
def clericWizardNecromancer : LocalAuthoritativeCastingContext :=
  ⟨true, 1, 0xc03⟩

/-- Every class can be the temporary one in the warrior's memory. -/
theorem overridable_heroicMemory : Overridable 0x400000 heroicMemory := by
  have everyClass :
      playableClassIds.all (fun classId =>
          (tryApplyTemporaryLocalClassOverride 0x400000 classId.toUInt8
            heroicMemory).1.active) =
        true := by
    decide +kernel
  intro classId playable
  exact
    List.all_eq_true.mp everyClass classId (mem_playableClassIds.mpr playable)

/-- The necromancer's answer is the best by one, and counts the intelligence
that was added to the cleric's. -/
theorem necromancer_lowers_mana :
    clericWizard.assignedMask &&& clericWizardNecromancer.assignedMask =
        clericWizard.assignedMask ∧
      Overridable 0x400000 heroicMemory ∧
        ¬ (evaluateBestAuthoritativeMaxMana 0x400000
              (fun _ => some (answering casterMana)) 0 clericWizard
              heroicMemory).result ≤
            (evaluateBestAuthoritativeMaxMana 0x400000
              (fun _ => some (answering casterMana)) 0
              clericWizardNecromancer heroicMemory).result := by
  refine ⟨by decide, overridable_heroicMemory, ?_⟩
  decide +kernel

theorem necromancer_mana :
    KeepsMana 0x400000 (·.maxDelta) casterMana 0 heroicMemory
        (evaluateBestAuthoritativeMaxMana 0x400000
          fun _ => some (answering casterMana))
        clericWizard clericWizardNecromancer ∧
      KeepsMana 0x400000 (·.regenDelta) casterMana 0 heroicMemory
        (evaluateBestAuthoritativeManaRegen 0x400000
          fun _ => some (answering casterMana))
        clericWizard clericWizardNecromancer := by
  have maxFits :
      [clericWizard, clericWizardNecromancer].all (fun held =>
          (castingClasses held.assignedMask).all fun classId =>
            (casterMana classId).all fun result =>
              result.toInt +
                  heroicGain 0x400000 (·.maxDelta) heroicMemory held
                    classId ≤
                Int32.maxValue.toInt) =
        true := by
    decide +kernel
  have regenFits :
      [clericWizard, clericWizardNecromancer].all (fun held =>
          (castingClasses held.assignedMask).all fun classId =>
            (casterMana classId).all fun result =>
              result.toInt +
                  heroicGain 0x400000 (·.regenDelta) heroicMemory held
                    classId ≤
                Int32.maxValue.toInt) =
        true := by
    decide +kernel
  refine
    gained_class_mana rfl rfl (by decide) (by decide) (by decide)
      overridable_heroicMemory ?_ ?_
  · intro held isHeld classId isCasting result isAnswer
    have fits :=
      List.all_eq_true.mp (List.all_eq_true.mp maxFits held isHeld) classId
        isCasting
    rw [isAnswer, Option.all_some] at fits
    exact of_decide_eq_true fits
  · intro held isHeld classId isCasting result isAnswer
    have fits :=
      List.all_eq_true.mp (List.all_eq_true.mp regenFits held isHeld) classId
        isCasting
    rw [isAnswer, Option.all_some] at fits
    exact of_decide_eq_true fits

end MonomythClient.AuthoritativeEvaluators
