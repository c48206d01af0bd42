import MonomythClient.AuthoritativeEvaluators
import MonomythClient.CheckedInt32

namespace MonomythClient.ManaPercent

open MulticlassIdentity LocalPlayer AuthoritativeEvaluators ServerAuthStats
open ProtectedMemory CheckedInt32

/-!
# The player's mana in percent

The player's current and maximal mana are resolved first, from the game or from
the evaluators of the assigned classes.  Then the current mana is kept between
zero and the maximum, and a hundred times of it are divided by the maximum,
rounded.  All of that is `int` arithmetic, and it is right as long as the
product with its rounding term is in range.
-/

/-! ## Resolving -/

/-- `HasAnyAuthoritativeCastingClass`. -/
def hasAnyAuthoritativeCastingClass
    (hasClassMask : Bool)
    (authoritativeClassMask : UInt32) :
    Bool :=
  hasClassMask && authoritativeClassMask != 0 &&
    isPlayableClassMask authoritativeClassMask &&
    authoritativeClassMask &&& kCastingClassMask != 0

/-- `TryBuildLocalAuthoritativeCastingContext`. -/
def tryBuildLocalAuthoritativeCastingContext
    (moduleBase thisContext : UInt32)
    (snapshot : Snapshot)
    (memory : Memory) :
    Option LocalAuthoritativeCastingContext := do
  guard (isLocalPlayerCharacterContext moduleBase memory thisContext ∧
    hasAnyAuthoritativeCastingClass snapshot.classesBitmask.has
      snapshot.classesBitmask.value)
  let primaryClassId ← tryReadLocalProfileClassId moduleBase memory
  guard (isPlayableClassId primaryClassId.toUInt32 ∧
    ¬ isCastingClassId primaryClassId.toUInt32 ∧
    hasAuthoritativeClass snapshot.classesBitmask.has
      snapshot.classesBitmask.value primaryClassId.toUInt32)
  return {
    eligible := true
    primaryClassId := primaryClassId
    assignedMask := snapshot.classesBitmask.value }

/-- `TryBuildLocalAuthoritativeCastingContextForLocalPlayer`. -/
def tryBuildLocalAuthoritativeCastingContextForLocalPlayer
    (moduleBase : UInt32)
    (snapshot : Snapshot)
    (memory : Memory) :
    Option LocalAuthoritativeCastingContext := do
  let localCharacter ←
    nonNull (tryReadLocalPlayerCharacterPointer moduleBase memory)
  tryBuildLocalAuthoritativeCastingContext moduleBase localCharacter snapshot
    memory

/-- The mana that the percentage is for, and where it is from. -/
structure ResolvedMana where
  current : Int32
  max : Int32
  authoritativeContextUsed : Bool
  bestClassId : UInt32
deriving DecidableEq, Repr

/-- The part of `TryEvaluateLocalPlayerManaPercent` that resolves the mana.
`direct` is what the game's functions do when they are called for the player as
the player is, without an override. -/
def resolveLocalPlayerMana
    (moduleBase : UInt32)
    (natives : Natives)
    (direct : Routine → Native)
    (snapshot : Snapshot)
    (memory : Memory) :
    Option ResolvedMana := do
  let _ ← nonNull (tryReadLocalPlayerCharacterPointer moduleBase memory)
  guard ((natives .curMana).isSome ∧ (natives .maxMana).isSome)
  let calledCurrent := direct .curMana memory
  let nativeCurrent ← calledCurrent.result
  let calledMax := direct .maxMana calledCurrent.memory
  let nativeMax ← calledMax.result
  match tryBuildLocalAuthoritativeCastingContextForLocalPlayer moduleBase
      snapshot calledMax.memory with
  | none => return ⟨nativeCurrent, nativeMax, false, 0⟩
  | some context =>
      let current :=
        evaluateBestAuthoritativeCurMana moduleBase natives 1 nativeCurrent
          context calledMax.memory
      let max :=
        evaluateBestAuthoritativeMaxMana moduleBase natives nativeMax context
          current.memory
      let bestMaxClassId := max.bestClassId.getD 0
      return ⟨current.result, max.result, true,
        if bestMaxClassId ≠ 0 then
          bestMaxClassId
        else
          current.bestClassId.getD 0⟩

/-! ## The percentage -/

/-- The current mana, between zero and the maximum. -/
def clampedMana (resolvedCurrent resolvedMax : Int32) : Int32 :=
  if resolvedCurrent < 0 then
    0
  else if resolvedMax < resolvedCurrent then
    resolvedMax
  else
    resolvedCurrent

/-- `std::clamp` to the percentages. -/
def clampedPercent (percent : Int32) : Int32 :=
  if percent < 0 then
    0
  else if 100 < percent then
    100
  else
    percent

/-- The computation of the percentage, if no step of it overflows. -/
def percentOf (resolvedCurrent resolvedMax : Int32) : Option Int32 := do
  let scaled ← mul (clampedMana resolvedCurrent resolvedMax) 100
  let half ← div resolvedMax 2
  let sum ← add scaled half
  let percent ← div sum resolvedMax
  return clampedPercent percent

/-- How the evaluation ends.  An overflow is undefined behaviour. -/
inductive Evaluation where
  | failed
  | overflowed
  | evaluated (percent : Int32) (mana : ResolvedMana)
deriving DecidableEq, Repr

/-- `TryEvaluateLocalPlayerManaPercent`. -/
def tryEvaluateLocalPlayerManaPercent
    (moduleBase : UInt32)
    (natives : Natives)
    (direct : Routine → Native)
    (snapshot : Snapshot)
    (memory : Memory) :
    Evaluation :=
  match resolveLocalPlayerMana moduleBase natives direct snapshot memory with
  | none => .failed
  | some mana =>
      if mana.max ≤ 0 then
        .failed
      else
        match percentOf mana.current mana.max with
        | none => .overflowed
        | some percent =>
            .evaluated percent
              { mana with current := clampedMana mana.current mana.max }

/-! ## The rounded quotient -/

/-- The percentage in exact arithmetic. -/
def roundedPercent (current max : Int) : Int :=
  (100 * Min.min (Max.max current 0) max + max / 2) / max

/-- It is between 0 and 100. -/
theorem roundedPercent_bounds
    (current : Int)
    {max : Int}
    (positive : 0 < max) :
    0 ≤ roundedPercent current max ∧ roundedPercent current max ≤ 100 := by
  rw [roundedPercent]
  constructor
  · exact Int.ediv_nonneg (by omega) (Int.le_of_lt positive)
  · refine Int.le_of_lt_add_one (Int.ediv_lt_of_lt_mul positive ?_)
    omega

/-- It grows with the current value. -/
theorem roundedPercent_mono
    {lower current max : Int}
    (positive : 0 < max)
    (below : lower ≤ current) :
    roundedPercent lower max ≤ roundedPercent current max :=
  Int.ediv_le_ediv positive (by omega)

/-- It is 0 without mana. -/
theorem roundedPercent_zero
    {max : Int}
    (positive : 0 < max) :
    roundedPercent 0 max = 0 := by
  rw [roundedPercent]
  exact Int.ediv_eq_zero_of_lt (by omega) (by omega)

/-- It is 100 with full mana. -/
theorem roundedPercent_full
    {current max : Int}
    (positive : 0 < max)
    (full : max ≤ current) :
    roundedPercent current max = 100 := by
  have isFull : Min.min (Max.max current 0) max = max := by
    omega
  rw [roundedPercent, isFull, Int.add_comm,
    Int.add_mul_ediv_right _ _ (Int.ne_of_gt positive),
    Int.ediv_eq_zero_of_lt (by omega) (by omega)]
  rfl

/-! ## The computation and the quotient -/

/-- A hundred times the clamped current mana and the rounding term are an
`int`. -/
def Fits (resolvedCurrent resolvedMax : Int32) : Prop :=
  100 * Min.min (Max.max resolvedCurrent.toInt 0) resolvedMax.toInt +
      resolvedMax.toInt / 2 ≤
    Int32.maxValue.toInt

theorem toInt_clampedMana
    {resolvedCurrent resolvedMax : Int32}
    (positive : 0 < resolvedMax.toInt) :
    (clampedMana resolvedCurrent resolvedMax).toInt =
      Min.min (Max.max resolvedCurrent.toInt 0) resolvedMax.toInt := by
  rw [clampedMana]
  split
  next negative =>
    rw [Int32.lt_iff_toInt_lt, Int32.toInt_zero] at negative
    rw [Int32.toInt_zero]
    omega
  next notNegative =>
    rw [Int32.lt_iff_toInt_lt, Int32.toInt_zero] at notNegative
    split
    next above =>
      rw [Int32.lt_iff_toInt_lt] at above
      omega
    next notAbove =>
      rw [Int32.lt_iff_toInt_lt] at notAbove
      omega

/-- A percentage needs no clamping. -/
theorem clampedPercent_of_bounds
    {percent : Int32}
    (above : 0 ≤ percent.toInt)
    (below : percent.toInt ≤ 100) :
    clampedPercent percent = percent := by
  have hundred : (100 : Int32).toInt = 100 := by
    decide
  rw [clampedPercent, if_neg, if_neg]
  · rw [Int32.lt_iff_toInt_lt, hundred]
    omega
  · rw [Int32.lt_iff_toInt_lt, Int32.toInt_zero]
    omega

/-- The computation has a result when its largest number is an `int`, and then
it is the rounded quotient. -/
theorem percentOf_eq_some_iff
    {resolvedCurrent resolvedMax percent : Int32}
    (positive : 0 < resolvedMax.toInt) :
    percentOf resolvedCurrent resolvedMax = some percent ↔
      Fits resolvedCurrent resolvedMax ∧
        percent.toInt =
          roundedPercent resolvedCurrent.toInt resolvedMax.toInt := by
  have clamped :
      (clampedMana resolvedCurrent resolvedMax).toInt =
        Min.min (Max.max resolvedCurrent.toInt 0) resolvedMax.toInt :=
    toInt_clampedMana positive
  have hundred : (100 : Int32).toInt = 100 := by
    decide
  have two : (2 : Int32).toInt = 2 := by
    decide
  have largest : Int32.maxValue.toInt = 2147483647 := rfl
  have bounds := roundedPercent_bounds resolvedCurrent.toInt positive
  simp only [percentOf, bind, pure, Option.bind_eq_some_iff,
    Option.some.injEq]
  constructor
  · rintro ⟨scaled, isScaled, half, isHalf, sum, isSum, quotient, isQuotient,
      rfl⟩
    rw [mul_eq_some_iff, clamped, hundred] at isScaled
    rw [div_eq_some_iff (by omega) (by omega), two] at isHalf
    rw [add_eq_some_iff, isScaled, isHalf] at isSum
    rw [div_eq_some_iff (by omega) positive, isSum, Int.mul_comm]
      at isQuotient
    have isRounded :
        quotient.toInt =
          roundedPercent resolvedCurrent.toInt resolvedMax.toInt :=
      isQuotient
    have sumFits := sum.toInt_le
    refine ⟨?_, ?_⟩
    · rw [Fits]
      omega
    · rw [clampedPercent_of_bounds (by omega) (by omega)]
      exact isRounded
  · rintro ⟨fits, isRounded⟩
    rw [Fits, largest] at fits
    obtain ⟨scaled, isScaled⟩ :=
      exists_toInt
        (100 * Min.min (Max.max resolvedCurrent.toInt 0) resolvedMax.toInt)
        (by omega) (by omega)
    obtain ⟨half, isHalf⟩ :=
      exists_toInt (resolvedMax.toInt / 2) (by omega) (by omega)
    obtain ⟨sum, isSum⟩ :=
      exists_toInt (scaled.toInt + half.toInt) (by omega) (by omega)
    refine
      ⟨scaled, mul_eq_some_iff.mpr ?_, half,
        (div_eq_some_iff (by omega) (by omega)).mpr ?_, sum,
        add_eq_some_iff.mpr isSum, percent,
        (div_eq_some_iff (by omega) positive).mpr ?_,
        clampedPercent_of_bounds (by omega) (by omega)⟩
    · rw [isScaled, clamped, hundred, Int.mul_comm]
    · rw [isHalf, two]
    · rw [isRounded, isSum, isScaled, isHalf]
      rfl

/-- A lower current value fits where a higher one does. -/
theorem Fits.mono
    {lower resolvedCurrent resolvedMax : Int32}
    (fits : Fits resolvedCurrent resolvedMax)
    (below : lower ≤ resolvedCurrent) :
    Fits lower resolvedMax := by
  rw [Int32.le_iff_toInt_le] at below
  rw [Fits] at fits ⊢
  omega

/-- The evaluation ends with the rounded quotient, which is a percentage, 0
without mana, 100 with full mana, and no less than for lower mana. -/
def EvaluatesExactly (evaluation : Evaluation) (mana : ResolvedMana) : Prop :=
  ∃ percent,
    evaluation =
        .evaluated percent
          { mana with current := clampedMana mana.current mana.max } ∧
      percent.toInt =
          roundedPercent mana.current.toInt mana.max.toInt ∧
        0 ≤ percent ∧
          percent ≤ 100 ∧
            (mana.current = 0 → percent = 0) ∧
              (mana.max ≤ mana.current → percent = 100) ∧
                ∀ lower ≤ mana.current,
                  ∃ lowerPercent,
                    percentOf lower mana.max = some lowerPercent ∧
                      lowerPercent ≤ percent

/-- Whatever mana is resolved, with a maximum above zero, the percentage is
exact if and only if a hundred times the clamped current mana with half of the
maximum is an `int`. -/
theorem mana_percent_exact_iff
    {moduleBase : UInt32}
    {natives : Natives}
    {direct : Routine → Native}
    {snapshot : Snapshot}
    {memory : Memory}
    {mana : ResolvedMana}
    (resolved :
      resolveLocalPlayerMana moduleBase natives direct snapshot memory =
        some mana)
    (positive : 0 < mana.max) :
    EvaluatesExactly
        (tryEvaluateLocalPlayerManaPercent moduleBase natives direct snapshot
          memory)
        mana ↔
      Fits mana.current mana.max := by
  have maxPositive : 0 < mana.max.toInt := by
    rw [Int32.lt_iff_toInt_lt, Int32.toInt_zero] at positive
    exact positive
  have hundred : (100 : Int32).toInt = 100 := by
    decide
  rw [tryEvaluateLocalPlayerManaPercent, resolved]
  dsimp only
  rw [if_neg (Int32.not_le.mpr positive)]
  constructor
  · rintro ⟨percent, isEvaluated, _⟩
    cases computed : percentOf mana.current mana.max with
    | none =>
        rw [computed] at isEvaluated
        cases isEvaluated
    | some result =>
        exact ((percentOf_eq_some_iff maxPositive).mp computed).1
  · intro fits
    obtain ⟨above, below⟩ :=
      roundedPercent_bounds mana.current.toInt maxPositive
    obtain ⟨percent, isRounded⟩ :=
      exists_toInt (roundedPercent mana.current.toInt mana.max.toInt)
        (by omega) (by omega)
    have computed : percentOf mana.current mana.max = some percent :=
      (percentOf_eq_some_iff maxPositive).mpr ⟨fits, isRounded⟩
    rw [computed]
    refine ⟨percent, rfl, isRounded, ?_, ?_, ?_, ?_, ?_⟩
    · rw [Int32.le_iff_toInt_le, Int32.toInt_zero, isRounded]
      exact above
    · rw [Int32.le_iff_toInt_le, hundred, isRounded]
      exact below
    · intro noMana
      rw [← Int32.toInt_inj, isRounded, noMana, Int32.toInt_zero]
      exact roundedPercent_zero maxPositive
    · intro full
      rw [← Int32.toInt_inj, isRounded, hundred]
      exact roundedPercent_full maxPositive (Int32.le_iff_toInt_le.mp full)
    · intro lower isLower
      obtain ⟨lowerAbove, lowerBelow⟩ :=
        roundedPercent_bounds lower.toInt maxPositive
      obtain ⟨lowerPercent, lowerRounded⟩ :=
        exists_toInt (roundedPercent lower.toInt mana.max.toInt) (by omega)
          (by omega)
      refine
        ⟨lowerPercent,
          (percentOf_eq_some_iff maxPositive).mpr
            ⟨fits.mono isLower, lowerRounded⟩, ?_⟩
      rw [Int32.le_iff_toInt_le, lowerRounded, isRounded]
      exact roundedPercent_mono maxPositive (Int32.le_iff_toInt_le.mp isLower)

/-- A player of whom every pointer leads to the same place. -/
def playerMemory : Memory where
  bytes := fun _ => 1
  readable := fun _ => true
  writable := fun _ => false

/-- The game's functions for a player with some mana. -/
def manaOf (current max : Int32) : Routine → Native
  | .curMana => fun memory => ⟨some current, memory, true⟩
  | _ => fun memory => ⟨some max, memory, true⟩

theorem mana_percent_exact_of_half :
    EvaluatesExactly
      (tryEvaluateLocalPlayerManaPercent 0x400000
        (fun routine => some fun _ => manaOf 1500 3000 routine)
        (manaOf 1500 3000) Globals.initial playerMemory)
      ⟨1500, 3000, false, 0⟩ := by
  have resolved :
      resolveLocalPlayerMana 0x400000
          (fun routine => some fun _ => manaOf 1500 3000 routine)
          (manaOf 1500 3000) Globals.initial playerMemory =
        some ⟨1500, 3000, false, 0⟩ := by
    decide +kernel
  refine (mana_percent_exact_iff resolved (by decide)).mpr ?_
  rw [Fits]
  decide

/-- With thirty million mana, all of it there, the product overflows. -/
theorem full_mana_overflows :
    resolveLocalPlayerMana 0x400000
          (fun routine => some fun _ => manaOf 30000000 30000000 routine)
          (manaOf 30000000 30000000) Globals.initial playerMemory =
        some ⟨30000000, 30000000, false, 0⟩ ∧
      ¬ EvaluatesExactly
          (tryEvaluateLocalPlayerManaPercent 0x400000
            (fun routine => some fun _ => manaOf 30000000 30000000 routine)
            (manaOf 30000000 30000000) Globals.initial playerMemory)
          ⟨30000000, 30000000, false, 0⟩ := by
  have overflowed :
      tryEvaluateLocalPlayerManaPercent 0x400000
          (fun routine => some fun _ => manaOf 30000000 30000000 routine)
          (manaOf 30000000 30000000) Globals.initial playerMemory =
        .overflowed := by
    decide +kernel
  refine ⟨by decide +kernel, ?_⟩
  rintro ⟨percent, isEvaluated, _⟩
  rw [overflowed] at isEvaluated
  cases isEvaluated

end MonomythClient.ManaPercent
