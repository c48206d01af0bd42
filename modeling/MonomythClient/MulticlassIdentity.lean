import Mathlib.Data.Nat.Bitwise
import Mathlib.Data.UInt

namespace MonomythClient.MulticlassIdentity

/-!
# Class ids and class masks

The sixteen playable classes have ids 1 to 16; a class mask holds the bit
`id - 1` of each class it contains.
-/

def kFirstPlayableClassId : UInt32 := 1
def kLastPlayableClassId : UInt32 := 16
def kPlayableClassMask : UInt32 := 0x0000FFFF

/-- `IsPlayableClassId`. -/
def isPlayableClassId (classId : UInt32) : Bool :=
  decide (kFirstPlayableClassId ≤ classId ∧ classId ≤ kLastPlayableClassId)

/-- `ClassBit`: zero for a class that cannot be played. -/
def classBit (classId : UInt32) : UInt32 :=
  if isPlayableClassId classId then 1 <<< (classId - 1) else 0

/-- `IsPlayableClassMask`. -/
def isPlayableClassMask (classMask : UInt32) : Bool :=
  decide (classMask &&& ~~~kPlayableClassMask = 0)

/-- `HasClass`. -/
def hasClass (classMask classId : UInt32) : Bool :=
  decide (classBit classId ≠ 0 ∧ classMask &&& classBit classId ≠ 0)

/-! ## Kinds of classes -/

def kCastingClassMask : UInt32 := 0x00007ebe
def kClientBaseManaIntClassMask : UInt32 := 0x00003c90
def kClientBaseManaWisClassMask : UInt32 := 0x0000423e
def kHeroicIntManaClassMask : UInt32 := 0x00003c10
def kHeroicWisManaClassMask : UInt32 := 0x0000422e

/-- `IsCastingClassId`. -/
def isCastingClassId (classId : UInt32) : Bool :=
  hasClass kCastingClassMask classId

/-- `IsHeroicIntManaClassId`. -/
def isHeroicIntManaClassId (classId : UInt32) : Bool :=
  hasClass kHeroicIntManaClassMask classId

/-- `IsHeroicWisManaClassId`. -/
def isHeroicWisManaClassId (classId : UInt32) : Bool :=
  hasClass kHeroicWisManaClassMask classId

/-- A playable mask with a class of a kind in it. -/
def classMaskUses (kind classMask : UInt32) : Bool :=
  isPlayableClassMask classMask && classMask &&& kind != 0

/-- `ClassMaskUsesClientBaseMana`. -/
def classMaskUsesClientBaseMana : UInt32 → Bool :=
  classMaskUses (kClientBaseManaIntClassMask ||| kClientBaseManaWisClassMask)

/-- `ClassMaskUsesClientHeroicIntMana`. -/
def classMaskUsesClientHeroicIntMana : UInt32 → Bool :=
  classMaskUses kHeroicIntManaClassMask

/-- `ClassMaskUsesClientHeroicWisMana`. -/
def classMaskUsesClientHeroicWisMana : UInt32 → Bool :=
  classMaskUses kHeroicWisManaClassMask

/-- `HasAuthoritativeClass`. -/
def hasAuthoritativeClass
    (hasClassMask : Bool)
    (classMask classId : UInt32) :
    Bool :=
  hasClassMask && classMask != 0 && isPlayableClassMask classMask &&
    hasClass classMask classId

/-! ## Lists of classes -/

def kPlayableClassCount : Nat := 16

/-- The ids from the first to the last playable class. -/
def playableClassIds : List UInt32 :=
  (List.range' 1 kPlayableClassCount).map UInt32.ofNat

/-- `AppendClassIfMissing`. -/
def appendClassIfMissing
    (orderedIds : List UInt32)
    (classId : UInt32) :
    List UInt32 :=
  if isPlayableClassId classId && !orderedIds.contains classId &&
      orderedIds.length < kPlayableClassCount then
    orderedIds ++ [classId]
  else
    orderedIds

/-- `BuildOrderedClassIdList`. -/
def buildOrderedClassIdList
    (primaryClassId : UInt32)
    (hasClassMask : Bool)
    (classMask : UInt32) :
    List UInt32 :=
  if hasClassMask && classMask != 0 && isPlayableClassMask classMask then
    (playableClassIds.filter (hasClass classMask)).foldl
      appendClassIfMissing (appendClassIfMissing [] primaryClassId)
  else
    []

/-! ## What the tests say -/

/-- The ids 1 to 16. -/
theorem isPlayableClassId_iff {classId : UInt32} :
    isPlayableClassId classId = true ↔
      1 ≤ classId.toNat ∧ classId.toNat ≤ 16 := by
  simp [isPlayableClassId, kFirstPlayableClassId, kLastPlayableClassId,
    UInt32.le_iff_toNat_le]

/-- They are the listed ones. -/
theorem mem_playableClassIds {classId : UInt32} :
    classId ∈ playableClassIds ↔ isPlayableClassId classId = true := by
  rw [isPlayableClassId_iff, playableClassIds, List.mem_map]
  constructor
  · rintro ⟨number, member, rfl⟩
    obtain ⟨first, last⟩ := List.mem_range'_1.mp member
    rw [kPlayableClassCount] at last
    rw [UInt32.toNat_ofNat', Nat.mod_eq_of_lt (by omega)]
    omega
  · rintro ⟨first, last⟩
    refine ⟨classId.toNat, List.mem_range'_1.mpr ⟨first, ?_⟩, ?_⟩
    · rw [kPlayableClassCount]
      omega
    · exact UInt32.ofNat_toNat

/-- The sixteen bits above the playable ones. -/
theorem testBit_highBits (position : Nat) :
    (~~~kPlayableClassMask).toNat.testBit position =
      decide (16 ≤ position ∧ position < 32) := by
  have highBits :
      (~~~kPlayableClassMask).toNat = (2 ^ 16 - 1) <<< 16 := by
    decide
  rw [highBits, Nat.testBit_shiftLeft, Nat.testBit_two_pow_sub_one,
    ← Bool.decide_and]
  exact decide_eq_decide.mpr (by omega)

/-- A playable mask is below the first bit that is not playable. -/
theorem isPlayableClassMask_iff {classMask : UInt32} :
    isPlayableClassMask classMask = true ↔ classMask.toNat < 2 ^ 16 := by
  have maskFits := classMask.toNat_lt
  rw [isPlayableClassMask, decide_eq_true_iff, ← UInt32.toNat_inj,
    UInt32.toNat_and, UInt32.toNat_zero]
  constructor
  · intro noHighBit
    refine Nat.lt_pow_two_of_testBit _ fun position high => ?_
    by_cases inside : position < 32
    · have clear := congrArg (Nat.testBit · position) noHighBit
      rw [Nat.testBit_and, testBit_highBits, Nat.zero_testBit] at clear
      simpa [high, inside] using clear
    · exact Nat.testBit_lt_two_pow
        (Nat.lt_of_lt_of_le maskFits
          (Nat.pow_le_pow_right (by decide) (Nat.not_lt.mp inside)))
  · intro low
    apply Nat.eq_of_testBit_eq
    intro position
    rw [Nat.testBit_and, testBit_highBits, Nat.zero_testBit]
    by_cases high : 16 ≤ position
    · simp [Nat.testBit_lt_two_pow
        (Nat.lt_of_lt_of_le low (Nat.pow_le_pow_right (by decide) high))]
    · simp [high]

/-- The bit of a playable class. -/
theorem toNat_classBit
    {classId : UInt32}
    (playable : 1 ≤ classId.toNat ∧ classId.toNat ≤ 16) :
    (classBit classId).toNat = 2 ^ (classId.toNat - 1) := by
  have isPlayable := isPlayableClassId_iff.mpr playable
  have oneLe : (1 : UInt32) ≤ classId :=
    UInt32.le_iff_toNat_le.mpr playable.1
  have shiftFits : 2 ^ (classId.toNat - 1) < 2 ^ 32 :=
    Nat.pow_lt_pow_right (by decide) (by omega)
  have noWrap : (classId.toNat - 1) % 32 = classId.toNat - 1 :=
    Nat.mod_eq_of_lt (by omega)
  rw [classBit, if_pos isPlayable, UInt32.toNat_shiftLeft,
    UInt32.toNat_sub_of_le _ _ oneLe, UInt32.toNat_one, noWrap,
    Nat.one_shiftLeft, Nat.mod_eq_of_lt shiftFits]

/-- A mask has a playable class when it has the class's bit. -/
theorem hasClass_iff
    {classMask classId : UInt32}
    (playable : 1 ≤ classId.toNat ∧ classId.toNat ≤ 16) :
    hasClass classMask classId = true ↔
      classMask.toNat.testBit (classId.toNat - 1) = true := by
  rw [hasClass, decide_eq_true_iff, Ne, Ne, ← UInt32.toNat_inj,
    ← UInt32.toNat_inj, UInt32.toNat_and, toNat_classBit playable,
    UInt32.toNat_zero]
  rw [Nat.and_comm, Nat.two_pow_and]
  simp

/-! ## What the lists have -/

/-- The listed ids are different playable ones. -/
structure Ordered (orderedIds : List UInt32) : Prop where
  nodup : orderedIds.Nodup
  playable :
    ∀ classId ∈ orderedIds, isPlayableClassId classId = true

/-- There is room for every id that is missing. -/
theorem Ordered.room
    {orderedIds : List UInt32}
    (ordered : Ordered orderedIds)
    {classId : UInt32}
    (playable : isPlayableClassId classId = true)
    (missing : classId ∉ orderedIds) :
    orderedIds.length < kPlayableClassCount := by
  have nodup : (classId :: orderedIds).Nodup :=
    List.nodup_cons.mpr ⟨missing, ordered.nodup⟩
  have inside : classId :: orderedIds ⊆ playableClassIds := by
    intro member isMember
    rcases List.mem_cons.mp isMember with rfl | isListed
    · exact mem_playableClassIds.mpr playable
    · exact mem_playableClassIds.mpr (ordered.playable member isListed)
  exact (List.Nodup.subperm nodup inside).length_le

/-- An id is appended if it is playable and missing. -/
theorem Ordered.append_eq
    {orderedIds : List UInt32}
    (ordered : Ordered orderedIds)
    (classId : UInt32) :
    appendClassIfMissing orderedIds classId =
      if isPlayableClassId classId = true ∧ classId ∉ orderedIds then
        orderedIds ++ [classId]
      else
        orderedIds := by
  rw [appendClassIfMissing]
  by_cases appended :
      isPlayableClassId classId = true ∧ classId ∉ orderedIds
  · rw [if_pos appended, if_pos]
    have isRoom := ordered.room appended.1 appended.2
    simp [appended.1, appended.2, isRoom]
  · rw [if_neg appended, if_neg]
    simp only [Bool.and_eq_true, Bool.not_eq_true', List.contains_eq_mem,
      decide_eq_false_iff_not, decide_eq_true_eq]
    exact fun taken => appended taken.1

theorem Ordered.append
    {orderedIds : List UInt32}
    (ordered : Ordered orderedIds)
    (classId : UInt32) :
    Ordered (appendClassIfMissing orderedIds classId) := by
  rw [ordered.append_eq]
  split
  next appended =>
    refine ⟨?_, fun member isMember => ?_⟩
    · refine List.nodup_append.mpr
        ⟨ordered.nodup, List.nodup_singleton classId, ?_⟩
      rintro listed isListed added isAdded rfl
      exact appended.2 (List.mem_singleton.mp isAdded ▸ isListed)
    · rcases List.mem_append.mp isMember with isListed | isAdded
      · exact ordered.playable member isListed
      · exact List.mem_singleton.mp isAdded ▸ appended.1
  next =>
    exact ordered

theorem Ordered.mem_append
    {orderedIds : List UInt32}
    (ordered : Ordered orderedIds)
    {classId member : UInt32} :
    member ∈ appendClassIfMissing orderedIds classId ↔
      member ∈ orderedIds ∨
        (member = classId ∧ isPlayableClassId classId = true) := by
  rw [ordered.append_eq]
  split
  next appended =>
    simp [appended.1]
  next kept =>
    refine ⟨.inl, fun either => either.elim id ?_⟩
    rintro ⟨rfl, playable⟩
    exact not_not.mp fun missing => kept ⟨playable, missing⟩

/-- Appending many ids keeps the listed ones in front and adds what is
playable of the others. -/
theorem Ordered.appendAll
    {orderedIds : List UInt32}
    (ordered : Ordered orderedIds)
    (classIds : List UInt32) :
    orderedIds <+: classIds.foldl appendClassIfMissing orderedIds ∧
      ∀ member,
        member ∈ classIds.foldl appendClassIfMissing orderedIds ↔
          member ∈ orderedIds ∨
            (member ∈ classIds ∧ isPlayableClassId member = true) := by
  induction classIds generalizing orderedIds with
  | nil =>
      exact ⟨List.prefix_refl orderedIds, by simp⟩
  | cons classId later inductionHypothesis =>
      obtain ⟨inFront, members⟩ :=
        inductionHypothesis (ordered.append classId)
      refine ⟨?_, fun member => ?_⟩
      · refine List.IsPrefix.trans ?_ inFront
        rw [ordered.append_eq]
        split
        · exact List.prefix_append orderedIds [classId]
        · exact List.prefix_refl orderedIds
      · rw [List.foldl_cons, members member, ordered.mem_append,
          List.mem_cons]
        constructor
        · rintro ((isListed | ⟨rfl, playable⟩) | ⟨isLater, playable⟩)
          · exact .inl isListed
          · exact .inr ⟨.inl rfl, playable⟩
          · exact .inr ⟨.inr isLater, playable⟩
        · rintro (isListed | ⟨rfl | isLater, playable⟩)
          · exact .inl (.inl isListed)
          · exact .inl (.inr ⟨rfl, playable⟩)
          · exact .inr ⟨isLater, playable⟩

theorem ordered_nil : Ordered [] :=
  ⟨List.nodup_nil, fun _ member => by cases member⟩

/-- A class of a mask is playable. -/
theorem isPlayableClassId_of_hasClass
    {classMask classId : UInt32}
    (assigned : hasClass classMask classId = true) :
    isPlayableClassId classId = true := by
  by_contra notPlayable
  rw [hasClass, classBit, if_neg notPlayable] at assigned
  simp at assigned

/-- A mask whose primary class, if any, it has: all of its classes are in the
list, the primary one in front. -/
theorem mem_buildOrderedClassIdList
    {primaryClassId classMask : UInt32}
    (valid : isPlayableClassMask classMask = true)
    (primary :
      isPlayableClassId primaryClassId = true →
        hasClass classMask primaryClassId = true)
    {classId : UInt32} :
    classId ∈ buildOrderedClassIdList primaryClassId true classMask ↔
      hasClass classMask classId = true := by
  by_cases isEmpty : classMask = 0
  · subst isEmpty
    simp [buildOrderedClassIdList, hasClass]
  · have guarded :
        (true && classMask != 0 && isPlayableClassMask classMask) = true := by
      simp [isEmpty, valid]
    have oneFirst := ordered_nil.append primaryClassId
    rw [buildOrderedClassIdList, if_pos guarded,
      (oneFirst.appendAll _).2, ordered_nil.mem_append, List.mem_filter,
      mem_playableClassIds]
    constructor
    · rintro ((inNil | ⟨rfl, playable⟩) | ⟨⟨_, assigned⟩, _⟩)
      · cases inNil
      · exact primary playable
      · exact assigned
    · intro assigned
      have playable := isPlayableClassId_of_hasClass assigned
      exact .inr ⟨⟨playable, assigned⟩, playable⟩

/-- Different playable ids are appended in their order, but for the listed
ones. -/
theorem Ordered.appendAll_eq
    {orderedIds classIds : List UInt32}
    (ordered : Ordered orderedIds)
    (nodup : classIds.Nodup)
    (playable :
      ∀ classId ∈ classIds, isPlayableClassId classId = true) :
    classIds.foldl appendClassIfMissing orderedIds =
      orderedIds ++ classIds.filter (· ∉ orderedIds) := by
  induction classIds generalizing orderedIds with
  | nil =>
      simp
  | cons classId later inductionHypothesis =>
      obtain ⟨notLater, laterNodup⟩ := List.nodup_cons.mp nodup
      have laterPlayable :
          ∀ next ∈ later, isPlayableClassId next = true :=
        fun next member => playable next (List.mem_cons_of_mem classId member)
      rw [List.foldl_cons,
        inductionHypothesis (ordered.append classId) laterNodup
          laterPlayable,
        ordered.append_eq]
      by_cases isListed : classId ∈ orderedIds
      · rw [if_neg fun appended => appended.2 isListed,
          List.filter_cons_of_neg (by simpa using isListed)]
      · have sameLater :
            later.filter (· ∉ orderedIds ++ [classId]) =
              later.filter (· ∉ orderedIds) := by
          apply List.filter_congr
          intro next member
          have different : next ≠ classId := by
            rintro rfl
            exact notLater member
          simp [different]
        rw [if_pos ⟨playable classId List.mem_cons_self, isListed⟩,
          List.filter_cons_of_pos (by simpa using isListed), sameLater,
          List.append_assoc]
        rfl

/-- The ids are listed once each. -/
theorem nodup_playableClassIds : playableClassIds.Nodup := by
  decide

/-- The classes of a mask in the order of their ids. -/
def assignedClassIds (classMask : UInt32) : List UInt32 :=
  playableClassIds.filter (hasClass classMask)

theorem mem_assignedClassIds {classMask classId : UInt32} :
    classId ∈ assignedClassIds classMask ↔
      hasClass classMask classId = true := by
  rw [assignedClassIds, List.mem_filter, mem_playableClassIds]
  exact and_iff_right_of_imp isPlayableClassId_of_hasClass

theorem nodup_assignedClassIds (classMask : UInt32) :
    (assignedClassIds classMask).Nodup :=
  nodup_playableClassIds.filter _

/-- One of a mask's classes first, then its others in the order of their
ids. -/
theorem buildOrderedClassIdList_eq
    {primaryClassId classMask : UInt32}
    (valid : isPlayableClassMask classMask = true)
    (primary : hasClass classMask primaryClassId = true) :
    buildOrderedClassIdList primaryClassId true classMask =
      primaryClassId ::
        (assignedClassIds classMask).filter (· ≠ primaryClassId) := by
  have playable := isPlayableClassId_of_hasClass primary
  have notEmpty : classMask ≠ 0 := by
    rintro rfl
    simp [hasClass] at primary
  have guarded :
      (true && classMask != 0 && isPlayableClassMask classMask) = true := by
    simp [notEmpty, valid]
  have oneFirst :
      appendClassIfMissing [] primaryClassId = [primaryClassId] := by
    rw [ordered_nil.append_eq, if_pos ⟨playable, List.not_mem_nil⟩]
    rfl
  have first : Ordered [primaryClassId] :=
    oneFirst ▸ ordered_nil.append primaryClassId
  have assignedPlayable :
      ∀ classId ∈ assignedClassIds classMask,
        isPlayableClassId classId = true :=
    fun classId member =>
      isPlayableClassId_of_hasClass (mem_assignedClassIds.mp member)
  rw [buildOrderedClassIdList, if_pos guarded, oneFirst, ← assignedClassIds,
    first.appendAll_eq (nodup_assignedClassIds classMask) assignedPlayable]
  simp

/-- The primary class comes first. -/
theorem buildOrderedClassIdList_primary
    {primaryClassId classMask : UInt32}
    (valid : isPlayableClassMask classMask = true)
    (primary : hasClass classMask primaryClassId = true) :
    ∃ others,
      buildOrderedClassIdList primaryClassId true classMask =
        primaryClassId :: others :=
  ⟨_, buildOrderedClassIdList_eq valid primary⟩

/-! ## Masks of several classes -/

/-- A list without repetition has two members if two of them differ. -/
theorem two_le_length_iff
    {α : Type}
    {items : List α}
    (nodup : items.Nodup) :
    2 ≤ items.length ↔ ∃ first ∈ items, ∃ second ∈ items, first ≠ second := by
  cases items with
  | nil =>
      simp
  | cons first later =>
      cases later with
      | nil =>
          simp
      | cons second rest =>
          have different : first ≠ second := by
            rintro rfl
            simp at nodup
          simp only [List.length_cons, Nat.le_add_left, true_iff]
          exact ⟨first, by simp, second, by simp, different⟩

/-- A number is not a power of two when it has two bits. -/
theorem and_sub_one_ne_zero_iff (number : Nat) :
    number &&& (number - 1) ≠ 0 ↔
      ∃ first second, number.testBit first = true ∧
        number.testBit second = true ∧ first ≠ second := by
  by_cases isZero : number = 0
  · simp [isZero]
  · rw [Ne, Nat.and_sub_one_eq_zero_iff_isPowerOfTwo isZero]
    constructor
    · intro several
      obtain ⟨first, hasFirst⟩ := Nat.exists_testBit_of_ne_zero isZero
      have notOne : number ≠ 2 ^ first := fun same => several ⟨first, same⟩
      obtain ⟨second, differs⟩ : ∃ second,
          number.testBit second ≠ (2 ^ first).testBit second := by
        by_contra same
        exact notOne (Nat.eq_of_testBit_eq fun position =>
          not_not.mp fun differs => same ⟨position, differs⟩)
      have different : first ≠ second := by
        rintro rfl
        simp [hasFirst] at differs
      refine ⟨first, second, hasFirst, ?_, different⟩
      rw [Nat.testBit_two_pow_of_ne different] at differs
      simpa using differs
    · rintro ⟨first, second, hasFirst, hasSecond, different⟩ ⟨exponent, rfl⟩
      rw [Nat.testBit_two_pow] at hasFirst hasSecond
      have firstOnly := of_decide_eq_true hasFirst
      have secondOnly := of_decide_eq_true hasSecond
      omega

/-- The bits of a playable mask are those of its classes. -/
theorem testBit_iff_mem_assignedClassIds
    {classMask : UInt32}
    (valid : isPlayableClassMask classMask = true)
    {position : Nat} :
    classMask.toNat.testBit position = true ↔
      ∃ classId ∈ assignedClassIds classMask,
        classId.toNat = position + 1 := by
  constructor
  · intro isSet
    have inside : position < 16 := by
      by_contra high
      have tooLarge : 2 ^ 16 ≤ 2 ^ position :=
        Nat.pow_le_pow_right (by decide) (Nat.not_lt.mp high)
      rw [Nat.testBit_lt_two_pow (Nat.lt_of_lt_of_le
        (isPlayableClassMask_iff.mp valid) tooLarge)] at isSet
      cases isSet
    have sameNumber :
        (UInt32.ofNat (position + 1)).toNat = position + 1 :=
      Nat.mod_eq_of_lt (by omega)
    refine ⟨UInt32.ofNat (position + 1),
      mem_assignedClassIds.mpr ((hasClass_iff (by omega)).mpr ?_),
      sameNumber⟩
    rw [sameNumber, Nat.add_sub_cancel]
    exact isSet
  · rintro ⟨classId, member, same⟩
    have assigned := mem_assignedClassIds.mp member
    have playable :=
      isPlayableClassId_iff.mp (isPlayableClassId_of_hasClass assigned)
    have isSet := (hasClass_iff playable).mp assigned
    rw [same, Nat.add_sub_cancel] at isSet
    exact isSet

/-- A playable mask has two classes when it is not a power of two. -/
theorem severalClasses_iff
    {classMask : UInt32}
    (valid : isPlayableClassMask classMask = true) :
    classMask &&& (classMask - 1) ≠ 0 ↔
      2 ≤ (assignedClassIds classMask).length := by
  by_cases isEmpty : classMask = 0
  · subst isEmpty
    decide
  · have oneLe : (1 : UInt32) ≤ classMask := by
      rw [UInt32.le_iff_toNat_le, UInt32.toNat_one]
      exact Nat.one_le_iff_ne_zero.mpr fun same =>
        isEmpty (UInt32.toNat_inj.mp same)
    rw [Ne, ← UInt32.toNat_inj, UInt32.toNat_and,
      UInt32.toNat_sub_of_le _ _ oneLe, UInt32.toNat_one,
      UInt32.toNat_zero, ← Ne, and_sub_one_ne_zero_iff,
      two_le_length_iff (nodup_assignedClassIds classMask)]
    constructor
    · rintro ⟨first, second, hasFirst, hasSecond, different⟩
      obtain ⟨firstId, firstMember, firstNumber⟩ :=
        (testBit_iff_mem_assignedClassIds valid).mp hasFirst
      obtain ⟨secondId, secondMember, secondNumber⟩ :=
        (testBit_iff_mem_assignedClassIds valid).mp hasSecond
      refine ⟨firstId, firstMember, secondId, secondMember, ?_⟩
      rintro rfl
      omega
    · rintro ⟨firstId, firstMember, secondId, secondMember, different⟩
      have numbered :
          ∀ classId ∈ assignedClassIds classMask,
            classId.toNat = classId.toNat - 1 + 1 := by
        intro classId member
        have playable := isPlayableClassId_iff.mp
          (isPlayableClassId_of_hasClass (mem_assignedClassIds.mp member))
        omega
      refine ⟨firstId.toNat - 1, secondId.toNat - 1,
        (testBit_iff_mem_assignedClassIds valid).mpr
          ⟨firstId, firstMember, numbered firstId firstMember⟩,
        (testBit_iff_mem_assignedClassIds valid).mpr
          ⟨secondId, secondMember, numbered secondId secondMember⟩,
        fun same => different (UInt32.toNat_inj.mp ?_)⟩
      have firstNumber := numbered firstId firstMember
      have secondNumber := numbered secondId secondMember
      omega

end MonomythClient.MulticlassIdentity
