import Mathlib.Data.List.Induction
import MonomythClient.ServerAuthStatsPayload

namespace MonomythClient.ServerAuthStats

open LittleEndian PayloadReader

/-!
# What a server-auth-stats payload says

The entries a payload carries, read off its bytes without a running offset, and
the result they amount to: for each key the last accepted value, whether there
is one, and whether there are several.  The parser's loop computes this summary
for every payload of the exact length, and nothing else is accepted.
-/

/-! ## Entries -/

/-- One key and value. -/
structure StatEntry where
  key : UInt32
  value : UInt64
  deriving Repr, DecidableEq

/-- The entry count a payload announces. -/
def entryCount (contents : List UInt8) : Nat :=
  field contents 0 4

/-- The entry with a given index. -/
def statEntry (contents : List UInt8) (index : Nat) : StatEntry where
  key := UInt32.ofNat (field contents (4 + 12 * index) 4)
  value := UInt64.ofNat (field contents (4 + 12 * index + 4) 8)

/-- All announced entries in order. -/
def statEntries (contents : List UInt8) : List StatEntry :=
  (List.range (entryCount contents)).map (statEntry contents)

/-- The payload has room for exactly the entries it announces. -/
def WellSized (contents : List UInt8) : Prop :=
  contents.length = 4 + 12 * entryCount contents

instance (contents : List UInt8) : Decidable (WellSized contents) :=
  inferInstanceAs (Decidable (_ = _))

/-! ## Their summary -/

/-- The values entries give a key, in order. -/
def valuesOf (key : UInt32) (entries : List StatEntry) : List UInt64 :=
  (entries.filter fun entry => entry.key = key).map StatEntry.value

/-- The values that a 32-bit stat can hold. -/
def inRange (values : List UInt64) : List UInt32 :=
  (values.filter fun value => value ≤ kUInt32Max).map UInt64.toUInt32

/-- The values that it cannot. -/
def outOfRange (values : List UInt64) : List UInt64 :=
  values.filter fun value => kUInt32Max < value

/-- The last accepted value, if any, and whether there are at least two. -/
def StatField.ofAccepted
    {Value : Type}
    [OfNat Value 0]
    (accepted : List Value) :
    StatField Value where
  has := decide (accepted ≠ [])
  value := accepted.getLast?.getD 0
  duplicate := decide (2 ≤ accepted.length)

/-- The keys the switch has a case for. -/
def Recognized (entry : StatEntry) : Prop :=
  entry.key = kStatClassesBitmaskKey ∨
    entry.key = kStatActivatedSkillMaskLowKey ∨
    entry.key = kStatActivatedSkillMaskHighKey ∨
    entry.key = kStatExtraPet0Hp1000Key ∨
    entry.key = kStatExtraPet1Hp1000Key ∨
    entry.key = kStatFocusedPetIdKey

instance (entry : StatEntry) : Decidable (Recognized entry) :=
  inferInstanceAs (Decidable (_ ∨ _))

/-- The entries counted as unknown: other keys, and oversized pet ids. -/
def CountedUnknown (entry : StatEntry) : Prop :=
  ¬ Recognized entry ∨
    (entry.key = kStatFocusedPetIdKey ∧ kUInt32Max < entry.value)

instance (entry : StatEntry) : Decidable (CountedUnknown entry) :=
  inferInstanceAs (Decidable (_ ∨ _))

/-- The running result after some entries, before the payload is accepted. -/
def tally (count : UInt32) (entries : List StatEntry) : ParseResult where
  valid := false
  count := count
  classesBitmask :=
    .ofAccepted (inRange (valuesOf kStatClassesBitmaskKey entries))
  invalidClassesBitmask :=
    (valuesOf kStatClassesBitmaskKey entries).any fun value =>
      kUInt32Max < value
  invalidClassesBitmaskValue :=
    (outOfRange (valuesOf kStatClassesBitmaskKey entries)).getLast?.getD 0
  activatedSkillMaskLow :=
    .ofAccepted (valuesOf kStatActivatedSkillMaskLowKey entries)
  activatedSkillMaskHigh :=
    .ofAccepted (valuesOf kStatActivatedSkillMaskHighKey entries)
  extraPetHp1000 :=
    #v[.ofAccepted (valuesOf kStatExtraPet0Hp1000Key entries),
      .ofAccepted (valuesOf kStatExtraPet1Hp1000Key entries)]
  focusedPetId :=
    .ofAccepted (inRange (valuesOf kStatFocusedPetIdKey entries))
  recognizedEntryCount :=
    UInt32.ofNat (entries.countP fun entry => Recognized entry)
  unknownEntryCount :=
    UInt32.ofNat (entries.countP fun entry => CountedUnknown entry)
  malformedReason := .unknown

/-- The result of a payload with these entries. -/
def summarize (entries : List StatEntry) : ParseResult :=
  { tally (UInt32.ofNat entries.length) entries with
    valid := true
    malformedReason := .none }

/-! ## One entry -/

/-- Accepting one more value is one step of the parser. -/
@[simp] theorem StatField.ofAccepted_append
    {Value : Type}
    [OfNat Value 0]
    (accepted : List Value)
    (value : Value) :
    StatField.ofAccepted (accepted ++ [value]) =
      (StatField.ofAccepted accepted).accept value := by
  have several : 2 ≤ accepted.length + 1 ↔ accepted ≠ [] := by
    rw [← List.length_pos_iff]
    omega
  simp [StatField.ofAccepted, StatField.accept, several]

@[simp] theorem valuesOf_append
    (key : UInt32)
    (entries : List StatEntry)
    (entry : StatEntry) :
    valuesOf key (entries ++ [entry]) =
      valuesOf key entries ++
        if entry.key = key then [entry.value] else [] := by
  by_cases same : entry.key = key
  · simp [valuesOf, same]
  · simp [valuesOf, same]

@[simp] theorem inRange_append (values more : List UInt64) :
    inRange (values ++ more) = inRange values ++ inRange more := by
  simp [inRange]

@[simp] theorem inRange_singleton (value : UInt64) :
    inRange [value] =
      if kUInt32Max < value then [] else [value.toUInt32] := by
  by_cases wide : kUInt32Max < value
  · simp [inRange, wide, UInt64.not_le.mpr wide]
  · simp [inRange, wide, UInt64.not_lt.mp wide]

@[simp] theorem outOfRange_append (values more : List UInt64) :
    outOfRange (values ++ more) = outOfRange values ++ outOfRange more := by
  simp [outOfRange]

@[simp] theorem outOfRange_singleton (value : UInt64) :
    outOfRange [value] =
      if kUInt32Max < value then [value] else [] := by
  by_cases wide : kUInt32Max < value
  · simp [outOfRange, wide]
  · simp [outOfRange, wide]

@[simp] theorem inRange_nil : inRange [] = [] := rfl

/-- The switch adds one entry to the running result. -/
theorem tally_append
    (count : UInt32)
    (entries : List StatEntry)
    (entry : StatEntry) :
    tally count (entries ++ [entry]) =
      applyStatEntry (tally count entries) entry.key entry.value := by
  obtain ⟨key, value⟩ := entry
  by_cases classes : key = kStatClassesBitmaskKey
  · subst classes
    by_cases wide : kUInt32Max < value
    · simp [tally, applyStatEntry, Recognized, CountedUnknown, wide]
    · simp [tally, applyStatEntry, Recognized, CountedUnknown, wide]
  by_cases skillsLow : key = kStatActivatedSkillMaskLowKey
  · subst skillsLow
    simp [tally, applyStatEntry, Recognized, CountedUnknown]
  by_cases skillsHigh : key = kStatActivatedSkillMaskHighKey
  · subst skillsHigh
    simp [tally, applyStatEntry, Recognized, CountedUnknown]
  by_cases extraPet0 : key = kStatExtraPet0Hp1000Key
  · subst extraPet0
    simp [tally, applyStatEntry, Recognized, CountedUnknown]
  by_cases extraPet1 : key = kStatExtraPet1Hp1000Key
  · subst extraPet1
    simp [tally, applyStatEntry, Recognized, CountedUnknown]
  by_cases focusedPet : key = kStatFocusedPetIdKey
  · subst focusedPet
    by_cases wide : kUInt32Max < value
    · simp [tally, applyStatEntry, Recognized, CountedUnknown, wide]
    · simp [tally, applyStatEntry, Recognized, CountedUnknown, wide]
  · simp_all [tally, applyStatEntry, Recognized, CountedUnknown]

/-- Folding the switch over all entries leaves their tally. -/
theorem foldl_applyStatEntry
    (count : UInt32)
    (entries : List StatEntry) :
    entries.foldl
        (fun result entry => applyStatEntry result entry.key entry.value)
        (tally count []) =
      tally count entries := by
  induction entries using List.reverseRecOn with
  | nil =>
      rfl
  | append_singleton earlier entry inductionHypothesis =>
      rw [List.foldl_append, inductionHypothesis, tally_append]
      rfl

/-! ## The parser's loop -/

/-- Inside the payload, the loop folds the switch over the entries left. -/
theorem parseEntries_inside
    {memory : List UInt8}
    {payloadLength : UInt32}
    (readable : payloadLength.toNat ≤ memory.length)
    (remaining : Nat)
    (i : UInt32)
    (result : ParseResult)
    (inside : 4 + 12 * (i.toNat + remaining) ≤ payloadLength.toNat) :
    parseEntries (some memory) payloadLength remaining i result =
      { ((List.range' i.toNat remaining).map (statEntry memory)).foldl
          (fun current entry =>
            applyStatEntry current entry.key entry.value) result with
        valid := true
        malformedReason := .none } := by
  induction remaining generalizing i result with
  | zero =>
      rfl
  | succ remaining inductionHypothesis =>
      have lengthFits := payloadLength.toNat_lt
      generalize shape :
        kHeaderBytes.toUInt64 + i.toUInt64 * kEntryBytes.toUInt64 =
          entryOffset
      have offset : entryOffset.toNat = 4 + 12 * i.toNat := by
        rw [← shape, UInt64.toNat_add, UInt64.toNat_mul,
          UInt32.toNat_toUInt64]
        change (4 + i.toNat * 12 % 2 ^ 64) % 2 ^ 64 = _
        omega
      have noOverflow : ¬ kUInt32Max < entryOffset := by
        rw [UInt64.lt_iff_toNat_lt, offset]
        change ¬ 2 ^ 32 - 1 < 4 + 12 * i.toNat
        omega
      have keyOffset : entryOffset.toUInt32.toNat = 4 + 12 * i.toNat := by
        rw [UInt64.toNat_toUInt32, offset]
        omega
      have valueOffset :
          (entryOffset.toUInt32 + 4).toNat = 4 + 12 * i.toNat + 4 := by
        rw [UInt32.toNat_add, keyOffset]
        change (4 + 12 * i.toNat + 4) % 2 ^ 32 = _
        omega
      have nextIndex : (i + 1).toNat = i.toNat + 1 := by
        rw [UInt32.toNat_add]
        change (i.toNat + 1) % 2 ^ 32 = _
        omega
      have keyRead :=
        tryReadU32_inside readable
          (by rw [keyOffset]; omega :
            entryOffset.toUInt32.toNat + 4 ≤ payloadLength.toNat)
      have valueRead :=
        tryReadU64_inside readable
          (by rw [valueOffset]; omega :
            (entryOffset.toUInt32 + 4).toNat + 8 ≤ payloadLength.toNat)
      rw [keyOffset] at keyRead
      rw [valueOffset] at valueRead
      simp only [parseEntries, shape, if_neg noOverflow, keyRead, valueRead]
      rw [inductionHypothesis (i + 1) _ (by rw [nextIndex]; omega),
        nextIndex, List.range'_succ, List.map_cons, List.foldl_cons]
      rfl

end MonomythClient.ServerAuthStats
