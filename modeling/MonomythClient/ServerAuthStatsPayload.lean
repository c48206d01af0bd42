import MonomythClient.PayloadReader

namespace MonomythClient.ServerAuthStats

open PayloadReader

/-!
# The server-auth-stats payload

A payload is a 32-bit entry count followed by that many entries, each a 32-bit
key and a 64-bit value.  `parsePayload` follows the source: the length is
checked in fixed-width arithmetic, a loop reads each entry at a computed offset
and a switch on the key updates the result.
-/

/-! ## Results -/

@[simp] def kStatClassesBitmaskKey : UInt32 := 1
@[simp] def kStatActivatedSkillMaskLowKey : UInt32 := 2
@[simp] def kStatActivatedSkillMaskHighKey : UInt32 := 3
@[simp] def kStatExtraPet0Hp1000Key : UInt32 := 100
@[simp] def kStatExtraPet1Hp1000Key : UInt32 := 101
@[simp] def kStatFocusedPetIdKey : UInt32 := 102
def kHeaderBytes : UInt32 := 4
def kEntryBytes : UInt32 := 12

/-- The largest value that a 32-bit stat can hold. -/
def kUInt32Max : UInt64 := 0xFFFFFFFF

/--
What the result keeps for one key: its `has_`, value and `duplicate_` members.
-/
structure StatField (Value : Type) where
  has : Bool
  value : Value
  duplicate : Bool
  deriving Repr, DecidableEq

/-- A key that no entry has set. -/
def StatField.absent {Value : Type} [OfNat Value 0] : StatField Value where
  has := false
  value := 0
  duplicate := false

/-- The three assignments the parser makes for an accepted entry. -/
def StatField.accept
    {Value : Type}
    (field : StatField Value)
    (value : Value) :
    StatField Value where
  has := true
  value := value
  duplicate := field.has

/-- Why a payload was not accepted. -/
inductive MalformedReason where
  | notParsed
  | unknown
  | nullPayload
  | payloadTooShortForCount
  | countReadFault
  | truncatedEntries
  | unexpectedTrailingBytes
  | entryOffsetOverflow
  | statKeyReadFault
  | statValueReadFault
  | none
  deriving Repr, DecidableEq

/-- The reasons that report a failed copy out of memory. -/
def MalformedReason.isReadFault : MalformedReason → Bool
  | countReadFault | statKeyReadFault | statValueReadFault => true
  | _ => false

/-- `ParseResult`; the two extra-pet slots are a vector, as in the source. -/
structure ParseResult where
  valid : Bool
  count : UInt32
  classesBitmask : StatField UInt32
  invalidClassesBitmask : Bool
  invalidClassesBitmaskValue : UInt64
  activatedSkillMaskLow : StatField UInt64
  activatedSkillMaskHigh : StatField UInt64
  extraPetHp1000 : Vector (StatField UInt64) 2
  focusedPetId : StatField UInt32
  recognizedEntryCount : UInt32
  unknownEntryCount : UInt32
  malformedReason : MalformedReason
  deriving Repr, DecidableEq

/-- The default member values. -/
def ParseResult.initial : ParseResult where
  valid := false
  count := 0
  classesBitmask := .absent
  invalidClassesBitmask := false
  invalidClassesBitmaskValue := 0
  activatedSkillMaskLow := .absent
  activatedSkillMaskHigh := .absent
  extraPetHp1000 := #v[.absent, .absent]
  focusedPetId := .absent
  recognizedEntryCount := 0
  unknownEntryCount := 0
  malformedReason := .notParsed

/-! ## Parsing -/

/-- The switch over one entry's key. -/
def applyStatEntry
    (result : ParseResult)
    (statKey : UInt32)
    (statValue : UInt64) :
    ParseResult :=
  let recognized :=
    { result with
      recognizedEntryCount := result.recognizedEntryCount + 1 }
  if statKey = kStatClassesBitmaskKey then
    if kUInt32Max < statValue then
      { recognized with
        invalidClassesBitmask := true
        invalidClassesBitmaskValue := statValue }
    else
      { recognized with
        classesBitmask :=
          result.classesBitmask.accept statValue.toUInt32 }
  else if statKey = kStatActivatedSkillMaskLowKey then
    { recognized with
      activatedSkillMaskLow :=
        result.activatedSkillMaskLow.accept statValue }
  else if statKey = kStatActivatedSkillMaskHighKey then
    { recognized with
      activatedSkillMaskHigh :=
        result.activatedSkillMaskHigh.accept statValue }
  else if statKey = kStatExtraPet0Hp1000Key ∨
      statKey = kStatExtraPet1Hp1000Key then
    let slot : Fin 2 := if statKey = kStatExtraPet0Hp1000Key then 0 else 1
    { recognized with
      extraPetHp1000 :=
        result.extraPetHp1000.set slot
          (result.extraPetHp1000[slot].accept statValue) }
  else if statKey = kStatFocusedPetIdKey then
    if kUInt32Max < statValue then
      { recognized with
        unknownEntryCount := result.unknownEntryCount + 1 }
    else
      { recognized with
        focusedPetId := result.focusedPetId.accept statValue.toUInt32 }
  else
    { result with unknownEntryCount := result.unknownEntryCount + 1 }

/-- The entry loop: the entries that remain, and the index of the next. -/
def parseEntries
    (payload : Pointer)
    (payloadLength : UInt32) :
    Nat → UInt32 → ParseResult → ParseResult
  | 0, _, result => { result with valid := true, malformedReason := .none }
  | remaining + 1, i, result =>
      let entryOffset : UInt64 :=
        kHeaderBytes.toUInt64 + i.toUInt64 * kEntryBytes.toUInt64
      if kUInt32Max < entryOffset then
        { result with malformedReason := .entryOffsetOverflow }
      else
        let keyOffset := entryOffset.toUInt32
        let valueOffset := keyOffset + 4
        match tryReadU32 payload payloadLength keyOffset with
        | none => { result with malformedReason := .statKeyReadFault }
        | some statKey =>
            match tryReadU64 payload payloadLength valueOffset with
            | none => { result with malformedReason := .statValueReadFault }
            | some statValue =>
                parseEntries payload payloadLength remaining (i + 1)
                  (applyStatEntry result statKey statValue)

/-- `ParsePayload`. -/
def parsePayload
    (payload : Pointer)
    (payloadLength : UInt32) :
    ParseResult :=
  let result := { ParseResult.initial with malformedReason := .unknown }
  if payload = none ∧ payloadLength ≠ 0 then
    { result with malformedReason := .nullPayload }
  else if payloadLength < kHeaderBytes then
    { result with malformedReason := .payloadTooShortForCount }
  else
    match tryReadU32 payload payloadLength 0 with
    | none => { result with malformedReason := .countReadFault }
    | some count =>
        let result := { result with count := count }
        let bodyLength := payloadLength - kHeaderBytes
        let maxEntriesFromPayload := bodyLength / kEntryBytes
        if maxEntriesFromPayload < count then
          { result with malformedReason := .truncatedEntries }
        else
          let expectedLength : UInt64 :=
            kHeaderBytes.toUInt64 + count.toUInt64 * kEntryBytes.toUInt64
          if expectedLength ≠ payloadLength.toUInt64 then
            { result with malformedReason := .unexpectedTrailingBytes }
          else
            parseEntries payload payloadLength count.toNat 0 result

end MonomythClient.ServerAuthStats
