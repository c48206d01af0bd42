import MonomythClient.ServerAuthStatsEntries

namespace MonomythClient.ServerAuthStats

open LittleEndian PayloadReader

/-!
# The server-auth-stats parser is exact

For a payload in readable memory, whatever follows it there, the parser's
result is one of four: too short for a count, too short for the entries, too
long for them, or the summary of the entries.
-/

/-- A payload that was turned down after reading the given count. -/
def rejected (count : UInt32) (reason : MalformedReason) : ParseResult :=
  { ParseResult.initial with
    count := count
    malformedReason := reason }

/-- The result for a payload, from its length and its announced entries. -/
def verdict (contents : List UInt8) : ParseResult :=
  if contents.length < 4 then
    rejected 0 .payloadTooShortForCount
  else if contents.length < 4 + 12 * entryCount contents then
    rejected (UInt32.ofNat (entryCount contents)) .truncatedEntries
  else if WellSized contents then
    summarize (statEntries contents)
  else
    rejected (UInt32.ofNat (entryCount contents)) .unexpectedTrailingBytes

/-- The announced count is a 32-bit number. -/
theorem entryCount_lt (contents : List UInt8) :
    entryCount contents < 2 ^ 32 :=
  field_lt contents 0 4

/-- An entry inside a payload does not depend on what follows it. -/
theorem statEntry_append
    {contents : List UInt8}
    (beyond : List UInt8)
    {index : Nat}
    (inside : 4 + 12 * (index + 1) ≤ contents.length) :
    statEntry (contents ++ beyond) index = statEntry contents index := by
  rw [statEntry, field_append beyond (by omega),
    field_append beyond (by omega), statEntry]

/-- Reading a payload of the exact length gives its summary. -/
theorem parseEntries_wellSized
    {contents beyond : List UInt8}
    (fits : contents.length < 2 ^ 32)
    (wellSized : WellSized contents) :
    parseEntries (some (contents ++ beyond)) (UInt32.ofNat contents.length)
        (entryCount contents) 0
        (tally (UInt32.ofNat (entryCount contents)) []) =
      summarize (statEntries contents) := by
  have length : (UInt32.ofNat contents.length).toNat = contents.length := by
    rw [UInt32.toNat_ofNat', Nat.mod_eq_of_lt fits]
  have sameEntries :
      (List.range (entryCount contents)).map
          (statEntry (contents ++ beyond)) =
        statEntries contents := by
    apply List.map_congr_left
    intro index member
    have indexInside := List.mem_range.mp member
    exact statEntry_append beyond (by rw [wellSized]; omega)
  have readable :
      (UInt32.ofNat contents.length).toNat ≤
        (contents ++ beyond).length := by
    rw [length, List.length_append]
    exact Nat.le_add_right _ _
  have firstIndex : (0 : UInt32).toNat = 0 := rfl
  rw [parseEntries_inside readable _ 0 _
      (by rw [length, firstIndex, Nat.zero_add]; exact wellSized.ge),
    firstIndex, ← List.range_eq_range', sameEntries, foldl_applyStatEntry]
  simp [summarize, statEntries]

/-- The division that bounds the count detects exactly the short payloads. -/
theorem truncated_iff
    {payloadLength : UInt32}
    (count : UInt32)
    (header : 4 ≤ payloadLength.toNat) :
    (payloadLength - kHeaderBytes) / kEntryBytes < count ↔
      payloadLength.toNat < 4 + 12 * count.toNat := by
  have headerInside : kHeaderBytes ≤ payloadLength :=
    UInt32.le_iff_toNat_le.mpr header
  rw [UInt32.lt_iff_toNat_lt, UInt32.toNat_div,
    UInt32.toNat_sub_of_le _ _ headerInside]
  change (payloadLength.toNat - 4) / 12 < count.toNat ↔ _
  rw [Nat.div_lt_iff_lt_mul (by decide)]
  omega

/-- The expected length is computed without wrap-around for any count. -/
theorem expectedLength_eq_iff (payloadLength count : UInt32) :
    kHeaderBytes.toUInt64 + count.toUInt64 * kEntryBytes.toUInt64 =
        payloadLength.toUInt64 ↔
      payloadLength.toNat = 4 + 12 * count.toNat := by
  have countFits := count.toNat_lt
  simp only [← UInt64.toNat_inj, UInt64.toNat_add, UInt64.toNat_mul,
    UInt32.toNat_toUInt64]
  change (4 + count.toNat * 12 % 2 ^ 64) % 2 ^ 64 = _ ↔ _
  rw [Nat.mod_eq_of_lt (a := count.toNat * 12) (by omega),
    Nat.mod_eq_of_lt (by omega), Nat.mul_comm, eq_comm]

/-- The parser returns the verdict on the payload. -/
theorem parsePayload_eq_verdict
    {contents : List UInt8}
    (fits : contents.length < 2 ^ 32)
    (beyond : List UInt8) :
    parsePayload (some (contents ++ beyond))
        (UInt32.ofNat contents.length) =
      verdict contents := by
  have length : (UInt32.ofNat contents.length).toNat = contents.length := by
    rw [UInt32.toNat_ofNat', Nat.mod_eq_of_lt fits]
  have count :
      (UInt32.ofNat (entryCount contents)).toNat = entryCount contents := by
    rw [UInt32.toNat_ofNat', Nat.mod_eq_of_lt (entryCount_lt contents)]
  have notNull :
      ¬ (some (contents ++ beyond) = none ∧
        UInt32.ofNat contents.length ≠ 0) := by
    simp
  have tooShort_iff :
      UInt32.ofNat contents.length < kHeaderBytes ↔
        contents.length < 4 := by
    rw [UInt32.lt_iff_toNat_lt, length]
    rfl
  by_cases tooShort : contents.length < 4
  · simp only [parsePayload, if_neg notNull, tooShort_iff, if_pos tooShort,
      verdict]
    rfl
  have header : 4 ≤ contents.length := Nat.not_lt.mp tooShort
  have countRead :
      tryReadU32 (some (contents ++ beyond))
          (UInt32.ofNat contents.length) 0 =
        some (UInt32.ofNat (entryCount contents)) := by
    have firstOffset : (0 : UInt32).toNat = 0 := rfl
    have read :=
      tryReadU32_inside
        (by rw [length, List.length_append]; exact Nat.le_add_right _ _ :
          (UInt32.ofNat contents.length).toNat ≤
            (contents ++ beyond).length)
        (by rw [length, firstOffset]; exact header :
          (0 : UInt32).toNat + 4 ≤ (UInt32.ofNat contents.length).toNat)
    rwa [firstOffset, field_append beyond (by omega)] at read
  have lengthHeader : 4 ≤ (UInt32.ofNat contents.length).toNat := by
    rw [length]
    exact header
  simp only [parsePayload, if_neg notNull, tooShort_iff, if_neg tooShort,
    countRead, truncated_iff _ lengthHeader, ne_eq, expectedLength_eq_iff,
    length, count, verdict]
  by_cases truncated : contents.length < 4 + 12 * entryCount contents
  · simp only [if_pos truncated]
    rfl
  by_cases wellSized : WellSized contents
  · have exact : contents.length = 4 + 12 * entryCount contents := wellSized
    simp only [if_neg truncated, if_pos wellSized,
      if_neg (not_not.mpr exact)]
    exact parseEntries_wellSized fits wellSized
  · have inexact : ¬ contents.length = 4 + 12 * entryCount contents :=
      wellSized
    simp only [if_neg truncated, if_neg wellSized, if_pos inexact]
    rfl

/-! ## Exactness -/

/-- No stat is reported present. -/
structure ReportsNothing (result : ParseResult) : Prop where
  classesBitmask : result.classesBitmask.has = false
  activatedSkillMaskLow : result.activatedSkillMaskLow.has = false
  activatedSkillMaskHigh : result.activatedSkillMaskHigh.has = false
  extraPet0Hp1000 : result.extraPetHp1000[0].has = false
  extraPet1Hp1000 : result.extraPetHp1000[1].has = false
  focusedPetId : result.focusedPetId.has = false

/-- A rejected payload reports nothing. -/
theorem reportsNothing_rejected
    (count : UInt32)
    (reason : MalformedReason) :
    ReportsNothing (rejected count reason) :=
  ⟨rfl, rfl, rfl, rfl, rfl, rfl⟩

/-- A payload is accepted exactly when it has the announced size. -/
theorem verdict_valid_iff (contents : List UInt8) :
    (verdict contents).valid = true ↔ WellSized contents := by
  unfold verdict
  by_cases tooShort : contents.length < 4
  · rw [if_pos tooShort]
    refine ⟨nofun, fun wellSized => ?_⟩
    rw [WellSized] at wellSized
    omega
  by_cases truncated : contents.length < 4 + 12 * entryCount contents
  · rw [if_neg tooShort, if_pos truncated]
    exact ⟨nofun, fun wellSized => (truncated.ne wellSized).elim⟩
  by_cases wellSized : WellSized contents
  · rw [if_neg tooShort, if_neg truncated, if_pos wellSized]
    exact ⟨fun _ => wellSized, fun _ => rfl⟩
  · rw [if_neg tooShort, if_neg truncated, if_neg wellSized]
    exact ⟨nofun, fun accepted => (wellSized accepted).elim⟩

/-- An accepted payload is summarized. -/
theorem verdict_of_wellSized
    {contents : List UInt8}
    (wellSized : WellSized contents) :
    verdict contents = summarize (statEntries contents) := by
  have size : contents.length = 4 + 12 * entryCount contents := wellSized
  rw [verdict, if_neg (by omega), if_neg (by omega), if_pos wellSized]

/-- A payload that is not accepted was turned down with a count read. -/
theorem verdict_of_not_wellSized
    {contents : List UInt8}
    (inexact : ¬ WellSized contents) :
    ∃ count reason,
      verdict contents = rejected count reason ∧
        reason.isReadFault = false := by
  rw [verdict, if_neg inexact]
  by_cases tooShort : contents.length < 4
  · rw [if_pos tooShort]
    exact ⟨_, _, rfl, rfl⟩
  by_cases truncated : contents.length < 4 + 12 * entryCount contents
  · rw [if_neg tooShort, if_pos truncated]
    exact ⟨_, _, rfl, rfl⟩
  · rw [if_neg tooShort, if_neg truncated]
    exact ⟨_, _, rfl, rfl⟩

/-- The parse of a payload in memory that goes on behind it. -/
def parseWithin (contents beyond : List UInt8) : ParseResult :=
  parsePayload (some (contents ++ beyond)) (UInt32.ofNat contents.length)

/--
Parsing is exact.  A payload is valid exactly when it is as long as its count
announces; it then amounts to its entries and otherwise to nothing.  The bytes
behind the payload do not matter, and no read fails when there are none.
-/
theorem parsePayload_exact
    (contents beyond : List UInt8)
    (fits : contents.length < 2 ^ 32) :
    ((parseWithin contents beyond).valid = true ↔ WellSized contents) ∧
      ((parseWithin contents beyond).valid = true →
        parseWithin contents beyond = summarize (statEntries contents)) ∧
      ((parseWithin contents beyond).valid = false →
        ReportsNothing (parseWithin contents beyond)) ∧
      parseWithin contents beyond = parseWithin contents [] ∧
      (parseWithin contents beyond).malformedReason.isReadFault = false := by
  have isVerdict : parseWithin contents beyond = verdict contents :=
    parsePayload_eq_verdict fits beyond
  have isVerdictAlone : parseWithin contents [] = verdict contents :=
    parsePayload_eq_verdict fits []
  rw [isVerdictAlone, isVerdict, verdict_valid_iff]
  by_cases wellSized : WellSized contents
  · rw [verdict_of_wellSized wellSized]
    exact ⟨Iff.rfl, fun _ => rfl, nofun, rfl, rfl⟩
  · obtain ⟨count, reason, turnedDown, readable⟩ :=
      verdict_of_not_wellSized wellSized
    rw [turnedDown]
    exact
      ⟨Iff.rfl, fun accepted => (wellSized accepted).elim,
        fun _ => reportsNothing_rejected count reason, rfl, readable⟩

/-- Two entries for the class mask. -/
def duplicateMaskPayload : List UInt8 :=
  [2, 0, 0, 0,
    1, 0, 0, 0, 7, 0, 0, 0, 0, 0, 0, 0,
    1, 0, 0, 0, 9, 0, 0, 0, 0, 0, 0, 0]

/-- The second value wins, and the duplicate is marked. -/
theorem parsePayload_exact_witness :
    parseWithin duplicateMaskPayload [255] =
        summarize [⟨1, 7⟩, ⟨1, 9⟩] ∧
      (summarize [⟨1, 7⟩, ⟨1, 9⟩]).classesBitmask = ⟨true, 9, true⟩ := by
  obtain ⟨valid_iff, summary, _⟩ :=
    parsePayload_exact duplicateMaskPayload [255] (by decide)
  exact ⟨summary (valid_iff.mpr (by decide)), by decide⟩

end MonomythClient.ServerAuthStats
