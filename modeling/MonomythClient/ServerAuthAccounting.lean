import MonomythClient.ServerAuthStatsParser

namespace MonomythClient.ServerAuthStats

/-!
# The counters of a server-auth-stats payload

Every entry should be counted as recognized or as unknown, so that the two
counters add up to the announced count.  One case of the switch raises both: a
focused pet id that does not fit is counted as recognized before its range is
tested, and as unknown afterwards.
-/

/-- The switch raises exactly one of the counters for the entry. -/
def CountedOnce (entry : StatEntry) : Prop :=
  ∀ result,
    ((applyStatEntry result entry.key entry.value).recognizedEntryCount =
          result.recognizedEntryCount + 1 ∧
        (applyStatEntry result entry.key entry.value).unknownEntryCount =
          result.unknownEntryCount) ∨
      ((applyStatEntry result entry.key entry.value).recognizedEntryCount =
          result.recognizedEntryCount ∧
        (applyStatEntry result entry.key entry.value).unknownEntryCount =
          result.unknownEntryCount + 1)

/-- A focused pet id outside the 32-bit range. -/
def OversizedPetId (entry : StatEntry) : Prop :=
  entry.key = kStatFocusedPetIdKey ∧ kUInt32Max < entry.value

instance (entry : StatEntry) : Decidable (OversizedPetId entry) :=
  inferInstanceAs (Decidable (_ ∧ _))

/-- The counters account for the entries of a payload. -/
structure EntriesAccounted
    (contents : List UInt8)
    (result : ParseResult) : Prop where
  sum :
    result.recognizedEntryCount.toNat + result.unknownEntryCount.toNat =
      result.count.toNat
  once : ∀ entry ∈ statEntries contents, CountedOnce entry

/-! ## One entry -/

/-- An oversized pet id is the only recognized entry counted as unknown. -/
theorem countedUnknown_iff {entry : StatEntry} :
    CountedUnknown entry ↔ ¬ Recognized entry ∨ OversizedPetId entry :=
  Iff.rfl

/-- What the switch does to the counters. -/
theorem applyStatEntry_counters
    (result : ParseResult)
    (entry : StatEntry) :
    (applyStatEntry result entry.key entry.value).recognizedEntryCount =
        (if Recognized entry then
          result.recognizedEntryCount + 1
        else
          result.recognizedEntryCount) ∧
      (applyStatEntry result entry.key entry.value).unknownEntryCount =
        if CountedUnknown entry then
          result.unknownEntryCount + 1
        else
          result.unknownEntryCount := by
  obtain ⟨key, value⟩ := entry
  by_cases classes : key = kStatClassesBitmaskKey
  · subst classes
    by_cases wide : kUInt32Max < value
    · simp [applyStatEntry, Recognized, CountedUnknown, wide]
    · simp [applyStatEntry, Recognized, CountedUnknown, wide]
  by_cases skillsLow : key = kStatActivatedSkillMaskLowKey
  · subst skillsLow
    simp [applyStatEntry, Recognized, CountedUnknown]
  by_cases skillsHigh : key = kStatActivatedSkillMaskHighKey
  · subst skillsHigh
    simp [applyStatEntry, Recognized, CountedUnknown]
  by_cases extraPet0 : key = kStatExtraPet0Hp1000Key
  · subst extraPet0
    simp [applyStatEntry, Recognized, CountedUnknown]
  by_cases extraPet1 : key = kStatExtraPet1Hp1000Key
  · subst extraPet1
    simp [applyStatEntry, Recognized, CountedUnknown]
  by_cases focusedPet : key = kStatFocusedPetIdKey
  · subst focusedPet
    by_cases wide : kUInt32Max < value
    · simp [applyStatEntry, Recognized, CountedUnknown, wide]
    · simp [applyStatEntry, Recognized, CountedUnknown, wide]
  · simp_all [applyStatEntry, Recognized, CountedUnknown]

/-- An entry is counted once exactly when it is no oversized pet id. -/
theorem countedOnce_iff {entry : StatEntry} :
    CountedOnce entry ↔ ¬ OversizedPetId entry := by
  have counters := fun result => applyStatEntry_counters result entry
  constructor
  · rintro once ⟨isPetId, oversized⟩
    have recognized : Recognized entry := by
      simp [Recognized, isPetId]
    have unknown : CountedUnknown entry := .inr ⟨isPetId, oversized⟩
    obtain ⟨raised, alsoRaised⟩ := counters .initial
    rw [if_pos recognized] at raised
    rw [if_pos unknown] at alsoRaised
    rcases once .initial with ⟨_, kept⟩ | ⟨kept, _⟩
    · rw [alsoRaised] at kept
      cases kept
    · rw [raised] at kept
      cases kept
  · intro notOversized result
    obtain ⟨recognizedCount, unknownCount⟩ := counters result
    by_cases recognized : Recognized entry
    · have notUnknown : ¬ CountedUnknown entry := by
        rw [countedUnknown_iff]
        rintro (unrecognized | oversized)
        · exact unrecognized recognized
        · exact notOversized oversized
      rw [if_pos recognized] at recognizedCount
      rw [if_neg notUnknown] at unknownCount
      exact .inl ⟨recognizedCount, unknownCount⟩
    · rw [if_neg recognized] at recognizedCount
      rw [if_pos (.inl recognized)] at unknownCount
      exact .inr ⟨recognizedCount, unknownCount⟩

/-! ## All entries -/

/-- Together the counters exceed the count by the oversized pet ids. -/
theorem counters_add (entries : List StatEntry) :
    (entries.countP fun entry => Recognized entry) +
        (entries.countP fun entry => CountedUnknown entry) =
      entries.length +
        entries.countP fun entry => OversizedPetId entry := by
  induction entries with
  | nil =>
      rfl
  | cons entry later inductionHypothesis =>
      have petId_recognized : OversizedPetId entry → Recognized entry := by
        rintro ⟨isPetId, _⟩
        simp [Recognized, isPetId]
      simp only [List.countP_cons, List.length_cons, decide_eq_true_eq]
      by_cases recognized : Recognized entry
      · by_cases oversized : OversizedPetId entry
        · have unknown : CountedUnknown entry := .inr oversized
          rw [if_pos recognized, if_pos unknown, if_pos oversized]
          omega
        · have notUnknown : ¬ CountedUnknown entry := by
            rw [countedUnknown_iff]
            exact fun counted => counted.elim (· recognized) oversized
          rw [if_pos recognized, if_neg notUnknown, if_neg oversized]
          omega
      · have unknown : CountedUnknown entry := .inl recognized
        have notOversized := mt petId_recognized recognized
        rw [if_neg recognized, if_pos unknown, if_neg notOversized]
        omega

/-- A payload in memory has few enough entries for its counters. -/
theorem length_statEntries_lt
    {contents : List UInt8}
    (fits : contents.length < 2 ^ 32)
    (wellSized : WellSized contents) :
    12 * (statEntries contents).length < 2 ^ 32 := by
  have size : contents.length = 4 + 12 * entryCount contents := wellSized
  rw [statEntries, List.length_map, List.length_range]
  omega

/-- The counters and the count of a payload that is accepted. -/
theorem counters_summarize
    {entries : List StatEntry}
    (few : entries.length < 2 ^ 32) :
    (summarize entries).count.toNat = entries.length ∧
      (summarize entries).recognizedEntryCount.toNat =
        (entries.countP fun entry => Recognized entry) ∧
      (summarize entries).unknownEntryCount.toNat =
        entries.countP fun entry => CountedUnknown entry := by
  have inRange :
      ∀ counted : StatEntry → Bool,
        (UInt32.ofNat (entries.countP counted)).toNat =
          entries.countP counted :=
    fun counted =>
      UInt32.toNat_ofNat_of_lt'
        (Nat.lt_of_le_of_lt List.countP_le_length few)
  exact ⟨UInt32.toNat_ofNat_of_lt' few, inRange _, inRange _⟩

/--
The counters of a valid payload account for its entries exactly when none of
them is a focused pet id outside the 32-bit range.
-/
theorem entriesAccounted_iff
    (contents beyond : List UInt8)
    (fits : contents.length < 2 ^ 32)
    (valid : (parseWithin contents beyond).valid = true) :
    EntriesAccounted contents (parseWithin contents beyond) ↔
      ∀ entry ∈ statEntries contents, ¬ OversizedPetId entry := by
  have isVerdict : parseWithin contents beyond = verdict contents :=
    parsePayload_eq_verdict fits beyond
  rw [isVerdict] at valid ⊢
  have wellSized := (verdict_valid_iff contents).mp valid
  rw [verdict_of_wellSized wellSized]
  have few := length_statEntries_lt fits wellSized
  obtain ⟨count, recognized, unknown⟩ :=
    @counters_summarize (statEntries contents) (by omega)
  have total := counters_add (statEntries contents)
  constructor
  · intro accounted entry member
    exact countedOnce_iff.mp (accounted.once entry member)
  · intro noneOversized
    have noOversized :
        (statEntries contents).countP (fun entry => OversizedPetId entry) =
          0 :=
      List.countP_eq_zero.mpr fun entry member => by
        simpa using noneOversized entry member
    refine ⟨?_, fun entry member =>
      countedOnce_iff.mpr (noneOversized entry member)⟩
    rw [recognized, unknown, count, total, noOversized, Nat.add_zero]

/-- Without unknown entries, what the strict fallback also asks for holds. -/
theorem recognizedEntryCount_eq_count
    {contents beyond : List UInt8}
    (fits : contents.length < 2 ^ 32)
    (valid : (parseWithin contents beyond).valid = true)
    (noneUnknown : (parseWithin contents beyond).unknownEntryCount = 0) :
    (parseWithin contents beyond).recognizedEntryCount =
      (parseWithin contents beyond).count := by
  have isVerdict : parseWithin contents beyond = verdict contents :=
    parsePayload_eq_verdict fits beyond
  rw [isVerdict] at valid noneUnknown ⊢
  have wellSized := (verdict_valid_iff contents).mp valid
  rw [verdict_of_wellSized wellSized] at noneUnknown ⊢
  have few := length_statEntries_lt fits wellSized
  obtain ⟨count, recognized, unknown⟩ :=
    @counters_summarize (statEntries contents) (by omega)
  have total := counters_add (statEntries contents)
  rw [noneUnknown] at unknown
  have atMost :
      ((statEntries contents).countP fun entry => Recognized entry) ≤
        (statEntries contents).length :=
    List.countP_le_length
  apply UInt32.toNat_inj.mp
  rw [recognized, count]
  have noUnknown : (0 : UInt32).toNat = 0 := rfl
  omega

/-- One focused pet id, `2 ^ 32`. -/
def oversizedPetIdPayload : List UInt8 :=
  [1, 0, 0, 0,
    102, 0, 0, 0, 0, 0, 0, 0, 1, 0, 0, 0]

/-- One focused pet id, 7. -/
def petIdPayload : List UInt8 :=
  [1, 0, 0, 0,
    102, 0, 0, 0, 7, 0, 0, 0, 0, 0, 0, 0]

/-- The id that fits is accounted for. -/
theorem entriesAccounted_petId :
    EntriesAccounted petIdPayload (parseWithin petIdPayload []) :=
  (entriesAccounted_iff petIdPayload [] (by decide) (by decide)).mpr
    (by decide)

/-- The one that does not is counted twice. -/
theorem oversizedPetId_countedTwice :
    (parseWithin oversizedPetIdPayload []).valid = true ∧
      (parseWithin oversizedPetIdPayload []).count = 1 ∧
      (parseWithin oversizedPetIdPayload []).recognizedEntryCount = 1 ∧
      (parseWithin oversizedPetIdPayload []).unknownEntryCount = 1 ∧
      ¬ EntriesAccounted oversizedPetIdPayload
        (parseWithin oversizedPetIdPayload []) := by
  refine ⟨by decide, by decide, by decide, by decide, fun accounted => ?_⟩
  exact absurd accounted.sum (by decide)

end MonomythClient.ServerAuthStats
