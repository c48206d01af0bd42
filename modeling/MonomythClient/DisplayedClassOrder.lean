import MonomythClient.SynthesizedBest

namespace MonomythClient.CombatAbility

open MulticlassIdentity AuthoritativeEvaluators ServerAuthStats
open KeyedList Contests Runs

/-!
# The displayed class and the synthesis

The displayed class is scanned first, and it makes a difference: two spells of
one line and rank whose categories differ do not beat each other, unless one is
a discipline, so the category of the first one stays.  Which spells are kept is
the same for every displayed class exactly when the classes agree on that first
category, or there is a discipline to decide.
-/

namespace SpellTable

section Leaders

variable
  (table : SpellTable)
  (snapshot : Snapshot)
  (localPlayerLevel localPlayerDeity : UInt32)

/-- An eligible spell of the highest rank in its line. -/
def TopRanked (record : CombatAbilitySpellRecord) : Prop :=
  table.Eligible snapshot localPlayerLevel localPlayerDeity record ∧
    ∀ other,
      table.Eligible snapshot localPlayerLevel localPlayerDeity other →
      other.line = record.line →
        other.rank ≤ record.rank

/-- The top-ranked spell of a line that a class comes to first. -/
def Leads (classId : UInt32) (record : CombatAbilitySpellRecord) : Prop :=
  table.TopRanked snapshot localPlayerLevel localPlayerDeity record ∧
    table.EligibleFor localPlayerLevel localPlayerDeity classId record ∧
      ∀ other,
        table.TopRanked snapshot localPlayerLevel localPlayerDeity other →
        table.EligibleFor localPlayerLevel localPlayerDeity classId other →
        other.line = record.line →
          record.spellId ≤ other.spellId

/-- A discipline is among the top-ranked spells of a line. -/
def HasTopDiscipline (line : AbilityLine) : Prop :=
  ∃ discipline,
    table.TopRanked snapshot localPlayerLevel localPlayerDeity discipline ∧
      discipline.line = line ∧
        discipline.category = kSpellCategoryDisciplines

/-- The assigned classes agree on the category of the top-ranked spell they
come to first, in every line without a top-ranked discipline. -/
def LeadersAgree : Prop :=
  ∀ firstClassId secondClassId first second,
    Assigned snapshot firstClassId →
    Assigned snapshot secondClassId →
    table.Leads snapshot localPlayerLevel localPlayerDeity firstClassId
      first →
    table.Leads snapshot localPlayerLevel localPlayerDeity secondClassId
      second →
    first.line = second.line →
    ¬ table.HasTopDiscipline snapshot localPlayerLevel localPlayerDeity
        first.line →
      first.category = second.category

end Leaders

/-! ## The first top-ranked candidate -/

/-- The ids come in increasing order. -/
theorem pairwise_spellIds : spellIds.Pairwise (· < ·) := by
  rw [spellIds, List.pairwise_map]
  refine List.Pairwise.imp_of_mem ?_ List.pairwise_lt_range'
  intro first second isFirst isSecond below
  rw [List.mem_range'_1, kTotalSpellCount] at isFirst isSecond
  rw [Int32.lt_iff_toInt_lt, Int32.toInt_ofNat_of_lt (by omega),
    Int32.toInt_ofNat_of_lt (by omega)]
  omega

/-- The first id with a property is the least one. -/
theorem find?_spellIds_least
    {hits : Int32 → Bool}
    {spellId : Int32}
    (found : spellIds.find? hits = some spellId)
    {other : Int32}
    (isId : other ∈ spellIds)
    (otherHits : hits other = true) :
    spellId ≤ other := by
  obtain ⟨_, before, after, split, noneBefore⟩ :=
    List.find?_eq_some_iff_append.mp found
  have sorted := pairwise_spellIds
  rw [split] at isId sorted
  rcases List.mem_append.mp isId with isBefore | isBehind
  · have noHit := noneBefore other isBefore
    rw [otherHits] at noHit
    cases noHit
  · rcases List.mem_cons.mp isBehind with rfl | isAfter
    · exact Int32.le_refl other
    · have behind := (List.pairwise_append.mp sorted).2.1
      exact Int32.le_of_lt ((List.pairwise_cons.mp behind).1 other isAfter)

section Scan

variable
  {table : SpellTable}
  {snapshot : Snapshot}
  {localPlayerLevel localPlayerDeity : UInt32}

/-- The candidate of a class that comes first is its first spell's. -/
theorem find?_entriesFor
    {classId : UInt32}
    {hits : CombatAbilityCandidate → Bool}
    {candidate : CombatAbilityCandidate}
    (found :
      (table.entriesFor localPlayerLevel localPlayerDeity classId).find?
          hits =
        some candidate) :
    ∃ record,
      table.EligibleFor localPlayerLevel localPlayerDeity classId record ∧
        candidate = record.candidate classId ∧
          hits candidate = true ∧
            ∀ other,
              table.EligibleFor localPlayerLevel localPlayerDeity classId
                other →
              hits (other.candidate classId) = true →
                record.spellId ≤ other.spellId := by
  obtain ⟨record, eligible, rfl⟩ :=
    mem_entriesFor.mp (List.mem_of_find?_eq_some found)
  refine
    ⟨record, eligible, rfl, List.find?_some found,
      fun other otherEligible otherHits => ?_⟩
  rw [entriesFor, List.find?_filterMap] at found
  obtain ⟨spellId, isFirst, isCandidate⟩ :=
    Option.bind_eq_some_iff.mp found
  obtain ⟨_, sameId, _, _, sameCandidate⟩ :=
    candidate_eq_some_iff.mp isCandidate
  have recordId : record.spellId = spellId := by
    rw [← sameId]
    exact congrArg CombatAbilityCandidate.spellId sameCandidate
  rw [recordId]
  refine find?_spellIds_least isFirst otherEligible.1 ?_
  have isOther :
      table.candidate localPlayerLevel localPlayerDeity classId
          other.spellId =
        some (other.candidate classId) :=
    candidate_eq_some_iff.mpr
      ⟨other, rfl, otherEligible.2.1, otherEligible.2.2, rfl⟩
  rw [isOther]
  exact otherHits

/-! ## What is kept of a line -/

variable
  {displayedClassId : UInt8}
  {record : CombatAbilitySpellRecord}

/-- An eligible spell with the rank of a top-ranked one of its line. -/
theorem TopRanked.of_rank
    (topRanked :
      table.TopRanked snapshot localPlayerLevel localPlayerDeity record)
    {other : CombatAbilitySpellRecord}
    (eligible :
      table.Eligible snapshot localPlayerLevel localPlayerDeity other)
    (sameLine : other.line = record.line)
    (sameRank : other.rank = record.rank) :
    table.TopRanked snapshot localPlayerLevel localPlayerDeity other := by
  refine ⟨eligible, fun another anotherEligible anotherLine => ?_⟩
  rw [sameRank]
  exact topRanked.2 another anotherEligible (anotherLine.trans sameLine)

/-- Two top-ranked spells of a line have one rank. -/
theorem TopRanked.sameRank
    {other : CombatAbilitySpellRecord}
    (otherTop :
      table.TopRanked snapshot localPlayerLevel localPlayerDeity other)
    (topRanked :
      table.TopRanked snapshot localPlayerLevel localPlayerDeity record)
    (sameLine : other.line = record.line) :
    other.rank = record.rank :=
  Int32.le_antisymm (topRanked.2 other otherTop.1 sameLine)
    (otherTop.2 record topRanked.1 sameLine.symm)

/-- An entry in the line of a top-ranked spell. -/
theorem TopRanked.entry
    (topRanked :
      table.TopRanked snapshot localPlayerLevel localPlayerDeity record)
    {entry : CombatAbilityCandidate}
    (isEntry :
      entry ∈
        table.entries snapshot localPlayerLevel localPlayerDeity
          displayedClassId)
    (isLine : entry.line = record.line) :
    ∃ other,
      table.Eligible snapshot localPlayerLevel localPlayerDeity other ∧
        other.line = record.line ∧
          entry.rank = other.rank ∧
            entry.category = other.category ∧
              other.rank ≤ record.rank := by
  obtain ⟨other, eligible, isOther⟩ := eligible_of_entry isEntry
  rw [isOther] at isLine ⊢
  exact
    ⟨other, eligible, isLine, rfl, rfl, topRanked.2 other eligible isLine⟩

/-- An entry of the top rank is better than one of another rank. -/
theorem TopRanked.beats_entry
    (topRanked :
      table.TopRanked snapshot localPlayerLevel localPlayerDeity record)
    {first entry : CombatAbilityCandidate}
    (isRank : first.rank = record.rank)
    (isEntry :
      entry ∈
        table.entries snapshot localPlayerLevel localPlayerDeity
          displayedClassId)
    (isLine : entry.line = record.line)
    (otherRank : entry.rank ≠ record.rank) :
    combatAbilityCandidateBetter first entry = true := by
  obtain ⟨other, _, _, entryRank, _, atMostRank⟩ :=
    topRanked.entry isEntry isLine
  refine combatAbilityCandidateBetter_iff.mpr (.inl ?_)
  rw [isRank]
  rw [entryRank] at otherRank ⊢
  exact Int32.lt_of_le_of_ne atMostRank otherRank

/-- Without a top-ranked discipline, only an entry of the same rank and
category is better than one of the top rank. -/
theorem TopRanked.beaten_alike
    (topRanked :
      table.TopRanked snapshot localPlayerLevel localPlayerDeity record)
    (noDiscipline :
      ¬ table.HasTopDiscipline snapshot localPlayerLevel localPlayerDeity
          record.line)
    {held entry : CombatAbilityCandidate}
    (heldRank : held.rank = record.rank)
    (isEntry :
      entry ∈
        table.entries snapshot localPlayerLevel localPlayerDeity
          displayedClassId)
    (isLine : entry.line = record.line)
    (better : combatAbilityCandidateBetter entry held = true) :
    entry.rank = record.rank ∧ entry.category = held.category := by
  obtain ⟨other, otherEligible, otherLine, entryRank, entryCategory,
    atMostRank⟩ := topRanked.entry isEntry isLine
  rcases combatAbilityCandidateBetter_iff.mp better with
    above | ⟨sameRank, ⟨_, isDiscipline⟩ | ⟨sameCategory, _⟩⟩
  · rw [heldRank, entryRank] at above
    exact absurd atMostRank (Int32.not_le.mpr above)
  · have isTop : other.rank = record.rank :=
      entryRank.symm.trans (sameRank.trans heldRank)
    have otherTop := topRanked.of_rank otherEligible otherLine isTop
    exact absurd
      ⟨other, otherTop, otherLine, entryCategory.symm.trans isDiscipline⟩
      noDiscipline
  · exact ⟨sameRank.trans heldRank, sameCategory⟩

section Places

variable
  (places :
    (table.lines snapshot localPlayerLevel localPlayerDeity).encard ≤
      kMaxCombatAbilityIndex)

include places

/-- Nothing eligible in the line of a kept spell has a higher rank, or the same
one and comes before it by category or id. -/
theorem Keeps.unbeaten
    (keeps :
      table.Keeps snapshot localPlayerLevel localPlayerDeity
        displayedClassId record)
    {other : CombatAbilitySpellRecord}
    (eligible :
      table.Eligible snapshot localPlayerLevel localPlayerDeity other)
    (sameLine : other.line = record.line) :
    ¬ (record.rank < other.rank ∨
      other.rank = record.rank ∧
        (other.category ≠ record.category ∧
            other.category = kSpellCategoryDisciplines ∨
          other.category = record.category ∧
            record.spellId < other.spellId)) := by
  intro beats
  have better :
      combatAbilityCandidateBetter (other.candidate 0) (record.candidate 0) =
        true :=
    combatAbilityCandidateBetter_iff.mpr beats
  rw [keeps.maximal places eligible sameLine] at better
  cases better

/-- A kept spell has the highest rank in its line. -/
theorem Keeps.topRanked
    (keeps :
      table.Keeps snapshot localPlayerLevel localPlayerDeity
        displayedClassId record) :
    table.TopRanked snapshot localPlayerLevel localPlayerDeity record := by
  refine ⟨keeps.1, fun other eligible sameLine => ?_⟩
  refine Int32.not_lt.mp fun above => ?_
  exact keeps.unbeaten places eligible sameLine (.inl above)

/-- A kept spell of a line with a top-ranked discipline is a discipline. -/
theorem Keeps.discipline
    (keeps :
      table.Keeps snapshot localPlayerLevel localPlayerDeity
        displayedClassId record)
    (hasDiscipline :
      table.HasTopDiscipline snapshot localPlayerLevel localPlayerDeity
        record.line) :
    record.category = kSpellCategoryDisciplines := by
  obtain ⟨discipline, disciplineTop, sameLine, isDiscipline⟩ := hasDiscipline
  have sameRank := disciplineTop.sameRank (keeps.topRanked places) sameLine
  by_contra isOther
  have otherCategory : discipline.category ≠ record.category :=
    fun sameCategory => isOther (sameCategory.symm.trans isDiscipline)
  exact
    keeps.unbeaten places disciplineTop.1 sameLine
      (.inr ⟨sameRank, .inl ⟨otherCategory, isDiscipline⟩⟩)

/-- A kept spell has the highest id of the top-ranked ones in its category. -/
theorem Keeps.highest
    (keeps :
      table.Keeps snapshot localPlayerLevel localPlayerDeity
        displayedClassId record)
    {other : CombatAbilitySpellRecord}
    (otherTop :
      table.TopRanked snapshot localPlayerLevel localPlayerDeity other)
    (sameLine : other.line = record.line)
    (sameCategory : other.category = record.category) :
    other.spellId ≤ record.spellId := by
  have sameRank := otherTop.sameRank (keeps.topRanked places) sameLine
  refine Int32.not_lt.mp fun above => ?_
  exact
    keeps.unbeaten places otherTop.1 sameLine
      (.inr ⟨sameRank, .inr ⟨sameCategory, above⟩⟩)

/-- Without a top-ranked discipline, a kept spell has the category of the
top-ranked candidate that comes first. -/
theorem Keeps.category_eq_first
    (keeps :
      table.Keeps snapshot localPlayerLevel localPlayerDeity
        displayedClassId record)
    (noDiscipline :
      ¬ table.HasTopDiscipline snapshot localPlayerLevel localPlayerDeity
          record.line)
    {first : CombatAbilityCandidate}
    (isFirst :
      ((table.entries snapshot localPlayerLevel localPlayerDeity
          displayedClassId).find? fun entry =>
        entry.line = record.line ∧ entry.rank = record.rank) =
        some first) :
    record.category = first.category := by
  have topRanked := keeps.topRanked places
  obtain ⟨_, classId, isKept⟩ := keeps
  have isChampion := champion_of_kept places isKept
  have firstInLine :
      (((table.entries snapshot localPlayerLevel localPlayerDeity
          displayedClassId).filter fun entry =>
        entry.line = record.line).find? fun entry =>
          entry.rank = record.rank) =
        some first := by
    rw [List.find?_filter, ← isFirst]
    simp
  obtain ⟨firstRank, before, after, split, noneBefore⟩ :=
    List.find?_eq_some_iff_append.mp firstInLine
  have inLine :
      ∀ entry ∈ before ++ first :: after,
        entry ∈
            table.entries snapshot localPlayerLevel localPlayerDeity
              displayedClassId ∧
          entry.line = record.line := by
    intro entry isEntry
    rw [← split] at isEntry
    obtain ⟨inEntries, isLine⟩ := List.mem_filter.mp isEntry
    exact ⟨inEntries, of_decide_eq_true isLine⟩
  have isRank : first.rank = record.rank := of_decide_eq_true firstRank
  have aboveBefore :
      ∀ entry ∈ before,
        combatAbilityCandidateBetter first entry = true := by
    intro entry isBefore
    obtain ⟨inEntries, isLine⟩ :=
      inLine entry (List.mem_append_left _ isBefore)
    have otherRank : entry.rank ≠ record.rank := by
      simpa using noneBefore entry isBefore
    exact topRanked.beats_entry isRank inEntries isLine otherRank
  have onlySameCategory :
      ∀ held : CombatAbilityCandidate,
        held.rank = record.rank ∧ held.category = first.category →
        ∀ entry ∈ after,
          combatAbilityCandidateBetter entry held = true →
            entry.rank = record.rank ∧ entry.category = first.category := by
    rintro held ⟨heldRank, heldCategory⟩ entry isAfter better
    obtain ⟨inEntries, isLine⟩ :=
      inLine entry
        (List.mem_append_right _ (List.mem_cons_of_mem first isAfter))
    obtain ⟨sameRank, sameCategory⟩ :=
      topRanked.beaten_alike noDiscipline heldRank inEntries isLine better
    exact ⟨sameRank, sameCategory.trans heldCategory⟩
  rw [line_candidate, split] at isChampion
  exact
    (champion_among aboveBefore ⟨isRank, rfl⟩ onlySameCategory isChampion).2

end Places

/-! ## Leaders -/

/-- The top-ranked candidate of a line that comes first is the leader of some
assigned class. -/
theorem TopRanked.first_leads
    (topRanked :
      table.TopRanked snapshot localPlayerLevel localPlayerDeity record)
    {first : CombatAbilityCandidate}
    (isFirst :
      ((table.entries snapshot localPlayerLevel localPlayerDeity
          displayedClassId).find? fun entry =>
        entry.line = record.line ∧ entry.rank = record.rank) =
        some first) :
    ∃ classId leader,
      Assigned snapshot classId ∧
        table.Leads snapshot localPlayerLevel localPlayerDeity classId
            leader ∧
          leader.line = record.line ∧
            first.category = leader.category := by
  rw [entries, List.find?_flatMap] at isFirst
  obtain ⟨classId, isOrdered, isFirstFor⟩ :=
    List.exists_of_findSome?_eq_some isFirst
  have assigned := mem_classOrder.mp isOrdered
  obtain ⟨leader, eligible, rfl, isHit, least⟩ :=
    find?_entriesFor isFirstFor
  obtain ⟨sameLine, sameRank⟩ := of_decide_eq_true isHit
  have leaderTop :=
    topRanked.of_rank ⟨classId, assigned, eligible⟩ sameLine sameRank
  refine
    ⟨classId, leader, assigned, ⟨leaderTop, eligible, ?_⟩, sameLine, rfl⟩
  intro other otherTop otherEligible otherLine
  have inLine : other.line = record.line := otherLine.trans sameLine
  exact least other otherEligible
    (decide_eq_true ⟨inLine, otherTop.sameRank topRanked inLine⟩)

/-- The displayed class's leader comes first in its line. -/
theorem Leads.first
    (leads :
      table.Leads snapshot localPlayerLevel localPlayerDeity
        displayedClassId.toUInt32 record)
    (assigned : Assigned snapshot displayedClassId.toUInt32) :
    ∃ first,
      ((table.entries snapshot localPlayerLevel localPlayerDeity
          displayedClassId).find? fun entry =>
        entry.line = record.line ∧ entry.rank = record.rank) =
          some first ∧
        first.category = record.category := by
  obtain ⟨topRanked, eligible, least⟩ := leads
  obtain ⟨others, isOrder⟩ := classOrder_preferred assigned
  have hasEntry :
      ((table.entriesFor localPlayerLevel localPlayerDeity
          displayedClassId.toUInt32).find? fun entry =>
        entry.line = record.line ∧ entry.rank = record.rank).isSome =
          true := by
    rw [List.find?_isSome]
    exact
      ⟨record.candidate displayedClassId.toUInt32,
        mem_entriesFor.mpr ⟨record, eligible, rfl⟩,
        decide_eq_true ⟨rfl, rfl⟩⟩
  obtain ⟨first, isFirst⟩ := Option.isSome_iff_exists.mp hasEntry
  refine ⟨first, ?_, ?_⟩
  · rw [entries, isOrder, List.flatMap_cons, List.find?_append, isFirst,
      Option.some_or]
  · obtain ⟨leader, leaderEligible, rfl, isHit, leastLeader⟩ :=
      find?_entriesFor isFirst
    obtain ⟨sameLine, sameRank⟩ := of_decide_eq_true isHit
    have leaderTop :=
      topRanked.of_rank
        ⟨displayedClassId.toUInt32, assigned, leaderEligible⟩ sameLine
        sameRank
    have sameId : leader.spellId = record.spellId :=
      Int32.le_antisymm
        (leastLeader record eligible (decide_eq_true ⟨rfl, rfl⟩))
        (least leader leaderTop leaderEligible sameLine)
    rw [leaderTop.1.same topRanked.1 sameId]
    rfl

/-! ## The same spells for every displayed class -/

section Places

variable
  (places :
    (table.lines snapshot localPlayerLevel localPlayerDeity).encard ≤
      kMaxCombatAbilityIndex)

include places

/-- Two kept spells of one line and category, whatever the displayed class, are
the same. -/
theorem Keeps.same
    {otherClassId : UInt8}
    {other : CombatAbilitySpellRecord}
    (keeps :
      table.Keeps snapshot localPlayerLevel localPlayerDeity
        displayedClassId record)
    (otherKeeps :
      table.Keeps snapshot localPlayerLevel localPlayerDeity otherClassId
        other)
    (sameLine : record.line = other.line)
    (sameCategory : record.category = other.category) :
    record = other := by
  have recordTop := keeps.topRanked places
  have otherTop := otherKeeps.topRanked places
  refine keeps.1.same otherKeeps.1 (Int32.le_antisymm ?_ ?_)
  · exact otherKeeps.highest places recordTop sameLine sameCategory
  · exact keeps.highest places otherTop sameLine.symm sameCategory.symm

/-- Without a top-ranked discipline, some class's leader has the category of
the kept spell. -/
theorem Keeps.leader
    (keeps :
      table.Keeps snapshot localPlayerLevel localPlayerDeity
        displayedClassId record)
    (noDiscipline :
      ¬ table.HasTopDiscipline snapshot localPlayerLevel localPlayerDeity
          record.line) :
    ∃ classId leader,
      Assigned snapshot classId ∧
        table.Leads snapshot localPlayerLevel localPlayerDeity classId
            leader ∧
          leader.line = record.line ∧
            record.category = leader.category := by
  have topRanked := keeps.topRanked places
  obtain ⟨classId, isEntry⟩ := keeps.1.entry displayedClassId
  have hasFirst :
      ((table.entries snapshot localPlayerLevel localPlayerDeity
          displayedClassId).find? fun entry =>
        entry.line = record.line ∧ entry.rank = record.rank).isSome =
          true := by
    rw [List.find?_isSome]
    exact ⟨record.candidate classId, isEntry, decide_eq_true ⟨rfl, rfl⟩⟩
  obtain ⟨first, isFirst⟩ := Option.isSome_iff_exists.mp hasFirst
  obtain ⟨leaderClassId, leader, assigned, leads, sameLine, sameCategory⟩ :=
    topRanked.first_leads isFirst
  refine ⟨leaderClassId, leader, assigned, leads, sameLine, ?_⟩
  rw [← sameCategory]
  exact keeps.category_eq_first places noDiscipline isFirst

/-- Without a top-ranked discipline, a displayed class with a leader keeps a
spell of its category in its line. -/
theorem Leads.keeps
    (leads :
      table.Leads snapshot localPlayerLevel localPlayerDeity
        displayedClassId.toUInt32 record)
    (assigned : Assigned snapshot displayedClassId.toUInt32)
    (noDiscipline :
      ¬ table.HasTopDiscipline snapshot localPlayerLevel localPlayerDeity
          record.line) :
    ∃ keptRecord,
      table.Keeps snapshot localPlayerLevel localPlayerDeity
          displayedClassId keptRecord ∧
        keptRecord.line = record.line ∧
          keptRecord.category = record.category := by
  obtain ⟨keptRecord, keeps, sameLine⟩ :=
    leads.1.1.exists_keeps places displayedClassId
  have keptTop := keeps.topRanked places
  have sameRank := keptTop.sameRank leads.1 sameLine
  obtain ⟨first, isFirst, firstCategory⟩ := leads.first assigned
  rw [← sameLine, ← sameRank] at isFirst
  refine ⟨keptRecord, keeps, sameLine, ?_⟩
  rw [← firstCategory]
  exact keeps.category_eq_first places (sameLine ▸ noDiscipline) isFirst

end Places

end Scan

end SpellTable

/-- An assigned class can be the displayed one. -/
theorem Assigned.displayed
    {snapshot : Snapshot}
    {classId : UInt32}
    (assigned : Assigned snapshot classId) :
    ∃ displayedClassId : UInt8, displayedClassId.toUInt32 = classId := by
  have playable :=
    isPlayableClassId_iff.mp (isPlayableClassId_of_hasClass assigned.2.2)
  refine ⟨classId.toUInt8, ?_⟩
  rw [← UInt32.toNat_inj, UInt8.toNat_toUInt32, UInt32.toNat_toUInt8]
  omega

/-- With entries for all lines, the same spells are synthesized for every
displayed class exactly when, in every line without a top-ranked discipline,
the assigned classes agree on the category of the top-ranked spell they come to
first. -/
theorem synthesized_same_iff
    (table : SpellTable)
    (snapshot : Snapshot)
    (localPlayerLevel localPlayerDeity : UInt32)
    (places :
      (table.lines snapshot localPlayerLevel localPlayerDeity).encard ≤
        kMaxCombatAbilityIndex) :
    (∀ displayedClassId otherClassId spellId,
      0 < spellId →
        (spellId ∈
            (synthesizeFromSpellTable table snapshot localPlayerLevel
              localPlayerDeity displayedClassId).combatAbilities ↔
          spellId ∈
            (synthesizeFromSpellTable table snapshot localPlayerLevel
              localPlayerDeity otherClassId).combatAbilities)) ↔
      table.LeadersAgree snapshot localPlayerLevel localPlayerDeity := by
  constructor
  · intro same firstClassId secondClassId first second firstAssigned
      secondAssigned firstLeads secondLeads sameLine noDiscipline
    obtain ⟨firstDisplayed, rfl⟩ := firstAssigned.displayed
    obtain ⟨secondDisplayed, rfl⟩ := secondAssigned.displayed
    obtain ⟨firstKept, firstKeeps, firstLine, firstCategory⟩ :=
      firstLeads.keeps places firstAssigned noDiscipline
    obtain ⟨secondKept, secondKeeps, secondLine, secondCategory⟩ :=
      secondLeads.keeps places secondAssigned (sameLine ▸ noDiscipline)
    have positive := firstKeeps.1.positive
    have keptToo :=
      (same firstDisplayed secondDisplayed firstKept.spellId positive).mp
        ((SpellTable.mem_synthesized_iff positive).mpr
          ⟨firstKept, rfl, firstKeeps⟩)
    obtain ⟨record, sameId, recordKeeps⟩ :=
      (SpellTable.mem_synthesized_iff positive).mp keptToo
    obtain rfl : record = firstKept := recordKeeps.1.same firstKeeps.1 sameId
    have sameSpell : record = secondKept :=
      recordKeeps.line_inj secondKeeps
        (firstLine.trans (sameLine.trans secondLine.symm))
    rw [← firstCategory, ← secondCategory, sameSpell]
  · intro agree displayedClassId otherClassId spellId positive
    have keepsToo :
        ∀ displayedClassId otherClassId record,
          table.Keeps snapshot localPlayerLevel localPlayerDeity
            displayedClassId record →
          table.Keeps snapshot localPlayerLevel localPlayerDeity
            otherClassId record := by
      intro displayedClassId otherClassId record keeps
      obtain ⟨other, otherKeeps, sameLine⟩ :=
        keeps.1.exists_keeps places otherClassId
      have sameCategory : record.category = other.category := by
        by_cases hasDiscipline :
            table.HasTopDiscipline snapshot localPlayerLevel
              localPlayerDeity record.line
        · rw [keeps.discipline places hasDiscipline,
            otherKeeps.discipline places (sameLine ▸ hasDiscipline)]
        · obtain ⟨firstClassId, first, firstAssigned, firstLeads, firstLine,
            firstCategory⟩ := keeps.leader places hasDiscipline
          obtain ⟨secondClassId, second, secondAssigned, secondLeads,
            secondLine, secondCategory⟩ :=
            otherKeeps.leader places (sameLine ▸ hasDiscipline)
          rw [firstCategory, secondCategory]
          exact agree firstClassId secondClassId first second firstAssigned
            secondAssigned firstLeads secondLeads
            (firstLine.trans (sameLine.symm.trans secondLine.symm))
            (firstLine ▸ hasDiscipline)
      exact keeps.same places otherKeeps sameLine.symm sameCategory ▸ otherKeeps
    rw [SpellTable.mem_synthesized_iff positive,
      SpellTable.mem_synthesized_iff positive]
    exact
      ⟨fun ⟨record, sameId, keeps⟩ =>
          ⟨record, sameId, keepsToo _ _ record keeps⟩,
        fun ⟨record, sameId, keeps⟩ =>
          ⟨record, sameId, keepsToo _ _ record keeps⟩⟩

theorem synthesized_same_of_records :
    5002 ∈
        (synthesizeFromSpellTable
          (SpellTable.ofRecords someRecords fun _ _ => some 20)
          warriorAndCleric 60 0 1).combatAbilities ↔
      5002 ∈
        (synthesizeFromSpellTable
          (SpellTable.ofRecords someRecords fun _ _ => some 20)
          warriorAndCleric 60 0 2).combatAbilities := by
  have oneCategory :
      ∀ first ∈ someRecords, ∀ second ∈ someRecords,
        first.line = second.line → first.category = second.category := by
    decide
  refine
    (synthesized_same_iff _ _ _ _
      ((SpellTable.lines_ofRecords someRecords _ _ _ _).trans
        (Nat.cast_le.mpr (by decide)))).mpr ?_ 1 2 5002 (by decide)
  intro _ _ first second _ _ firstLeads secondLeads sameLine _
  exact oneCategory first (SpellTable.mem_ofRecords firstLeads.2.1) second
    (SpellTable.mem_ofRecords secondLeads.2.1) sameLine

/-- A combat ability of the warrior and a skill attack of the cleric, of one
line and rank. -/
def rivalRecords : List CombatAbilitySpellRecord :=
  [⟨5001, 15, 0, 1, 90, 1, 1, 0, true⟩, ⟨5002, 166, 0, 1, 90, 1, 1, 0, true⟩]

/-- The table in which each of the two is for its own class alone. -/
def rivalTable : SpellTable :=
  SpellTable.ofRecords rivalRecords fun spellId classId =>
    if (spellId = 5001) = (classId = 1) then
      some 20
    else
      some kSpellLevelUnavailable

/-- Each of the two leads its line for its class. -/
theorem rivals_lead :
    rivalTable.Leads warriorAndCleric 60 0 1
        ⟨5001, 15, 0, 1, 90, 1, 1, 0, true⟩ ∧
      rivalTable.Leads warriorAndCleric 60 0 2
        ⟨5002, 166, 0, 1, 90, 1, 1, 0, true⟩ := by
  have oneRank :
      ∀ first ∈ rivalRecords, ∀ second ∈ rivalRecords,
        second.rank ≤ first.rank := by
    decide
  have top :
      ∀ classId record,
        Assigned warriorAndCleric classId →
        rivalTable.EligibleFor 60 0 classId record →
          rivalTable.TopRanked warriorAndCleric 60 0 record := by
    intro classId record assigned eligible
    refine ⟨⟨classId, assigned, eligible⟩, ?_⟩
    rintro other ⟨_, _, otherEligible⟩ _
    exact oneRank record (SpellTable.mem_ofRecords eligible) other
      (SpellTable.mem_ofRecords otherEligible)
  have warrior :
      rivalTable.EligibleFor 60 0 1 ⟨5001, 15, 0, 1, 90, 1, 1, 0, true⟩ :=
    ⟨mem_spellIds.mpr ⟨by decide, by decide⟩, by decide, by decide⟩
  have cleric :
      rivalTable.EligibleFor 60 0 2 ⟨5002, 166, 0, 1, 90, 1, 1, 0, true⟩ :=
    ⟨mem_spellIds.mpr ⟨by decide, by decide⟩, by decide, by decide⟩
  have firstId :
      ∀ record ∈ rivalRecords, (5001 : Int32) ≤ record.spellId := by
    decide
  have clericId :
      ∀ record ∈ rivalRecords,
        rivalTable.eligibleForClass 60 0 record 2 = true →
          (5002 : Int32) ≤ record.spellId := by
    decide
  refine
    ⟨⟨top 1 _ ⟨rfl, by decide, by decide⟩ warrior, warrior, ?_⟩,
      ⟨top 2 _ ⟨rfl, by decide, by decide⟩ cleric, cleric, ?_⟩⟩
  · intro other _ otherEligible _
    exact firstId other (SpellTable.mem_ofRecords otherEligible)
  · intro other _ otherEligible _
    exact clericId other (SpellTable.mem_ofRecords otherEligible)
      otherEligible.2.2

/-- The displayed warrior keeps the combat ability, the displayed cleric does
not. -/
theorem displayed_class_decides :
    (rivalTable.lines warriorAndCleric 60 0).encard ≤
        kMaxCombatAbilityIndex ∧
      ¬ ∀ displayedClassId otherClassId spellId,
          0 < spellId →
            (spellId ∈
                (synthesizeFromSpellTable rivalTable warriorAndCleric 60 0
                  displayedClassId).combatAbilities ↔
              spellId ∈
                (synthesizeFromSpellTable rivalTable warriorAndCleric 60 0
                  otherClassId).combatAbilities) := by
  have places :
      (rivalTable.lines warriorAndCleric 60 0).encard ≤
        kMaxCombatAbilityIndex :=
    (SpellTable.lines_ofRecords rivalRecords _ _ _ _).trans
      (Nat.cast_le.mpr (by decide))
  refine ⟨places, fun same => ?_⟩
  have noDiscipline :
      ∀ line, ¬ rivalTable.HasTopDiscipline warriorAndCleric 60 0 line := by
    rintro line ⟨record, ⟨⟨_, _, eligible⟩, _⟩, _, isDiscipline⟩
    have others :
        ∀ record ∈ rivalRecords,
          record.category ≠ kSpellCategoryDisciplines := by
      decide
    exact others record (SpellTable.mem_ofRecords eligible) isDiscipline
  obtain ⟨warriorLeads, clericLeads⟩ := rivals_lead
  have keptFor :
      ∀ (displayedClassId : UInt8) record,
        rivalTable.Leads warriorAndCleric 60 0 displayedClassId.toUInt32
            record →
        Assigned warriorAndCleric displayedClassId.toUInt32 →
          ∃ keptRecord,
            rivalTable.Keeps warriorAndCleric 60 0 displayedClassId
                keptRecord ∧
              keptRecord.line = record.line ∧
                keptRecord.category = record.category :=
    fun _ _ leads assigned => leads.keeps places assigned (noDiscipline _)
  obtain ⟨warriorKept, warriorKeeps, warriorLine, warriorCategory⟩ :=
    keptFor 1 _ warriorLeads ⟨rfl, by decide, by decide⟩
  obtain ⟨clericKept, clericKeeps, clericLine, clericCategory⟩ :=
    keptFor 2 _ clericLeads ⟨rfl, by decide, by decide⟩
  have positive := warriorKeeps.1.positive
  obtain ⟨record, sameId, recordKeeps⟩ :=
    (SpellTable.mem_synthesized_iff positive).mp
      ((same 1 2 warriorKept.spellId positive).mp
        ((SpellTable.mem_synthesized_iff positive).mpr
          ⟨warriorKept, rfl, warriorKeeps⟩))
  obtain rfl : record = warriorKept :=
    recordKeeps.1.same warriorKeeps.1 sameId
  have sameSpell : record = clericKept :=
    recordKeeps.line_inj clericKeeps (warriorLine.trans clericLine.symm)
  rw [sameSpell, clericCategory] at warriorCategory
  exact absurd warriorCategory (by decide)

end MonomythClient.CombatAbility
