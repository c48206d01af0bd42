import MonomythClient.SpellTables

namespace MonomythClient.CombatAbility

open MulticlassIdentity AuthoritativeEvaluators ServerAuthStats
open KeyedList Contests Runs

/-!
# The scan is a contest

The loops consider every spell for every assigned class in the order of the
classes.  What they keep is the contest of these candidates by line: the memory
of the spells seen makes no difference, since a spell without a group never
beats itself.
-/

/-! ## Lines -/

/-- What a spell competes in: its group and subgroup, or nothing but itself. -/
inductive AbilityLine where
  | grouped (group subgroup : Int32)
  | single (spellId : Int32)
deriving DecidableEq, Repr

/-- The line of a candidate. -/
def CombatAbilityCandidate.line
    (candidate : CombatAbilityCandidate) :
    AbilityLine :=
  if 0 < candidate.group then
    .grouped candidate.group candidate.subgroup
  else
    .single candidate.spellId

/-- The candidate that a spell is for a class that can use it. -/
def CombatAbilitySpellRecord.candidate
    (record : CombatAbilitySpellRecord)
    (classId : UInt32) :
    CombatAbilityCandidate :=
  ⟨record.spellId, record.category, record.group, record.subgroup,
    record.rank, classId⟩

/-- The line of a spell. -/
def CombatAbilitySpellRecord.line
    (record : CombatAbilitySpellRecord) :
    AbilityLine :=
  (record.candidate 0).line

@[simp] theorem line_candidate
    (record : CombatAbilitySpellRecord)
    (classId : UInt32) :
    (record.candidate classId).line = record.line := rfl

/-! ## Being better -/

/-- One candidate is better than another by its rank, then by being a
discipline and then, in one category, by its id. -/
theorem combatAbilityCandidateBetter_iff
    {candidate current : CombatAbilityCandidate} :
    combatAbilityCandidateBetter candidate current = true ↔
      current.rank < candidate.rank ∨
        (candidate.rank = current.rank ∧
          ((candidate.category ≠ current.category ∧
              candidate.category = kSpellCategoryDisciplines) ∨
            (candidate.category = current.category ∧
              current.spellId < candidate.spellId))) := by
  rw [combatAbilityCandidateBetter]
  split
  next otherRank =>
    simp [otherRank]
  next sameRank =>
    have isRank := not_not.mp sameRank
    split
    next otherCategory =>
      simp [isRank, otherCategory]
    next sameCategory =>
      simp [isRank, not_not.mp sameCategory]

theorem combatAbilityCandidateBetter_irrefl
    (candidate : CombatAbilityCandidate) :
    combatAbilityCandidateBetter candidate candidate = false := by
  rw [combatAbilityCandidateBetter]
  simp

/-- Being better is transitive, though not every two candidates compare. -/
theorem combatAbilityCandidateBetter_trans
    (first second third : CombatAbilityCandidate)
    (firstBetter : combatAbilityCandidateBetter first second = true)
    (secondBetter : combatAbilityCandidateBetter second third = true) :
    combatAbilityCandidateBetter first third = true := by
  rw [combatAbilityCandidateBetter_iff] at *
  rcases firstBetter with above | ⟨sameRank, firstBetter⟩
  · rcases secondBetter with aboveToo | ⟨sameRank, _⟩
    · exact .inl (Int32.lt_trans aboveToo above)
    · exact .inl (sameRank ▸ above)
  · rcases secondBetter with above | ⟨sameRankToo, secondBetter⟩
    · exact .inl (sameRank ▸ above)
    · refine .inr ⟨sameRank.trans sameRankToo, ?_⟩
      rcases firstBetter with ⟨different, isDiscipline⟩ | ⟨same, above⟩
      · refine .inl ⟨?_, isDiscipline⟩
        rcases secondBetter with ⟨_, isDisciplineToo⟩ | ⟨sameToo, _⟩
        · exact absurd (isDiscipline.trans isDisciplineToo.symm) different
        · exact sameToo ▸ different
      · rcases secondBetter with ⟨different, isDiscipline⟩ | ⟨sameToo, aboveToo⟩
        · exact .inl ⟨same ▸ different, same.trans isDiscipline⟩
        · exact .inr ⟨same.trans sameToo, Int32.lt_trans aboveToo above⟩

/-! ## Assigned classes -/

/-- A class of the authoritative mask. -/
def Assigned (snapshot : Snapshot) (classId : UInt32) : Prop :=
  snapshot.classesBitmask.has = true ∧
    isPlayableClassMask snapshot.classesBitmask.value = true ∧
      hasClass snapshot.classesBitmask.value classId = true

/-- The classes that are scanned are the assigned ones. -/
theorem mem_classOrder
    {snapshot : Snapshot}
    {preferredClassId classId : UInt32} :
    classId ∈
        buildAuthoritativeCombatAbilityClassOrder snapshot
          preferredClassId ↔
      Assigned snapshot classId := by
  rw [buildAuthoritativeCombatAbilityClassOrder, Assigned]
  split
  next invalid =>
    refine ⟨fun inNil => absurd inNil List.not_mem_nil, ?_⟩
    rintro ⟨has, valid, assigned⟩
    rw [has, valid] at invalid
    have isEmpty : snapshot.classesBitmask.value = 0 := by
      simpa using invalid
    rw [isEmpty] at assigned
    simp [hasClass] at assigned
  next valid =>
    simp only [Bool.or_eq_true, Bool.not_eq_true', beq_iff_eq, not_or,
      Bool.not_eq_false] at valid
    obtain ⟨⟨has, _⟩, isPlayable⟩ := valid
    have primary :
        isPlayableClassId
            (if hasClass snapshot.classesBitmask.value preferredClassId then
              preferredClassId
            else
              0) = true →
          hasClass snapshot.classesBitmask.value
            (if hasClass snapshot.classesBitmask.value preferredClassId then
              preferredClassId
            else
              0) = true := by
      split
      next assigned =>
        exact fun _ => assigned
      next =>
        intro notPlayable
        cases notPlayable
    rw [has, mem_buildOrderedClassIdList isPlayable primary]
    simp [isPlayable]

/-- The displayed class is scanned first, if it is assigned. -/
theorem classOrder_preferred
    {snapshot : Snapshot}
    {preferredClassId : UInt32}
    (assigned : Assigned snapshot preferredClassId) :
    ∃ others,
      buildAuthoritativeCombatAbilityClassOrder snapshot preferredClassId =
        preferredClassId :: others := by
  obtain ⟨has, valid, isAssigned⟩ := assigned
  have notEmpty : snapshot.classesBitmask.value ≠ 0 := by
    intro isEmpty
    rw [isEmpty] at isAssigned
    simp [hasClass] at isAssigned
  rw [buildAuthoritativeCombatAbilityClassOrder, if_neg,
    if_pos isAssigned, has]
  · exact buildOrderedClassIdList_primary valid isAssigned
  · simp [has, valid, notEmpty]

/-! ## Eligible spells -/

/-- The ids the loop goes through. -/
theorem mem_spellIds {spellId : Int32} :
    spellId ∈ spellIds ↔
      0 < spellId ∧ spellId < Int32.ofNat kTotalSpellCount := by
  have total : (Int32.ofNat kTotalSpellCount).toInt = 45001 := by
    decide
  have zero : (0 : Int32).toInt = 0 := by
    decide
  rw [Int32.lt_iff_toInt_lt, Int32.lt_iff_toInt_lt, total, zero, spellIds,
    List.mem_map, kTotalSpellCount]
  constructor
  · rintro ⟨number, inRange, rfl⟩
    obtain ⟨fromOne, below⟩ := List.mem_range'_1.mp inRange
    rw [Int32.toInt_ofNat_of_lt (by omega)]
    omega
  · rintro ⟨positive, below⟩
    refine
      ⟨spellId.toInt.toNat, List.mem_range'_1.mpr (by omega), ?_⟩
    rw [← Int32.toInt_inj, Int32.toInt_ofNat_of_lt (by omega)]
    omega

namespace SpellTable

variable
  (table : SpellTable)
  (snapshot : Snapshot)
  (localPlayerLevel localPlayerDeity : UInt32)

/-- A spell of the table that a class can use. -/
def EligibleFor
    (classId : UInt32)
    (record : CombatAbilitySpellRecord) :
    Prop :=
  record.spellId ∈ spellIds ∧
    table.record record.spellId = some record ∧
      table.eligibleForClass localPlayerLevel localPlayerDeity record
        classId = true

/-- A spell of the table that some assigned class can use. -/
def Eligible (record : CombatAbilitySpellRecord) : Prop :=
  ∃ classId,
    Assigned snapshot classId ∧
      table.EligibleFor localPlayerLevel localPlayerDeity classId record

/-- The candidates of one class, in the order of their ids. -/
def entriesFor (classId : UInt32) : List CombatAbilityCandidate :=
  spellIds.filterMap
    (table.candidate localPlayerLevel localPlayerDeity classId)

/-- All candidates, in the order in which they are considered. -/
def entries (displayedClassId : UInt8) : List CombatAbilityCandidate :=
  (buildAuthoritativeCombatAbilityClassOrder snapshot
      displayedClassId.toUInt32).flatMap
    (table.entriesFor localPlayerLevel localPlayerDeity)

variable {table snapshot localPlayerLevel localPlayerDeity}

/-- When a spell is a candidate for a class. -/
theorem candidate_eq_some_iff
    {classId : UInt32}
    {spellId : Int32}
    {candidate : CombatAbilityCandidate} :
    table.candidate localPlayerLevel localPlayerDeity classId spellId =
        some candidate ↔
      ∃ record,
        record.spellId = spellId ∧
          table.record spellId = some record ∧
            table.eligibleForClass localPlayerLevel localPlayerDeity record
                classId = true ∧
              candidate = record.candidate classId := by
  rw [SpellTable.candidate]
  split
  next noRecord =>
    simp [noRecord]
  next record isRecord =>
    rw [isRecord]
    split
    next isEligible =>
      obtain ⟨rfl, eligible⟩ := isEligible
      constructor
      · intro isCandidate
        exact ⟨record, rfl, rfl, eligible,
          (Option.some.inj isCandidate).symm⟩
      · rintro ⟨other, _, isOther, _, rfl⟩
        obtain rfl := Option.some.inj isOther
        rfl
    next notEligible =>
      refine ⟨fun isNone => absurd isNone (Option.some_ne_none _).symm, ?_⟩
      rintro ⟨other, sameId, isOther, eligible, _⟩
      obtain rfl := Option.some.inj isOther
      exact absurd ⟨sameId, eligible⟩ notEligible

theorem mem_entriesFor
    {classId : UInt32}
    {candidate : CombatAbilityCandidate} :
    candidate ∈ table.entriesFor localPlayerLevel localPlayerDeity classId ↔
      ∃ record,
        table.EligibleFor localPlayerLevel localPlayerDeity classId record ∧
          candidate = record.candidate classId := by
  rw [entriesFor, List.mem_filterMap]
  constructor
  · rintro ⟨spellId, isId, isCandidate⟩
    obtain ⟨record, rfl, isRecord, eligible, rfl⟩ :=
      candidate_eq_some_iff.mp isCandidate
    exact ⟨record, ⟨isId, isRecord, eligible⟩, rfl⟩
  · rintro ⟨record, ⟨isId, isRecord, eligible⟩, rfl⟩
    exact ⟨record.spellId, isId,
      candidate_eq_some_iff.mpr ⟨record, rfl, isRecord, eligible, rfl⟩⟩

/-- The candidates are the eligible spells, each for every class that can use
it. -/
theorem mem_entries
    {displayedClassId : UInt8}
    {candidate : CombatAbilityCandidate} :
    candidate ∈
        table.entries snapshot localPlayerLevel localPlayerDeity
          displayedClassId ↔
      ∃ classId record,
        Assigned snapshot classId ∧
          table.EligibleFor localPlayerLevel localPlayerDeity classId
              record ∧
            candidate = record.candidate classId := by
  rw [entries, List.mem_flatMap]
  constructor
  · rintro ⟨classId, isOrdered, isEntry⟩
    obtain ⟨record, eligible, rfl⟩ := mem_entriesFor.mp isEntry
    exact ⟨classId, record, mem_classOrder.mp isOrdered, eligible, rfl⟩
  · rintro ⟨classId, record, assigned, eligible, rfl⟩
    exact ⟨classId, mem_classOrder.mpr assigned,
      mem_entriesFor.mpr ⟨record, eligible, rfl⟩⟩

/-! ## The scan and the contest -/

/-- A candidate that a record of the table makes. -/
def Has (table : SpellTable) (candidate : CombatAbilityCandidate) : Prop :=
  ∃ record,
    table.record candidate.spellId = some record ∧
      record.candidate candidate.sourceClassId = candidate

/-- The candidates are what the contest kept, and a spell without a group was
seen when its line has a place. -/
structure Represents
    (table : SpellTable)
    (found : Candidates)
    (kept : List CombatAbilityCandidate) :
    Prop where
  candidates : found.candidates = kept
  ofTable : ∀ candidate ∈ kept, table.Has candidate
  seen :
    ∀ candidate,
      table.Has candidate → ¬ 0 < candidate.group →
        (candidate.spellId ∈ found.seenSpellIds ↔
          (lookup CombatAbilityCandidate.line candidate.line kept).isSome =
            true)

/-- Two candidates with one id differ in nothing but their class. -/
theorem Has.same
    {first second : CombatAbilityCandidate}
    (isFirst : table.Has first)
    (isSecond : table.Has second)
    (sameId : first.spellId = second.spellId) :
    ∃ record : CombatAbilitySpellRecord,
      first = record.candidate first.sourceClassId ∧
        second = record.candidate second.sourceClassId := by
  obtain ⟨firstRecord, inTable, isCandidate⟩ := isFirst
  obtain ⟨secondRecord, inTableToo, isCandidateToo⟩ := isSecond
  rw [sameId, inTableToo] at inTable
  obtain rfl := Option.some.inj inTable
  exact ⟨secondRecord, isCandidate.symm, isCandidateToo.symm⟩

/-- A candidate with a group has another line than one without. -/
theorem line_ne
    {first second : CombatAbilityCandidate}
    (hasGroup : 0 < first.group)
    (noGroup : ¬ 0 < second.group) :
    second.line ≠ first.line := by
  rw [CombatAbilityCandidate.line, CombatAbilityCandidate.line,
    if_pos hasGroup, if_neg noGroup]
  exact AbilityLine.noConfusion

/-- In the line of a spell without a group there is only that spell. -/
theorem spellId_of_line
    {first second : CombatAbilityCandidate}
    (noGroup : ¬ 0 < second.group)
    (sameLine : first.line = second.line) :
    first.spellId = second.spellId := by
  have isSingle : second.line = .single second.spellId := if_neg noGroup
  rw [isSingle, CombatAbilityCandidate.line] at sameLine
  split at sameLine
  · cases sameLine
  · exact AbilityLine.single.inj sameLine

/-- The loop over the candidates looks for the line. -/
theorem sameLine_iff
    {existing candidate : CombatAbilityCandidate}
    (hasGroup : 0 < candidate.group) :
    (existing.group == candidate.group &&
        existing.subgroup == candidate.subgroup) =
      decide (existing.line = candidate.line) := by
  rw [Bool.eq_iff_iff]
  simp only [Bool.and_eq_true, beq_iff_eq, decide_eq_true_eq]
  rw [CombatAbilityCandidate.line, CombatAbilityCandidate.line,
    if_pos hasGroup]
  constructor
  · rintro ⟨sameGroup, sameSubgroup⟩
    rw [if_pos (sameGroup ▸ hasGroup), sameGroup, sameSubgroup]
  · intro sameLine
    split at sameLine
    · exact AbilityLine.grouped.inj sameLine
    · cases sameLine

/-- A spell that takes a place. -/
theorem Represents.push
    {found : Candidates}
    {kept : List CombatAbilityCandidate}
    (represents : Represents table found kept)
    {candidate : CombatAbilityCandidate}
    (isCandidate : table.Has candidate)
    (noPlace :
      lookup CombatAbilityCandidate.line candidate.line kept = none) :
    Represents table (found.push candidate)
      (if kept.length < kMaxCombatAbilityIndex then
        put CombatAbilityCandidate.line candidate kept
      else
        kept) := by
  obtain ⟨rfl, ofTable, seen⟩ := represents
  have absent :
      candidate.line ∉
        found.candidates.map CombatAbilityCandidate.line := by
    intro present
    obtain ⟨existing, isKept, sameLine⟩ := List.mem_map.mp present
    exact List.find?_eq_none.mp noPlace existing isKept (by simp [sameLine])
  rw [Candidates.push]
  split
  next isRoom =>
    refine ⟨(put_of_absent absent).symm, ?_, ?_⟩
    · intro member isMember
      rcases mem_put isMember with rfl | wasKept
      · exact isCandidate
      · exact ofTable member wasKept
    · intro other isOther noGroup
      rw [List.mem_cons]
      by_cases sameLine : other.line = candidate.line
      · rw [sameLine, lookup_put_self]
        simp [spellId_of_line noGroup sameLine.symm]
      · rw [lookup_put_other sameLine, ← seen other isOther noGroup]
        have otherId : other.spellId ≠ candidate.spellId := by
          intro sameId
          obtain ⟨record, isFirst, isSecond⟩ := isOther.same isCandidate sameId
          exact sameLine (by rw [isFirst, isSecond]; rfl)
        simp [otherId]
  next =>
    exact ⟨rfl, ofTable, seen⟩

/-- The winner of a line with a group takes its place. -/
theorem Represents.challenge
    {found : Candidates}
    {kept : List CombatAbilityCandidate}
    (represents : Represents table found kept)
    {held candidate : CombatAbilityCandidate}
    (isCandidate : table.Has candidate)
    (hasGroup : 0 < candidate.group)
    (isHeld :
      lookup CombatAbilityCandidate.line candidate.line kept = some held) :
    Represents table
      { found with
        candidates :=
          put CombatAbilityCandidate.line
            (Contests.challenge combatAbilityCandidateBetter held candidate)
            kept }
      (put CombatAbilityCandidate.line
        (Contests.challenge combatAbilityCandidateBetter held candidate)
        kept) := by
  obtain ⟨rfl, ofTable, seen⟩ := represents
  have winnerLine :
      (Contests.challenge combatAbilityCandidateBetter held candidate).line =
        candidate.line :=
    line_challenge (mem_of_lookup isHeld).2
  refine ⟨rfl, ?_, ?_⟩
  · intro member isMember
    rcases mem_put isMember with rfl | wasKept
    · rcases challenge_eq_or combatAbilityCandidateBetter held candidate with
        stays | taken
      · rw [stays]
        exact ofTable held (mem_of_lookup isHeld).1
      · rw [taken]
        exact isCandidate
    · exact ofTable member wasKept
  · intro other isOther noGroup
    rw [lookup_put_other (winnerLine ▸ line_ne hasGroup noGroup)]
    exact seen other isOther noGroup

/-- A spell without a group that is kept stays as it is. -/
theorem Represents.held_stays
    {found : Candidates}
    {kept : List CombatAbilityCandidate}
    (represents : Represents table found kept)
    {held candidate : CombatAbilityCandidate}
    (isCandidate : table.Has candidate)
    (noGroup : ¬ 0 < candidate.group)
    (isHeld :
      lookup CombatAbilityCandidate.line candidate.line kept = some held) :
    put CombatAbilityCandidate.line
        (Contests.challenge combatAbilityCandidateBetter held candidate)
        kept =
      kept := by
  obtain ⟨isKept, sameLine⟩ := mem_of_lookup isHeld
  obtain ⟨record, isFirst, isSecond⟩ :=
    (represents.ofTable held isKept).same isCandidate
      (spellId_of_line noGroup sameLine)
  have notBetter : combatAbilityCandidateBetter candidate held = false := by
    rw [isFirst, isSecond]
    exact combatAbilityCandidateBetter_irrefl (record.candidate 0)
  rw [Contests.challenge, notBetter, if_neg Bool.false_ne_true,
    put_of_lookup (sameLine ▸ isHeld)]

/-- A spell that is considered enters the contest. -/
theorem Represents.consider
    {found : Candidates}
    {kept : List CombatAbilityCandidate}
    (represents : Represents table found kept)
    {candidate : CombatAbilityCandidate}
    (isCandidate : table.Has candidate) :
    Represents table (found.consider candidate)
      (enter kMaxCombatAbilityIndex CombatAbilityCandidate.line
        combatAbilityCandidateBetter kept candidate) := by
  rw [Candidates.consider, enter]
  split
  next hasGroup =>
    simp only [sameLine_iff hasGroup]
    cases isPlace :
        found.candidates.findIdx? fun existing =>
          existing.line = candidate.line with
    | none =>
        have noPlace :
            lookup CombatAbilityCandidate.line candidate.line kept =
              none := by
          rw [represents.candidates] at isPlace
          refine List.find?_eq_none.mpr fun existing isKept sameLine => ?_
          rw [List.findIdx?_eq_none_iff.mp isPlace existing isKept] at sameLine
          cases sameLine
        rw [noPlace]
        exact represents.push isCandidate noPlace
    | some index =>
        obtain ⟨held, isHeld, changes⟩ := modify_findIdx isPlace
        rw [represents.candidates] at isHeld
        have winnerLine :
            (Contests.challenge combatAbilityCandidateBetter held
                candidate).line =
              candidate.line :=
          line_challenge (mem_of_lookup isHeld).2
        rw [isHeld]
        obtain ⟨-, ofTable, seen⟩ :=
          represents.challenge isCandidate hasGroup isHeld
        exact
          ⟨represents.candidates ▸ changes _ winnerLine, ofTable, seen⟩
  next noGroup =>
    have isSeen := represents.seen candidate isCandidate noGroup
    cases isHeld :
        lookup CombatAbilityCandidate.line candidate.line kept with
    | none =>
        rw [isHeld] at isSeen
        have notSeen :
            ¬ found.seenSpellIds.contains candidate.spellId = true := by
          rw [List.contains_iff_mem, isSeen]
          exact Bool.false_ne_true
        rw [if_neg notSeen]
        exact represents.push isCandidate isHeld
    | some held =>
        rw [isHeld] at isSeen
        rw [if_pos (List.contains_iff_mem.mpr (isSeen.mpr rfl))]
        dsimp only
        rw [represents.held_stays isCandidate noGroup isHeld]
        exact represents

/-- The scan is the contest of its candidates. -/
theorem scan_eq_contest
    (table : SpellTable)
    (snapshot : Snapshot)
    (localPlayerLevel localPlayerDeity : UInt32)
    (displayedClassId : UInt8) :
    (table.scan snapshot localPlayerLevel localPlayerDeity
        displayedClassId).candidates =
      contest kMaxCombatAbilityIndex CombatAbilityCandidate.line
        combatAbilityCandidateBetter
        (table.entries snapshot localPlayerLevel localPlayerDeity
          displayedClassId) := by
  have turns :
      table.scan snapshot localPlayerLevel localPlayerDeity
          displayedClassId =
        run
          (fun found turn =>
            table.considerSpell localPlayerLevel localPlayerDeity turn.1 found
              turn.2)
          ⟨[], []⟩
          ((buildAuthoritativeCombatAbilityClassOrder snapshot
            displayedClassId.toUInt32).flatMap fun classId =>
              spellIds.map (classId, ·)) := by
    rw [run, List.foldl_flatMap, scan]
    simp only [List.foldl_map]
  have entered :
      table.entries snapshot localPlayerLevel localPlayerDeity
          displayedClassId =
        ((buildAuthoritativeCombatAbilityClassOrder snapshot
            displayedClassId.toUInt32).flatMap fun classId =>
              spellIds.map (classId, ·)).filterMap fun turn =>
          table.candidate localPlayerLevel localPlayerDeity turn.1
            turn.2 := by
    rw [entries, List.filterMap_flatMap]
    simp only [List.filterMap_map]
    rfl
  have oneTurn :
      ∀ found kept (turn : UInt32 × Int32),
        Represents table found kept →
          Represents table
            (table.considerSpell localPlayerLevel localPlayerDeity turn.1
              found turn.2)
            (((table.candidate localPlayerLevel localPlayerDeity turn.1
                turn.2).map
              (enter kMaxCombatAbilityIndex CombatAbilityCandidate.line
                combatAbilityCandidateBetter kept)).getD kept) := by
    intro found kept turn represents
    rw [considerSpell]
    cases isCandidate :
        table.candidate localPlayerLevel localPlayerDeity turn.1 turn.2 with
    | none =>
        exact represents
    | some candidate =>
        obtain ⟨record, sameId, isRecord, _, rfl⟩ :=
          candidate_eq_some_iff.mp isCandidate
        rw [← sameId] at isRecord
        exact represents.consider ⟨record, isRecord, rfl⟩
  have nothingYet : Represents table ⟨[], []⟩ [] := by
    refine ⟨rfl, ?_, ?_⟩
    · intro candidate isKept
      cases isKept
    · intro candidate _ _
      simp [lookup]
  rw [turns, entered, contest, ← run_filterMap fun _ _ => rfl]
  exact (simulation oneTurn nothingYet _).candidates

end SpellTable

end MonomythClient.CombatAbility
