import Mathlib.Order.Bounds.Defs
import MonomythClient.Contests
import MonomythClient.SynthesizedLevels

namespace MonomythClient.SpellLevelSelection

open Contests
open MulticlassIdentity
open CombatAbility (isValidRequiredLevel)

/-!
# The level a spell needs

A character of several classes uses a spell as soon as one of the classes can,
so the client asks for the level of each assigned class and takes the lowest
usable one.  This module embeds `spell_level_selection.cpp`: the loop keeps the
best class so far, which is a contest of the assigned classes with usable
levels.
-/

/-- `QuerySpellLevelFn`, with its context and the spell. -/
abbrev QuerySpellLevelFn (Context Spell : Type) : Type :=
  Context → Spell → UInt32 → UInt8

/-- `SelectionResult`. -/
structure SelectionResult where
  level : UInt8
  selectedClass : UInt32
  usedAssignedClass : Bool
  fallbackReason : String
  deriving DecidableEq, Repr

/-- `Fallback`. -/
def fallback
    (originalLevel : UInt8)
    (reason : String) :
    SelectionResult where
  level := originalLevel
  selectedClass := 0
  usedAssignedClass := false
  fallbackReason := reason

/-- One round of the loop. -/
def considerClass
    (queriedLevel : UInt32 → UInt8)
    (classMask : UInt32)
    (selected : SelectionResult)
    (classId : UInt32) :
    SelectionResult :=
  if hasClass classMask classId = false then
    selected
  else
    let candidateLevel := queriedLevel classId
    if isValidRequiredLevel candidateLevel = false then
      selected
    else if selected.usedAssignedClass = false ∨
        candidateLevel < selected.level then
      {
        level := candidateLevel
        selectedClass := classId
        usedAssignedClass := true
        fallbackReason := ""
      }
    else
      selected

/-- `SelectLowestValidRequiredLevel`. -/
def selectLowestValidRequiredLevel
    {Context Spell : Type}
    (querySpellLevel : Option (QuerySpellLevelFn Context Spell))
    (queryContext : Context)
    (thisSpell : Spell)
    (_requestedClass : UInt32)
    (hasAuthoritativeClassMask : Bool)
    (authoritativeClassMask : UInt32)
    (originalLevel : UInt8) :
    SelectionResult :=
  if hasAuthoritativeClassMask = false then
    fallback originalLevel "no_authoritative_class_mask"
  else if authoritativeClassMask = 0 then
    fallback originalLevel "empty_class_mask"
  else if isPlayableClassMask authoritativeClassMask = false then
    fallback originalLevel "invalid_class_mask"
  else
    match querySpellLevel with
    | none => fallback originalLevel "original_unavailable"
    | some query =>
        let selected :=
          playableClassIds.foldl
            (considerClass (query queryContext thisSpell)
              authoritativeClassMask)
            (fallback originalLevel "no_valid_assigned_class")
        if selected.usedAssignedClass = false then
          fallback originalLevel "no_valid_assigned_class"
        else
          selected

/-! ## The contest of the classes -/

/-- A class with its level. -/
structure Candidate where
  classId : UInt32
  level : UInt8

/-- A lower level is better. -/
def Candidate.lower (entrant held : Candidate) : Bool :=
  decide (entrant.level < held.level)

/-- The assigned class with its level, if that is a usable one. -/
def candidate
    (queriedLevel : UInt32 → UInt8)
    (classMask classId : UInt32) :
    Option Candidate :=
  if hasClass classMask classId = true ∧
      isValidRequiredLevel (queriedLevel classId) = true then
    some ⟨classId, queriedLevel classId⟩
  else
    none

/-- The selection that stands for the champion so far. -/
def selection
    (originalLevel : UInt8) :
    Option Candidate → SelectionResult
  | none => fallback originalLevel "no_valid_assigned_class"
  | some held => ⟨held.level, held.classId, true, ""⟩

/-- The loop keeps the champion of the candidates. -/
theorem foldl_considerClass
    (queriedLevel : UInt32 → UInt8)
    (classMask : UInt32)
    (originalLevel : UInt8)
    (classIds : List UInt32) :
    classIds.foldl (considerClass queriedLevel classMask)
        (fallback originalLevel "no_valid_assigned_class") =
      selection originalLevel
        (champion Candidate.lower
          (classIds.filterMap (candidate queriedLevel classMask))) := by
  induction classIds using List.reverseRecOn with
  | nil =>
      rfl
  | append_singleton earlier classId inductionHypothesis =>
      rw [List.foldl_append, List.foldl_cons, List.foldl_nil,
        inductionHypothesis, List.filterMap_append]
      by_cases isCandidate :
          hasClass classMask classId = true ∧
            isValidRequiredLevel (queriedLevel classId) = true
      · have entrant :
            [classId].filterMap (candidate queriedLevel classMask) =
              [⟨classId, queriedLevel classId⟩] := by
          simp [candidate, isCandidate]
        rw [entrant, champion_append_singleton, considerClass,
          if_neg (by simp [isCandidate.1]), if_neg (by simp [isCandidate.2])]
        cases champion Candidate.lower
            (earlier.filterMap (candidate queriedLevel classMask)) with
        | none =>
            rfl
        | some held =>
            by_cases isLower : queriedLevel classId < held.level
            · simp [selection, challenge, Candidate.lower, isLower]
            · simp [selection, challenge, Candidate.lower, isLower]
      · have noEntrant :
            [classId].filterMap (candidate queriedLevel classMask) = [] := by
          simp [candidate, isCandidate]
        rw [noEntrant, List.append_nil, considerClass]
        by_cases assigned : hasClass classMask classId = true
        · have unusable :
              isValidRequiredLevel (queriedLevel classId) = false :=
            Bool.eq_false_iff.mpr fun usable => isCandidate ⟨assigned, usable⟩
          rw [if_neg (by simp [assigned]), if_pos unusable]
        · rw [if_pos (Bool.eq_false_iff.mpr assigned)]

/-- The candidates are the assigned classes with their usable levels. -/
theorem mem_candidates
    {queriedLevel : UInt32 → UInt8}
    {classMask : UInt32}
    {entry : Candidate} :
    entry ∈ playableClassIds.filterMap (candidate queriedLevel classMask) ↔
      hasClass classMask entry.classId = true ∧
        isValidRequiredLevel entry.level = true ∧
          queriedLevel entry.classId = entry.level := by
  rw [List.mem_filterMap]
  constructor
  · rintro ⟨classId, _, taken⟩
    rw [candidate] at taken
    split at taken
    next accepted =>
      obtain rfl := Option.some.inj taken
      exact ⟨accepted.1, accepted.2, rfl⟩
    next =>
      cases taken
  · rintro ⟨assigned, usable, queried⟩
    rw [← queried] at usable
    refine ⟨entry.classId,
      mem_playableClassIds.mpr (isPlayableClassId_of_hasClass assigned), ?_⟩
    rw [candidate, if_pos ⟨assigned, usable⟩, queried]

/-- They come in the order of their class ids. -/
theorem candidates_ordered
    (queriedLevel : UInt32 → UInt8)
    (classMask : UInt32) :
    (playableClassIds.filterMap (candidate queriedLevel classMask)).Pairwise
      fun earlier later => earlier.classId < later.classId := by
  have idsOrdered : playableClassIds.Pairwise (· < ·) := by
    decide
  refine idsOrdered.filterMap _ fun first second less => ?_
  intro firstEntry firstTaken secondEntry secondTaken
  have sameId :
      ∀ {classId entry},
        candidate queriedLevel classMask classId = some entry →
          entry.classId = classId := by
    intro classId entry taken
    rw [candidate] at taken
    split at taken
    · obtain rfl := Option.some.inj taken
      rfl
    · cases taken
  rw [sameId firstTaken, sameId secondTaken]
  exact less

/-- The champion has the lowest level, and the lowest id with that level. -/
theorem champion_least
    {queriedLevel : UInt32 → UInt8}
    {classMask : UInt32}
    {winner : Candidate}
    (isChampion :
      champion Candidate.lower
          (playableClassIds.filterMap (candidate queriedLevel classMask)) =
        some winner)
    {entry : Candidate}
    (member :
      entry ∈ playableClassIds.filterMap (candidate queriedLevel classMask)) :
    winner.level ≤ entry.level ∧
      (entry.level = winner.level → winner.classId ≤ entry.classId) := by
  have irreflexive : ∀ entry, Candidate.lower entry entry = false := by
    intro entry
    exact decide_eq_false (UInt8.lt_irrefl entry.level)
  have transitive :
      ∀ first second third,
        Candidate.lower first second = true →
          Candidate.lower second third = true →
            Candidate.lower first third = true := by
    intro first second third firstLower secondLower
    exact decide_eq_true (UInt8.lt_trans (of_decide_eq_true firstLower)
      (of_decide_eq_true secondLower))
  have comparable :
      ∀ first second third,
        Candidate.lower first third = true →
          Candidate.lower first second = true ∨
            Candidate.lower second third = true := by
    intro first second third isLower
    have less := UInt8.lt_iff_toNat_lt.mp (of_decide_eq_true isLower)
    simp only [Candidate.lower, decide_eq_true_eq, UInt8.lt_iff_toNat_lt]
    omega
  obtain ⟨before, after, shape, aboveBefore⟩ :=
    champion_first irreflexive transitive comparable isChampion
  have notLower :=
    champion_maximal irreflexive transitive isChampion entry member
  refine ⟨UInt8.not_lt.mp (of_decide_eq_false notLower), fun sameLevel => ?_⟩
  have ordered := candidates_ordered queriedLevel classMask
  rw [shape] at member ordered
  rcases List.mem_append.mp member with isBefore | isBehind
  · have isLower := of_decide_eq_true (aboveBefore entry isBefore)
    rw [sameLevel] at isLower
    exact (UInt8.lt_irrefl _ isLower).elim
  · rcases List.mem_cons.mp isBehind with rfl | isAfter
    · exact UInt32.le_refl _
    · exact UInt32.le_of_lt
        ((List.pairwise_cons.mp (List.pairwise_append.mp ordered).2.1).1
          entry isAfter)

/-! ## The minimum -/

section Selection

variable
  {Context Spell : Type}
  (querySpellLevel : Option (QuerySpellLevelFn Context Spell))
  (queryContext : Context)
  (thisSpell : Spell)

/-- A class assigned by a valid mask whose queried level is this usable one. -/
def Usable
    (hasAuthoritativeClassMask : Bool)
    (authoritativeClassMask : UInt32)
    (classId : UInt32)
    (level : UInt8) :
    Prop :=
  hasAuthoritativeClass hasAuthoritativeClassMask authoritativeClassMask
      classId = true ∧
    isValidRequiredLevel level = true ∧
      ∃ query, querySpellLevel = some query ∧
        query queryContext thisSpell classId = level

variable {querySpellLevel queryContext thisSpell} in
/-- A usable class is one of a mask that is there, set and playable. -/
theorem Usable.maskValid
    {hasAuthoritativeClassMask : Bool}
    {authoritativeClassMask classId : UInt32}
    {level : UInt8}
    (usable :
      Usable querySpellLevel queryContext thisSpell
        hasAuthoritativeClassMask authoritativeClassMask classId level) :
    ((hasAuthoritativeClassMask = true ∧ authoritativeClassMask ≠ 0) ∧
        isPlayableClassMask authoritativeClassMask = true) ∧
      hasClass authoritativeClassMask classId = true := by
  have authoritative := usable.1
  simpa only [hasAuthoritativeClass, Bool.and_eq_true, bne_iff_ne,
    ne_eq] using authoritative

variable {queryContext thisSpell} in
/-- The usable classes of a valid mask are the candidates. -/
theorem usable_iff_candidate
    {query : QuerySpellLevelFn Context Spell}
    {authoritativeClassMask classId : UInt32}
    {level : UInt8}
    (notEmpty : authoritativeClassMask ≠ 0)
    (valid : isPlayableClassMask authoritativeClassMask = true) :
    Usable (some query) queryContext thisSpell true authoritativeClassMask
        classId level ↔
      ⟨classId, level⟩ ∈ playableClassIds.filterMap
        (candidate (query queryContext thisSpell)
          authoritativeClassMask) := by
  rw [mem_candidates]
  constructor
  · intro used
    have assigned := used.maskValid.2
    obtain ⟨_, usable, asked, available, queried⟩ := used
    obtain rfl := Option.some.inj available
    exact ⟨assigned, usable, queried⟩
  · rintro ⟨assigned, usable, queried⟩
    have authoritative :
        hasAuthoritativeClass true authoritativeClassMask classId = true := by
      simp [hasAuthoritativeClass, notEmpty, valid, assigned]
    exact ⟨authoritative, usable, query, rfl, queried⟩

/-- Either no class is usable, and the selection falls back, or the selection
is the best usable one. -/
theorem select_cases
    (requestedClass : UInt32)
    (hasAuthoritativeClassMask : Bool)
    (authoritativeClassMask : UInt32)
    (originalLevel : UInt8) :
    ((¬ ∃ classId level,
        Usable querySpellLevel queryContext thisSpell
          hasAuthoritativeClassMask authoritativeClassMask classId level) ∧
      ∃ reason,
        selectLowestValidRequiredLevel querySpellLevel queryContext thisSpell
          requestedClass hasAuthoritativeClassMask authoritativeClassMask
          originalLevel = fallback originalLevel reason) ∨
    ∃ winner : Candidate,
      selectLowestValidRequiredLevel querySpellLevel queryContext thisSpell
          requestedClass hasAuthoritativeClassMask authoritativeClassMask
          originalLevel = ⟨winner.level, winner.classId, true, ""⟩ ∧
        Usable querySpellLevel queryContext thisSpell
          hasAuthoritativeClassMask authoritativeClassMask winner.classId
          winner.level ∧
        ∀ classId level,
          Usable querySpellLevel queryContext thisSpell
              hasAuthoritativeClassMask authoritativeClassMask classId
              level →
            winner.level ≤ level ∧
              (level = winner.level → winner.classId ≤ classId) := by
  unfold selectLowestValidRequiredLevel
  split
  · next noMask =>
    refine .inl ⟨?_, _, rfl⟩
    rintro ⟨_, _, usable⟩
    exact absurd usable.maskValid.1.1.1 (by simp [noMask])
  split
  · next isEmpty =>
    refine .inl ⟨?_, _, rfl⟩
    rintro ⟨_, _, usable⟩
    exact usable.maskValid.1.1.2 isEmpty
  split
  · next invalid =>
    refine .inl ⟨?_, _, rfl⟩
    rintro ⟨_, _, usable⟩
    exact absurd usable.maskValid.1.2 (by simp [invalid])
  next hasMask notEmpty valid =>
    rw [Bool.not_eq_false] at hasMask valid
    subst hasMask
    split
    · refine .inl ⟨?_, _, rfl⟩
      rintro ⟨_, _, _, _, _, available, _⟩
      cases available
    next query =>
      rw [foldl_considerClass]
      cases isChampion : champion Candidate.lower
          (playableClassIds.filterMap
            (candidate (query queryContext thisSpell)
              authoritativeClassMask)) with
      | none =>
          refine .inl ⟨?_, _, rfl⟩
          rintro ⟨classId, level, usable⟩
          have isCandidate := (usable_iff_candidate notEmpty valid).mp usable
          have someChampion := (champion_isSome_iff Candidate.lower).mpr
            (List.ne_nil_of_mem isCandidate)
          rw [isChampion] at someChampion
          cases someChampion
      | some winner =>
          refine .inr ⟨winner, rfl, ?_, fun classId level others => ?_⟩
          · exact (usable_iff_candidate notEmpty valid).mpr
              (champion_mem isChampion)
          · exact champion_least isChampion
              ((usable_iff_candidate notEmpty valid).mp others)

/-- A class stays assigned when another one is added. -/
theorem Usable.added
    {hasAuthoritativeClassMask : Bool}
    {authoritativeClassMask classId : UInt32}
    {level : UInt8}
    (usable :
      Usable querySpellLevel queryContext thisSpell
        hasAuthoritativeClassMask authoritativeClassMask classId level)
    (added : UInt32) :
    Usable querySpellLevel queryContext thisSpell hasAuthoritativeClassMask
      (authoritativeClassMask ||| classBit added) classId level := by
  refine ⟨?_, usable.2⟩
  obtain ⟨⟨⟨hasMask, _⟩, valid⟩, assigned⟩ := usable.maskValid
  simp only [hasAuthoritativeClass, Bool.and_eq_true, bne_iff_ne, ne_eq]
  have playable :=
    isPlayableClassId_iff.mp (isPlayableClassId_of_hasClass assigned)
  have stillAssigned :
      hasClass (authoritativeClassMask ||| classBit added) classId = true := by
    have isSet := (hasClass_iff playable).mp assigned
    rw [hasClass_iff playable, UInt32.toNat_or, Nat.testBit_or, isSet,
      Bool.true_or]
  have addedLow : (classBit added).toNat < 2 ^ 16 := by
    by_cases isPlayable : isPlayableClassId added = true
    · have inside := isPlayableClassId_iff.mp isPlayable
      rw [toNat_classBit inside]
      exact Nat.pow_lt_pow_right (by decide) (by omega)
    · rw [classBit, if_neg isPlayable]
      decide
  refine ⟨⟨⟨hasMask, fun isEmpty => ?_⟩, ?_⟩, stillAssigned⟩
  · rw [isEmpty] at stillAssigned
    simp [hasClass] at stillAssigned
  · rw [isPlayableClassMask_iff, UInt32.toNat_or]
    exact Nat.or_lt_two_pow (isPlayableClassMask_iff.mp valid) addedLow

/--
With a usable level among the assigned classes, the selection is the least one,
with the least class id that has it; without one, the original level stays; and
a further class never raises what the classes before it made usable.
-/
theorem spellLevel_least_and_monotone
    (requestedClass : UInt32)
    (hasAuthoritativeClassMask : Bool)
    (authoritativeClassMask : UInt32)
    (originalLevel : UInt8) :
    ((∃ classId level,
        Usable querySpellLevel queryContext thisSpell
          hasAuthoritativeClassMask authoritativeClassMask classId level) →
      (selectLowestValidRequiredLevel querySpellLevel queryContext thisSpell
          requestedClass hasAuthoritativeClassMask authoritativeClassMask
          originalLevel).usedAssignedClass = true ∧
      IsLeast
        {level | ∃ classId,
          Usable querySpellLevel queryContext thisSpell
            hasAuthoritativeClassMask authoritativeClassMask classId level}
        (selectLowestValidRequiredLevel querySpellLevel queryContext
          thisSpell requestedClass hasAuthoritativeClassMask
          authoritativeClassMask originalLevel).level ∧
      IsLeast
        {classId |
          Usable querySpellLevel queryContext thisSpell
            hasAuthoritativeClassMask authoritativeClassMask classId
            (selectLowestValidRequiredLevel querySpellLevel queryContext
              thisSpell requestedClass hasAuthoritativeClassMask
              authoritativeClassMask originalLevel).level}
        (selectLowestValidRequiredLevel querySpellLevel queryContext
          thisSpell requestedClass hasAuthoritativeClassMask
          authoritativeClassMask originalLevel).selectedClass) ∧
    ((¬ ∃ classId level,
        Usable querySpellLevel queryContext thisSpell
          hasAuthoritativeClassMask authoritativeClassMask classId level) →
      (selectLowestValidRequiredLevel querySpellLevel queryContext thisSpell
          requestedClass hasAuthoritativeClassMask authoritativeClassMask
          originalLevel).usedAssignedClass = false ∧
      (selectLowestValidRequiredLevel querySpellLevel queryContext thisSpell
          requestedClass hasAuthoritativeClassMask authoritativeClassMask
          originalLevel).level = originalLevel) ∧
    ((∃ classId level,
        Usable querySpellLevel queryContext thisSpell
          hasAuthoritativeClassMask authoritativeClassMask classId level) →
      ∀ added,
        (selectLowestValidRequiredLevel querySpellLevel queryContext
            thisSpell requestedClass hasAuthoritativeClassMask
            (authoritativeClassMask ||| classBit added)
            originalLevel).level ≤
          (selectLowestValidRequiredLevel querySpellLevel queryContext
            thisSpell requestedClass hasAuthoritativeClassMask
            authoritativeClassMask originalLevel).level) := by
  rcases select_cases querySpellLevel queryContext thisSpell requestedClass
      hasAuthoritativeClassMask authoritativeClassMask originalLevel with
    ⟨noneUsable, reason, selected⟩ |
    ⟨winner, selected, winnerUsable, least⟩
  · rw [selected]
    exact ⟨fun someUsable => (noneUsable someUsable).elim,
      fun _ => ⟨rfl, rfl⟩, fun someUsable => (noneUsable someUsable).elim⟩
  · rw [selected]
    refine ⟨fun _ => ⟨rfl, ⟨⟨winner.classId, winnerUsable⟩, ?_⟩,
        winnerUsable, ?_⟩,
      fun noneUsable =>
        (noneUsable ⟨winner.classId, winner.level, winnerUsable⟩).elim,
      fun _ added => ?_⟩
    · rintro level ⟨classId, usable⟩
      exact (least classId level usable).1
    · intro classId usable
      exact (least classId winner.level usable).2 rfl
    · have stillUsable := winnerUsable.added _ _ _ added
      rcases select_cases querySpellLevel queryContext thisSpell
          requestedClass hasAuthoritativeClassMask
          (authoritativeClassMask ||| classBit added) originalLevel with
        ⟨noneUsable, _⟩ | ⟨later, laterSelected, _, laterLeast⟩
      · exact (noneUsable ⟨_, _, stillUsable⟩).elim
      · rw [laterSelected]
        exact (laterLeast _ _ stillUsable).1

end Selection

end MonomythClient.SpellLevelSelection
