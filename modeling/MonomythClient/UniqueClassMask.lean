import MonomythClient.Agreements
import MonomythClient.MulticlassCache
import Mathlib.Data.Nat.Bitwise

namespace MonomythClient.MulticlassCache

open Agreements ByteText

/-!
# The class mask that a native class determines

Without a character's name the cache is searched by native class: the entries
of the server, with that native class or none, whose mask has the bit of the
class.  The search succeeds exactly when these entries have a single mask.
-/

/-- The entry filters of the scan, in the order the source tries them. -/
def isSkipped
    (normalizedServerName : List UInt8)
    (nativeClassId classBit : UInt32)
    (entry : CacheEntry) :
    Bool :=
  if normalizedServerName ≠ [] ∧
      (entry.normalizedServerName = [] ∨
        entry.normalizedServerName ≠ normalizedServerName) then
    true
  else if entry.nativeClassId ≠ 0 ∧
      entry.nativeClassId.toUInt32 ≠ nativeClassId then
    true
  else
    decide (entry.classesBitmask &&& classBit = 0)

/-- The scan, with `found` and `matched_mask`. -/
def scanUniqueMask
    (normalizedServerName : List UInt8)
    (nativeClassId classBit : UInt32) :
    Bool → UInt32 → List CacheEntry → Option UInt32
  | found, matchedMask, [] =>
      if found then some matchedMask else none
  | found, matchedMask, entry :: later =>
      if isSkipped normalizedServerName nativeClassId classBit entry then
        scanUniqueMask normalizedServerName nativeClassId classBit found
          matchedMask later
      else if found = true ∧ matchedMask ≠ entry.classesBitmask then
        none
      else
        scanUniqueMask normalizedServerName nativeClassId classBit true
          entry.classesBitmask later

/-- `TryLookupUniqueClassMaskForNativeClassId`: its result, and what is behind
the output pointer afterwards; a null pointer has nothing behind it. -/
def tryLookupUniqueClassMaskForNativeClassId
    (conditions : ReadConditions)
    (file : Option (List UInt8))
    (nativeClassId : UInt32)
    (expectedServerName : Option CString)
    (classesBitmask : Option UInt32) :
    Bool × Option UInt32 :=
  if classesBitmask = none ∨ nativeClassId = 0 ∨ 32 < nativeClassId then
    (false, classesBitmask)
  else
    let classBit : UInt32 := 1 <<< (nativeClassId - 1)
    match readCacheEntries conditions file with
    | none => (false, classesBitmask)
    | some entries =>
        match scanUniqueMask (normalizeServerName expectedServerName)
            nativeClassId classBit false 0 entries with
        | none => (false, classesBitmask)
        | some matchedMask => (true, some matchedMask)

/-! ## Matching entries -/

/-- The entries that a search is about. -/
structure CacheEntry.Matches
    (entry : CacheEntry)
    (nativeClassId : UInt32)
    (expectedServerName : Option CString) :
    Prop where
  server :
    ∀ serverName ∈ expectedServerName,
      serverName.bytes ≠ [] →
        entry.normalizedServerName = normalizeName serverName.bytes
  nativeClass :
    entry.nativeClassId = 0 ∨ entry.nativeClassId.toUInt32 = nativeClassId
  classBit :
    entry.classesBitmask.toNat.testBit (nativeClassId.toNat - 1) = true

/-- The entries in the cache; one that cannot be read has none. -/
def deliveredEntries
    (conditions : ReadConditions)
    (file : Option (List UInt8)) :
    List CacheEntry :=
  (readCacheEntries conditions file).getD []

/-- The masks of the matching entries. -/
def matchingMasks
    (conditions : ReadConditions)
    (file : Option (List UInt8))
    (nativeClassId : UInt32)
    (expectedServerName : Option CString) :
    Set UInt32 :=
  { mask |
    ∃ entry ∈ deliveredEntries conditions file,
      entry.Matches nativeClassId expectedServerName ∧
        entry.classesBitmask = mask }

/-- The server filter looks at a name that is neither null nor empty. -/
theorem passesServer_iff
    (expectedServerName : Option CString)
    (entry : CacheEntry) :
    ¬ (normalizeServerName expectedServerName ≠ [] ∧
        (entry.normalizedServerName = [] ∨
          entry.normalizedServerName ≠
            normalizeServerName expectedServerName)) ↔
      ∀ serverName ∈ expectedServerName,
        serverName.bytes ≠ [] →
          entry.normalizedServerName = normalizeName serverName.bytes := by
  cases expectedServerName with
  | none =>
      simp [normalizeServerName]
  | some serverName =>
      have emptyIff := foldCase_eq_nil serverName.unterminated
      simp only [normalizeServerName, normalizeName, Option.mem_def,
        Option.some.injEq, forall_eq', ne_eq, emptyIff, not_and, not_or,
        not_not]
      constructor
      · intro passes given
        exact (passes given).2
      · intro passes given
        have same := passes given
        exact ⟨fun isEmpty => given (emptyIff.mp (same ▸ isEmpty)), same⟩

/-- The bit filter looks at the bit below the class id. -/
theorem classBit_iff
    {nativeClassId : UInt32}
    (positive : 1 ≤ nativeClassId.toNat)
    (inside : nativeClassId.toNat ≤ 32)
    (mask : UInt32) :
    mask &&& 1 <<< (nativeClassId - 1) ≠ 0 ↔
      mask.toNat.testBit (nativeClassId.toNat - 1) = true := by
  have oneLe : (1 : UInt32) ≤ nativeClassId :=
    UInt32.le_iff_toNat_le.mpr positive
  have bit :
      ((1 : UInt32) <<< (nativeClassId - 1)).toNat =
        2 ^ (nativeClassId.toNat - 1) := by
    have noWrap :
        (nativeClassId.toNat - 1) % 32 = nativeClassId.toNat - 1 :=
      Nat.mod_eq_of_lt (by omega)
    have shiftFits : 2 ^ (nativeClassId.toNat - 1) < 2 ^ 32 :=
      Nat.pow_lt_pow_right (by decide) (by omega)
    rw [UInt32.toNat_shiftLeft, UInt32.toNat_sub_of_le _ _ oneLe,
      UInt32.toNat_one, noWrap, Nat.one_shiftLeft,
      Nat.mod_eq_of_lt shiftFits]
  rw [Ne, ← UInt32.toNat_inj, UInt32.toNat_and, bit, UInt32.toNat_zero,
    Nat.and_comm, Nat.two_pow_and]
  simp

/-- What the scan does not skip is what matches. -/
theorem isSkipped_iff
    {nativeClassId : UInt32}
    (positive : 1 ≤ nativeClassId.toNat)
    (inside : nativeClassId.toNat ≤ 32)
    (expectedServerName : Option CString)
    (entry : CacheEntry) :
    isSkipped (normalizeServerName expectedServerName) nativeClassId
        (1 <<< (nativeClassId - 1)) entry = false ↔
      entry.Matches nativeClassId expectedServerName := by
  have server := passesServer_iff expectedServerName entry
  have bit := classBit_iff positive inside entry.classesBitmask
  rw [isSkipped]
  split
  next skipped =>
    simp only [Bool.true_eq_false, false_iff]
    intro isMatch
    exact server.mpr isMatch.server skipped
  next passesServer =>
    split
    next skipped =>
      simp only [Bool.true_eq_false, false_iff]
      intro isMatch
      rcases isMatch.nativeClass with unknown | same
      · exact skipped.1 unknown
      · exact skipped.2 same
    next passesClass =>
      rw [decide_eq_false_iff_not, ← ne_eq, bit]
      constructor
      · intro hasBit
        refine ⟨server.mp passesServer, ?_, hasBit⟩
        by_contra neither
        exact passesClass (not_or.mp neither)
      · exact CacheEntry.Matches.classBit

/-! ## The search -/

/-- The scan is the one for the value that all unskipped entries agree on. -/
theorem scanUniqueMask_eq
    (normalizedServerName : List UInt8)
    (nativeClassId classBit : UInt32)
    (found : Bool)
    (matchedMask : UInt32)
    (entries : List CacheEntry) :
    scanUniqueMask normalizedServerName nativeClassId classBit found
        matchedMask entries =
      agreedFrom
        (fun entry =>
          isSkipped normalizedServerName nativeClassId classBit entry =
            false)
        CacheEntry.classesBitmask
        (if found then some matchedMask else none) entries := by
  induction entries generalizing found matchedMask with
  | nil =>
      rfl
  | cons entry later inductionHypothesis =>
      rw [scanUniqueMask, agreedFrom]
      cases isSkipped normalizedServerName nativeClassId classBit entry with
      | true =>
          rw [if_pos rfl, if_neg (by decide), inductionHypothesis]
      | false =>
          rw [if_neg (by decide), if_pos rfl, inductionHypothesis]
          cases found with
          | false =>
              simp
          | true =>
              by_cases same : matchedMask = entry.classesBitmask
              · simp [same]
              · simp [same]

/-- The mask that the unskipped cached entries agree on. -/
def agreedMask
    (conditions : ReadConditions)
    (file : Option (List UInt8))
    (nativeClassId : UInt32)
    (expectedServerName : Option CString) :
    Option UInt32 :=
  agreedFrom
    (fun entry =>
      isSkipped (normalizeServerName expectedServerName) nativeClassId
        (1 <<< (nativeClassId - 1)) entry = false)
    CacheEntry.classesBitmask none (deliveredEntries conditions file)

section InRange

variable
  (conditions : ReadConditions)
  (file : Option (List UInt8))
  {nativeClassId : UInt32}
  (positive : 1 ≤ nativeClassId.toNat)
  (inside : nativeClassId.toNat ≤ 32)
  (expectedServerName : Option CString)

include positive inside

/-- There is one exactly when the matching entries have one mask. -/
theorem agreedMask_eq_some_iff (mask : UInt32) :
    agreedMask conditions file nativeClassId expectedServerName = some mask ↔
      matchingMasks conditions file nativeClassId expectedServerName =
        {mask} := by
  have sameMasks :
      values
          (fun entry =>
            isSkipped (normalizeServerName expectedServerName) nativeClassId
              (1 <<< (nativeClassId - 1)) entry = false)
          CacheEntry.classesBitmask (deliveredEntries conditions file) =
        matchingMasks conditions file nativeClassId expectedServerName := by
    ext held
    exact exists_congr fun entry => and_congr_right fun _ =>
      and_congr_left' (isSkipped_iff positive inside expectedServerName entry)
  rw [agreedMask, agreedFrom_none_iff, sameMasks]

/-- With an output pointer the search answers with that mask. -/
theorem tryLookupUniqueClassMask_eq (previous : UInt32) :
    tryLookupUniqueClassMaskForNativeClassId conditions file nativeClassId
        expectedServerName (some previous) =
      match
        agreedMask conditions file nativeClassId expectedServerName with
      | none => (false, some previous)
      | some matchedMask => (true, some matchedMask) := by
  have accepted :
      ¬ (some previous = none ∨ nativeClassId = 0 ∨ 32 < nativeClassId) := by
    rw [← UInt32.toNat_inj, UInt32.lt_iff_toNat_lt, UInt32.toNat_zero,
      show (32 : UInt32).toNat = 32 from rfl]
    rintro (isNull | isZero | isLarge)
    · cases isNull
    · omega
    · omega
  rw [tryLookupUniqueClassMaskForNativeClassId, if_neg accepted, agreedMask,
    deliveredEntries]
  cases readCacheEntries conditions file with
  | none =>
      rfl
  | some entries =>
      simp only [scanUniqueMask_eq, Bool.false_eq_true, if_false,
        Option.getD_some]

end InRange

/-- Without an output pointer, or with an id out of range, it refuses. -/
theorem tryLookupUniqueClassMask_refused
    (conditions : ReadConditions)
    (file : Option (List UInt8))
    {nativeClassId : UInt32}
    (expectedServerName : Option CString)
    {classesBitmask : Option UInt32}
    (refused :
      classesBitmask = none ∨
        ¬ (1 ≤ nativeClassId.toNat ∧ nativeClassId.toNat ≤ 32)) :
    tryLookupUniqueClassMaskForNativeClassId conditions file nativeClassId
        expectedServerName classesBitmask =
      (false, classesBitmask) := by
  have isRefused :
      classesBitmask = none ∨ nativeClassId = 0 ∨ 32 < nativeClassId := by
    rw [← UInt32.toNat_inj, UInt32.lt_iff_toNat_lt, UInt32.toNat_zero,
      show (32 : UInt32).toNat = 32 from rfl]
    exact refused.imp_right fun outside => by omega
  exact if_pos isRefused

/-- The search answers with a mask exactly when it is the one mask of the
matching entries. -/
theorem tryLookupUniqueClassMask_eq_some_iff
    (conditions : ReadConditions)
    (file : Option (List UInt8))
    (nativeClassId : UInt32)
    (expectedServerName : Option CString)
    (previous mask : UInt32) :
    tryLookupUniqueClassMaskForNativeClassId conditions file nativeClassId
        expectedServerName (some previous) =
      (true, some mask) ↔
    1 ≤ nativeClassId.toNat ∧ nativeClassId.toNat ≤ 32 ∧
      matchingMasks conditions file nativeClassId expectedServerName =
        {mask} := by
  by_cases inRange : 1 ≤ nativeClassId.toNat ∧ nativeClassId.toNat ≤ 32
  · obtain ⟨positive, inside⟩ := inRange
    rw [tryLookupUniqueClassMask_eq conditions file positive inside,
      ← agreedMask_eq_some_iff conditions file positive inside]
    cases agreedMask conditions file nativeClassId expectedServerName with
    | none =>
        simp
    | some matchedMask =>
        simp [positive, inside]
  · rw [tryLookupUniqueClassMask_refused conditions file expectedServerName
      (.inr inRange), ← and_assoc]
    simp [inRange]

/-- It depends on the entries, but not on their order. -/
theorem tryLookupUniqueClassMask_perm
    {conditions otherConditions : ReadConditions}
    {file otherFile : Option (List UInt8)}
    (same :
      (deliveredEntries conditions file).Perm
        (deliveredEntries otherConditions otherFile))
    (nativeClassId : UInt32)
    (expectedServerName : Option CString)
    (classesBitmask : Option UInt32) :
    tryLookupUniqueClassMaskForNativeClassId conditions file nativeClassId
        expectedServerName classesBitmask =
      tryLookupUniqueClassMaskForNativeClassId otherConditions otherFile
        nativeClassId expectedServerName classesBitmask := by
  by_cases refused :
      classesBitmask = none ∨
        ¬ (1 ≤ nativeClassId.toNat ∧ nativeClassId.toNat ≤ 32)
  · rw [tryLookupUniqueClassMask_refused _ _ _ refused,
      tryLookupUniqueClassMask_refused _ _ _ refused]
  · rw [not_or, not_not] at refused
    obtain ⟨isGiven, positive, inside⟩ := refused
    obtain ⟨previous, rfl⟩ := Option.ne_none_iff_exists'.mp isGiven
    have sameMask :
        agreedMask conditions file nativeClassId expectedServerName =
          agreedMask otherConditions otherFile nativeClassId
            expectedServerName :=
      agreedFrom_none_perm same
    rw [tryLookupUniqueClassMask_eq _ _ positive inside,
      tryLookupUniqueClassMask_eq _ _ positive inside, sameMask]

/-- Where it returns false, the output is as it was. -/
theorem tryLookupUniqueClassMask_untouched
    {conditions : ReadConditions}
    {file : Option (List UInt8)}
    {nativeClassId : UInt32}
    {expectedServerName : Option CString}
    {classesBitmask : Option UInt32}
    (failed :
      (tryLookupUniqueClassMaskForNativeClassId conditions file nativeClassId
        expectedServerName classesBitmask).1 = false) :
    (tryLookupUniqueClassMaskForNativeClassId conditions file nativeClassId
      expectedServerName classesBitmask).2 = classesBitmask := by
  rw [tryLookupUniqueClassMaskForNativeClassId] at failed ⊢
  by_cases refused :
      classesBitmask = none ∨ nativeClassId = 0 ∨ 32 < nativeClassId
  · rw [if_pos refused]
  · rw [if_neg refused] at failed ⊢
    cases entries : readCacheEntries conditions file with
    | none =>
        rfl
    | some entries =>
        simp only [entries] at failed ⊢
        split at failed
        next noMask =>
          rfl
        next matchedMask _ =>
          cases failed

/-- The search returns a mask exactly when the matching entries have that one
mask; it depends on the entries but not on their order; and it leaves the
output alone when it returns false. -/
theorem uniqueClassMask_lookup
    (conditions : ReadConditions)
    (file : Option (List UInt8))
    (nativeClassId : UInt32)
    (expectedServerName : Option CString) :
    (∀ previous mask,
        tryLookupUniqueClassMaskForNativeClassId conditions file
            nativeClassId expectedServerName (some previous) =
          (true, some mask) ↔
        1 ≤ nativeClassId.toNat ∧ nativeClassId.toNat ≤ 32 ∧
          matchingMasks conditions file nativeClassId expectedServerName =
            {mask}) ∧
      (∀ otherConditions otherFile classesBitmask,
        (deliveredEntries conditions file).Perm
            (deliveredEntries otherConditions otherFile) →
          tryLookupUniqueClassMaskForNativeClassId conditions file
              nativeClassId expectedServerName classesBitmask =
            tryLookupUniqueClassMaskForNativeClassId otherConditions otherFile
              nativeClassId expectedServerName classesBitmask) ∧
      ∀ classesBitmask,
        (tryLookupUniqueClassMaskForNativeClassId conditions file
            nativeClassId expectedServerName classesBitmask).1 = false →
          (tryLookupUniqueClassMaskForNativeClassId conditions file
            nativeClassId expectedServerName classesBitmask).2 =
            classesBitmask :=
  ⟨tryLookupUniqueClassMask_eq_some_iff conditions file nativeClassId
      expectedServerName,
    fun _ _ classesBitmask same =>
      tryLookupUniqueClassMask_perm same nativeClassId expectedServerName
        classesBitmask,
    fun _ => tryLookupUniqueClassMask_untouched⟩

end MonomythClient.MulticlassCache
