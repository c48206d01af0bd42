import MonomythClient.MulticlassCacheCodec

namespace MonomythClient.MulticlassCache

open ByteText

/-!
# What one store does to every lookup

A store reads the whole file, updates one row, and writes the whole file.  The
row it updates is chosen by name and server, while the parser and the lookup
choose rows by name alone.  This module states the effect of one store on the
entry every name finds afterwards; runs of stores, with and without failing
system calls, are composed from it.
-/

/--
The arguments of a well-formed store: a name and a server that fit their
fields of a cache line, and a class id of one byte.
-/
structure StoreCall where
  name : CString
  nameNonempty : name.bytes ≠ []
  nameOneField : separator ∉ name.bytes
  nameOneLine : lineFeed ∉ name.bytes ∧ carriageReturn ∉ name.bytes
  classesBitmask : UInt32
  nativeClassId : UInt32
  nativeClassInRange : nativeClassId ≠ 0 ∧ nativeClassId ≤ 255
  server : CString
  serverNonempty : server.bytes ≠ []
  serverOneLine :
    lineFeed ∉ server.bytes ∧ carriageReturn ∉ server.bytes
  deriving DecidableEq

namespace StoreCall

def normalizedName (call : StoreCall) : List UInt8 :=
  normalizeName call.name.bytes

def normalizedServerName (call : StoreCall) : List UInt8 :=
  normalizeName call.server.bytes

/-- The row the call writes. -/
def entry (call : StoreCall) : CacheEntry where
  name := call.name.bytes
  normalizedName := call.normalizedName
  classesBitmask := call.classesBitmask
  nativeClassId := call.nativeClassId.toUInt8
  serverName := call.server.bytes
  normalizedServerName := call.normalizedServerName

theorem normalizedName_ne_nil (call : StoreCall) :
    call.normalizedName ≠ [] :=
  fun isEmpty =>
    call.nameNonempty
      ((foldCase_eq_nil call.name.unterminated).mp isEmpty)

theorem normalizedServerName_ne_nil (call : StoreCall) :
    call.normalizedServerName ≠ [] :=
  fun isEmpty =>
    call.serverNonempty
      ((foldCase_eq_nil call.server.unterminated).mp isEmpty)

/-- The stored class id is the one the caller passed. -/
theorem nativeClassId_stored (call : StoreCall) :
    call.entry.nativeClassId.toUInt32 = call.nativeClassId := by
  have inRange := call.nativeClassInRange.2
  rw [UInt32.le_iff_toNat_le] at inRange
  simp only [entry, ← UInt32.toNat_inj, UInt8.toNat_toUInt32,
    UInt32.toNat_toUInt8]
  exact Nat.mod_eq_of_lt (Nat.lt_succ_of_le inRange)

/-- The stored row fits a cache line. -/
theorem lineSafe_entry (call : StoreCall) : LineSafe call.entry where
  nameNormalized := rfl
  nameVisible := call.normalizedName_ne_nil
  nameOneField := call.nameOneField
  nameOneLine := call.nameOneLine.1
  serverNormalized := rfl
  serverOneLine := call.serverOneLine.1

/-- The stored row survives being written. -/
theorem retained_entry (call : StoreCall) : Retained call.entry := by
  refine ⟨?_, call.normalizedServerName_ne_nil⟩
  intro noClass
  apply call.nativeClassInRange.1
  rw [← call.nativeClassId_stored, noClass]
  rfl

end StoreCall

/-- The columns the store's update loop compares. -/
def pairKey (entry : CacheEntry) : List UInt8 × List UInt8 :=
  (entry.normalizedName, entry.normalizedServerName)

/-- The store's update loop is the keyed update by name and server. -/
theorem updateEntry_eq_put
    (entries : List CacheEntry)
    (stored : CacheEntry) :
    updateEntry entries stored = KeyedList.put pairKey stored entries := by
  have sameSelection :
      (fun entry : CacheEntry =>
          decide
            (entry.normalizedName = stored.normalizedName ∧
              entry.normalizedServerName = stored.normalizedServerName)) =
        fun entry => decide (pairKey entry = pairKey stored) := by
    funext entry
    simp [pairKey]
  unfold updateEntry KeyedList.put
  rw [sameSelection]
  refine KeyedList.upsert_congr stored ?_
  intro entry _ selected
  have sameName : entry.normalizedName = stored.normalizedName := by
    have samePair : pairKey entry = pairKey stored := by
      simpa using selected
    exact congrArg Prod.fst samePair
  rw [sameName]

/-! ## The entries a file holds -/

/-- The entries a failure-free read of the file delivers. -/
def cachedEntries (file : Option (List UInt8)) : List CacheEntry :=
  (readCacheEntries .healthy file).getD []

/-- The entry a failure-free lookup finds first under a normalized name. -/
def cachedEntry
    (file : Option (List UInt8))
    (normalizedName : List UInt8) :
    Option CacheEntry :=
  KeyedList.lookup CacheEntry.normalizedName normalizedName
    (cachedEntries file)

/-- A read either fails or delivers what the parser makes of some bytes. -/
theorem readCacheEntries_parsed
    {conditions : ReadConditions}
    {file : Option (List UInt8)}
    {entries : List CacheEntry}
    (delivered : readCacheEntries conditions file = some entries) :
    ∃ bytes, parseCacheEntries bytes = some entries := by
  unfold readCacheEntries at delivered
  split at delivered
  · contradiction
  dsimp only at delivered
  split at delivered
  · contradiction
  split at delivered
  · contradiction
  split at delivered
  · contradiction
  exact ⟨_, delivered⟩

/-- Read entries fit their lines and have distinct names. -/
theorem cachedEntries_sound (file : Option (List UInt8)) :
    KeyedList.Unique CacheEntry.normalizedName (cachedEntries file) ∧
      ∀ entry ∈ cachedEntries file, LineSafe entry := by
  unfold cachedEntries
  cases delivered : readCacheEntries .healthy file with
  | none =>
      exact ⟨KeyedList.unique_nil, by simp⟩
  | some entries =>
      obtain ⟨bytes, parsed⟩ := readCacheEntries_parsed delivered
      exact
        ⟨(parseCacheEntries_sound parsed).1,
          (parseCacheEntries_sound parsed).2.1⟩

/-- What a failure-free read makes of a file of addressable size. -/
theorem readCacheEntries_addressable
    {contents : List UInt8}
    (addressable : contents.length < 2 ^ 32) :
    readCacheEntries .healthy (some contents) =
      if contents.length = kInvalidFileSize ∨
          kMaxCacheFileBytes < contents.length then
        none
      else
        parseCacheEntries contents := by
  unfold readCacheEntries
  dsimp only
  rw [Nat.mod_eq_of_lt addressable]
  simp [ReadConditions.healthy]

/-- A file within the cap is read whole. -/
theorem readCacheEntries_withinCap
    {contents : List UInt8}
    (withinCap : contents.length ≤ kMaxCacheFileBytes) :
    readCacheEntries .healthy (some contents) =
      parseCacheEntries contents := by
  have addressable : contents.length < 2 ^ 32 :=
    Nat.lt_of_le_of_lt withinCap (by decide)
  rw [readCacheEntries_addressable addressable, if_neg]
  rintro (invalid | aboveCap)
  · rw [invalid] at withinCap
    exact absurd withinCap (by decide)
  · exact Nat.not_lt.mpr withinCap aboveCap

/-- A file above the cap, but short of `2 ^ 32` bytes, holds nothing. -/
theorem cachedEntries_of_oversized
    {contents : List UInt8}
    (aboveCap : kMaxCacheFileBytes < contents.length)
    (addressable : contents.length < 2 ^ 32) :
    cachedEntries (some contents) = [] := by
  rw [cachedEntries, readCacheEntries_addressable addressable,
    if_pos (.inr aboveCap)]
  rfl

/-- Any failing call on the read path leaves the store without old entries. -/
theorem readCacheEntries_of_not_healthy
    {conditions : ReadConditions}
    (unhealthy : conditions ≠ .healthy)
    (file : Option (List UInt8)) :
    (readCacheEntries conditions file).getD [] = [] := by
  unfold readCacheEntries
  cases file with
  | none =>
      rfl
  | some contents =>
      dsimp only
      split
      · rfl
      rename_i opened
      split
      · rfl
      rename_i sized
      split
      · rfl
      rename_i bufferRead
      have emptyBuffer :
          contents.take (contents.length % 2 ^ 32) = [] := by
        by_contra nonempty
        apply unhealthy
        simp only [nonempty, ne_eq, not_false_eq_true, true_and,
          not_or] at bufferRead opened sized
        cases conditions
        simp_all [ReadConditions.healthy]
      rw [emptyBuffer]
      rfl

/-- A failure-free lookup depends on the file through `cachedEntry` only. -/
theorem tryLookup_healthy
    (file : Option (List UInt8))
    (name : CString)
    (expectedNativeClassId : UInt32)
    (expectedServerName : Option CString) :
    tryLookupCharacterClassMask .healthy file (some name)
        expectedNativeClassId expectedServerName =
      if name.bytes = [] then none
      else
        (cachedEntry file (normalizeName name.bytes)).bind
          (matchEntry expectedNativeClassId
            (normalizeServerName expectedServerName)) := by
  have visible :
      (name.bytes = [] ∨ normalizeName name.bytes = []) ↔
        name.bytes = [] := by
    rw [normalizeName, foldCase_eq_nil name.unterminated, or_self]
  simp only [tryLookupCharacterClassMask, visible, cachedEntry,
    cachedEntries]
  cases readCacheEntries .healthy file with
  | none =>
      rfl
  | some entries =>
      rfl

/-! ## One store -/

/-- The file a store writes over the given old entries. -/
def rewrittenFile
    (sorter : EntrySorter)
    (entries : List CacheEntry)
    (call : StoreCall) :
    List UInt8 :=
  buildCacheFileContents sorter (updateEntry entries call.entry)

/-- The size of that file: a header line, and a line for each named entry. -/
def rewrittenSize
    (entries : List CacheEntry)
    (call : StoreCall) :
    Nat :=
  (kCacheHeaderV3.length + 2) +
    (((updateEntry entries call.entry).filter fun entry =>
        !(entry.name.isEmpty || entry.normalizedName.isEmpty)).map
      fun entry => (formatLine entry).length + 2).sum

/-- Whichever way the entries are sorted, the file has that size. -/
theorem length_rewrittenFile
    (sorter : EntrySorter)
    (entries : List CacheEntry)
    (call : StoreCall) :
    (rewrittenFile sorter entries call).length =
      rewrittenSize entries call := by
  have reordered :=
    ((sorter.permutes (updateEntry entries call.entry)).filter
      fun entry =>
        !(entry.name.isEmpty || entry.normalizedName.isEmpty)).map
      fun entry => (formatLine entry).length + 2
  have lineEnd : (ascii "\r\n").length = 2 := by decide
  rw [rewrittenSize, ← reordered.sum_eq, rewrittenFile,
    buildCacheFileContents]
  simp only [List.length_append, List.length_flatMap, lineEnd]

/-- A store call of `StoreCharacterClassMask`, reduced to its file effect. -/
def store
    (sorter : EntrySorter)
    (readConditions : ReadConditions)
    (writeConditions : WriteConditions)
    (call : StoreCall)
    (file : Option (List UInt8)) :
    Option (List UInt8) × Bool :=
  storeCharacterClassMask sorter readConditions writeConditions
    (some call.name) call.classesBitmask call.nativeClassId
    (some call.server) file

/-- A well-formed store passes the argument checks and rewrites the file. -/
theorem store_eq
    (sorter : EntrySorter)
    (readConditions : ReadConditions)
    (writeConditions : WriteConditions)
    (call : StoreCall)
    (file : Option (List UInt8)) :
    store sorter readConditions writeConditions call file =
      match writeCacheEntries sorter writeConditions
          (updateEntry
            ((readCacheEntries readConditions file).getD [])
            call.entry) with
      | none => (file, false)
      | some contents => (some contents, true) := by
  have accepted :
      ¬ (call.name.bytes = [] ∨ call.server.bytes = [] ∨
        normalizeName call.name.bytes = [] ∨
        normalizeName call.server.bytes = []) := by
    rintro (noName | noServer | noName | noServer)
    · exact call.nameNonempty noName
    · exact call.serverNonempty noServer
    · exact call.normalizedName_ne_nil noName
    · exact call.normalizedServerName_ne_nil noServer
  simp only [store, storeCharacterClassMask, if_neg accepted]
  rfl

/-- A store that returns true has written the rewritten file. -/
theorem store_succeeded
    {sorter : EntrySorter}
    {readConditions : ReadConditions}
    {writeConditions : WriteConditions}
    {call : StoreCall}
    {file : Option (List UInt8)}
    (succeeded :
      (store sorter readConditions writeConditions call file).2 = true) :
    (store sorter readConditions writeConditions call file).1 =
        some
          (rewrittenFile sorter
            ((readCacheEntries readConditions file).getD []) call) ∧
      (rewrittenFile sorter
        ((readCacheEntries readConditions file).getD [])
          call).length < 2 ^ 32 := by
  rw [store_eq] at succeeded ⊢
  cases written : writeCacheEntries sorter writeConditions
      (updateEntry ((readCacheEntries readConditions file).getD [])
        call.entry) with
  | none =>
      simp [written] at succeeded
  | some contents =>
      unfold writeCacheEntries at written
      dsimp only at written
      split at written
      · rename_i allSucceeded
        cases written
        exact ⟨rfl, allSucceeded.2.2.2.2.2.2⟩
      · contradiction

/-- What one name finds in a rewritten file that is within the cap. -/
theorem cachedEntry_build
    (sorter : EntrySorter)
    {entries : List CacheEntry}
    (safe : ∀ entry ∈ entries, LineSafe entry)
    (withinCap :
      (buildCacheFileContents sorter entries).length ≤
        kMaxCacheFileBytes)
    {wanted : List UInt8}
    {selected : Option CacheEntry}
    (atMostOne :
      (entries.filter fun entry =>
          decide (entry.normalizedName = wanted) &&
            decide (Retained entry)) =
        selected.toList) :
    cachedEntry (some (buildCacheFileContents sorter entries)) wanted =
      selected := by
  have chosen :
      (((sorter.sort entries).filter fun entry =>
          decide (Retained entry)).filter fun entry =>
            decide (entry.normalizedName = wanted)) =
        selected.toList := by
    rw [List.filter_filter]
    exact sorter.filter_sort atMostOne
  rw [cachedEntry, cachedEntries, readCacheEntries_withinCap withinCap,
    parseCacheEntries_build sorter safe, Option.getD_some,
    KeyedList.lookup_putAll, chosen]
  cases selected with
  | none =>
      rfl
  | some entry =>
      rfl

/-- An updated row list still fits its lines. -/
theorem lineSafe_updateEntry
    {entries : List CacheEntry}
    (safe : ∀ entry ∈ entries, LineSafe entry)
    (call : StoreCall) :
    ∀ entry ∈ updateEntry entries call.entry, LineSafe entry := by
  intro entry member
  rw [updateEntry_eq_put] at member
  rcases KeyedList.mem_put member with isStored | inEntries
  · rw [isStored]
    exact call.lineSafe_entry
  · exact safe entry inEntries

/-- Rewriting keeps the retained entry of every other name. -/
theorem cachedEntry_rewritten_other
    (sorter : EntrySorter)
    {entries : List CacheEntry}
    (unique : KeyedList.Unique CacheEntry.normalizedName entries)
    (safe : ∀ entry ∈ entries, LineSafe entry)
    (call : StoreCall)
    (withinCap :
      (rewrittenFile sorter entries call).length ≤ kMaxCacheFileBytes)
    {wanted : List UInt8}
    (other : wanted ≠ call.normalizedName) :
    cachedEntry (some (rewrittenFile sorter entries call)) wanted =
      (KeyedList.lookup CacheEntry.normalizedName wanted entries).filter
        fun entry => Retained entry := by
  apply cachedEntry_build sorter (lineSafe_updateEntry safe call) withinCap
  have untouched :
      ((updateEntry entries call.entry).filter fun entry =>
          decide (entry.normalizedName = wanted) &&
            decide (Retained entry)) =
        entries.filter fun entry =>
          decide (entry.normalizedName = wanted) &&
            decide (Retained entry) := by
    rw [updateEntry_eq_put]
    apply KeyedList.filter_put_of_not
    · simp [StoreCall.entry, Ne.symm other]
    · intro entry _ samePair
      have sameName : entry.normalizedName = call.normalizedName :=
        congrArg Prod.fst samePair
      simp [sameName, Ne.symm other]
  rw [untouched]
  have splitSelection :
      (entries.filter fun entry =>
          decide (entry.normalizedName = wanted) &&
            decide (Retained entry)) =
        (entries.filter fun entry =>
          decide (entry.normalizedName = wanted)).filter fun entry =>
            decide (Retained entry) := by
    rw [List.filter_filter]
    exact List.filter_congr fun entry _ => Bool.and_comm _ _
  rw [splitSelection, KeyedList.filter_key_eq unique]
  cases KeyedList.lookup CacheEntry.normalizedName wanted entries with
  | none =>
      rfl
  | some entry =>
      by_cases retained : Retained entry
      · simp [retained, Option.filter]
      · simp [retained, Option.filter]

/-- A stored name is found again when no other server holds it. -/
theorem cachedEntry_rewritten_self
    (sorter : EntrySorter)
    (file : Option (List UInt8))
    (call : StoreCall)
    (withinCap :
      (rewrittenFile sorter (cachedEntries file) call).length ≤
        kMaxCacheFileBytes)
    (oneServer :
      ∀ entry, cachedEntry file call.normalizedName = some entry →
        entry.normalizedServerName = [] ∨
          entry.normalizedServerName = call.normalizedServerName) :
    cachedEntry
        (some (rewrittenFile sorter (cachedEntries file) call))
        call.normalizedName =
      some call.entry := by
  obtain ⟨unique, safe⟩ := cachedEntries_sound file
  apply cachedEntry_build sorter (lineSafe_updateEntry safe call) withinCap
  rw [updateEntry_eq_put]
  apply KeyedList.filter_put_singleton
  · rw [Bool.and_eq_true, decide_eq_true_eq, decide_eq_true_eq]
    exact ⟨rfl, call.retained_entry⟩
  · -- Distinct names make the pairs distinct.
    have pairs : (cachedEntries file).map CacheEntry.normalizedName =
        ((cachedEntries file).map pairKey).map Prod.fst := by
      rw [List.map_map]
      rfl
    unfold KeyedList.Unique at unique
    rw [pairs] at unique
    exact unique.of_map
  · intro entry member selected
    simp only [Bool.and_eq_true, decide_eq_true_eq] at selected
    obtain ⟨sameName, retained⟩ := selected
    have found : cachedEntry file call.normalizedName = some entry := by
      rw [← sameName]
      exact KeyedList.lookup_of_mem unique member
    have sameServer :=
      (oneServer entry found).resolve_left retained.2
    simp only [pairKey, StoreCall.entry, sameName, sameServer]

end MonomythClient.MulticlassCache
