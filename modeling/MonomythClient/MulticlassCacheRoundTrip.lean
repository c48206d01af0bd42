import MonomythClient.MulticlassCacheStores

namespace MonomythClient.MulticlassCache

open ByteText

/-!
# Round trips through the cache file

Writing well-formed V3 entries and parsing the result returns the same entries
in name order.  Rewriting a parsed file is a round trip only when the file was
already in the newest format: entries read from the two older grammars carry no
server name, and the newest grammar skips every line without one.
-/

/-- An entry as the V3 writer is meant to receive it. -/
structure WellFormedEntry (entry : CacheEntry) : Prop where
  nameNonempty : entry.name ≠ []
  nameOneField : separator ∉ entry.name
  nameOneLine : lineFeed ∉ entry.name ∧ carriageReturn ∉ entry.name
  nameUnterminated : 0 ∉ entry.name
  nameNormalized : entry.normalizedName = normalizeName entry.name
  classKnown : 1 ≤ entry.nativeClassId.toNat
  serverNonempty : entry.serverName ≠ []
  serverOneLine :
    lineFeed ∉ entry.serverName ∧ carriageReturn ∉ entry.serverName
  serverUnterminated : 0 ∉ entry.serverName
  serverNormalized :
    entry.normalizedServerName = normalizeName entry.serverName

namespace WellFormedEntry

theorem lineSafe
    {entry : CacheEntry}
    (wellFormed : WellFormedEntry entry) :
    LineSafe entry where
  nameNormalized := wellFormed.nameNormalized
  nameVisible := by
    rw [wellFormed.nameNormalized, normalizeName, ne_eq,
      foldCase_eq_nil wellFormed.nameUnterminated]
    exact wellFormed.nameNonempty
  nameOneField := wellFormed.nameOneField
  nameOneLine := wellFormed.nameOneLine.1
  serverNormalized := wellFormed.serverNormalized
  serverOneLine := wellFormed.serverOneLine.1

theorem retained
    {entry : CacheEntry}
    (wellFormed : WellFormedEntry entry) :
    Retained entry := by
  constructor
  · intro noClass
    have known := wellFormed.classKnown
    rw [noClass] at known
    exact absurd known (by decide)
  · rw [wellFormed.serverNormalized, normalizeName, ne_eq,
      foldCase_eq_nil wellFormed.serverUnterminated]
    exact wellFormed.serverNonempty

end WellFormedEntry

/-- Retained entries with distinct names come back in sorted order. -/
theorem parseCacheEntries_build_retained
    (sorter : EntrySorter)
    {entries : List CacheEntry}
    (unique : KeyedList.Unique CacheEntry.normalizedName entries)
    (safe : ∀ entry ∈ entries, LineSafe entry)
    (retained : ∀ entry ∈ entries, Retained entry) :
    parseCacheEntries (buildCacheFileContents sorter entries) =
      some (sorter.sort entries) := by
  have allKept :
      ((sorter.sort entries).filter fun entry =>
          decide (Retained entry)) =
        sorter.sort entries := by
    rw [List.filter_eq_self]
    intro entry member
    simpa using retained entry (sorter.mem_sort.mp member)
  have sortedUnique :
      KeyedList.Unique CacheEntry.normalizedName
        ([] ++ sorter.sort entries) :=
    sorter.nodup_map_sort unique
  rw [parseCacheEntries_build sorter safe, allKept,
    KeyedList.putAll_of_unique sortedUnique]
  rfl

/-- A file of entries that are not retained reads as empty. -/
theorem parseCacheEntries_build_unretained
    (sorter : EntrySorter)
    {entries : List CacheEntry}
    (safe : ∀ entry ∈ entries, LineSafe entry)
    (unretained : ∀ entry ∈ entries, ¬ Retained entry) :
    parseCacheEntries (buildCacheFileContents sorter entries) = some [] := by
  have noneKept :
      ((sorter.sort entries).filter fun entry =>
          decide (Retained entry)) = [] := by
    rw [List.filter_eq_nil_iff]
    intro entry member
    simpa using unretained entry (sorter.mem_sort.mp member)
  rw [parseCacheEntries_build sorter safe, noneKept]
  rfl

/-- The V3 codec round trip. -/
theorem cacheFile_roundTrip
    (sorter : EntrySorter)
    (entries : List CacheEntry)
    (distinct : (entries.map CacheEntry.normalizedName).Nodup)
    (wellFormed : ∀ entry ∈ entries, WellFormedEntry entry) :
    ∃ parsed,
      parseCacheEntries (buildCacheFileContents sorter entries) =
          some parsed ∧
        parsed.Perm entries ∧
        parsed.Pairwise fun left right =>
          left.normalizedName < right.normalizedName := by
  refine ⟨sorter.sort entries, ?_, sorter.permutes entries, ?_⟩
  · exact parseCacheEntries_build_retained sorter distinct
      (fun entry member => (wellFormed entry member).lineSafe)
      fun entry member => (wellFormed entry member).retained
  · exact StandardSort.strictlyIncreasing_sort sorter distinct

/-- An entry with the largest mask and a separator in its server name. -/
def exampleZoe : CacheEntry where
  name := ascii "Zoe"
  normalizedName := ascii "zoe"
  classesBitmask := 0xffffffff
  nativeClassId := 255
  serverName := ascii "Alpha|One"
  normalizedServerName := ascii "alpha|one"

/-- An entry with an empty mask and a folded name. -/
def exampleAbe : CacheEntry where
  name := ascii "ABE"
  normalizedName := ascii "abe"
  classesBitmask := 0
  nativeClassId := 1
  serverName := ascii "Beta"
  normalizedServerName := ascii "beta"

/-- The two, written out of order. -/
theorem cacheFile_roundTrip_witness :
    ∃ parsed,
      parseCacheEntries
          (buildCacheFileContents
            (StandardSort.insertion CacheEntry.normalizedName)
            [exampleZoe, exampleAbe]) =
          some parsed ∧
        parsed.Perm [exampleZoe, exampleAbe] ∧
        parsed.Pairwise fun left right =>
          left.normalizedName < right.normalizedName :=
  cacheFile_roundTrip _ _ (by decide) (by
    intro entry member
    simp only [List.mem_cons, List.not_mem_nil, or_false] at member
    rcases member with rfl | rfl
    · constructor <;> decide
    · constructor <;> decide)

/-! ## Rewriting an older file -/

/-- The file is in the newest format, or holds no entry line. -/
def UpgradeSafe (bytes : List UInt8) : Prop :=
  fileVersion bytes = some .v3 ∨
    ∀ version, fileVersion bytes = some version →
      entryLines version bytes = []

/-- A file without entry lines is a file without entries, and conversely. -/
theorem parsed_eq_nil
    {bytes : List UInt8}
    {entries : List CacheEntry}
    (parsed : parseCacheEntries bytes = some entries) :
    entries = [] ↔
      ∀ version, fileVersion bytes = some version →
        entryLines version bytes = [] := by
  rw [parseCacheEntries_eq, Option.map_eq_some_iff] at parsed
  obtain ⟨version, versionRead, rfl⟩ := parsed
  simp only [versionRead, Option.some.injEq, forall_eq']
  constructor
  · intro noEntries
    by_contra someLine
    obtain ⟨first, rest, shape⟩ := List.exists_cons_of_ne_nil someLine
    have nonempty :
        KeyedList.lookup CacheEntry.normalizedName first.normalizedName
            (KeyedList.putAll CacheEntry.normalizedName []
              (entryLines version bytes)) ≠ none := by
      rw [KeyedList.lookup_putAll, shape,
        List.filter_cons_of_pos (by simp)]
      simp [List.getLast?_cons]
    rw [noEntries] at nonempty
    exact nonempty rfl
  · intro noLines
    rw [noLines]
    rfl

/-- Names other than the stored one, and the lookups they answer. -/
def KeepsOthers
    (before after : Option (List UInt8))
    (call : StoreCall) : Prop :=
  ∀ (name : CString) (expectedNativeClassId : UInt32)
      (expectedServerName : Option CString) (classesBitmask : UInt32),
    normalizeName name.bytes ≠ call.normalizedName →
    tryLookupCharacterClassMask .healthy before (some name)
        expectedNativeClassId expectedServerName =
      some classesBitmask →
    tryLookupCharacterClassMask .healthy after (some name)
        expectedNativeClassId expectedServerName =
      some classesBitmask

/-- Keeping the first entry of every other name keeps every lookup. -/
theorem keepsOthers_of_entries
    {before after : Option (List UInt8)}
    {call : StoreCall}
    (kept :
      ∀ wanted, wanted ≠ call.normalizedName →
        ∀ entry, cachedEntry before wanted = some entry →
          cachedEntry after wanted = some entry) :
    KeepsOthers before after call := by
  intro name expectedNativeClassId expectedServerName classesBitmask
    otherName found
  rw [tryLookup_healthy] at found ⊢
  split at found
  · contradiction
  rename_i nonempty
  rw [if_neg nonempty]
  obtain ⟨entry, entryFound, matched⟩ := Option.bind_eq_some_iff.mp found
  rw [kept _ otherName entry entryFound]
  exact matched

/-- A store over a whole read keeps other names when each is retained. -/
theorem keepsOthers_of_retained
    (sorter : EntrySorter)
    (file : Option (List UInt8))
    (call : StoreCall)
    (withinCap :
      (rewrittenFile sorter (cachedEntries file) call).length ≤
        kMaxCacheFileBytes)
    (retained :
      ∀ entry ∈ cachedEntries file,
        entry.normalizedName ≠ call.normalizedName → Retained entry) :
    KeepsOthers file
      (some (rewrittenFile sorter (cachedEntries file) call)) call := by
  apply keepsOthers_of_entries
  intro wanted other entry found
  obtain ⟨member, sameName⟩ := KeyedList.mem_of_lookup found
  have entryRetained : Retained entry :=
    retained entry member (by rw [sameName]; exact other)
  obtain ⟨unique, safe⟩ := cachedEntries_sound file
  rw [cachedEntry_rewritten_other sorter unique safe call withinCap other]
  change (cachedEntry file wanted).filter _ = _
  rw [found]
  simp [Option.filter, entryRetained]

/--
Rewriting a file preserves its entries exactly when the file is upgrade safe;
and then the first store keeps every other name retrievable.
-/
theorem upgrade_preserves_iff
    (sorter : EntrySorter)
    (bytes : List UInt8)
    (entries : List CacheEntry)
    (accepted : parseCacheEntries bytes = some entries) :
    ((∃ rewritten,
        parseCacheEntries (buildCacheFileContents sorter entries) =
            some rewritten ∧
          rewritten.Perm entries) ↔
      UpgradeSafe bytes) ∧
    (UpgradeSafe bytes →
      ∀ (call : StoreCall) (writeConditions : WriteConditions),
        bytes.length ≤ kMaxCacheFileBytes →
        (rewrittenFile sorter entries call).length ≤
          kMaxCacheFileBytes →
        (store sorter .healthy writeConditions call (some bytes)).2 =
          true →
        KeepsOthers (some bytes)
          (store sorter .healthy writeConditions call (some bytes)).1
          call) := by
  obtain ⟨unique, safe, retainedIff⟩ := parseCacheEntries_sound accepted
  have allRetained :
      UpgradeSafe bytes → ∀ entry ∈ entries, Retained entry := by
    rintro (newest | noLines) entry member
    · exact (retainedIff entry member).mpr newest
    · rw [(parsed_eq_nil accepted).mpr noLines] at member
      cases member
  refine ⟨⟨?_, ?_⟩, ?_⟩
  · rintro ⟨rewritten, parsedBack, sameEntries⟩
    by_cases newest : fileVersion bytes = some .v3
    · exact .inl newest
    · -- No entry of an older file survives the rewrite.
      refine .inr ((parsed_eq_nil accepted).mp ?_)
      have unretained : ∀ entry ∈ entries, ¬ Retained entry :=
        fun entry member retained =>
          newest ((retainedIff entry member).mp retained)
      rw [parseCacheEntries_build_unretained sorter safe unretained]
        at parsedBack
      cases parsedBack
      exact List.nil_perm.mp sameEntries
  · intro upgradeSafe
    exact
      ⟨sorter.sort entries,
        parseCacheEntries_build_retained sorter unique safe
          (allRetained upgradeSafe),
        sorter.permutes entries⟩
  · intro upgradeSafe call writeConditions readable withinCap succeeded
    have wholeRead :
        readCacheEntries .healthy (some bytes) = some entries := by
      rw [readCacheEntries_withinCap readable, accepted]
    have cached : cachedEntries (some bytes) = entries := by
      rw [cachedEntries, wholeRead]
      rfl
    rw [(store_succeeded succeeded).1, wholeRead, Option.getD_some]
    rw [← cached] at withinCap ⊢
    exact keepsOthers_of_retained sorter (some bytes) call withinCap
      fun entry member _ =>
        allRetained upgradeSafe entry (cached ▸ member)

/-- A V3 file with one entry is accepted, and its rewrite preserves it. -/
theorem upgrade_preserves_witness :
    ∃ bytes entries,
      parseCacheEntries bytes = some entries ∧
        ((∃ rewritten,
            parseCacheEntries
                (buildCacheFileContents
                  (StandardSort.insertion CacheEntry.normalizedName)
                  entries) =
                some rewritten ∧
              rewritten.Perm entries) ↔
          UpgradeSafe bytes) := by
  refine
    ⟨ascii "MONOMYTH_MULTICLASS_CACHE_V3\nabe|0x01|7|Beta\n",
      [{
        name := ascii "abe"
        normalizedName := ascii "abe"
        classesBitmask := 1
        nativeClassId := 7
        serverName := ascii "Beta"
        normalizedServerName := ascii "beta"
      }], ?_, ?_⟩
  · decide +kernel
  · exact
      (upgrade_preserves_iff _ _ _ (by decide +kernel)).1

/--
A one-entry V1 file: the rewritten file is accepted and holds no entry, so the
old entry is gone.
-/
theorem upgrade_loses_v1_entry :
    ∃ entries,
      parseCacheEntries
          (ascii "MONOMYTH_MULTICLASS_CACHE_V1\nabe|0x1\n") =
          some entries ∧
        ¬ ∃ rewritten,
          parseCacheEntries
              (buildCacheFileContents
                (StandardSort.insertion CacheEntry.normalizedName)
                entries) =
              some rewritten ∧
            rewritten.Perm entries := by
  refine
    ⟨[{
      name := ascii "abe"
      normalizedName := ascii "abe"
      classesBitmask := 1
      nativeClassId := 0
      serverName := []
      normalizedServerName := []
    }], by decide +kernel, ?_⟩
  rintro ⟨rewritten, parsedBack, sameEntries⟩
  have empty : some rewritten = some [] := by
    rw [← parsedBack]
    decide +kernel
  rw [Option.some.inj empty] at sameEntries
  exact absurd sameEntries.length_eq (by decide)

end MonomythClient.MulticlassCache
