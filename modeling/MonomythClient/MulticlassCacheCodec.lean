import MonomythClient.MulticlassCache

namespace MonomythClient.MulticlassCache

open ByteText

/-!
# The cache line codec

The writer emits one grammar and the parser reads three.  This module proves
what the parser makes of any written file: it drops the entries whose class id
is zero or whose server name is missing, keeps every other entry field by
field, and merges rows by normalized name.  Everything later modules say about
lookups after stores, and about upgrading old files, follows from that one
equation.
-/

/--
What every line grammar guarantees of an entry: the normalized fields are
derived from the written ones, and no written field can break the line.
-/
structure LineSafe (entry : CacheEntry) : Prop where
  nameNormalized : entry.normalizedName = normalizeName entry.name
  nameVisible : entry.normalizedName ≠ []
  nameOneField : separator ∉ entry.name
  nameOneLine : lineFeed ∉ entry.name
  serverNormalized :
    entry.normalizedServerName = normalizeName entry.serverName
  serverOneLine : lineFeed ∉ entry.serverName

/-- The entries a written line brings back. -/
def Retained (entry : CacheEntry) : Prop :=
  entry.nativeClassId ≠ 0 ∧ entry.normalizedServerName ≠ []

instance : DecidablePred Retained :=
  fun entry =>
    inferInstanceAs
      (Decidable
        (entry.nativeClassId ≠ 0 ∧ entry.normalizedServerName ≠ []))

namespace LineSafe

/-- A name with visible folded bytes is not empty. -/
theorem name_ne_nil {entry : CacheEntry} (safe : LineSafe entry) :
    entry.name ≠ [] := by
  intro isEmpty
  apply safe.nameVisible
  rw [safe.nameNormalized, isEmpty]
  rfl

end LineSafe

/-! ## Numeric fields -/

/-- The digit loop reads back lower-case digits that fit 32 bits. -/
theorem parseHexDigits_digitBytes
    {result : Nat}
    {symbols : List Nat}
    (hexadecimal : ∀ digit ∈ symbols, digit < 16)
    (fits : Numerals.accumulate 16 result symbols < 2 ^ 32) :
    parseHexDigits result (symbols.map Numerals.digitByte) =
      some (Numerals.accumulate 16 result symbols) := by
  induction symbols generalizing result with
  | nil =>
      rfl
  | cons digit rest inductionHypothesis =>
      have small : digit < 16 := hexadecimal digit (by simp)
      have readDigit :
          parseHexDigit (Numerals.digitByte digit) = some digit := by
        have asNat := Numerals.toNat_digitByte small
        simp only [parseHexDigit, UInt8.le_iff_toNat_le, asNat]
        split <;> simp <;> grind
      have nextValue : result <<< 4 ||| digit = result * 16 + digit := by
        rw [← Nat.shiftLeft_add_eq_or_of_lt small, Nat.shiftLeft_eq]
      have nextFits : result * 16 + digit < 2 ^ 32 :=
        Nat.lt_of_le_of_lt
          (Numerals.le_accumulate (by decide) _ rest) fits
      simp only [List.map_cons, parseHexDigits, readDigit, nextValue]
      rw [if_neg (by omega),
        inductionHypothesis
          (fun later member => hexadecimal later (by simp [member]))
          fits]
      rfl

/-- The eight written digits of a mask. -/
theorem hexText_shape (mask : UInt32) :
    ∃ symbols,
      Numerals.hexText 8 mask.toNat = symbols.map Numerals.digitByte ∧
        symbols.length = 8 ∧
        (∀ digit ∈ symbols, digit < 16) ∧
        Numerals.accumulate 16 0 symbols = mask.toNat := by
  refine
    ⟨Numerals.pad 8 (Numerals.digits 16 mask.toNat), rfl, ?_, ?_, ?_⟩
  · exact Numerals.length_pad
      (Numerals.length_digits_le (by decide) (by decide)
        (by simpa using mask.toNat_lt))
  · exact Numerals.pad_lt (by decide)
      fun digit member => Numerals.digits_lt (by decide) member
  · simp

/-- The mask field reads back as the mask. -/
theorem parseHexU32_hexText (mask : UInt32) :
    parseHexU32 (ascii "0x" ++ Numerals.hexText 8 mask.toNat) =
      some mask := by
  obtain ⟨symbols, shape, eightLong, hexadecimal, value⟩ :=
    hexText_shape mask
  have readBack :
      parseHexDigits 0 (Numerals.hexText 8 mask.toNat) =
        some mask.toNat := by
    rw [shape, parseHexDigits_digitBytes hexadecimal
      (by rw [value]; exact mask.toNat_lt), value]
  obtain ⟨first, rest, cons⟩ :
      ∃ first rest, Numerals.hexText 8 mask.toNat = first :: rest := by
    apply List.exists_cons_of_length_pos
    rw [shape, List.length_map, eightLong]
    decide
  rw [cons] at readBack ⊢
  change (parseHexDigits 0 (first :: rest)).map UInt32.ofNat = some mask
  rw [readBack]
  simp

/-- Written digits are neither separators nor line ends. -/
theorem digitByte_plain
    {digit : Nat}
    (small : digit < 16) :
    Numerals.digitByte digit ≠ separator ∧
      Numerals.digitByte digit ≠ lineFeed := by
  have asNat := Numerals.toNat_digitByte small
  simp only [ne_eq, ← UInt8.toNat_inj, asNat, separator, lineFeed]
  split <;> simp <;> omega

/-- The mask field holds neither separators nor line ends. -/
theorem maskField_plain (mask : UInt32) :
    separator ∉ ascii "0x" ++ Numerals.hexText 8 mask.toNat ∧
      lineFeed ∉ ascii "0x" ++ Numerals.hexText 8 mask.toNat := by
  obtain ⟨symbols, shape, _, hexadecimal, _⟩ := hexText_shape mask
  have plain :
      ∀ byte ∈ ascii "0x" ++ Numerals.hexText 8 mask.toNat,
        byte ≠ separator ∧ byte ≠ lineFeed := by
    intro byte member
    rcases List.mem_append.mp member with inMarker | inDigits
    · have markerBytes : ascii "0x" = [48, 120] := by decide
      rw [markerBytes, List.mem_cons, List.mem_singleton] at inMarker
      rcases inMarker with rfl | rfl
      · decide
      · decide
    · rw [shape] at inDigits
      obtain ⟨digit, digitMember, rfl⟩ := List.mem_map.mp inDigits
      exact digitByte_plain (hexadecimal digit digitMember)
  exact
    ⟨fun member => (plain _ member).1 rfl,
      fun member => (plain _ member).2 rfl⟩

/-- The class id field holds neither separators nor line ends. -/
theorem nativeField_plain (number : Nat) :
    separator ∉ Numerals.decimalText number ∧
      lineFeed ∉ Numerals.decimalText number := by
  have plain :
      ∀ byte ∈ Numerals.decimalText number,
        byte ≠ separator ∧ byte ≠ lineFeed := by
    intro byte member
    obtain ⟨digit, digitMember, rfl⟩ := List.mem_map.mp member
    have small : digit < 10 := Numerals.digits_lt (by decide) digitMember
    exact digitByte_plain (by omega)
  exact
    ⟨fun member => (plain _ member).1 rfl,
      fun member => (plain _ member).2 rfl⟩

/-! ## One line -/

/-- Three separators in a line, and the four fields around them. -/
structure FourFields
    (line name mask classField server : List UInt8)
    (separatorA separatorB separatorC : Nat) : Prop where
  foundA : find line separator 0 = some separatorA
  foundB : find line separator (separatorA + 1) = some separatorB
  foundC : find line separator (separatorB + 1) = some separatorC
  nameSlice : substr line 0 separatorA = name
  maskSlice :
    substr line (separatorA + 1) (separatorB - separatorA - 1) = mask
  classSlice :
    substr line (separatorB + 1) (separatorC - separatorB - 1) = classField
  serverSlice : line.drop (separatorC + 1) = server
  nameSize : separatorA = name.length
  maskRoom : separatorA + 1 < line.length
  classRoom : separatorB + 1 < line.length
  serverRoom : line.length = separatorC + 1 + server.length

/-- Four fields without separators, but for the last, are found again. -/
theorem fourFields
    {name mask classField : List UInt8}
    (server : List UInt8)
    (nameOneField : separator ∉ name)
    (maskOneField : separator ∉ mask)
    (classOneField : separator ∉ classField) :
    FourFields
      (name ++ separator :: (mask ++ separator ::
        (classField ++ separator :: server)))
      name mask classField server
      name.length
      (name.length + 1 + mask.length)
      (name.length + 1 + mask.length + 1 + classField.length) := by
  generalize lineShape :
    name ++ separator :: (mask ++ separator ::
      (classField ++ separator :: server)) = line
  have lineLength :
      line.length =
        name.length + 1 + mask.length + 1 + classField.length + 1 +
          server.length := by
    rw [← lineShape]
    simp only [List.length_append, List.length_cons]
    omega
  -- The line again, with everything in front of each field set apart.
  have fromMask :
      line =
        (name ++ [separator]) ++
          (mask ++ separator :: (classField ++ separator :: server)) := by
    simp [← lineShape]
  have fromClass :
      line =
        (name ++ separator :: (mask ++ [separator])) ++
          (classField ++ separator :: server) := by
    simp [← lineShape]
  have fromServer :
      line =
        (name ++ separator :: (mask ++ separator ::
          (classField ++ [separator]))) ++ server := by
    simp [← lineShape]
  constructor
  case foundA =>
    simpa using find_field [] _ lineShape.symm rfl nameOneField
  case foundB =>
    exact find_field _ _ fromMask (by simp) maskOneField
  case foundC =>
    exact find_field _ _ fromClass (by simp; omega) classOneField
  case nameSlice =>
    exact substr_field [] _ lineShape.symm rfl rfl
  case maskSlice =>
    exact substr_field _ _ fromMask (by simp) (by omega)
  case classSlice =>
    exact substr_field _ _ fromClass (by simp; omega) (by omega)
  case serverSlice =>
    rw [fromServer]
    exact List.drop_left' (by simp; omega)
  case nameSize =>
    rfl
  all_goals omega

/-- What the V3 grammar makes of a line with four fields. -/
theorem parseLine_v3_fields
    {name mask classField : List UInt8}
    (server : List UInt8)
    (nameOneField : separator ∉ name)
    (maskOneField : separator ∉ mask)
    (classOneField : separator ∉ classField) :
    parseLine .v3
        (name ++ separator :: (mask ++ separator ::
          (classField ++ separator :: server))) =
      if normalizeName name = [] then none
      else
        (parseHexU32 mask).bind fun classesBitmask =>
          if Numerals.atoi classField ≤ 0 ∨ 255 < Numerals.atoi classField then
            none
          else if normalizeName server = [] then
            none
          else
            some {
              name := name
              normalizedName := normalizeName name
              classesBitmask := classesBitmask
              nativeClassId := UInt8.ofNat (Numerals.atoi classField).toNat
              serverName := server
              normalizedServerName := normalizeName server
            } := by
  have fields := fourFields server nameOneField maskOneField classOneField
  generalize name.length + 1 + mask.length + 1 + classField.length =
    separatorC at fields
  generalize name.length + 1 + mask.length = separatorB at fields
  generalize name.length = separatorA at fields
  generalize name ++ separator :: (mask ++ separator ::
    (classField ++ separator :: server)) = line at fields ⊢
  by_cases nameEmpty : normalizeName name = []
  · simp [parseLine, fields.foundA, fields.nameSlice, nameEmpty]
  · have nameNe : separatorA ≠ 0 := by
      intro noName
      rw [fields.nameSize, List.length_eq_zero_iff] at noName
      rw [noName] at nameEmpty
      exact nameEmpty rfl
    have roomA : ¬ (separatorA = 0 ∨ line.length ≤ separatorA + 1) :=
      not_or.mpr ⟨nameNe, Nat.not_le.mpr fields.maskRoom⟩
    have roomB : ¬ line.length ≤ separatorB + 1 :=
      Nat.not_le.mpr fields.classRoom
    simp only [parseLine, fieldAfter, fields.foundA, fields.foundB,
      fields.foundC, fields.nameSlice, fields.maskSlice, fields.classSlice,
      fields.serverSlice, if_neg roomA, if_neg roomB, if_neg nameEmpty,
      reduceCtorEq, ↓reduceIte, Option.bind_some]
    cases maskRead : parseHexU32 mask with
    | none =>
        rfl
    | some classesBitmask =>
        simp only [Option.bind_some]
        split
        · rfl
        · by_cases serverEmpty : normalizeName server = []
          · simp [serverEmpty]
          · have serverNe : 0 < server.length := by
              apply List.length_pos_of_ne_nil
              rintro rfl
              exact serverEmpty rfl
            have roomC : ¬ line.length ≤ separatorC + 1 := by
              rw [fields.serverRoom]
              omega
            rw [if_neg roomC]

/-- A written line brings back exactly the retained entries. -/
theorem parseEntryLine_formatLine
    {entry : CacheEntry}
    (safe : LineSafe entry) :
    parseEntryLine .v3 (formatLine entry ++ [carriageReturn]) =
      if Retained entry then some entry else none := by
  have idSmall := entry.nativeClassId.toNat_lt
  have idRead :
      Numerals.atoi (Numerals.decimalText entry.nativeClassId.toNat) =
        entry.nativeClassId.toNat :=
    Numerals.atoi_decimalText (by omega)
  have outOfRange :
      ((entry.nativeClassId.toNat : Int) ≤ 0 ∨
          255 < (entry.nativeClassId.toNat : Int)) ↔
        entry.nativeClassId = 0 := by
    rw [← UInt8.toNat_inj]
    simp only [UInt8.toNat_zero]
    omega
  rw [parseEntryLine, stripTrailing_append, formatLine,
    parseLine_v3_fields entry.serverName safe.nameOneField
      (maskField_plain entry.classesBitmask).1
      (nativeField_plain entry.nativeClassId.toNat).1,
    ← safe.nameNormalized, ← safe.serverNormalized,
    if_neg safe.nameVisible, parseHexU32_hexText, idRead]
  simp only [Option.bind_some, outOfRange]
  by_cases noClass : entry.nativeClassId = 0
  · simp [noClass, Retained]
  · by_cases noServer : entry.normalizedServerName = []
    · simp [noClass, noServer, Retained]
    · simp [noClass, noServer, Retained]

/-- The properties of a parsed entry, by the grammar that accepted it. -/
theorem parseLine_sound
    {version : Version}
    {line : List UInt8}
    {entry : CacheEntry}
    (oneLine : lineFeed ∉ line)
    (parsed : parseLine version line = some entry) :
    LineSafe entry ∧ (Retained entry ↔ version = .v3) := by
  unfold parseLine at parsed
  split at parsed
  · contradiction
  rename_i separatorA foundA
  have nameOneField : separator ∉ substr line 0 separatorA := by
    simpa using notMem_substr_of_find foundA
  have nameOneLine : lineFeed ∉ substr line 0 separatorA :=
    fun member => oneLine (mem_of_mem_substr member)
  split at parsed
  · contradiction
  extract_lets separatorB separatorC name normalizedName maskField
    at parsed
  clear_value separatorB separatorC maskField
  split at parsed
  · contradiction
  rename_i nameVisible
  split at parsed
  · contradiction
  split at parsed
  · rename_i isV1
    cases parsed
    exact
      ⟨⟨rfl, nameVisible, nameOneField, nameOneLine, rfl, by simp⟩,
        by simp [Retained, isV1]⟩
  rename_i notV1
  split at parsed
  · contradiction
  rename_i offsetB
  split at parsed
  · contradiction
  extract_lets nativeClassField parsedNativeClassId nativeClassId
    at parsed
  split at parsed
  · contradiction
  rename_i idInRange
  split at parsed
  · rename_i isV2
    cases parsed
    exact
      ⟨⟨rfl, nameVisible, nameOneField, nameOneLine, rfl, by simp⟩,
        by simp [Retained, isV2]⟩
  rename_i notV2
  split at parsed
  · contradiction
  rename_i offsetC
  split at parsed
  · contradiction
  extract_lets serverName normalizedServerName at parsed
  split at parsed
  · contradiction
  rename_i serverVisible
  cases parsed
  have serverOneLine : lineFeed ∉ line.drop (offsetC + 1) :=
    fun member => oneLine (List.mem_of_mem_drop member)
  have isV3 : version = .v3 := by
    cases version with
    | v1 => exact (notV1 rfl).elim
    | v2 => exact (notV2 rfl).elim
    | v3 => rfl
  have classKnown : nativeClassId ≠ 0 := by
    simp only [nativeClassId, ne_eq, ← UInt8.toNat_inj,
      UInt8.toNat_ofNat', UInt8.toNat_zero]
    omega
  exact
    ⟨⟨rfl, nameVisible, nameOneField, nameOneLine, rfl,
      serverOneLine⟩,
      iff_of_true ⟨classKnown, serverVisible⟩ isV3⟩

/-! ## Whole files -/

/-- The merge loop is the keyed update of `KeyedList`. -/
theorem mergeEntry_eq_put
    (entries : List CacheEntry)
    (parsed : CacheEntry) :
    mergeEntry entries parsed =
      KeyedList.put CacheEntry.normalizedName parsed entries := by
  refine KeyedList.upsert_congr parsed ?_
  intro entry _ selected
  have sameName : entry.normalizedName = parsed.normalizedName := by
    simpa using selected
  rw [sameName]

/-- The merge of many rows is the keyed update of all of them. -/
theorem foldl_mergeEntry
    (entries parsed : List CacheEntry) :
    parsed.foldl mergeEntry entries =
      KeyedList.putAll CacheEntry.normalizedName entries parsed := by
  have sameStep :
      mergeEntry =
        fun stored fresh =>
          KeyedList.put CacheEntry.normalizedName fresh stored := by
    funext stored fresh
    exact mergeEntry_eq_put stored fresh
  rw [sameStep]
  rfl

/-- The lines the writer emits, in order, each with its carriage return. -/
def writtenLines
    (sorter : EntrySorter)
    (entries : List CacheEntry) :
    List (List UInt8) :=
  (kCacheHeaderV3 ++ [carriageReturn]) ::
    ((sorter.sort entries).filter fun entry =>
      !(entry.name.isEmpty || entry.normalizedName.isEmpty)).map
        fun entry => formatLine entry ++ [carriageReturn]

/-- The file is the concatenation of its terminated lines. -/
theorem buildCacheFileContents_lines
    (sorter : EntrySorter)
    (entries : List CacheEntry) :
    buildCacheFileContents sorter entries =
      (writtenLines sorter entries).flatMap
        fun line => line ++ [lineFeed] := by
  have lineEnd : ascii "\r\n" = [carriageReturn] ++ [lineFeed] := by
    decide
  rw [buildCacheFileContents, lineEnd, writtenLines, List.flatMap_cons,
    List.flatMap_map]
  simp only [List.append_assoc]

/-- A written entry occupies one line. -/
theorem lineFeed_notMem_formatLine
    {entry : CacheEntry}
    (safe : LineSafe entry) :
    lineFeed ∉ formatLine entry ++ [carriageReturn] := by
  have separatorNe : lineFeed ≠ separator := by decide
  have returnNe : lineFeed ≠ carriageReturn := by decide
  have maskPlain := (maskField_plain entry.classesBitmask).2
  have nativePlain := (nativeField_plain entry.nativeClassId.toNat).2
  simp only [formatLine, List.mem_append, List.mem_cons,
    List.not_mem_nil, not_or] at maskPlain ⊢
  exact
    ⟨⟨safe.nameOneLine, separatorNe, maskPlain, separatorNe,
      nativePlain, separatorNe, safe.serverOneLine⟩, returnNe, id⟩

/-- Parsing a written file merges the retained entries in sorted order. -/
theorem parseCacheEntries_build
    (sorter : EntrySorter)
    {entries : List CacheEntry}
    (safe : ∀ entry ∈ entries, LineSafe entry) :
    parseCacheEntries (buildCacheFileContents sorter entries) =
      some
        (KeyedList.putAll CacheEntry.normalizedName []
          ((sorter.sort entries).filter fun entry => Retained entry)) := by
  have sortedSafe : ∀ entry ∈ sorter.sort entries, LineSafe entry :=
    fun entry member => safe entry (sorter.mem_sort.mp member)
  have noneHidden :
      ((sorter.sort entries).filter fun entry =>
          !(entry.name.isEmpty || entry.normalizedName.isEmpty)) =
        sorter.sort entries := by
    rw [List.filter_eq_self]
    intro entry member
    have entrySafe := sortedSafe entry member
    simp [entrySafe.name_ne_nil, entrySafe.nameVisible]
  have unterminated :
      ∀ line ∈ writtenLines sorter entries, lineFeed ∉ line := by
    intro line member
    rw [writtenLines, noneHidden] at member
    rcases List.mem_cons.mp member with isHeader | inEntries
    · rw [isHeader]
      decide
    · obtain ⟨entry, entryMember, rfl⟩ := List.mem_map.mp inEntries
      exact lineFeed_notMem_formatLine (sortedSafe entry entryMember)
  have headerRead :
      headerVersion
          (stripTrailing carriageReturn
            (kCacheHeaderV3 ++ [carriageReturn])) =
        some .v3 := by
    decide
  have linesRead :
      ((sorter.sort entries).map fun entry =>
          formatLine entry ++ [carriageReturn]).filterMap
            (parseEntryLine .v3) =
        (sorter.sort entries).filter fun entry => Retained entry := by
    rw [List.filterMap_map, ← List.filterMap_eq_filter]
    apply List.filterMap_congr
    intro entry member
    simp only [Function.comp_apply, Option.guard, decide_eq_true_eq,
      parseEntryLine_formatLine (sortedSafe entry member)]
  rw [parseCacheEntries, buildCacheFileContents_lines,
    splitLines_flatMap unterminated, writtenLines, noneHidden]
  simp only [headerRead, linesRead, foldl_mergeEntry]

/-- The version a file's header line announces. -/
def fileVersion (bytes : List UInt8) : Option Version :=
  match splitLines lineFeed bytes with
  | [] => none
  | header :: _ => headerVersion (stripTrailing carriageReturn header)

/-- The entry lines after the header that a version's grammar accepts. -/
def entryLines (version : Version) (bytes : List UInt8) :
    List CacheEntry :=
  ((splitLines lineFeed bytes).drop 1).filterMap (parseEntryLine version)

/-- A file is accepted exactly when its header names a version. -/
theorem parseCacheEntries_eq
    (bytes : List UInt8) :
    parseCacheEntries bytes =
      (fileVersion bytes).map fun version =>
        KeyedList.putAll CacheEntry.normalizedName []
          (entryLines version bytes) := by
  unfold parseCacheEntries fileVersion entryLines
  cases splitLines lineFeed bytes with
  | nil =>
      rfl
  | cons header lines =>
      dsimp only
      cases headerVersion (stripTrailing carriageReturn header) with
      | none =>
          rfl
      | some version =>
          simp [foldl_mergeEntry]

/-- What holds of every list of entries the parser returns. -/
theorem parseCacheEntries_sound
    {bytes : List UInt8}
    {entries : List CacheEntry}
    (parsed : parseCacheEntries bytes = some entries) :
    KeyedList.Unique CacheEntry.normalizedName entries ∧
      (∀ entry ∈ entries, LineSafe entry) ∧
      ∀ entry ∈ entries,
        (Retained entry ↔ fileVersion bytes = some .v3) := by
  rw [parseCacheEntries_eq, Option.map_eq_some_iff] at parsed
  obtain ⟨version, versionRead, rfl⟩ := parsed
  have fromLine :
      ∀ entry ∈ KeyedList.putAll CacheEntry.normalizedName []
          (entryLines version bytes),
        LineSafe entry ∧ (Retained entry ↔ version = .v3) := by
    intro entry member
    have inLines :=
      (KeyedList.mem_putAll member).resolve_left (by simp)
    obtain ⟨line, lineMember, lineParsed⟩ :=
      List.mem_filterMap.mp inLines
    have oneLine :
        lineFeed ∉ stripTrailing carriageReturn line :=
      fun inLine =>
        notMem_of_mem_splitLines (List.mem_of_mem_drop lineMember)
          (mem_of_mem_stripTrailing inLine)
    exact parseLine_sound oneLine lineParsed
  refine
    ⟨KeyedList.unique_putAll KeyedList.unique_nil _,
      fun entry member => (fromLine entry member).1, ?_⟩
  intro entry member
  rw [versionRead, Option.some.injEq]
  exact (fromLine entry member).2

end MonomythClient.MulticlassCache
