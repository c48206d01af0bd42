import MonomythClient.ByteText
import MonomythClient.KeyedList
import MonomythClient.Numerals
import MonomythClient.StandardSort

namespace MonomythClient.MulticlassCache

open ByteText

/-!
# The on-disk multiclass cache

This module embeds `multiclass_cache.cpp`: the three line grammars of the cache
file, the writer that emits only the newest of them, and the lookup and store
entry points.  Strings are byte lists.  The file system appears as the file's
content, absent or present, together with the outcome of every system call on
the way; the result of `std::sort` appears as an arbitrary `Sorter`, because
the writer's comparison leaves entries of one name unordered.

`TryGetCurrentServerName` and the path builders only produce inputs of the
functions below, so they are represented by those inputs.
-/

/-- The `'|'` between fields. -/
def separator : UInt8 := 124

/-- The `'\n'` that ends a line. -/
def lineFeed : UInt8 := 10

/-- The `'\r'` that may stand before it. -/
def carriageReturn : UInt8 := 13

def kCacheHeaderV1 : List UInt8 := ascii "MONOMYTH_MULTICLASS_CACHE_V1"

def kCacheHeaderV2 : List UInt8 := ascii "MONOMYTH_MULTICLASS_CACHE_V2"

def kCacheHeaderV3 : List UInt8 := ascii "MONOMYTH_MULTICLASS_CACHE_V3"

def kInvalidFileSize : Nat := 0xffffffff

def kMaxCacheFileBytes : Nat := 64 * 1024

/-- One cached character. -/
structure CacheEntry where
  name : List UInt8
  normalizedName : List UInt8
  classesBitmask : UInt32
  nativeClassId : UInt8
  serverName : List UInt8
  normalizedServerName : List UInt8
  deriving Repr, DecidableEq

/-- `NormalizeName`: the case-folded bytes before the first NUL. -/
def normalizeName (value : List UInt8) : List UInt8 :=
  foldCase value

/-! ## Reading -/

/-- The value of one hexadecimal digit in either case. -/
def parseHexDigit (ch : UInt8) : Option Nat :=
  if 48 ≤ ch ∧ ch ≤ 57 then
    some (ch.toNat - 48)
  else if 97 ≤ ch ∧ ch ≤ 102 then
    some (10 + (ch.toNat - 97))
  else if 65 ≤ ch ∧ ch ≤ 70 then
    some (10 + (ch.toNat - 65))
  else
    none

/-- The digit loop of `ParseHexU32`, which stops once the value overflows. -/
def parseHexDigits (result : Nat) : List UInt8 → Option Nat
  | [] => some result
  | ch :: rest =>
      match parseHexDigit ch with
      | none => none
      | some digit =>
          let next := (result <<< 4) ||| digit
          if 0xffffffff < next then none else parseHexDigits next rest

/-- `ParseHexU32`: at least one digit after `0x` or `0X`. -/
def parseHexU32 (value : List UInt8) : Option UInt32 :=
  match value with
  | 48 :: marker :: digit :: rest =>
      if marker = 120 ∨ marker = 88 then
        (parseHexDigits 0 (digit :: rest)).map UInt32.ofNat
      else
        none
  | _ => none

/-- The three file versions. -/
inductive Version where
  | v1
  | v2
  | v3
  deriving Repr, DecidableEq

/-- The version a header line announces. -/
def headerVersion (header : List UInt8) : Option Version :=
  if header = kCacheHeaderV1 then some .v1
  else if header = kCacheHeaderV2 then some .v2
  else if header = kCacheHeaderV3 then some .v3
  else none

/-- The field after one separator, up to the next one if there is one. -/
def fieldAfter
    (line : List UInt8)
    (previous : Nat)
    (next : Option Nat) :
    List UInt8 :=
  match next with
  | some offset => substr line (previous + 1) (offset - previous - 1)
  | none => line.drop (previous + 1)

/--
The body of the line loop in `ParseCacheEntries`: `none` where the source
skips the line.  An empty line has no separator.
-/
def parseLine (version : Version) (line : List UInt8) :
    Option CacheEntry :=
  match find line separator 0 with
  | none => none
  | some separatorA =>
      if separatorA = 0 ∨ line.length ≤ separatorA + 1 then
        none
      else
        let separatorB :=
          if version = .v1 then none
          else find line separator (separatorA + 1)
        let separatorC :=
          if version = .v3 then
            separatorB.bind fun offset => find line separator (offset + 1)
          else none
        let name := substr line 0 separatorA
        let normalizedName := normalizeName name
        let maskField := fieldAfter line separatorA separatorB
        if normalizedName = [] then
          none
        else
          match parseHexU32 maskField with
          | none => none
          | some classesBitmask =>
              if version = .v1 then
                some {
                  name := name
                  normalizedName := normalizedName
                  classesBitmask := classesBitmask
                  nativeClassId := 0
                  serverName := []
                  normalizedServerName := []
                }
              else
                match separatorB with
                | none => none
                | some offsetB =>
                    if line.length ≤ offsetB + 1 then
                      none
                    else
                      let nativeClassField :=
                        fieldAfter line offsetB separatorC
                      let parsedNativeClassId :=
                        Numerals.atoi nativeClassField
                      if parsedNativeClassId ≤ 0 ∨
                          255 < parsedNativeClassId then
                        none
                      else
                        let nativeClassId :=
                          UInt8.ofNat parsedNativeClassId.toNat
                        if version = .v2 then
                          some {
                            name := name
                            normalizedName := normalizedName
                            classesBitmask := classesBitmask
                            nativeClassId := nativeClassId
                            serverName := []
                            normalizedServerName := []
                          }
                        else
                          match separatorC with
                          | none => none
                          | some offsetC =>
                              if line.length ≤ offsetC + 1 then
                                none
                              else
                                let serverName := line.drop (offsetC + 1)
                                let normalizedServerName :=
                                  normalizeName serverName
                                if normalizedServerName = [] then
                                  none
                                else
                                  some {
                                    name := name
                                    normalizedName := normalizedName
                                    classesBitmask := classesBitmask
                                    nativeClassId := nativeClassId
                                    serverName := serverName
                                    normalizedServerName :=
                                      normalizedServerName
                                  }

/-- The merge loop of `ParseCacheEntries`: one row per normalized name. -/
def mergeEntry (entries : List CacheEntry) (parsed : CacheEntry) :
    List CacheEntry :=
  KeyedList.upsert
    (fun entry => entry.normalizedName = parsed.normalizedName)
    (fun entry => {
      entry with
      name := parsed.name
      classesBitmask := parsed.classesBitmask
      nativeClassId := parsed.nativeClassId
      serverName := parsed.serverName
      normalizedServerName := parsed.normalizedServerName
    })
    parsed
    entries

/-- One line of the file, with its optional carriage return removed. -/
def parseEntryLine (version : Version) (line : List UInt8) :
    Option CacheEntry :=
  parseLine version (stripTrailing carriageReturn line)

/-- `ParseCacheEntries`: `none` where the source returns false. -/
def parseCacheEntries (bytes : List UInt8) : Option (List CacheEntry) :=
  match splitLines lineFeed bytes with
  | [] => none
  | header :: lines =>
      match headerVersion (stripTrailing carriageReturn header) with
      | none => none
      | some version =>
          some
            ((lines.filterMap (parseEntryLine version)).foldl mergeEntry [])

/-- The outcome of every system call `ReadCacheEntries` makes. -/
structure ReadConditions where
  pathBuilt : Bool
  fileOpened : Bool
  sizeRead : Bool
  readSucceeded : Bool
  readComplete : Bool
  deriving Repr, DecidableEq

/-- No call on the read path fails. -/
def ReadConditions.healthy : ReadConditions where
  pathBuilt := true
  fileOpened := true
  sizeRead := true
  readSucceeded := true
  readComplete := true

/--
`ReadCacheEntries`.  `GetFileSize` reports the low 32 bits of the size, so
that many leading bytes are read.
-/
def readCacheEntries
    (conditions : ReadConditions)
    (file : Option (List UInt8)) :
    Option (List CacheEntry) :=
  match file with
  | none => none
  | some contents =>
      let fileSize := contents.length % 2 ^ 32
      if conditions.pathBuilt = false ∨ conditions.fileOpened = false then
        none
      else if conditions.sizeRead = false ∨ fileSize = kInvalidFileSize ∨
          kMaxCacheFileBytes < fileSize then
        none
      else
        let buffer := contents.take fileSize
        if buffer ≠ [] ∧
            (conditions.readSucceeded = false ∨
              conditions.readComplete = false) then
          none
        else
          parseCacheEntries buffer

/-! ## Writing -/

/-- The comparison `BuildCacheFileContents` hands to `std::sort`. -/
def entryBefore : CacheEntry → CacheEntry → Bool :=
  StandardSort.byKey CacheEntry.normalizedName

/-- Any conforming implementation of that sort. -/
abbrev EntrySorter := StandardSort.Sorter entryBefore

/-- One V3 line, without its line end. -/
def formatLine (entry : CacheEntry) : List UInt8 :=
  entry.name ++ separator ::
    (ascii "0x" ++ Numerals.hexText 8 entry.classesBitmask.toNat ++
      separator ::
        (Numerals.decimalText entry.nativeClassId.toNat ++
          separator :: entry.serverName))

/-- `BuildCacheFileContents`. -/
def buildCacheFileContents
    (sorter : EntrySorter)
    (entries : List CacheEntry) :
    List UInt8 :=
  kCacheHeaderV3 ++ ascii "\r\n" ++
    ((sorter.sort entries).filter fun entry =>
        !(entry.name.isEmpty || entry.normalizedName.isEmpty)).flatMap
      fun entry => formatLine entry ++ ascii "\r\n"

/-- The outcome of every system call `WriteCacheEntries` makes. -/
structure WriteConditions where
  directoryEnsured : Bool
  pathBuilt : Bool
  temporaryOpened : Bool
  writeSucceeded : Bool
  writeComplete : Bool
  replaced : Bool
  deriving Repr, DecidableEq

/-- No call on the write path fails. -/
def WriteConditions.healthy : WriteConditions where
  directoryEnsured := true
  pathBuilt := true
  temporaryOpened := true
  writeSucceeded := true
  writeComplete := true
  replaced := true

/--
`WriteCacheEntries`: the new file content where the source returns true.  The
temporary file replaces the cache in one step, so a failure leaves the cache
as it was.  The client is a 32-bit process, whose strings are shorter than
`2 ^ 32` bytes.
-/
def writeCacheEntries
    (sorter : EntrySorter)
    (conditions : WriteConditions)
    (entries : List CacheEntry) :
    Option (List UInt8) :=
  let contents := buildCacheFileContents sorter entries
  if conditions.directoryEnsured = true ∧ conditions.pathBuilt = true ∧
      conditions.temporaryOpened = true ∧
      conditions.writeSucceeded = true ∧
      conditions.writeComplete = true ∧ conditions.replaced = true ∧
      contents.length < 2 ^ 32 then
    some contents
  else
    none

/-! ## Entry points -/

/-- The normalized form of an optional server name; null normalizes to "". -/
def normalizeServerName : Option CString → List UInt8
  | none => []
  | some serverName => normalizeName serverName.bytes

/-- The checks the lookup makes on the first entry with the wanted name. -/
def matchEntry
    (expectedNativeClassId : UInt32)
    (normalizedServerName : List UInt8)
    (entry : CacheEntry) :
    Option UInt32 :=
  if normalizedServerName ≠ [] ∧
      (entry.normalizedServerName = [] ∨
        entry.normalizedServerName ≠ normalizedServerName) then
    none
  else if expectedNativeClassId ≠ 0 ∧ entry.nativeClassId ≠ 0 ∧
      entry.nativeClassId.toUInt32 ≠ expectedNativeClassId then
    none
  else
    some entry.classesBitmask

/-- `TryLookupCharacterClassMask`: `none` where the source returns false. -/
def tryLookupCharacterClassMask
    (conditions : ReadConditions)
    (file : Option (List UInt8))
    (characterName : Option CString)
    (expectedNativeClassId : UInt32)
    (expectedServerName : Option CString) :
    Option UInt32 :=
  match characterName with
  | none => none
  | some characterName =>
      let normalizedName := normalizeName characterName.bytes
      if characterName.bytes = [] ∨ normalizedName = [] then
        none
      else
        match readCacheEntries conditions file with
        | none => none
        | some entries =>
            (KeyedList.lookup CacheEntry.normalizedName normalizedName
                entries).bind
              (matchEntry expectedNativeClassId
                (normalizeServerName expectedServerName))

/-- The update loop of `StoreCharacterClassMask`. -/
def updateEntry (entries : List CacheEntry) (stored : CacheEntry) :
    List CacheEntry :=
  KeyedList.upsert
    (fun entry =>
      entry.normalizedName = stored.normalizedName ∧
        entry.normalizedServerName = stored.normalizedServerName)
    (fun entry => {
      entry with
      name := stored.name
      classesBitmask := stored.classesBitmask
      nativeClassId := stored.nativeClassId
      serverName := stored.serverName
      normalizedServerName := stored.normalizedServerName
    })
    stored
    entries

/--
`StoreCharacterClassMask`: the file afterwards, and whether the source returns
true.  A failed read is not an error here: it leaves the entry list empty.
-/
def storeCharacterClassMask
    (sorter : EntrySorter)
    (readConditions : ReadConditions)
    (writeConditions : WriteConditions)
    (characterName : Option CString)
    (classesBitmask : UInt32)
    (nativeClassId : UInt32)
    (serverName : Option CString)
    (file : Option (List UInt8)) :
    Option (List UInt8) × Bool :=
  match characterName, serverName with
  | some characterName, some serverName =>
      let normalizedName := normalizeName characterName.bytes
      let normalizedServerName := normalizeName serverName.bytes
      if characterName.bytes = [] ∨ serverName.bytes = [] ∨
          normalizedName = [] ∨ normalizedServerName = [] then
        (file, false)
      else
        let entries := (readCacheEntries readConditions file).getD []
        let stored : CacheEntry := {
          name := characterName.bytes
          normalizedName := normalizedName
          classesBitmask := classesBitmask
          nativeClassId := nativeClassId.toUInt8
          serverName := serverName.bytes
          normalizedServerName := normalizedServerName
        }
        match writeCacheEntries sorter writeConditions
            (updateEntry entries stored) with
        | none => (file, false)
        | some contents => (some contents, true)
  | _, _ => (file, false)

end MonomythClient.MulticlassCache
