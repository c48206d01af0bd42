import MonomythClient.ByteText
import MonomythClient.KeyedList
import MonomythClient.MulticlassIdentity
import MonomythClient.PayloadReader

namespace MonomythClient.RemoteMulticlassIdentity

open ByteText MulticlassIdentity PayloadReader

/-!
# Remote multiclass identities

The server announces the class masks of other characters.  A payload lists
names with a class id and a mask; the entries that make sense are stored under
the current server's name, one for each case-folded server and character.
-/

def kRemoteMulticlassIdentityOpcode : UInt32 := 0xD7F1
def kRemoteIdentityHeaderBytes : UInt32 := 4
def kRemoteIdentityMinimumEntryBytes : UInt32 := 9

/-- `IsAcceptableRemoteIdentityEntry`. -/
def isAcceptableRemoteIdentityEntry
    (characterName : List UInt8)
    (nativeClassId classesBitmask : UInt32) :
    Bool :=
  if characterName.isEmpty || !isPlayableClassId nativeClassId ||
      classesBitmask == 0 || !isPlayableClassMask classesBitmask ||
      !hasClass classesBitmask nativeClassId then
    false
  else
    true

/-! ## Payloads -/

/-- One record of a payload. -/
structure ParsedEntry where
  characterName : List UInt8
  nativeClassId : UInt32
  classesBitmask : UInt32
  deriving Repr, DecidableEq

/-- `ParseResult`. -/
structure ParseResult where
  valid : Bool
  declaredEntryCount : UInt32
  parsedEntryCount : UInt32
  acceptedEntryCount : UInt32
  rejectedEntryCount : UInt32
  entries : List ParsedEntry
  deriving Repr, DecidableEq

/-- The default member values. -/
def ParseResult.initial : ParseResult where
  valid := false
  declaredEntryCount := 0
  parsedEntryCount := 0
  acceptedEntryCount := 0
  rejectedEntryCount := 0
  entries := []

/-- What a record that cannot be read leaves of the result. -/
def ParseResult.malformed (result : ParseResult) : ParseResult :=
  { result with
    valid := false
    entries := []
    acceptedEntryCount := 0
    rejectedEntryCount := 0 }

/-- `MaxPossibleEntriesForPayloadLength`. -/
def maxPossibleEntriesForPayloadLength (payloadLength : UInt32) : UInt32 :=
  if payloadLength ≤ kRemoteIdentityHeaderBytes then
    0
  else
    (payloadLength - kRemoteIdentityHeaderBytes) /
      kRemoteIdentityMinimumEntryBytes

/-- The record loop: how many records remain, and where the next begins. -/
def parseEntries
    (payload : Pointer)
    (payloadLength : UInt32) :
    Nat → UInt32 → ParseResult → ParseResult
  | 0, _, result => { result with valid := true }
  | remaining + 1, cursor, result =>
      match tryReadCString payload payloadLength cursor with
      | none => result.malformed
      | some (characterName, cursor) =>
          match tryReadU32 payload payloadLength cursor,
              tryReadU32 payload payloadLength (cursor + 4) with
          | some nativeClassId, some classesBitmask =>
              let result :=
                { result with
                  parsedEntryCount := result.parsedEntryCount + 1 }
              if isAcceptableRemoteIdentityEntry characterName
                  nativeClassId classesBitmask then
                parseEntries payload payloadLength remaining (cursor + 8)
                  { result with
                    entries :=
                      result.entries ++
                        [⟨characterName, nativeClassId, classesBitmask⟩]
                    acceptedEntryCount := result.acceptedEntryCount + 1 }
              else
                parseEntries payload payloadLength remaining (cursor + 8)
                  { result with
                    rejectedEntryCount := result.rejectedEntryCount + 1 }
          | _, _ => result.malformed

/-- `ParsePayload`. -/
def parsePayload (payload : Pointer) (payloadLength : UInt32) : ParseResult :=
  if payload = none ∨ payloadLength < kRemoteIdentityHeaderBytes then
    .initial
  else
    match tryReadU32 payload payloadLength 0 with
    | none => .initial
    | some entryCount =>
        let result :=
          { ParseResult.initial with declaredEntryCount := entryCount }
        if maxPossibleEntriesForPayloadLength payloadLength < entryCount then
          result
        else
          parseEntries payload payloadLength entryCount.toNat
            kRemoteIdentityHeaderBytes result

/-! ## The store -/

/-- One stored identity. -/
structure StoredEntry where
  normalizedServerName : List UInt8
  normalizedCharacterName : List UInt8
  nativeClassId : UInt8
  classesBitmask : UInt32
  deriving Repr, DecidableEq

/-- The identities stored since the last clear. -/
abbrev Store := List StoredEntry

/-- `StoreCharacterClassMask`, with its result. -/
def storeCharacterClassMask
    (serverName characterName : Option CString)
    (nativeClassId classesBitmask : UInt32)
    (store : Store) :
    Store × Bool :=
  match serverName, characterName with
  | some server, some character =>
      let normalizedServerName := foldCase server.bytes
      let normalizedCharacterName := foldCase character.bytes
      if normalizedServerName.isEmpty || normalizedCharacterName.isEmpty ||
          !isAcceptableRemoteIdentityEntry character.bytes nativeClassId
            classesBitmask then
        (store, false)
      else
        (KeyedList.upsert
          (fun entry =>
            entry.normalizedServerName = normalizedServerName ∧
              entry.normalizedCharacterName = normalizedCharacterName)
          (fun entry =>
            { entry with
              nativeClassId := nativeClassId.toUInt8
              classesBitmask := classesBitmask })
          { normalizedServerName := normalizedServerName
            normalizedCharacterName := normalizedCharacterName
            nativeClassId := nativeClassId.toUInt8
            classesBitmask := classesBitmask }
          store,
          true)
  | _, _ => (store, false)

/--
`TryLookupCharacterClassMask`: the mask that goes to the out parameter, when
the call succeeds.  The first entry under both names decides.
-/
def tryLookupCharacterClassMask
    (serverName characterName : Option CString)
    (expectedNativeClassId : UInt32)
    (store : Store) :
    Option UInt32 :=
  match serverName, characterName with
  | some server, some character =>
      let normalizedServerName := foldCase server.bytes
      let normalizedCharacterName := foldCase character.bytes
      if normalizedServerName.isEmpty || normalizedCharacterName.isEmpty then
        none
      else
        match
          store.find? fun entry =>
            entry.normalizedServerName = normalizedServerName ∧
              entry.normalizedCharacterName = normalizedCharacterName with
        | none => none
        | some entry =>
            if expectedNativeClassId ≠ 0 ∧ entry.nativeClassId ≠ 0 ∧
                entry.nativeClassId.toUInt32 ≠ expectedNativeClassId then
              none
            else if
                !isAcceptableRemoteIdentityEntry character.bytes
                  entry.nativeClassId.toUInt32 entry.classesBitmask then
              none
            else
              some entry.classesBitmask
  | _, _ => none

/-- `Clear`. -/
def clear (_ : Store) : Store :=
  []

end MonomythClient.RemoteMulticlassIdentity
