import MonomythClient.RelocatedBytes

namespace MonomythClient

open FlatMemory LittleEndian RelocatedBytes

/-!
# Pinned targets

The code that two of the discoveries look for, byte for byte as it is at the
image base, with the places in it that hold an absolute address.  A loader adds
the difference of the bases to every such operand.  The matcher that is to see
through that knows some of the instructions these targets have, and not all.
-/

/-- The bytes of a target, and where its address operands begin. -/
structure PinnedTarget where
  bytes : List UInt8
  operands : List Nat
  deriving DecidableEq

/-- The bytes as the matcher reads them. -/
def PinnedTarget.expected (target : PinnedTarget) : Nat → UInt8 :=
  fun offset => target.bytes.getD offset 0

def PinnedTarget.length (target : PinnedTarget) : Nat :=
  target.bytes.length

end MonomythClient

namespace MonomythClient.SpellUsabilityDiscovery

/-! ## The targets of the spell usability discovery -/

def kGetSpellLevelNeededBytes : PinnedTarget where
  bytes :=
    [ 0x8b, 0x44, 0x24, 0x04, 0x8d, 0x50, 0xff, 0x83, 0xfa, 0x22, 0x77, 0x10,
      0x83, 0xf8, 0x24, 0x72, 0x01, 0xcc, 0x8a, 0x84, 0x01, 0x46, 0x02, 0x00,
      0x00, 0xc2, 0x04, 0x00, 0x8a, 0x81, 0x47, 0x02, 0x00, 0x00, 0xc2, 0x04,
      0x00 ]
  operands := []

def kCanStartMemmingEntryBytes : PinnedTarget where
  bytes :=
    [ 0x83, 0x3d, 0xac, 0x35, 0xe6, 0x00, 0x00, 0x53, 0x56, 0x8b, 0xf1, 0xb3,
      0x01, 0x0f, 0x8f, 0x8f, 0x01, 0x00, 0x00, 0x8b, 0x0d, 0x7c, 0xfc, 0xd1,
      0x00, 0x6a, 0x01, 0xe8, 0xd0, 0x51, 0xf0, 0xff, 0x84 ]
  operands := [2, 21]

def kSpellbookMemorizeSendPathEntryBytes : PinnedTarget where
  bytes :=
    [ 0x83, 0xec, 0x14, 0x57, 0x8b, 0xf9, 0x83, 0xbf, 0x34, 0x02, 0x00, 0x00,
      0xff, 0x75, 0x07, 0x33, 0xc0, 0x5f, 0x83, 0xc4, 0x14, 0xc3, 0xa1, 0x1c,
      0x26, 0xdd, 0x00, 0x8b, 0x48, 0x08, 0x8b, 0x51, 0x04, 0x55, 0x8d, 0x4c,
      0x02, 0x08, 0x56, 0x8d, 0x49, 0x04, 0xbd, 0x01, 0x00, 0x00, 0x00, 0xe8,
      0xbc, 0xd6, 0x07, 0x00 ]
  operands := [23]

def kSpellbookDispatcherEntryBytes : PinnedTarget where
  bytes :=
    [ 0x56, 0x8b, 0xf1, 0x8b, 0x0d, 0x30, 0x26, 0xdd, 0x00, 0x80, 0xb9, 0x5c,
      0x03, 0x00, 0x00, 0x6e, 0x74, 0x09, 0xe8, 0x49, 0x15, 0x17, 0x00, 0x85,
      0xc0, 0x74, 0x59, 0x8b, 0x8e, 0x2c, 0x02, 0x00, 0x00, 0x8b, 0x44, 0x24,
      0x08, 0x8b, 0x15, 0x7c, 0xfc, 0xd1, 0x00, 0x83, 0xba, 0x24, 0x02, 0x00,
      0x00, 0x02, 0x57, 0x8d, 0x3c, 0xc8, 0x8b, 0xce, 0x75, 0x0b, 0x57, 0xe8,
      0x20, 0xf6, 0xff, 0xff ]
  operands := [5, 39]

def kStartSpellScribePathEntryBytes : PinnedTarget where
  bytes :=
    [ 0x6a, 0xff, 0x68, 0x76, 0x66, 0x99, 0x00, 0x64, 0xa1, 0x00, 0x00, 0x00,
      0x00, 0x50, 0x64, 0x89, 0x25, 0x00, 0x00, 0x00, 0x00, 0x81, 0xec, 0x18,
      0x02, 0x00, 0x00, 0x53, 0x55, 0x56, 0x33, 0xdb, 0x33, 0xf6, 0x8b, 0xe9,
      0x89, 0x5c, 0x24, 0x14, 0x57, 0x89, 0x6c, 0x24, 0x20, 0x39, 0x35, 0xac,
      0x35, 0xe6, 0x00, 0x7f, 0x7d, 0x83, 0xc8, 0xff, 0x39, 0x85, 0x34, 0x02,
      0x00, 0x00, 0x75, 0x72, 0x39, 0x85, 0x40, 0x02, 0x00, 0x00, 0x75, 0x6a,
      0x6a, 0x21, 0x8d, 0x44, 0x24, 0x20, 0x50, 0xa1, 0x1c, 0x26, 0xdd ]
  operands := [3, 47, 80]

def kStartSpellScribePrecheckModeGetterEntryBytes : PinnedTarget where
  bytes :=
    [ 0x8b, 0x01, 0x8b, 0x50, 0x08, 0xff, 0xd2, 0x0f, 0xb6, 0x80, 0xd4, 0x01,
      0x00, 0x00, 0xc3 ]
  operands := []

def kStartSpellScribePrecheckGateEntryBytes : PinnedTarget where
  bytes :=
    [ 0x55, 0x56, 0x57, 0x8b, 0x7c, 0x24, 0x10, 0x8b, 0xf1, 0x8b, 0x0f, 0x33,
      0xed, 0xe8, 0x8e, 0x3b, 0x36, 0x00, 0x85, 0xc0, 0x74, 0x08, 0x5f, 0x5e,
      0xb0, 0x01, 0x5d, 0xc2, 0x0c, 0x00, 0x8b, 0x46, 0x04, 0x8b, 0x48, 0x04,
      0x8d, 0x4c, 0x31, 0x04, 0x53, 0x8d, 0x49, 0x04, 0xe8, 0xaf, 0xed, 0x38,
      0x00, 0x8b, 0x0f, 0x8a, 0x98, 0x74, 0x33, 0x00, 0x00, 0x6a, 0x00, 0x6a,
      0x01 ]
  operands := []

def kStartSpellScribePrecheckLookupEntryBytes : PinnedTarget where
  bytes :=
    [ 0x53, 0x8b, 0x5c, 0x24, 0x08, 0x56, 0x57, 0x8b, 0xf9, 0x33, 0xf6, 0xeb,
      0x03, 0x8d, 0x49, 0x00, 0x8b, 0x47, 0x04, 0x8b, 0x48, 0x04, 0x8d, 0x4c,
      0x39, 0x04, 0x8d, 0x49, 0x04, 0xe8, 0x1e ]
  operands := []

def kStartSpellScribePrecheckFastAcceptEntryBytes : PinnedTarget where
  bytes :=
    [ 0x8b, 0x01, 0x8b, 0x50, 0x08, 0xff, 0xd2, 0x0f, 0xb6, 0x80, 0x1a, 0x01,
      0x00, 0x00, 0xc3 ]
  operands := []

def kStartSpellScribePrecheckClassResolverEntryBytes : PinnedTarget where
  bytes :=
    [ 0x8b, 0x01, 0x85, 0xc0, 0x74, 0x15, 0x8b, 0x49, 0x04, 0x8d, 0xa4, 0x24,
      0x00, 0x00, 0x00, 0x00, 0x39, 0x08, 0x74, 0x0a, 0x8b, 0x40, 0x0c, 0x85,
      0xc0, 0x75, 0xf5, 0x33, 0xc0, 0xc3, 0x8b, 0x40, 0x04, 0xc3 ]
  operands := []

def kStartSpellScribePrecheckAssignedMaskGetterEntryBytes : PinnedTarget where
  bytes :=
    [ 0x55, 0x8b, 0xec, 0x83, 0xec, 0x44, 0xa1, 0x80, 0x87, 0xb6, 0x00, 0x33,
      0xc5, 0x89, 0x45, 0xfc, 0x57, 0x8b, 0xf9, 0x8b, 0x07, 0x8b, 0x50, 0x08,
      0x89, 0x7d, 0xf0, 0xff, 0xd2, 0x80, 0xb8, 0x1a, 0x01, 0x00, 0x00, 0x00,
      0x74, 0x19, 0x80, 0x7d, 0x0c, 0x00, 0x75, 0x13 ]
  operands := [7]

def kStartSpellScribePrecheckRule446190EntryBytes : PinnedTarget where
  bytes :=
    [ 0x8b, 0x44, 0x24, 0x04, 0x53, 0x56, 0x8b, 0xf1, 0x8b, 0x4e, 0x04, 0x8b,
      0x51, 0x04, 0x8d, 0x4c, 0x32, 0x04, 0x57, 0x8b, 0x38, 0x8b, 0x01, 0x8b,
      0x50, 0x68, 0xff, 0xd2, 0x6a, 0x01, 0x8b, 0xcf, 0x8b, 0xd8, 0xe8, 0x69,
      0xc6, 0x36, 0x00, 0x3b ]
  operands := []

def kStartSpellScribePrecheckRule446200EntryBytes : PinnedTarget where
  bytes :=
    [ 0x56, 0x57, 0x8b, 0xf9, 0x8b, 0x47, 0x04, 0x8b, 0x48, 0x04, 0x8d, 0x4c,
      0x39, 0x04, 0x8d, 0x49, 0x04, 0xe8, 0xfa, 0x4f, 0x39, 0x00, 0x8b, 0x80,
      0x70, 0x33, 0x00, 0x00, 0x83, 0xf8, 0x0d, 0x7d, 0x04, 0x8b, 0xf0, 0xeb,
      0x3b, 0x3d, 0x4a, 0x01, 0x00, 0x00, 0x7f, 0x21 ]
  operands := []

def kStartSpellScribePrecheckRule4462c0EntryBytes : PinnedTarget where
  bytes :=
    [ 0x56, 0x8b, 0xf1, 0x8b, 0x46, 0x04, 0x8b, 0x48, 0x04, 0x8b, 0x54, 0x31,
      0x04, 0x8b, 0x42, 0x4c, 0x8d, 0x4c, 0x31, 0x04, 0x57, 0xff, 0xd0, 0x85,
      0xc0, 0x0f, 0x84, 0x8c, 0x00, 0x00, 0x00, 0x8b, 0x7c, 0x24, 0x0c, 0x8b,
      0x0f, 0x6a, 0x00, 0x6a, 0x01, 0xe8, 0x72, 0xbd, 0x36, 0x00, 0x85, 0xc0 ]
  operands := []

def kStartSpellScribePrecheckRule446380EntryBytes : PinnedTarget where
  bytes :=
    [ 0x64, 0xa1, 0x00, 0x00, 0x00, 0x00, 0x6a, 0xff, 0x68, 0x78, 0x24, 0x97,
      0x00, 0x50, 0x64, 0x89, 0x25, 0x00, 0x00, 0x00, 0x00, 0x53, 0x56, 0x8b,
      0xf1, 0x8b, 0x46, 0x04, 0x8b, 0x48, 0x04, 0x8b, 0x54, 0x31, 0x04, 0x8b,
      0x02, 0x8d, 0x4c, 0x31, 0x04, 0x57, 0x6a, 0x13 ]
  operands := [9]

def kStartSpellMemorizationPathEntryBytes : PinnedTarget where
  bytes :=
    [ 0x8b, 0x44, 0x24, 0x18, 0x83, 0xec, 0x14, 0x56, 0x8b, 0xf1, 0x8b, 0x4c,
      0x24, 0x2c, 0x50, 0x51, 0x6a, 0x00, 0x8d, 0x4c, 0x24, 0x12, 0xe8, 0xf5,
      0xa6, 0x1a, 0x00, 0x8b, 0x54, 0x24, 0x34, 0x8b, 0x4c, 0x24, 0x2c, 0x50,
      0x8b, 0x44, 0x24, 0x34, 0x52, 0x8b, 0x54, 0x24, 0x30, 0x50, 0x51, 0x52,
      0x8b, 0xce, 0xe8, 0x59, 0xf5, 0xff, 0xff, 0x5e, 0x83, 0xc4, 0x14, 0xc2,
      0x18, 0x00 ]
  operands := []

def kMemorizeSendPacketWrapperEntryBytes : PinnedTarget where
  bytes :=
    [ 0x55, 0x8b, 0xec, 0x6a, 0xff, 0x68, 0xd8, 0x91, 0x9a, 0x00, 0x64, 0xa1,
      0x00, 0x00, 0x00, 0x00, 0x50, 0x51, 0x53, 0x56, 0x57, 0xa1, 0x80, 0x87,
      0xb6, 0x00, 0x33, 0xc5, 0x50, 0x8d, 0x45, 0xf4, 0x64, 0xa3, 0x00, 0x00,
      0x00, 0x00, 0x8b, 0xf1, 0x8d, 0xbe, 0x54, 0x02, 0x00, 0x00, 0x8b, 0xcf,
      0x89, 0x7d, 0xf0, 0xe8 ]
  operands := [6, 22]

def kHandleRButtonUpEntryBytesPrefix : PinnedTarget where
  bytes :=
    [ 0x6a, 0xff, 0x64, 0xa1, 0x00, 0x00, 0x00, 0x00, 0x68, 0x81, 0xa8, 0x98,
      0x00, 0x50, 0xb8, 0x08, 0x21, 0x00, 0x00, 0x64, 0x89, 0x25, 0x00, 0x00,
      0x00, 0x00, 0xe8, 0x21, 0x4d, 0x24, 0x00, 0x53, 0x55, 0x33, 0xdb, 0x56,
      0x8b, 0xf1, 0x33, 0xed, 0x89, 0x5c, 0x24, 0x24, 0x38, 0x5e, 0x10, 0x0f,
      0x84, 0xa8, 0x08, 0x00, 0x00, 0x57, 0x83, 0xcf, 0xff, 0x8b, 0xc7, 0x89,
      0x44, 0x24, 0x1c, 0x66, 0x89, 0x44, 0x24, 0x20 ]
  operands := [9]

def kIsClassUsablePredicateEntryBytes : PinnedTarget where
  bytes :=
    [ 0x8b, 0xc1, 0x8b, 0x4c, 0x24, 0x04, 0x8d, 0x51, 0xff, 0x83, 0xfa, 0x0f,
      0x77, 0x15, 0x8b, 0x40, 0x68, 0xba, 0x01, 0x00, 0x00, 0x00, 0xd3, 0xe2,
      0x23, 0xc2, 0xf7, 0xd8, 0x1b, 0xc0, 0xf7, 0xd8, 0xc2, 0x04, 0x00, 0x32,
      0xc0, 0xc2, 0x04, 0x00 ]
  operands := []

def kCanEquipEntryBytes : PinnedTarget where
  bytes :=
    [ 0x51, 0x56, 0x57, 0x8b, 0x7c, 0x24, 0x14, 0x89, 0x4c, 0x24, 0x08, 0x85,
      0xff, 0x0f, 0x84, 0x5f, 0x01, 0x00, 0x00, 0x8b, 0x74, 0x24, 0x10, 0x85,
      0xf6, 0x0f, 0x84, 0x53, 0x01, 0x00, 0x00, 0x83, 0xbe, 0xd0, 0x2d, 0x00,
      0x00, 0x00, 0x0f, 0x84, 0x46, 0x01, 0x00, 0x00, 0x53, 0x8b, 0x5c, 0x24,
      0x20, 0x55, 0x84, 0xdb, 0x74, 0x14, 0x8b, 0x46, 0x08, 0x8b, 0x48, 0x04,
      0x8d, 0x4c, 0x31, 0x08 ]
  operands := []

def pinnedTargets : List PinnedTarget :=
  [ kGetSpellLevelNeededBytes,
    kCanStartMemmingEntryBytes,
    kSpellbookMemorizeSendPathEntryBytes,
    kSpellbookDispatcherEntryBytes,
    kStartSpellScribePathEntryBytes,
    kStartSpellScribePrecheckModeGetterEntryBytes,
    kStartSpellScribePrecheckGateEntryBytes,
    kStartSpellScribePrecheckLookupEntryBytes,
    kStartSpellScribePrecheckFastAcceptEntryBytes,
    kStartSpellScribePrecheckClassResolverEntryBytes,
    kStartSpellScribePrecheckAssignedMaskGetterEntryBytes,
    kStartSpellScribePrecheckRule446190EntryBytes,
    kStartSpellScribePrecheckRule446200EntryBytes,
    kStartSpellScribePrecheckRule4462c0EntryBytes,
    kStartSpellScribePrecheckRule446380EntryBytes,
    kStartSpellMemorizationPathEntryBytes,
    kMemorizeSendPacketWrapperEntryBytes,
    kHandleRButtonUpEntryBytesPrefix,
    kIsClassUsablePredicateEntryBytes,
    kCanEquipEntryBytes ]

end MonomythClient.SpellUsabilityDiscovery

namespace MonomythClient.ClassDisplayDiscovery

/-! ## The targets of the class display discovery -/

def kGetClassDescEntryBytes : PinnedTarget where
  bytes :=
    [ 0x8B, 0x44, 0x24, 0x04, 0x48, 0x83, 0xF8, 0x41, 0x0F, 0x87, 0xED, 0x02,
      0x00, 0x00, 0x0F, 0xB6, 0x80, 0x60, 0x51, 0x51, 0x00, 0xFF, 0x24, 0x85 ]
  operands := [17]

def kLeftClickedOnPlayerSurrogateEntryBytes : PinnedTarget where
  bytes :=
    [ 0x6A, 0xFF, 0x68, 0xA4, 0x89, 0x97, 0x00, 0x64, 0xA1, 0x00, 0x00, 0x00,
      0x00, 0x50, 0x64, 0x89, 0x25, 0x00, 0x00, 0x00, 0x00, 0x81, 0xEC, 0x14,
      0x02, 0x00, 0x00, 0x53, 0x57, 0x33, 0xFF, 0x89 ]
  operands := [3]

def kGetClassThreeLetterCodeEntryBytes : PinnedTarget where
  bytes :=
    [ 0x8B, 0x44, 0x24, 0x04, 0x48, 0x83, 0xF8, 0x0F, 0x0F, 0x87, 0x57, 0x01,
      0x00, 0x00, 0xFF, 0x24, 0x85, 0x3C, 0x55, 0x51, 0x00, 0x8B, 0x0D, 0xC4 ]
  operands := [17, 23]

def kCharSelectClassNameFuncEntryBytes : PinnedTarget where
  bytes :=
    [ 0x6A, 0xFF, 0x64, 0xA1, 0x00, 0x00, 0x00, 0x00, 0x68, 0x15, 0x2D, 0x99,
      0x00, 0x50, 0x64, 0x89, 0x25, 0x00, 0x00, 0x00, 0x00, 0x81, 0xEC, 0x98,
      0x00, 0x00, 0x00, 0x53, 0x55, 0x56, 0x57, 0x8B ]
  operands := [9]

def pinnedTargets : List PinnedTarget :=
  [ kGetClassDescEntryBytes,
    kLeftClickedOnPlayerSurrogateEntryBytes,
    kGetClassThreeLetterCodeEntryBytes,
    kCharSelectClassNameFuncEntryBytes ]

end MonomythClient.ClassDisplayDiscovery
