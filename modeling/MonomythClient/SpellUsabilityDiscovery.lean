import MonomythClient.FileSha256
import MonomythClient.ModuleImages
import MonomythClient.PinnedTargets

namespace MonomythClient.SpellUsabilityDiscovery

open FlatMemory ModuleImages RelocatedBytes

/-!
# The discovery of the spell usability targets

Functions of the game are looked for at pinned RVAs.  The SHA-256 of the
executable decides whether the RVAs mean anything; then a function has to begin
inside the image, in an executable section, with its pinned bytes, and calls at
pinned places have to lead to it or to its neighbours.  One function is
exported, and is asked for by name.  What goes only to the log is left out.
-/

/-! ## Places -/

def kGetSpellLevelNeededRva : UInt32 := 0x000af700
def kIsClassUsablePredicateRva : UInt32 := 0x000a1f50
def kHandleRButtonUpRva : UInt32 := 0x00297250
def kCanEquipRva : UInt32 := 0x000a44c0
def kSpellbookDispatcherRva : UInt32 := 0x0035e790
def kSpellbookDispatcherCallsStartSpellScribePathAtRva : UInt32 := 0x0035e7cb
def kSpellbookDispatcherCallsCanStartMemmingAtRva : UInt32 := 0x0035e7de
def kCanStartMemmingRva : UInt32 := 0x0035bd40
def kCanStartMemmingCallsGetSpellLevelNeededAtRva : UInt32 := 0x0035bea5
def kSpellbookMemorizeSendPathRva : UInt32 := 0x0035db20
def kSpellbookMemorizeSendPathCallsMemorizeSendPacketWrapperAtRva : UInt32 :=
  0x0035dd4a
def kStartSpellScribePathRva : UInt32 := 0x0035ddf0
def kStartSpellScribePrecheckModeGetterRva : UInt32 := 0x003affa0
def kStartSpellScribePathCallsPrecheckModeGetterAtRva : UInt32 := 0x0035df47
def kStartSpellScribePrecheckGateRva : UInt32 := 0x0004c430
def kStartSpellScribePathCallsPrecheckGateAtRva : UInt32 := 0x0035df6a
def kStartSpellScribePrecheckLookupRva : UInt32 := 0x00049cd0
def kStartSpellScribePathCallsPrecheckLookupAtRva : UInt32 := 0x0035df8f
def kStartSpellScribePrecheckFastAcceptRva : UInt32 := 0x003affd0
def kStartSpellScribePrecheckGateCallsFastAcceptAtRva : UInt32 := 0x0004c43d
def kStartSpellScribePrecheckClassResolverRva : UInt32 := 0x003db210
def kStartSpellScribePrecheckGateCallsClassResolverAtRva : UInt32 := 0x0004c45c
def kStartSpellScribePrecheckAssignedMaskGetterRva : UInt32 := 0x003b4ce0
def kStartSpellScribePrecheckGateCallsAssignedMaskGetterAtRva : UInt32 :=
  0x0004c46d
def kStartSpellScribePrecheckRule446190Rva : UInt32 := 0x00046190
def kStartSpellScribePrecheckGateCallsRule446190AtRva : UInt32 := 0x0004c4a6
def kStartSpellScribePrecheckRule446200Rva : UInt32 := 0x00046200
def kStartSpellScribePrecheckGateCallsRule446200AtRva : UInt32 := 0x0004c4b3
def kStartSpellScribePrecheckRule4462c0Rva : UInt32 := 0x000462c0
def kStartSpellScribePrecheckGateCallsRule4462c0AtRva : UInt32 := 0x0004c499
def kStartSpellScribePrecheckRule446380Rva : UInt32 := 0x00046380
def kStartSpellScribePrecheckGateCallsRule446380AtRva : UInt32 := 0x0004c4ce
def kStartSpellScribePathCallsGetSpellLevelNeededAtRva : UInt32 := 0x0035e084
def kStartSpellMemorizationPathRva : UInt32 := 0x00262290
def kSpellbookDispatcherCallsStartSpellMemorizationPathAtRva : UInt32 :=
  0x0035e7fd
def kMemorizeSendPacketWrapperRva : UInt32 := 0x004c51f0
def kStartSpellScribeLikeCallsMemorizeSendPacketWrapperAtRva : UInt32 :=
  0x0035e6fb

def kResolverVersion : String := "v5_memorize_send_trace_v1"
def kPacketId : String := "CLIENT-OP_MEMORIZE_SEND-TRACE-V1"

def kExpectedEqgameSha256 : String :=
  "2a8702ad9f722704f01355c0750be7d6f164a8b9c9128ba0cf286ea32b405b0e"

/-- The fields of `Result` that hold a target. -/
inductive Target where
  | handleRbuttonUp
  | getSpellLevelNeeded
  | isClassUsablePredicate
  | canEquip
  | invSlotMgrMoveItem
  | spellbookDispatcher
  | startSpellScribePath
  | startSpellScribePrecheckModeGetter
  | startSpellScribePrecheckGate
  | startSpellScribePrecheckLookup
  | startSpellScribePrecheckFastAccept
  | startSpellScribePrecheckClassResolver
  | startSpellScribePrecheckAssignedMaskGetter
  | startSpellScribePrecheckRule4462c0
  | startSpellScribePrecheckRule446190
  | startSpellScribePrecheckRule446200
  | startSpellScribePrecheckRule446380
  | canStartMemming
  | spellbookMemorizeSendPath
  | startSpellMemorizationPath
  | memorizeSendPacketWrapper
  deriving Repr, DecidableEq

/-! ## Decisions -/

inductive TargetState where
  | notAttempted
  | foundUnvalidated
  | validated
  | failed
  deriving Repr, DecidableEq

inductive EvidenceSource where
  | notAttempted
  | fingerprintRva
  | runtimeExport
  | cleanroomRva
  | wrapperValidation
  | bytePattern
  | unavailable
  deriving Repr, DecidableEq

/-- `EvidenceSourceName` -/
def EvidenceSource.name : EvidenceSource → String
  | .notAttempted => "not_attempted"
  | .fingerprintRva => "fingerprint_rva"
  | .runtimeExport => "runtime_export"
  | .cleanroomRva => "cleanroom_rva"
  | .wrapperValidation => "wrapper_validation"
  | .bytePattern => "byte_pattern"
  | .unavailable => "unavailable"

structure DecisionInput where
  discoveryAllowed : Bool := false
  fingerprintMatched : Bool := false
  fingerprintRvaFound : Bool := false
  runtimeExportFound : Bool := false
  cleanroomRvaFound : Bool := false
  wrapperCandidateFound : Bool := false
  candidateExecutable : Bool := false
  plausiblePrologue : Bool := false
  wrapperValidationRequired : Bool := false
  wrapperValidationPassed : Bool := false
  diagnosticStringRequired : Bool := false
  diagnosticStringFound : Bool := false
  diagnosticStringXref : Bool := false
  deriving Repr, DecidableEq

structure DecisionResult where
  state : TargetState := .notAttempted
  evidenceSource : EvidenceSource := .notAttempted
  validation : String := "not_attempted"
  failureReason : String := "not_attempted"
  exactSignatureValidated : Bool := false
  traceSafe : Bool := false
  deriving Repr, DecidableEq

/-- `SelectEvidenceSource` -/
def selectEvidenceSource (input : DecisionInput) : EvidenceSource :=
  if input.fingerprintRvaFound then
    .fingerprintRva
  else if input.cleanroomRvaFound then
    .cleanroomRva
  else if input.runtimeExportFound then
    .runtimeExport
  else if input.wrapperCandidateFound then
    .wrapperValidation
  else
    .unavailable

/-- `EvaluateDecision` -/
def evaluateDecision (input : DecisionInput) : DecisionResult :=
  if !input.discoveryAllowed then
    { state := .failed
      validation := "failed"
      failureReason :=
        if input.fingerprintMatched then
          "capability_denied"
        else
          "fingerprint_mismatch" }
  else
    let evidenceSource := selectEvidenceSource input
    if evidenceSource = .unavailable then
      { state := .failed
        evidenceSource
        validation := "failed"
        failureReason := "missing_cleanroom_target" }
    else if !input.candidateExecutable then
      { state := .failed
        evidenceSource
        validation := "failed"
        failureReason := "non_executable_target" }
    else if !input.plausiblePrologue then
      { state := .foundUnvalidated
        evidenceSource
        validation := "failed"
        failureReason := "unsupported_prologue" }
    else if input.wrapperValidationRequired &&
        !input.wrapperValidationPassed then
      { state := .foundUnvalidated
        evidenceSource
        validation := "failed"
        failureReason := "wrapper_validation_failed" }
    else if input.diagnosticStringRequired &&
        !input.diagnosticStringFound then
      { state := .foundUnvalidated
        evidenceSource
        validation := "failed"
        failureReason := "diagnostic_string_missing" }
    else if input.diagnosticStringRequired &&
        !input.diagnosticStringXref then
      { state := .foundUnvalidated
        evidenceSource
        validation := "failed"
        failureReason := "diagnostic_string_xref_missing" }
    else
      { state := .validated
        evidenceSource
        validation := "passed"
        failureReason := "none"
        exactSignatureValidated := evidenceSource == .runtimeExport
        traceSafe := true }

/-! ## The executable -/

/--
How the file of the executable is read: whether it can be opened, what the
reads give one after another, and whether the last of them fails or gives no
bytes.  No file is so long that its bits are not counted in 64 bits.
-/
structure FileReads where
  opened : Bool
  chunks : List (List UInt8)
  fails : Bool
  sizes :
    ∀ chunk ∈ chunks, 1 ≤ chunk.length ∧ chunk.length ≤ 64 * 1024
  short : chunks.flatten.length < 2 ^ 61

/-- What every call of `ReadFile` gives. -/
def FileReads.reads (file : FileReads) : List (Option (List UInt8)) :=
  file.chunks.map some ++ [if file.fails then none else some []]

structure CleanroomFingerprintStatus where
  available : Bool := false
  matched : Bool := false
  failureReason : String := "fingerprint_unavailable"
  deriving Repr, DecidableEq

/-- `EvaluateCleanroomFingerprint`; a path that is not to be had is empty. -/
def evaluateCleanroomFingerprint
    (processPath : String)
    (file : FileReads) :
    CleanroomFingerprintStatus :=
  if processPath = "" then
    { failureReason := "fingerprint_path_unavailable" }
  else
    match computeFileSha256 processPath true file.opened file.reads with
    | some (some digestHex) =>
        let matched := digestHex == kExpectedEqgameSha256
        { available := true
          matched
          failureReason := if matched then "none" else "fingerprint_mismatch" }
    | _ => { failureReason := "fingerprint_sha256_unavailable" }

/-! ## Candidates -/

structure TargetResult where
  state : TargetState := .notAttempted
  moduleBase : UInt32 := 0
  candidateRva : UInt32 := 0
  candidateAddress : UInt32 := 0
  exactSignatureValidated : Bool := false
  traceSafe : Bool := false
  evidenceSource : String := "not_attempted"
  validation : String := "not_attempted"
  failureReason : String := "not_attempted"
  deriving Repr, DecidableEq

structure CandidateSource where
  evidenceSource : EvidenceSource := .unavailable
  address : UInt32 := 0
  rva : UInt32 := 0
  deriving Repr, DecidableEq

section Candidates

variable (image : ImageView) (bytes : Nat → UInt8)

/-- `IsExecutableAddress` -/
def isExecutableAddress (address : UInt32) : Bool :=
  if address < image.base then
    false
  else
    (findSection image (address - image.base) 1
      IMAGE_SCN_MEM_EXECUTE).isSome

/-- `HasPlausibleX86Prologue`, of the bytes at an address. -/
def hasPlausibleX86Prologue (code : Nat → UInt8) (available : Nat) : Bool :=
  if available < 3 then
    false
  else if
      [ [0x55, 0x8b, 0xec], [0x56, 0x8b, 0xf1], [0x57, 0x8b, 0xf9],
        [0x8b, 0x44, 0x24] ].any
        fun pattern => sameBytes code (pattern.getD · 0) 3 then
    true
  else
    code 0 == 0x8b || code 0 == 0x55 || code 0 == 0x56 || code 0 == 0x57

/-- `ResolveRvaAddress` -/
def resolveRvaAddress (rva : UInt32) (length : Nat) : Option UInt32 :=
  if isRangeWithinImage image rva length then
    some (image.base + rva)
  else
    none

/-- `BytesMatchAtRva` -/
def bytesMatchAtRva (rva : UInt32) (expected : PinnedTarget) : Bool :=
  if expected.length = 0 || !isRangeWithinImage image rva expected.length then
    false
  else
    bytesMatchWithModuleRelocation (some (codeAt bytes rva))
        (some expected.expected) expected.length image.base ==
      some true

/-- `CallAtRvaTargets` -/
def callAtRvaTargets (callRva expectedTarget : UInt32) : Bool :=
  if !isRangeWithinImage image callRva 5 then
    false
  else if codeAt bytes callRva 0 != 0xe8 then
    false
  else
    image.base + callRva + 5 + readLe32 (codeAt bytes callRva) 1 ==
      expectedTarget

/-- `PopulateCandidateFields` -/
def populateCandidateFields
    (candidate : CandidateSource)
    (target : TargetResult) :
    TargetResult :=
  { target with
    moduleBase := image.base
    candidateRva := candidate.rva
    candidateAddress := candidate.address
    evidenceSource := candidate.evidenceSource.name }

/-- `BuildFingerprintCandidate` and `BuildRuntimeExportCandidate` -/
def buildCandidate
    (evidenceSource : EvidenceSource)
    (address : UInt32) :
    CandidateSource :=
  if address = 0 ∨ address < image.base then
    {}
  else
    { evidenceSource, address, rva := address - image.base }

/-- `ApplyDecision` -/
def applyDecision
    (candidate : CandidateSource)
    (decision : DecisionResult)
    (target : TargetResult) :
    TargetResult :=
  { populateCandidateFields image candidate target with
    state := decision.state
    exactSignatureValidated := decision.exactSignatureValidated
    traceSafe := decision.traceSafe
    validation := decision.validation
    failureReason := decision.failureReason
    evidenceSource := decision.evidenceSource.name }

/-! ## Discoveries -/

/-- `DiscoverRuntimeExportTarget`, with what `GetProcAddress` gives. -/
def discoverRuntimeExportTarget (address : UInt32) : TargetResult :=
  let candidate := buildCandidate image .runtimeExport address
  let target := populateCandidateFields image candidate {}
  if address = 0 then
    { target with
      state := .failed
      validation := "failed"
      failureReason := "runtime_export_missing" }
  else if !isExecutableAddress image address then
    { target with
      state := .failed
      validation := "failed"
      failureReason := "runtime_export_non_executable" }
  else if !hasPlausibleX86Prologue (codeAt bytes (address - image.base)) 8 then
    { target with
      state := .failed
      validation := "failed"
      failureReason := "runtime_export_unsupported_prologue" }
  else
    { target with
      state := .validated
      traceSafe := true
      validation := "passed"
      failureReason := "none" }

/-- `BuildCapabilityDeniedTarget` -/
def buildCapabilityDeniedTarget (failureReason : String) : TargetResult where
  state := .failed
  validation := "failed"
  failureReason := failureReason
  evidenceSource := EvidenceSource.notAttempted.name

/-- `BuildImageUnavailableTarget` -/
def buildImageUnavailableTarget : TargetResult where
  state := .failed
  evidenceSource := EvidenceSource.unavailable.name
  validation := "failed"
  failureReason := "image_view_unavailable"

/-- `DiscoverPinnedCleanroomTarget` -/
def discoverPinnedCleanroomTarget
    (rva : UInt32)
    (expected : PinnedTarget)
    (cleanroomFingerprint : CleanroomFingerprintStatus) :
    TargetResult :=
  let found := resolveRvaAddress image rva expected.length
  let functionStart := found.getD 0
  let target : TargetResult :=
    { moduleBase := image.base
      candidateRva := rva
      candidateAddress := functionStart
      evidenceSource := EvidenceSource.cleanroomRva.name }
  if !cleanroomFingerprint.available || !cleanroomFingerprint.matched then
    { target with
      state := .failed
      validation := "failed"
      failureReason := cleanroomFingerprint.failureReason }
  else if found.isNone || functionStart == 0 then
    { target with
      state := .failed
      validation := "failed"
      failureReason := "rva_out_of_range" }
  else
    let candidateExecutable := isExecutableAddress image functionStart
    let exactBytesMatch := bytesMatchAtRva image bytes rva expected
    let target :=
      { target with
        exactSignatureValidated := exactBytesMatch
        traceSafe := candidateExecutable && exactBytesMatch }
    if !candidateExecutable then
      { target with
        state := .failed
        validation := "failed"
        failureReason := "non_executable_target"
        traceSafe := false }
    else if !exactBytesMatch then
      { target with
        state := .failed
        validation := "failed"
        failureReason := "entry_bytes_mismatch"
        traceSafe := false }
    else
      { target with
        state := .validated
        validation := "passed"
        failureReason := "none" }

/--
What the discoveries that end with `EvaluateDecision` have in common: a
candidate at an RVA, its entry bytes, and what else its shape has to be, which
is told whether the candidate is executable.
-/
def discoverByDecision
    (rva : UInt32)
    (expected : PinnedTarget)
    (shape : Bool → CandidateSource → Bool) :
    TargetResult :=
  let found := resolveRvaAddress image rva expected.length
  let candidate := buildCandidate image .fingerprintRva (found.getD 0)
  let candidateExecutable :=
    candidate.address != 0 && isExecutableAddress image candidate.address
  let exactEntryBytes :=
    found.isSome && bytesMatchAtRva image bytes rva expected
  let decision :=
    evaluateDecision
      { discoveryAllowed := true
        fingerprintMatched := true
        fingerprintRvaFound := found.isSome
        candidateExecutable
        plausiblePrologue :=
          exactEntryBytes && shape candidateExecutable candidate }
  applyDecision image candidate decision {}

/-- The discoveries that look at the fingerprint before all else. -/
def discoverBehindFingerprint
    (cleanroomFingerprint : CleanroomFingerprintStatus)
    (discovered : TargetResult) :
    TargetResult :=
  if !cleanroomFingerprint.available || !cleanroomFingerprint.matched then
    { state := .failed
      validation := "failed"
      failureReason := cleanroomFingerprint.failureReason }
  else
    discovered

/-- `DiscoverHandleRButtonUp` -/
def discoverHandleRButtonUp
    (cleanroomFingerprint : CleanroomFingerprintStatus) :
    TargetResult :=
  discoverPinnedCleanroomTarget image bytes kHandleRButtonUpRva
    kHandleRButtonUpEntryBytesPrefix cleanroomFingerprint

/-- `DiscoverIsClassUsablePredicate` -/
def discoverIsClassUsablePredicate
    (cleanroomFingerprint : CleanroomFingerprintStatus) :
    TargetResult :=
  discoverPinnedCleanroomTarget image bytes kIsClassUsablePredicateRva
    kIsClassUsablePredicateEntryBytes cleanroomFingerprint

/-- `DiscoverCanEquip` -/
def discoverCanEquip
    (cleanroomFingerprint : CleanroomFingerprintStatus) :
    TargetResult :=
  discoverPinnedCleanroomTarget image bytes kCanEquipRva kCanEquipEntryBytes
    cleanroomFingerprint

/-- `DiscoverGetSpellLevelNeeded` -/
def discoverGetSpellLevelNeeded : TargetResult :=
  discoverByDecision image bytes kGetSpellLevelNeededRva
    kGetSpellLevelNeededBytes fun candidateExecutable candidate =>
      candidateExecutable &&
        hasPlausibleX86Prologue (codeAt bytes candidate.rva) 8

/-- `DiscoverCanStartMemming` -/
def discoverCanStartMemming : TargetResult :=
  discoverByDecision image bytes kCanStartMemmingRva
    kCanStartMemmingEntryBytes fun candidateExecutable _ =>
      candidateExecutable &&
        callAtRvaTargets image bytes
          kCanStartMemmingCallsGetSpellLevelNeededAtRva
          (image.base + kGetSpellLevelNeededRva)

/-- `DiscoverSpellbookDispatcher` -/
def discoverSpellbookDispatcher
    (cleanroomFingerprint : CleanroomFingerprintStatus) :
    TargetResult :=
  discoverBehindFingerprint cleanroomFingerprint
    (discoverByDecision image bytes kSpellbookDispatcherRva
      kSpellbookDispatcherEntryBytes fun _ _ =>
        callAtRvaTargets image bytes
            kSpellbookDispatcherCallsStartSpellScribePathAtRva
            (image.base + kStartSpellScribePathRva) &&
          callAtRvaTargets image bytes
            kSpellbookDispatcherCallsCanStartMemmingAtRva
            (image.base + kCanStartMemmingRva))

/-- `DiscoverStartSpellScribePath` -/
def discoverStartSpellScribePath
    (cleanroomFingerprint : CleanroomFingerprintStatus) :
    TargetResult :=
  discoverBehindFingerprint cleanroomFingerprint
    (discoverByDecision image bytes kStartSpellScribePathRva
      kStartSpellScribePathEntryBytes fun _ _ =>
        callAtRvaTargets image bytes
            kSpellbookDispatcherCallsStartSpellScribePathAtRva
            (image.base + kStartSpellScribePathRva) &&
          callAtRvaTargets image bytes
            kStartSpellScribePathCallsGetSpellLevelNeededAtRva
            (image.base + kGetSpellLevelNeededRva))

/-- `DiscoverStartSpellScribeNestedPrecheckTarget`, and its like above it. -/
def discoverStartSpellScribeNestedPrecheckTarget
    (cleanroomFingerprint : CleanroomFingerprintStatus)
    (targetRva : UInt32)
    (entryBytes : PinnedTarget)
    (callerCallsiteRva : UInt32) :
    TargetResult :=
  discoverBehindFingerprint cleanroomFingerprint
    (discoverByDecision image bytes targetRva entryBytes fun _ _ =>
      callAtRvaTargets image bytes callerCallsiteRva
        (image.base + targetRva))

/-- `DiscoverStartSpellScribePrecheckModeGetter` -/
def discoverStartSpellScribePrecheckModeGetter
    (cleanroomFingerprint : CleanroomFingerprintStatus) :
    TargetResult :=
  discoverStartSpellScribeNestedPrecheckTarget image bytes
    cleanroomFingerprint kStartSpellScribePrecheckModeGetterRva
    kStartSpellScribePrecheckModeGetterEntryBytes
    kStartSpellScribePathCallsPrecheckModeGetterAtRva

/-- `DiscoverStartSpellScribePrecheckGate` -/
def discoverStartSpellScribePrecheckGate
    (cleanroomFingerprint : CleanroomFingerprintStatus) :
    TargetResult :=
  discoverStartSpellScribeNestedPrecheckTarget image bytes
    cleanroomFingerprint kStartSpellScribePrecheckGateRva
    kStartSpellScribePrecheckGateEntryBytes
    kStartSpellScribePathCallsPrecheckGateAtRva

/-- `DiscoverStartSpellScribePrecheckLookup` -/
def discoverStartSpellScribePrecheckLookup
    (cleanroomFingerprint : CleanroomFingerprintStatus) :
    TargetResult :=
  discoverStartSpellScribeNestedPrecheckTarget image bytes
    cleanroomFingerprint kStartSpellScribePrecheckLookupRva
    kStartSpellScribePrecheckLookupEntryBytes
    kStartSpellScribePathCallsPrecheckLookupAtRva

/-- `DiscoverStartSpellScribePrecheckFastAccept` -/
def discoverStartSpellScribePrecheckFastAccept
    (cleanroomFingerprint : CleanroomFingerprintStatus) :
    TargetResult :=
  discoverStartSpellScribeNestedPrecheckTarget image bytes
    cleanroomFingerprint kStartSpellScribePrecheckFastAcceptRva
    kStartSpellScribePrecheckFastAcceptEntryBytes
    kStartSpellScribePrecheckGateCallsFastAcceptAtRva

/-- `DiscoverStartSpellScribePrecheckClassResolver` -/
def discoverStartSpellScribePrecheckClassResolver
    (cleanroomFingerprint : CleanroomFingerprintStatus) :
    TargetResult :=
  discoverStartSpellScribeNestedPrecheckTarget image bytes
    cleanroomFingerprint kStartSpellScribePrecheckClassResolverRva
    kStartSpellScribePrecheckClassResolverEntryBytes
    kStartSpellScribePrecheckGateCallsClassResolverAtRva

/-- `DiscoverStartSpellScribePrecheckAssignedMaskGetter` -/
def discoverStartSpellScribePrecheckAssignedMaskGetter
    (cleanroomFingerprint : CleanroomFingerprintStatus) :
    TargetResult :=
  discoverStartSpellScribeNestedPrecheckTarget image bytes
    cleanroomFingerprint kStartSpellScribePrecheckAssignedMaskGetterRva
    kStartSpellScribePrecheckAssignedMaskGetterEntryBytes
    kStartSpellScribePrecheckGateCallsAssignedMaskGetterAtRva

/-- `DiscoverStartSpellScribePrecheckRule446190` -/
def discoverStartSpellScribePrecheckRule446190
    (cleanroomFingerprint : CleanroomFingerprintStatus) :
    TargetResult :=
  discoverStartSpellScribeNestedPrecheckTarget image bytes
    cleanroomFingerprint kStartSpellScribePrecheckRule446190Rva
    kStartSpellScribePrecheckRule446190EntryBytes
    kStartSpellScribePrecheckGateCallsRule446190AtRva

/-- `DiscoverStartSpellScribePrecheckRule446200` -/
def discoverStartSpellScribePrecheckRule446200
    (cleanroomFingerprint : CleanroomFingerprintStatus) :
    TargetResult :=
  discoverStartSpellScribeNestedPrecheckTarget image bytes
    cleanroomFingerprint kStartSpellScribePrecheckRule446200Rva
    kStartSpellScribePrecheckRule446200EntryBytes
    kStartSpellScribePrecheckGateCallsRule446200AtRva

/-- `DiscoverStartSpellScribePrecheckRule4462c0` -/
def discoverStartSpellScribePrecheckRule4462c0
    (cleanroomFingerprint : CleanroomFingerprintStatus) :
    TargetResult :=
  discoverStartSpellScribeNestedPrecheckTarget image bytes
    cleanroomFingerprint kStartSpellScribePrecheckRule4462c0Rva
    kStartSpellScribePrecheckRule4462c0EntryBytes
    kStartSpellScribePrecheckGateCallsRule4462c0AtRva

/-- `DiscoverStartSpellScribePrecheckRule446380` -/
def discoverStartSpellScribePrecheckRule446380
    (cleanroomFingerprint : CleanroomFingerprintStatus) :
    TargetResult :=
  discoverStartSpellScribeNestedPrecheckTarget image bytes
    cleanroomFingerprint kStartSpellScribePrecheckRule446380Rva
    kStartSpellScribePrecheckRule446380EntryBytes
    kStartSpellScribePrecheckGateCallsRule446380AtRva

/-- The discoveries whose call is looked at in an executable candidate only. -/
def discoverExecutableCaller
    (cleanroomFingerprint : CleanroomFingerprintStatus)
    (targetRva : UInt32)
    (entryBytes : PinnedTarget)
    (callRva calledRva : UInt32) :
    TargetResult :=
  discoverBehindFingerprint cleanroomFingerprint
    (discoverByDecision image bytes targetRva entryBytes
      fun candidateExecutable _ =>
        candidateExecutable &&
          callAtRvaTargets image bytes callRva (image.base + calledRva))

/-- `DiscoverStartSpellMemorizationPath` -/
def discoverStartSpellMemorizationPath
    (cleanroomFingerprint : CleanroomFingerprintStatus) :
    TargetResult :=
  discoverExecutableCaller image bytes cleanroomFingerprint
    kStartSpellMemorizationPathRva kStartSpellMemorizationPathEntryBytes
    kSpellbookDispatcherCallsStartSpellMemorizationPathAtRva
    kStartSpellMemorizationPathRva

/-- `DiscoverSpellbookMemorizeSendPath` -/
def discoverSpellbookMemorizeSendPath
    (cleanroomFingerprint : CleanroomFingerprintStatus) :
    TargetResult :=
  discoverExecutableCaller image bytes cleanroomFingerprint
    kSpellbookMemorizeSendPathRva kSpellbookMemorizeSendPathEntryBytes
    kSpellbookMemorizeSendPathCallsMemorizeSendPacketWrapperAtRva
    kMemorizeSendPacketWrapperRva

/-- `DiscoverMemorizeSendPacketWrapper` -/
def discoverMemorizeSendPacketWrapper
    (cleanroomFingerprint : CleanroomFingerprintStatus) :
    TargetResult :=
  discoverExecutableCaller image bytes cleanroomFingerprint
    kMemorizeSendPacketWrapperRva kMemorizeSendPacketWrapperEntryBytes
    kStartSpellScribeLikeCallsMemorizeSendPacketWrapperAtRva
    kMemorizeSendPacketWrapperRva

end Candidates

/-! ## Calls of the discovery -/

/-- The host that a run finds: its module, the export, and its file. -/
structure Host where
  module : UInt32
  bytes : Nat → UInt8
  moveItemExport : UInt32
  processPath : String
  file : FileReads

structure Result where
  allowed : Bool := false
  reason : String := "not run"
  targets : Target → TargetResult := fun _ => {}

/-- The targets, in an image. -/
def discoverTargets
    (image : ImageView)
    (host : Host) :
    Target → TargetResult :=
  let bytes := host.bytes
  let cleanroomFingerprint :=
    evaluateCleanroomFingerprint host.processPath host.file
  fun
  | .handleRbuttonUp =>
      discoverHandleRButtonUp image bytes cleanroomFingerprint
  | .getSpellLevelNeeded =>
      discoverGetSpellLevelNeeded image bytes
  | .isClassUsablePredicate =>
      discoverIsClassUsablePredicate image bytes cleanroomFingerprint
  | .canEquip =>
      discoverCanEquip image bytes cleanroomFingerprint
  | .invSlotMgrMoveItem =>
      discoverRuntimeExportTarget image bytes host.moveItemExport
  | .spellbookDispatcher =>
      discoverSpellbookDispatcher image bytes cleanroomFingerprint
  | .startSpellScribePath =>
      discoverStartSpellScribePath image bytes cleanroomFingerprint
  | .startSpellScribePrecheckModeGetter =>
      discoverStartSpellScribePrecheckModeGetter image bytes
        cleanroomFingerprint
  | .startSpellScribePrecheckGate =>
      discoverStartSpellScribePrecheckGate image bytes cleanroomFingerprint
  | .startSpellScribePrecheckLookup =>
      discoverStartSpellScribePrecheckLookup image bytes cleanroomFingerprint
  | .startSpellScribePrecheckFastAccept =>
      discoverStartSpellScribePrecheckFastAccept image bytes
        cleanroomFingerprint
  | .startSpellScribePrecheckClassResolver =>
      discoverStartSpellScribePrecheckClassResolver image bytes
        cleanroomFingerprint
  | .startSpellScribePrecheckAssignedMaskGetter =>
      discoverStartSpellScribePrecheckAssignedMaskGetter image bytes
        cleanroomFingerprint
  | .startSpellScribePrecheckRule4462c0 =>
      discoverStartSpellScribePrecheckRule4462c0 image bytes
        cleanroomFingerprint
  | .startSpellScribePrecheckRule446190 =>
      discoverStartSpellScribePrecheckRule446190 image bytes
        cleanroomFingerprint
  | .startSpellScribePrecheckRule446200 =>
      discoverStartSpellScribePrecheckRule446200 image bytes
        cleanroomFingerprint
  | .startSpellScribePrecheckRule446380 =>
      discoverStartSpellScribePrecheckRule446380 image bytes
        cleanroomFingerprint
  | .canStartMemming =>
      discoverCanStartMemming image bytes
  | .spellbookMemorizeSendPath =>
      discoverSpellbookMemorizeSendPath image bytes cleanroomFingerprint
  | .startSpellMemorizationPath =>
      discoverStartSpellMemorizationPath image bytes cleanroomFingerprint
  | .memorizeSendPacketWrapper =>
      discoverMemorizeSendPacketWrapper image bytes cleanroomFingerprint

/-- `Run` -/
def run
    (discoveryAllowed fingerprintMatched : Bool)
    (host : Host) :
    Result :=
  if !discoveryAllowed then
    { reason :=
        if fingerprintMatched then
          "skipped because capability manifest denied spell usability discovery"
        else
          "skipped because ROF2 fingerprint did not match"
      targets := fun _ =>
        buildCapabilityDeniedTarget
          (if fingerprintMatched then
            "capability_denied"
          else
            "fingerprint_mismatch") }
  else
    match buildImageView host.module host.bytes with
    | none =>
        { allowed := true
          reason := "failed because host PE image unavailable"
          targets := fun _ => buildImageUnavailableTarget }
    | some image =>
        { allowed := true
          reason :=
            "resolver=" ++ kResolverVersion ++ " packet_id=" ++ kPacketId ++
              " known_non_export_targets=cleanroom_or_fail_closed" ++
              " runtime_export_targets=CInvSlotMgr::MoveItem"
          targets := discoverTargets image host }

/-- What the proxy calls. -/
inductive Call where
  | init
  | run (discoveryAllowed fingerprintMatched : Bool) (host : Host)
  | shutdown

/-- `Initialize`, `Run` and `Shutdown` on `g_result`. -/
def step (_ : Result) : Call → Result
  | .init => { reason := "initialized" }
  | .run discoveryAllowed fingerprintMatched host =>
      run discoveryAllowed fingerprintMatched host
  | .shutdown => { reason := "shutdown" }

end MonomythClient.SpellUsabilityDiscovery
