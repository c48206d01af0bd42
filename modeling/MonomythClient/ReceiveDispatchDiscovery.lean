import MonomythClient.ByteText
import MonomythClient.ModuleImages

namespace MonomythClient.ReceiveDispatchDiscovery

open ByteText FlatMemory ModuleImages ReadFootprints RelocatedBytes

/-!
# Discovery of the receive dispatcher

The packet hooks need the function of the game that dispatches received
packets.  Its place is known for one build; the discovery looks there and checks
that the code has the shape it should: comparisons and branches where packets
are told apart, the path for unknown messages, two calls that lead to the
function, and its epilogue.  A message text is looked for as well, but only
reported.
-/

/-! ## Places -/

def kDispatcherEntry : UInt32 := 0x000c3250
def kCompareTree : UInt32 := 0x000c3317
def kUnknownMessagePath : UInt32 := 0x000d3f4e
def kEpilogue : UInt32 := 0x000d40c7
def kFeederCallA : UInt32 := 0x0006240d
def kFeederCallB : UInt32 := 0x001427a7
def kEntryDispatchScanBytes : Nat := 0x1000
def kCompareTreeScanBytes : Nat := 0x400
def kUnknownMessageEvidenceScanBytes : Nat := 0x300
def kEpilogueScanBytes : Nat := 0x40

/-- With the zero byte that ends it. -/
def kUnknownMessageString : List UInt8 :=
  ascii "Received unknown message #%i (0x%x) (%s)!" ++ [0]

/-! ## Results -/

inductive State where
  | unavailable
  | skippedByCapability
  | candidateFound
  | validated
  | failed
  | shutdown
  deriving Repr, DecidableEq

structure Result where
  state : State := .unavailable
  validated : Bool := false
  moduleBase : UInt32 := 0
  candidateRva : UInt32 := 0
  candidateAddress : UInt32 := 0
  reason : String := "not run"
  checks : String := "not run"
  deriving Repr, DecidableEq

inductive CheckDisposition where
  | pass
  | fail
  | advisoryPass
  | advisoryFail
  | skipped
  deriving Repr, DecidableEq

/-- `CheckDispositionName` -/
def CheckDisposition.name : CheckDisposition → String
  | .pass => "pass"
  | .fail => "fail"
  | .advisoryPass => "advisory_pass"
  | .advisoryFail => "advisory_fail"
  | .skipped => "skipped"

structure CheckStatus where
  name : String
  disposition : CheckDisposition := .skipped
  detail : String := "not evaluated"
  deriving Repr, DecidableEq

/-- `SummarizeChecks` -/
def summarizeChecks (checks : List CheckStatus) : String :=
  "; ".intercalate
    (checks.map fun check =>
      check.name ++ "=" ++ check.disposition.name ++ "(" ++ check.detail ++
        ")")

/-! ## Local code -/

/-- `IsCompareLikeByte` -/
def isCompareLikeByte (byte : UInt8) : Bool :=
  byte == 0x3d || byte == 0x39 || byte == 0x3b || byte == 0x81 ||
    byte == 0x83 || byte == 0x85

/-- `IsBranchLikeAt` -/
def isBranchLikeAt
    (code : Nat → UInt8)
    (index scanSize : Nat) : Bool :=
  if scanSize ≤ index then
    false
  else
    (decide (0x70 ≤ code index) && decide (code index ≤ 0x7f)) ||
      (code index == 0x0f && decide (index + 1 < scanSize) &&
        decide (0x80 ≤ code (index + 1)) && decide (code (index + 1) ≤ 0x8f))

structure LocalCodeEvidence where
  compareLike : Nat := 0
  branchLike : Nat := 0
  directCall : Bool := false
  stackSetup : Bool := false
  deriving Repr, DecidableEq

/-- A byte at which a call may begin. -/
def isDirectCallAt (code : Nat → UInt8) (index scanSize : Nat) : Bool :=
  code index == 0xe8 && decide (index + 5 ≤ scanSize)

/-- A byte at which the stack may be set up. -/
def isStackSetupAt (code : Nat → UInt8) (index scanSize : Nat) : Bool :=
  let byte := code index
  let pushImmediate := byte == 0x68 || byte == 0x6a
  let subEspImm8 :=
    byte == 0x83 && decide (index + 2 < scanSize) && code (index + 1) == 0xec
  let subEspImm32 :=
    byte == 0x81 && decide (index + 5 < scanSize) && code (index + 1) == 0xec
  let movStackSlot :=
    byte == 0xc7 && decide (index + 2 < scanSize) && code (index + 1) == 0x44
  pushImmediate || subEspImm8 || subEspImm32 || movStackSlot

/-- One pass of the loop of `AnalyzeLocalCodeEvidence`. -/
def LocalCodeEvidence.note
    (code : Nat → UInt8)
    (scanSize : Nat)
    (evidence : LocalCodeEvidence)
    (index : Nat) :
    LocalCodeEvidence where
  compareLike :=
    if isCompareLikeByte (code index) then
      evidence.compareLike + 1
    else
      evidence.compareLike
  branchLike :=
    if isBranchLikeAt code index scanSize then
      evidence.branchLike + 1
    else
      evidence.branchLike
  directCall :=
    evidence.directCall || isDirectCallAt code index scanSize
  stackSetup :=
    evidence.stackSetup || isStackSetupAt code index scanSize

/-- `AnalyzeLocalCodeEvidence` -/
def analyzeLocalCodeEvidence
    (code : Nat → UInt8)
    (scanSize : Nat) :
    LocalCodeEvidence :=
  (List.range scanSize).foldl (LocalCodeEvidence.note code scanSize) {}

/-! ## Checks -/

section Checks

variable (image : ImageView) (bytes : Nat → UInt8)

/-- `RvaToPtr`: the code from there on, if a section has it. -/
def rvaToPtr
    (rva : UInt32)
    (length : Nat)
    (requiredCharacteristics : UInt32) :
    Option (Nat → UInt8) :=
  (findSection image rva length requiredCharacteristics).map fun _ =>
    codeAt bytes rva

/-- `FindUnknownMessageString`: the RVA of the text. -/
def findUnknownMessageString : Option UInt32 :=
  image.sections.findSome? fun header =>
    if header.characteristics &&& IMAGE_SCN_MEM_READ = 0 ∨
        header.characteristics &&& IMAGE_SCN_MEM_EXECUTE ≠ 0 ∨
        (sectionSpan header).toNat < kUnknownMessageString.length then
      none
    else
      (searchBytes (codeAt bytes header.virtualAddress)
          (sectionSpan header).toNat kUnknownMessageString).map fun index =>
        header.virtualAddress + UInt32.ofNat index

/-- `HasRet10Epilogue` -/
def hasRet10Epilogue (codeSection : ImageSectionHeader) : Bool :=
  let sectionEnd := codeSection.virtualAddress + sectionSpan codeSection
  if sectionEnd ≤ kDispatcherEntry then
    false
  else if kEpilogue < kDispatcherEntry ∨ sectionEnd ≤ kEpilogue then
    false
  else
    let available := (sectionEnd - kEpilogue).toNat
    let scanSize := min kEpilogueScanBytes available
    (searchBytes (codeAt bytes kEpilogue) scanSize
      [0xc2, 0x10, 0x00]).isSome

/-- `ValidateDirectCall` -/
def validateDirectCall (callRva expectedTarget : UInt32) : Bool :=
  match rvaToPtr image bytes callRva 5 IMAGE_SCN_MEM_EXECUTE with
  | none => false
  | some call =>
      call 0 == 0xe8 &&
        image.base + callRva + 5 + readLe32 call 1 == expectedTarget

/-- `HasDispatchLikeLocalShape` -/
def hasDispatchLikeLocalShape
    (startRva : UInt32)
    (requestedScanSize : Nat) : Bool :=
  match findSection image startRva 1 IMAGE_SCN_MEM_EXECUTE with
  | none => false
  | some codeSection =>
      let sectionEnd :=
        codeSection.virtualAddress + sectionSpan codeSection
      if sectionEnd ≤ startRva then
        false
      else
        let available := (sectionEnd - startRva).toNat
        let scanSize := min requestedScanSize available
        let evidence :=
          analyzeLocalCodeEvidence (codeAt bytes startRva) scanSize
        decide (4 ≤ evidence.compareLike) && decide (4 ≤ evidence.branchLike)

structure UnknownMessagePathEvidence where
  pathInImage : Bool := false
  compare : Bool := false
  branch : Bool := false
  call : Bool := false
  stackSetup : Bool := false
  stringReference : Bool := false
  deriving Repr, DecidableEq

/-- `YesNo` -/
def yesNo (value : Bool) : String :=
  if value then "yes" else "no"

/-- `DescribeUnknownMessagePathEvidence` -/
def UnknownMessagePathEvidence.describe
    (evidence : UnknownMessagePathEvidence) :
    String :=
  "path_in_image=" ++ yesNo evidence.pathInImage ++
    ", compare=" ++ yesNo evidence.compare ++
    ", branch=" ++ yesNo evidence.branch ++
    ", call=" ++ yesNo evidence.call ++
    ", stack_setup=" ++ yesNo evidence.stackSetup ++
    ", string_reference=" ++ yesNo evidence.stringReference

/-- `EvaluateUnknownMessagePathEvidence` -/
def evaluateUnknownMessagePathEvidence
    (unknownMessage : Option UInt32) :
    UnknownMessagePathEvidence :=
  match
    rvaToPtr image bytes kUnknownMessagePath kUnknownMessageEvidenceScanBytes
      IMAGE_SCN_MEM_EXECUTE with
  | none => {}
  | some path =>
      let evidence :=
        analyzeLocalCodeEvidence path kUnknownMessageEvidenceScanBytes
      { pathInImage := true
        compare := decide (1 ≤ evidence.compareLike)
        branch := decide (1 ≤ evidence.branchLike)
        call := evidence.directCall
        stackSetup := evidence.stackSetup
        stringReference :=
          match unknownMessage with
          | none => false
          | some rva =>
              (searchBytes path kUnknownMessageEvidenceScanBytes
                (LittleEndian.bytes32 (image.base + rva))).isSome }

/-- `IsUnknownMessagePathValidated` -/
def UnknownMessagePathEvidence.isValidated
    (evidence : UnknownMessagePathEvidence) : Bool :=
  evidence.pathInImage && evidence.compare && evidence.branch &&
    evidence.call && evidence.stackSetup

end Checks

/-! ## The candidate -/

/-- `MakeFailure` -/
def makeFailure (partialResult : Result) (reason : String) : Result :=
  { partialResult with
    state := .failed
    validated := false
    reason := reason }

/-- The checks before any of them is made. -/
def initialChecks : List CheckStatus :=
  [{ name := "candidate_range" },
    { name := "candidate_executable" },
    { name := "entry_dispatch_shape" },
    { name := "compare_tree_shape" },
    { name := "unknown_message_string" },
    { name := "unknown_message_path" },
    { name := "feeder_calls" },
    { name := "ret10_epilogue" }]

/-- `SetCheck` -/
def setCheck
    (checks : List CheckStatus)
    (index : Nat)
    (name : String)
    (disposition : CheckDisposition)
    (detail : String) :
    List CheckStatus :=
  checks.set index ⟨name, disposition, detail⟩

/-- A failure with the checks that were made. -/
def failWith
    (result : Result)
    (checks : List CheckStatus)
    (reason : String) :
    Result :=
  makeFailure { result with checks := summarizeChecks checks } reason

/-- `ValidateCandidate` from the check of the unknown-message path on. -/
def validateMessagePath
    (image : ImageView)
    (bytes : Nat → UInt8)
    (codeSection : ImageSectionHeader)
    (result : Result)
    (checks : List CheckStatus) :
    Result :=
  let unknownMessage := findUnknownMessageString image bytes
  let checks :=
    match unknownMessage with
    | none =>
        setCheck checks 4 "unknown_message_string" .advisoryFail
          "unknown-message string not found in readable image section"
    | some _ =>
        setCheck checks 4 "unknown_message_string" .advisoryPass
          "unknown-message string found in readable image section"
  let unknownMessagePath :=
    evaluateUnknownMessagePathEvidence image bytes unknownMessage
  if !unknownMessagePath.isValidated then
    failWith result
      (setCheck checks 5 "unknown_message_path" .fail
        unknownMessagePath.describe)
      "structural validation failed: unknown-message path evidence missing near known RVA"
  else
    let checks :=
      setCheck checks 5 "unknown_message_path" .pass
        unknownMessagePath.describe
    if !validateDirectCall image bytes kFeederCallA
          result.candidateAddress ||
        !validateDirectCall image bytes kFeederCallB
          result.candidateAddress then
      failWith result
        (setCheck checks 6 "feeder_calls" .fail
          "known feeder callsites do not both target dispatcher candidate")
        "structural validation failed: known direct feeder callsites do not target candidate"
    else
      let checks :=
        setCheck checks 6 "feeder_calls" .pass
          "known feeder callsites both target dispatcher candidate"
      if !hasRet10Epilogue bytes codeSection then
        failWith result
          (setCheck checks 7 "ret10_epilogue" .fail
            "bounded scan near known epilogue RVA did not find ret 0x10")
          "structural validation failed: bounded ret 0x10 epilogue evidence missing near known RVA"
      else
        let checks :=
          setCheck checks 7 "ret10_epilogue" .pass
            "bounded scan near known epilogue RVA found ret 0x10"
        { result with
          state := .validated
          validated := true
          reason :=
            "structural validation succeeded: mandatory range, entry/compare-tree, unknown-message path, feeder calls, and ret10 epilogue checks passed"
          checks := summarizeChecks checks }

/-- `ValidateCandidate`, in the module at this address. -/
def validateCandidate (module : UInt32) (bytes : Nat → UInt8) : Result :=
  match buildImageView module bytes with
  | none => failWith {} initialChecks "host PE image unavailable"
  | some image =>
      let result : Result :=
        { moduleBase := image.base
          candidateRva := kDispatcherEntry
          candidateAddress := image.base + kDispatcherEntry }
      if !isRangeWithinImage image kDispatcherEntry 1 then
        failWith result
          (setCheck initialChecks 0 "candidate_range" .fail
            "dispatcher entry RVA resolves outside loaded module image")
          "candidate RVA resolves outside loaded module image"
      else
        let checks :=
          setCheck initialChecks 0 "candidate_range" .pass
            "dispatcher entry RVA resolves inside loaded module image"
        match findSection image kDispatcherEntry 1 IMAGE_SCN_MEM_EXECUTE with
        | none =>
            failWith result
              (setCheck checks 1 "candidate_executable" .fail
                "dispatcher entry RVA is not in an executable image section")
              "candidate RVA is not in executable image section"
        | some codeSection =>
            let checks :=
              setCheck checks 1 "candidate_executable" .pass
                "dispatcher entry RVA is in an executable image section"
            let result := { result with state := .candidateFound }
            if !hasDispatchLikeLocalShape image bytes kDispatcherEntry
                kEntryDispatchScanBytes then
              failWith result
                (setCheck checks 2 "entry_dispatch_shape" .fail
                  "entry-adjacent compare/branch evidence missing")
                "structural validation failed: candidate missing entry-adjacent dispatch evidence"
            else
              let checks :=
                setCheck checks 2 "entry_dispatch_shape" .pass
                  "entry-adjacent compare/branch evidence present"
              if !hasDispatchLikeLocalShape image bytes kCompareTree
                  kCompareTreeScanBytes then
                failWith result
                  (setCheck checks 3 "compare_tree_shape" .fail
                    "known compare-tree RVA range missing compare/branch evidence")
                  "structural validation failed: known compare-tree evidence missing near dispatcher"
              else
                validateMessagePath image bytes codeSection result
                  (setCheck checks 3 "compare_tree_shape" .pass
                    "known compare-tree RVA range shows compare/branch evidence")

/-! ## Calls of the discovery -/

/-- What `PublishCapabilitiesWithDiscovery` and the proxy's shutdown call; a
run finds a module in memory. -/
inductive Call where
  | init
  | run
      (enhancementDiscoveryAllowed : Bool)
      (module : UInt32)
      (bytes : Nat → UInt8)
  | shutdown

/-- `Initialize`, `Run` and `Shutdown` on `g_result`. -/
def step (result : Result) : Call → Result
  | .init =>
      { state := .unavailable
        reason := "initialized"
        checks := "initialized" }
  | .run enhancementDiscoveryAllowed module bytes =>
      if enhancementDiscoveryAllowed then
        validateCandidate module bytes
      else
        { state := .skippedByCapability
          reason :=
            "skipped because capability manifest denied enhancement discovery"
          checks :=
            "candidate_range=skipped(capability gate denied discovery)" }
  | .shutdown =>
      if result.state = .unavailable ∨ result.state = .shutdown then
        result
      else
        { state := .shutdown, reason := "shutdown", checks := "shutdown" }

/-! ## Evidence -/

/-- The loop counts and notices what there is at each place. -/
theorem foldl_note
    (code : Nat → UInt8)
    (scanSize : Nat)
    (places : List Nat)
    (evidence : LocalCodeEvidence) :
    places.foldl (LocalCodeEvidence.note code scanSize) evidence =
      { compareLike :=
          evidence.compareLike +
            places.countP fun index => isCompareLikeByte (code index)
        branchLike :=
          evidence.branchLike +
            places.countP fun index => isBranchLikeAt code index scanSize
        directCall :=
          evidence.directCall ||
            places.any fun index => isDirectCallAt code index scanSize
        stackSetup :=
          evidence.stackSetup ||
            places.any fun index => isStackSetupAt code index scanSize } := by
  induction places generalizing evidence with
  | nil =>
      simp
  | cons place later inductionHypothesis =>
      rw [List.foldl_cons, inductionHypothesis]
      simp only [LocalCodeEvidence.note, List.countP_cons, List.any_cons,
        Bool.or_assoc, LocalCodeEvidence.mk.injEq, and_true]
      constructor
      · cases isCompareLikeByte (code place) with
        | false =>
            simp
        | true =>
            simp only [if_true]
            omega
      · cases isBranchLikeAt code place scanSize with
        | false =>
            simp
        | true =>
            simp only [if_true]
            omega

/-- So the evidence is a count of all places. -/
theorem analyzeLocalCodeEvidence_eq (code : Nat → UInt8) (scanSize : Nat) :
    analyzeLocalCodeEvidence code scanSize =
      { compareLike :=
          (List.range scanSize).countP fun index =>
            isCompareLikeByte (code index)
        branchLike :=
          (List.range scanSize).countP fun index =>
            isBranchLikeAt code index scanSize
        directCall :=
          (List.range scanSize).any fun index =>
            isDirectCallAt code index scanSize
        stackSetup :=
          (List.range scanSize).any fun index =>
            isStackSetupAt code index scanSize } := by
  rw [analyzeLocalCodeEvidence, foldl_note]
  simp

/-- A section's end, where it lies behind a place of the section. -/
theorem sectionEnd_toNat
    {header : ImageSectionHeader}
    {rva : UInt32}
    (start : header.virtualAddress.toNat ≤ rva.toNat)
    (behind :
      ¬ header.virtualAddress + sectionSpan header ≤ rva) :
    (header.virtualAddress + sectionSpan header).toNat = header.limit := by
  rw [UInt32.not_le, UInt32.lt_iff_toNat_lt, UInt32.toNat_add] at behind
  have firstBound := header.virtualAddress.toNat_lt
  have spanBound := (sectionSpan header).toNat_lt
  rw [UInt32.toNat_add]
  unfold ImageSectionHeader.limit
  omega

end MonomythClient.ReceiveDispatchDiscovery
