import MonomythClient.FileSha256Digest
import MonomythClient.Gates
import MonomythClient.SpellUsabilityDiscovery

namespace MonomythClient.SpellUsabilityDiscovery

open FlatMemory Gates ModuleImages RelocatedBytes

/-!
# Evidence for the spell usability targets

What the discovery asks of a target is a list of gates, each with the failure
reason it gives.  For every host, a target is validated exactly when all of its
gates hold; otherwise its failure reason is that of the first one that fails.
The gates speak of the file's SHA-256 and of the sections of the image, not of
how these were computed.
-/

/-! ## The fingerprint -/

/-- All bytes of the file. -/
def FileReads.content (file : FileReads) : List UInt8 :=
  file.chunks.flatten

/-- A SHA-256 in digits. -/
def sha256Digits (content : List UInt8) : String :=
  String.ofList ((Sha256.digest content).flatMap hexDigits)

/-- What the executable has to be. -/
def fingerprintGates (host : Host) : List (Gate String) :=
  [ ⟨decide (host.processPath ≠ ""), "fingerprint_path_unavailable"⟩,
    ⟨host.file.opened && !host.file.fails,
      "fingerprint_sha256_unavailable"⟩,
    ⟨sha256Digits host.file.content == kExpectedEqgameSha256,
      "fingerprint_mismatch"⟩ ]

/-- The reason of a status that does not match. -/
def CleanroomFingerprintStatus.refusal
    (status : CleanroomFingerprintStatus) : Option String :=
  if !status.available || !status.matched then
    some status.failureReason
  else
    none

/-- Reading ends with a failure if a read fails. -/
theorem readLoop_fails
    {context : Sha256Context}
    {input : List UInt8}
    (absorbed : Absorbed context input)
    {chunks : List (List UInt8)}
    (nonempty : ∀ chunk ∈ chunks, chunk ≠ []) :
    readLoop context (chunks.map some ++ [none]) = some none := by
  induction chunks generalizing context input with
  | nil =>
      rfl
  | cons chunk rest hypothesis =>
      obtain ⟨between, isBetween, isAbsorbed⟩ := absorbed.update chunk
      rw [List.map_cons, List.cons_append, readLoop,
        if_neg (nonempty chunk List.mem_cons_self), isBetween]
      exact hypothesis isAbsorbed fun other member =>
        nonempty other (List.mem_cons_of_mem _ member)

/-- The digest is that of the content, if the file can be read. -/
theorem computeFileSha256_reads
    {path : String}
    (hasPath : path ≠ "")
    (file : FileReads) :
    computeFileSha256 path true file.opened file.reads =
      some
        (if file.opened && !file.fails then
          some (sha256Digits file.content)
        else
          none) := by
  have nonempty : ∀ chunk ∈ file.chunks, chunk ≠ [] := by
    rintro chunk member rfl
    exact absurd (file.sizes _ member).1 (by decide)
  unfold computeFileSha256 FileReads.reads
  rw [if_neg (by simpa using hasPath)]
  by_cases opens : file.opened = true
  · rw [if_neg (not_not.mpr opens), opens, Bool.true_and]
    by_cases fails : file.fails = true
    · rw [fails, if_pos rfl, readLoop_fails absorbed_init nonempty]
      rfl
    · rw [if_neg fails]
      obtain ⟨next, isNext, absorbed⟩ := absorbed_init.read nonempty []
      rw [isNext, (Bool.not_eq_true _).mp fails]
      simp only [Option.map_some, absorbed.final file.short,
        List.nil_append, Bool.not_false, if_true]
      rfl
  · rw [if_pos opens, (Bool.not_eq_true _).mp opens, Bool.false_and,
      if_neg Bool.false_ne_true]

/-- The status refuses for the first gate that fails. -/
theorem evaluateCleanroomFingerprint_refusal (host : Host) :
    (evaluateCleanroomFingerprint host.processPath host.file).refusal =
      refusal (fingerprintGates host) := by
  unfold evaluateCleanroomFingerprint fingerprintGates
  by_cases hasPath : host.processPath = ""
  · rw [if_pos hasPath, hasPath]
    rfl
  · rw [if_neg hasPath, computeFileSha256_reads hasPath,
      decide_eq_true hasPath, refusal_of_holds]
    by_cases reads : (host.file.opened && !host.file.fails) = true
    · rw [if_pos reads, reads, refusal_of_holds]
      simp only [CleanroomFingerprintStatus.refusal, Bool.not_true,
        Bool.false_or]
      cases sha256Digits host.file.content == kExpectedEqgameSha256 with
      | true =>
          rfl
      | false =>
          rfl
    · rw [if_neg reads, (Bool.not_eq_true _).mp reads]
      rfl

/-! ## Gates of a target -/

/-- What is wanted of a target. -/
inductive Wanted where
  /-- Its bytes at an RVA, and nothing else. -/
  | pinned (rva : UInt32) (entry : PinnedTarget)
  /-- Its bytes, and calls that lead from one RVA to another. -/
  | called
      (fingerprinted : Bool)
      (rva : UInt32)
      (entry : PinnedTarget)
      (calls : List (UInt32 × UInt32))
  /-- An export with a plausible beginning. -/
  | exported
  deriving DecidableEq

/-- What the discovery wants. -/
def wanted : Target → Wanted
  | .handleRbuttonUp =>
      .pinned kHandleRButtonUpRva kHandleRButtonUpEntryBytesPrefix
  | .isClassUsablePredicate =>
      .pinned kIsClassUsablePredicateRva kIsClassUsablePredicateEntryBytes
  | .canEquip =>
      .pinned kCanEquipRva kCanEquipEntryBytes
  | .invSlotMgrMoveItem =>
      .exported
  | .getSpellLevelNeeded =>
      .called false kGetSpellLevelNeededRva kGetSpellLevelNeededBytes []
  | .canStartMemming =>
      .called false kCanStartMemmingRva kCanStartMemmingEntryBytes
        [ (kCanStartMemmingCallsGetSpellLevelNeededAtRva,
            kGetSpellLevelNeededRva) ]
  | .spellbookDispatcher =>
      .called true kSpellbookDispatcherRva kSpellbookDispatcherEntryBytes
        [ (kSpellbookDispatcherCallsStartSpellScribePathAtRva,
            kStartSpellScribePathRva),
          (kSpellbookDispatcherCallsCanStartMemmingAtRva,
            kCanStartMemmingRva) ]
  | .startSpellScribePath =>
      .called true kStartSpellScribePathRva kStartSpellScribePathEntryBytes
        [ (kSpellbookDispatcherCallsStartSpellScribePathAtRva,
            kStartSpellScribePathRva),
          (kStartSpellScribePathCallsGetSpellLevelNeededAtRva,
            kGetSpellLevelNeededRva) ]
  | .startSpellScribePrecheckModeGetter =>
      .called true kStartSpellScribePrecheckModeGetterRva
        kStartSpellScribePrecheckModeGetterEntryBytes
        [ (kStartSpellScribePathCallsPrecheckModeGetterAtRva,
            kStartSpellScribePrecheckModeGetterRva) ]
  | .startSpellScribePrecheckGate =>
      .called true kStartSpellScribePrecheckGateRva
        kStartSpellScribePrecheckGateEntryBytes
        [ (kStartSpellScribePathCallsPrecheckGateAtRva,
            kStartSpellScribePrecheckGateRva) ]
  | .startSpellScribePrecheckLookup =>
      .called true kStartSpellScribePrecheckLookupRva
        kStartSpellScribePrecheckLookupEntryBytes
        [ (kStartSpellScribePathCallsPrecheckLookupAtRva,
            kStartSpellScribePrecheckLookupRva) ]
  | .startSpellScribePrecheckFastAccept =>
      .called true kStartSpellScribePrecheckFastAcceptRva
        kStartSpellScribePrecheckFastAcceptEntryBytes
        [ (kStartSpellScribePrecheckGateCallsFastAcceptAtRva,
            kStartSpellScribePrecheckFastAcceptRva) ]
  | .startSpellScribePrecheckClassResolver =>
      .called true kStartSpellScribePrecheckClassResolverRva
        kStartSpellScribePrecheckClassResolverEntryBytes
        [ (kStartSpellScribePrecheckGateCallsClassResolverAtRva,
            kStartSpellScribePrecheckClassResolverRva) ]
  | .startSpellScribePrecheckAssignedMaskGetter =>
      .called true kStartSpellScribePrecheckAssignedMaskGetterRva
        kStartSpellScribePrecheckAssignedMaskGetterEntryBytes
        [ (kStartSpellScribePrecheckGateCallsAssignedMaskGetterAtRva,
            kStartSpellScribePrecheckAssignedMaskGetterRva) ]
  | .startSpellScribePrecheckRule4462c0 =>
      .called true kStartSpellScribePrecheckRule4462c0Rva
        kStartSpellScribePrecheckRule4462c0EntryBytes
        [ (kStartSpellScribePrecheckGateCallsRule4462c0AtRva,
            kStartSpellScribePrecheckRule4462c0Rva) ]
  | .startSpellScribePrecheckRule446190 =>
      .called true kStartSpellScribePrecheckRule446190Rva
        kStartSpellScribePrecheckRule446190EntryBytes
        [ (kStartSpellScribePrecheckGateCallsRule446190AtRva,
            kStartSpellScribePrecheckRule446190Rva) ]
  | .startSpellScribePrecheckRule446200 =>
      .called true kStartSpellScribePrecheckRule446200Rva
        kStartSpellScribePrecheckRule446200EntryBytes
        [ (kStartSpellScribePrecheckGateCallsRule446200AtRva,
            kStartSpellScribePrecheckRule446200Rva) ]
  | .startSpellScribePrecheckRule446380 =>
      .called true kStartSpellScribePrecheckRule446380Rva
        kStartSpellScribePrecheckRule446380EntryBytes
        [ (kStartSpellScribePrecheckGateCallsRule446380AtRva,
            kStartSpellScribePrecheckRule446380Rva) ]
  | .spellbookMemorizeSendPath =>
      .called true kSpellbookMemorizeSendPathRva
        kSpellbookMemorizeSendPathEntryBytes
        [ (kSpellbookMemorizeSendPathCallsMemorizeSendPacketWrapperAtRva,
            kMemorizeSendPacketWrapperRva) ]
  | .startSpellMemorizationPath =>
      .called true kStartSpellMemorizationPathRva
        kStartSpellMemorizationPathEntryBytes
        [ (kSpellbookDispatcherCallsStartSpellMemorizationPathAtRva,
            kStartSpellMemorizationPathRva) ]
  | .memorizeSendPacketWrapper =>
      .called true kMemorizeSendPacketWrapperRva
        kMemorizeSendPacketWrapperEntryBytes
        [ (kStartSpellScribeLikeCallsMemorizeSendPacketWrapperAtRva,
            kMemorizeSendPacketWrapperRva) ]

section Gates

variable (image : ImageView) (host : Host)

/-- The call at each place leads where it should. -/
def callsLead (calls : List (UInt32 × UInt32)) : Bool :=
  calls.all fun call =>
    callAtRvaTargets image host.bytes call.1 (image.base + call.2)

/-- The gates of what is wanted, in an image. -/
def Wanted.gates : Wanted → List (Gate String)
  | .pinned rva entry =>
      fingerprintGates host ++
        [ ⟨isRangeWithinImage image rva entry.length &&
              image.base + rva != 0,
            "rva_out_of_range"⟩,
          ⟨decide (ExecutableAt image rva), "non_executable_target"⟩,
          ⟨bytesMatchAtRva image host.bytes rva entry,
            "entry_bytes_mismatch"⟩ ]
  | .called fingerprinted rva entry calls =>
      (if fingerprinted then fingerprintGates host else []) ++
        [ ⟨isRangeWithinImage image rva entry.length,
            "missing_cleanroom_target"⟩,
          ⟨decide (ExecutableAt image rva), "non_executable_target"⟩,
          ⟨bytesMatchAtRva image host.bytes rva entry &&
              callsLead image host calls,
            "unsupported_prologue"⟩ ]
  | .exported =>
      [ ⟨host.moveItemExport != 0, "runtime_export_missing"⟩,
        ⟨isExecutableAddress image host.moveItemExport,
          "runtime_export_non_executable"⟩,
        ⟨hasPlausibleX86Prologue
            (codeAt host.bytes (host.moveItemExport - image.base)) 8,
          "runtime_export_unsupported_prologue"⟩ ]

end Gates

/-- The gates of a target in the module of a host. -/
def imageGates (host : Host) (target : Target) : List (Gate String) :=
  match buildImageView host.module host.bytes with
  | none => [⟨false, "image_view_unavailable"⟩]
  | some image => (wanted target).gates image host

/-- All gates of a target, for a run. -/
def targetGates
    (discoveryAllowed fingerprintMatched : Bool)
    (host : Host)
    (target : Target) :
    List (Gate String) :=
  ⟨discoveryAllowed,
      if fingerprintMatched then
        "capability_denied"
      else
        "fingerprint_mismatch"⟩ ::
    imageGates host target

/-- A target as a verdict. -/
def TargetResult.verdict (target : TargetResult) : Verdict String where
  accepted := target.state == .validated
  safe := target.traceSafe
  reason := target.failureReason

/-- A target is what its gates say. -/
abbrev Decided
    (target : TargetResult)
    (gates : List (Gate String)) : Prop :=
  target.verdict.Decided gates

/-! ## Executable places -/

/-- An address is executable when its place is. -/
theorem isExecutableAddress_iff
    {image : ImageView}
    {rva : UInt32} :
    isExecutableAddress image (image.base + rva) = true ↔
      ExecutableAt image rva := by
  unfold isExecutableAddress ExecutableAt
  by_cases wraps : image.base + rva < image.base
  · rw [if_pos wraps]
    constructor
    · intro impossible
      cases impossible
    · rintro ⟨fits, _⟩
      have tooLarge := (add_lt_iff _ _).mp wraps
      omega
  · rw [if_neg wraps, add_sub_base, findSection_isSome_iff]
    have fits : image.base.toNat + rva.toNat < 2 ^ 32 := by
      rw [add_lt_iff] at wraps
      omega
    exact (and_iff_right fits).symm

/-- A candidate that wraps around is none, so it is not executable. -/
theorem buildCandidate_executable
    {image : ImageView}
    (isModule : image.base ≠ 0)
    (evidenceSource : EvidenceSource)
    (rva : UInt32) :
    ((buildCandidate image evidenceSource (image.base + rva)).address != 0 &&
        isExecutableAddress image
          (buildCandidate image evidenceSource (image.base + rva)).address) =
      decide (ExecutableAt image rva) := by
  unfold buildCandidate
  by_cases wraps : image.base + rva < image.base
  · have fails : ¬ ExecutableAt image rva := by
      rintro ⟨fits, _⟩
      have tooLarge := (add_lt_iff _ _).mp wraps
      omega
    rw [if_pos (.inr wraps), decide_eq_false fails]
    rfl
  · have isAddress : image.base + rva ≠ 0 := by
      intro isZero
      rw [isZero, UInt32.not_lt] at wraps
      exact isModule (UInt32.le_antisymm wraps (UInt32.zero_le))
    rw [if_neg (not_or.mpr ⟨isAddress, wraps⟩), Bool.eq_iff_iff,
      Bool.and_eq_true, bne_iff_ne, isExecutableAddress_iff,
      decide_eq_true_iff]
    exact and_iff_right isAddress

/-- The RVA of a candidate that is executable is the one it was built for. -/
theorem buildCandidate_rva
    {image : ImageView}
    (isModule : image.base ≠ 0)
    (evidenceSource : EvidenceSource)
    {rva : UInt32}
    (executable : ExecutableAt image rva) :
    (buildCandidate image evidenceSource (image.base + rva)).rva = rva := by
  have behind : ¬ image.base + rva < image.base := by
    rw [add_lt_iff]
    exact Nat.not_le.mpr executable.1
  have isAddress : image.base + rva ≠ 0 := by
    intro isZero
    rw [isZero, UInt32.not_lt] at behind
    exact isModule (UInt32.le_antisymm behind (UInt32.zero_le))
  unfold buildCandidate
  rw [if_neg (not_or.mpr ⟨isAddress, behind⟩)]
  exact add_sub_base image.base rva

/-! ## Entry bytes -/

/-- No operand that the matcher can see through lies on a byte. -/
def StaysPut (entry : PinnedTarget) (offset : Nat) : Prop :=
  ∀ place < entry.length,
    ∀ opcodeBytes ∈
        recognisedOpcodes relocatableForms entry.expected place,
      ¬ (place + opcodeBytes ≤ offset ∧ offset < place + opcodeBytes + 4)

instance (entry : PinnedTarget) (offset : Nat) :
    Decidable (StaysPut entry offset) :=
  inferInstanceAs (Decidable (∀ place < entry.length, _))

/-- Bytes that match are inside the image. -/
theorem inside_of_bytesMatch
    {image : ImageView}
    {bytes : Nat → UInt8}
    {rva : UInt32}
    {entry : PinnedTarget}
    (isMatch : bytesMatchAtRva image bytes rva entry = true) :
    rva.toNat + entry.length ≤ image.imageSize.toNat := by
  unfold bytesMatchAtRva at isMatch
  split at isMatch
  · cases isMatch
  · rename_i inside
    simp only [Bool.or_eq_true, decide_eq_true_eq, Bool.not_eq_true',
      not_or, Bool.not_eq_false] at inside
    have inRange := inside.2
    unfold isRangeWithinImage at inRange
    split at inRange
    · cases inRange
    · exact of_decide_eq_true inRange

/-- A byte that stays put is the pinned one where the bytes match. -/
theorem byte_of_bytesMatch
    {image : ImageView}
    {bytes : Nat → UInt8}
    {rva : UInt32}
    {entry : PinnedTarget}
    (isMatch : bytesMatchAtRva image bytes rva entry = true)
    {offset : Nat}
    (inside : offset < entry.length)
    (stays : StaysPut entry offset) :
    codeAt bytes rva offset = entry.expected offset := by
  unfold bytesMatchAtRva at isMatch
  split at isMatch
  · cases isMatch
  · obtain ⟨places, relocation⟩ :=
      (RelocatedBytes.sound relocatableForms
        kExpectedEqgameImageBase).relocated _ _ _ _
          (beq_iff_eq.mp isMatch)
    by_contra differ
    obtain ⟨place, member, behind, within⟩ :=
      relocation.complete offset (Nat.zero_le _) inside differ
    obtain ⟨isForm, recognised⟩ := relocation.recognised place member
    have fits := (relocation.inside place member).2
    refine stays place.1 ?_ place.2.opcodeBytes ?_ ⟨behind, within⟩
    · unfold Form.consumed at fits
      omega
    · exact
        List.mem_map.mpr
          ⟨place.2, List.mem_filter.mpr ⟨isForm, recognised⟩, rfl⟩

/-- The pinned beginning of `GetSpellLevelNeeded` is a plausible one. -/
theorem plausible_of_bytesMatch
    {image : ImageView}
    {bytes : Nat → UInt8}
    (isMatch :
      bytesMatchAtRva image bytes kGetSpellLevelNeededRva
          kGetSpellLevelNeededBytes =
        true) :
    hasPlausibleX86Prologue (codeAt bytes kGetSpellLevelNeededRva) 8 =
      true := by
  have first :
      codeAt bytes kGetSpellLevelNeededRva 0 = 0x8b :=
    byte_of_bytesMatch isMatch (by decide) (by decide)
  unfold hasPlausibleX86Prologue
  rw [if_neg (by decide), first]
  split
  · rfl
  · rfl

/-! ## Discoveries and their gates -/

/-- A decision about a candidate. -/
theorem applyDecision_decided
    (image : ImageView)
    (candidate : CandidateSource)
    (fingerprintRvaFound candidateExecutable plausiblePrologue : Bool) :
    Decided
      (applyDecision image candidate
        (evaluateDecision
          { discoveryAllowed := true
            fingerprintMatched := true
            fingerprintRvaFound
            candidateExecutable
            plausiblePrologue }) {})
      [ ⟨fingerprintRvaFound, "missing_cleanroom_target"⟩,
        ⟨candidateExecutable, "non_executable_target"⟩,
        ⟨plausiblePrologue, "unsupported_prologue"⟩ ] := by
  cases fingerprintRvaFound with
  | false =>
      exact .failed rfl rfl rfl
  | true =>
      apply Verdict.Decided.gate rfl
      cases candidateExecutable with
      | false =>
          exact .failed rfl rfl rfl
      | true =>
          apply Verdict.Decided.gate rfl
          cases plausiblePrologue with
          | false =>
              exact .failed rfl rfl rfl
          | true =>
              exact .gate rfl (.passed rfl rfl)

section Discoveries

variable
  {image : ImageView}
  (host : Host)

/-- A discovery that ends with a decision. -/
theorem discoverByDecision_decided
    (isModule : image.base ≠ 0)
    {rva : UInt32}
    {entry : PinnedTarget}
    {shape : Bool → CandidateSource → Bool}
    {calls : List (UInt32 × UInt32)}
    (sameShape :
      bytesMatchAtRva image host.bytes rva entry = true →
        ∀ candidate : CandidateSource,
          candidate.rva = rva →
            shape true candidate = callsLead image host calls) :
    Decided (discoverByDecision image host.bytes rva entry shape)
      [ ⟨isRangeWithinImage image rva entry.length,
          "missing_cleanroom_target"⟩,
        ⟨decide (ExecutableAt image rva), "non_executable_target"⟩,
        ⟨bytesMatchAtRva image host.bytes rva entry &&
            callsLead image host calls,
          "unsupported_prologue"⟩ ] := by
  unfold discoverByDecision resolveRvaAddress
  refine (applyDecision_decided ..).congr ?_
  cases isRangeWithinImage image rva entry.length with
  | false =>
      rfl
  | true =>
      simp only [if_true, Option.getD_some, Option.isSome_some,
        Bool.true_and, refusal_of_holds,
        buildCandidate_executable isModule]
      by_cases executable : ExecutableAt image rva
      · simp only [decide_eq_true executable, refusal_of_holds]
        cases isMatch : bytesMatchAtRva image host.bytes rva entry with
        | false =>
            rfl
        | true =>
            rw [sameShape isMatch _
              (buildCandidate_rva isModule .fingerprintRva executable)]
      · simp only [decide_eq_false executable, refusal_of_fails]

/-- A discovery behind the fingerprint. -/
theorem discoverBehindFingerprint_decided
    {discovered : TargetResult}
    {later : List (Gate String)}
    (decided : Decided discovered later) :
    Decided
      (discoverBehindFingerprint
        (evaluateCleanroomFingerprint host.processPath host.file)
        discovered)
      (fingerprintGates host ++ later) := by
  have isStatus := evaluateCleanroomFingerprint_refusal host
  unfold CleanroomFingerprintStatus.refusal at isStatus
  unfold discoverBehindFingerprint
  split at isStatus
  · rename_i refused
    rw [if_pos refused]
    have failed :
        Decided
          { state := .failed
            validation := "failed"
            failureReason :=
              (evaluateCleanroomFingerprint host.processPath
                host.file).failureReason }
          (⟨false, _⟩ :: later) :=
      .failed rfl rfl rfl
    refine failed.congr ?_
    rw [refusal_append, ← isStatus, refusal_of_fails]
    rfl
  · rename_i passes
    rw [if_neg passes]
    refine decided.congr ?_
    rw [refusal_append, ← isStatus]
    rfl

/-- A discovery of pinned bytes and nothing else. -/
theorem discoverPinnedCleanroomTarget_decided
    (rva : UInt32)
    (entry : PinnedTarget) :
    Decided
      (discoverPinnedCleanroomTarget image host.bytes rva entry
        (evaluateCleanroomFingerprint host.processPath host.file))
      ((Wanted.pinned rva entry).gates image host) := by
  have isStatus := evaluateCleanroomFingerprint_refusal host
  unfold CleanroomFingerprintStatus.refusal at isStatus
  unfold discoverPinnedCleanroomTarget Wanted.gates resolveRvaAddress
  dsimp only
  split at isStatus
  · rename_i refused
    rw [if_pos refused]
    have sameGates : ∀ later : List (Gate String),
        refusal
            [⟨false,
              (evaluateCleanroomFingerprint host.processPath
                host.file).failureReason⟩] =
          refusal (fingerprintGates host ++ later) := by
      intro later
      rw [refusal_append, ← isStatus]
      rfl
    refine Verdict.Decided.congr (sameGates _) ?_
    exact .failed rfl rfl rfl
  · rename_i passes
    rw [if_neg passes]
    have sameGates : ∀ later : List (Gate String),
        refusal later = refusal (fingerprintGates host ++ later) := by
      intro later
      rw [refusal_append, ← isStatus]
      rfl
    refine Verdict.Decided.congr (sameGates _) ?_
    cases isRangeWithinImage image rva entry.length with
    | false =>
        exact .failed rfl rfl rfl
    | true =>
        simp only [if_true, Option.getD_some, Option.isNone_some,
          Bool.false_or, Bool.true_and]
        by_cases isNull : image.base + rva = 0
        · rw [if_pos (beq_iff_eq.mpr isNull), bne_eq_false_iff_eq.mpr isNull]
          exact .failed rfl rfl rfl
        · rw [if_neg (by simpa using isNull)]
          refine .gate (bne_iff_ne.mpr isNull) ?_
          by_cases executable : ExecutableAt image rva
          · rw [isExecutableAddress_iff.mpr executable]
            refine .gate (decide_eq_true executable) ?_
            cases bytesMatchAtRva image host.bytes rva entry with
            | false =>
                exact .failed rfl rfl rfl
            | true =>
                exact .gate rfl (.passed rfl rfl)
          · have isRefused :
                isExecutableAddress image (image.base + rva) = false := by
              rw [← Bool.not_eq_true, isExecutableAddress_iff]
              exact executable
            rw [isRefused, decide_eq_false executable]
            exact .failed rfl rfl rfl

/-- The discovery of an export. -/
theorem discoverRuntimeExportTarget_decided :
    Decided
      (discoverRuntimeExportTarget image host.bytes host.moveItemExport)
      (Wanted.exported.gates image host) := by
  unfold discoverRuntimeExportTarget Wanted.gates
  dsimp only
  by_cases isMissing : host.moveItemExport = 0
  · rw [if_pos isMissing, bne_eq_false_iff_eq.mpr isMissing]
    exact .failed rfl rfl rfl
  · rw [if_neg isMissing]
    refine .gate (bne_iff_ne.mpr isMissing) ?_
    cases isExecutableAddress image host.moveItemExport with
    | false =>
        exact .failed rfl rfl rfl
    | true =>
        refine .gate rfl ?_
        cases hasPlausibleX86Prologue
            (codeAt host.bytes (host.moveItemExport - image.base)) 8 with
        | false =>
            exact .failed rfl rfl rfl
        | true =>
            exact .gate rfl (.passed rfl rfl)

/-- One call, or two, are looked at one by one. -/
theorem callsLead_one (callRva calledRva : UInt32) :
    callAtRvaTargets image host.bytes callRva (image.base + calledRva) =
      callsLead image host [(callRva, calledRva)] :=
  (Bool.and_true _).symm

theorem callsLead_two
    (callRva calledRva otherRva otherCalledRva : UInt32) :
    (callAtRvaTargets image host.bytes callRva (image.base + calledRva) &&
        callAtRvaTargets image host.bytes otherRva
          (image.base + otherCalledRva)) =
      callsLead image host
        [(callRva, calledRva), (otherRva, otherCalledRva)] := by
  rw [callsLead_one host otherRva]
  rfl

/-- A target that is called from a pinned place. -/
theorem discoverNested_decided
    (isModule : image.base ≠ 0)
    (rva : UInt32)
    (entry : PinnedTarget)
    (callRva : UInt32) :
    Decided
      (discoverStartSpellScribeNestedPrecheckTarget image host.bytes
        (evaluateCleanroomFingerprint host.processPath host.file) rva entry
        callRva)
      ((Wanted.called true rva entry [(callRva, rva)]).gates image host) :=
  discoverBehindFingerprint_decided host
    (discoverByDecision_decided host isModule fun _ _ _ =>
      callsLead_one host callRva rva)

/-- A target whose call is looked at when it is executable. -/
theorem discoverExecutableCaller_decided
    (isModule : image.base ≠ 0)
    (rva : UInt32)
    (entry : PinnedTarget)
    (callRva calledRva : UInt32) :
    Decided
      (discoverExecutableCaller image host.bytes
        (evaluateCleanroomFingerprint host.processPath host.file) rva entry
        callRva calledRva)
      ((Wanted.called true rva entry [(callRva, calledRva)]).gates image
        host) :=
  discoverBehindFingerprint_decided host
    (discoverByDecision_decided host isModule fun _ _ _ =>
      callsLead_one host callRva calledRva)

/-- Two calls are looked at for the dispatcher and for the scribe path. -/
theorem discoverSpellbookDispatcher_decided (isModule : image.base ≠ 0) :
    Decided
      (discoverSpellbookDispatcher image host.bytes
        (evaluateCleanroomFingerprint host.processPath host.file))
      ((wanted .spellbookDispatcher).gates image host) :=
  discoverBehindFingerprint_decided host
    (discoverByDecision_decided host isModule fun _ _ _ =>
      callsLead_two host ..)

theorem discoverStartSpellScribePath_decided (isModule : image.base ≠ 0) :
    Decided
      (discoverStartSpellScribePath image host.bytes
        (evaluateCleanroomFingerprint host.processPath host.file))
      ((wanted .startSpellScribePath).gates image host) :=
  discoverBehindFingerprint_decided host
    (discoverByDecision_decided host isModule fun _ _ _ =>
      callsLead_two host ..)

/-- Two targets do not ask for the fingerprint. -/
theorem discoverGetSpellLevelNeeded_decided (isModule : image.base ≠ 0) :
    Decided (discoverGetSpellLevelNeeded image host.bytes)
      ((wanted .getSpellLevelNeeded).gates image host) := by
  refine discoverByDecision_decided host isModule ?_
  intro isMatch candidate sameRva
  rw [sameRva, plausible_of_bytesMatch isMatch]
  rfl

theorem discoverCanStartMemming_decided (isModule : image.base ≠ 0) :
    Decided (discoverCanStartMemming image host.bytes)
      ((wanted .canStartMemming).gates image host) :=
  discoverByDecision_decided host isModule fun _ _ _ =>
    callsLead_one host ..

/-- Every target is what its gates say, in an image. -/
theorem discoverTargets_decided
    (isModule : image.base ≠ 0)
    (target : Target) :
    Decided (discoverTargets image host target)
      ((wanted target).gates image host) := by
  cases target with
  | handleRbuttonUp | isClassUsablePredicate | canEquip =>
      exact discoverPinnedCleanroomTarget_decided host _ _
  | invSlotMgrMoveItem =>
      exact discoverRuntimeExportTarget_decided host
  | getSpellLevelNeeded =>
      exact discoverGetSpellLevelNeeded_decided host isModule
  | canStartMemming =>
      exact discoverCanStartMemming_decided host isModule
  | spellbookDispatcher =>
      exact discoverSpellbookDispatcher_decided host isModule
  | startSpellScribePath =>
      exact discoverStartSpellScribePath_decided host isModule
  | startSpellScribePrecheckModeGetter | startSpellScribePrecheckGate
  | startSpellScribePrecheckLookup | startSpellScribePrecheckFastAccept
  | startSpellScribePrecheckClassResolver
  | startSpellScribePrecheckAssignedMaskGetter
  | startSpellScribePrecheckRule4462c0 | startSpellScribePrecheckRule446190
  | startSpellScribePrecheckRule446200 | startSpellScribePrecheckRule446380 =>
      exact discoverNested_decided host isModule _ _ _
  | spellbookMemorizeSendPath | startSpellMemorizationPath
  | memorizeSendPacketWrapper =>
      exact discoverExecutableCaller_decided host isModule _ _ _ _

end Discoveries

/-! ## Every run -/

/-- A run that is allowed finds what there is in the module. -/
theorem run_allowed_decided
    (fingerprintMatched : Bool)
    (host : Host)
    (target : Target) :
    Decided ((run true fingerprintMatched host).targets target)
      (imageGates host target) := by
  unfold run imageGates
  simp only [Bool.not_true, Bool.false_eq_true, if_false]
  cases built : buildImageView host.module host.bytes with
  | none =>
      exact .failed rfl rfl rfl
  | some image =>
      obtain ⟨isModule, _, _, _, _, rfl⟩ := buildImageView_some built
      exact discoverTargets_decided host isModule target

/--
Whatever the host is, a run of the discovery validates a target exactly when
all of the target's gates hold, and otherwise gives the reason of the first
gate that fails; only what is validated is safe to trace.
-/
theorem spell_target_decided_by_gates
    (discoveryAllowed fingerprintMatched : Bool)
    (host : Host)
    (target : Target) :
    Decided
      ((run discoveryAllowed fingerprintMatched host).targets target)
      (targetGates discoveryAllowed fingerprintMatched host target) := by
  unfold targetGates
  cases discoveryAllowed with
  | false =>
      exact .failed rfl rfl rfl
  | true =>
      exact .gate rfl (run_allowed_decided fingerprintMatched host target)

end MonomythClient.SpellUsabilityDiscovery
