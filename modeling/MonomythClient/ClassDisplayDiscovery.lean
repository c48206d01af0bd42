import MonomythClient.Gates
import MonomythClient.SpellUsabilityDiscovery

namespace MonomythClient.ClassDisplayDiscovery

open FlatMemory Gates ModuleImages RelocatedBytes
open SpellUsabilityDiscovery (TargetState EvidenceSource)

/-!
# The discovery of the class display targets

The formatters of class names are looked for at pinned RVAs, with helpers that
resemble those of the other discovery and are not the same: an image needs no
sections, and the sections are read again where a place has to be executable.
-/

/-! ## The image -/

/--
`BuildImageView`.  The sections are those that `IsExecutableAddress` will read
behind the same headers.
-/
def buildImageView
    (module : UInt32)
    (bytes : Nat → UInt8) :
    Option ImageView :=
  if module = 0 then
    none
  else if readLe16 bytes 0 ≠ IMAGE_DOS_SIGNATURE then
    none
  else
    match newHeaderOffset bytes with
    | none => none
    | some nt =>
        if readLe32 bytes nt == IMAGE_NT_SIGNATURE &&
            readLe16 bytes (nt + 24) == IMAGE_NT_OPTIONAL_HDR_MAGIC then
          some
            { base := module
              sections := sectionHeaders bytes nt
              imageSize := readLe32 bytes (nt + 80) }
        else
          none

section Images

variable (image : ImageView) (bytes : Nat → UInt8)

/-- `IsRvaWithinImage` -/
def isRvaWithinImage (rva : UInt32) (length : Nat) : Bool :=
  if image.base = 0 ∨ image.imageSize = 0 ∨ image.imageSize ≤ rva then
    false
  else
    decide (rva.toNat + length ≤ image.imageSize.toNat)

/-- `ResolveRvaAddress` -/
def resolveRvaAddress (rva : UInt32) (length : Nat) : Option UInt32 :=
  if isRvaWithinImage image rva length then some (image.base + rva) else none

/-- `BytesMatchAtRva` -/
def bytesMatchAtRva (rva : UInt32) (expected : PinnedTarget) : Bool :=
  if expected.length = 0 || !isRvaWithinImage image rva expected.length then
    false
  else
    bytesMatchWithModuleRelocation (some (codeAt bytes rva))
        (some expected.expected) expected.length image.base ==
      some true

/-- `IsExecutableAddress` -/
def isExecutableAddress (address : UInt32) : Bool :=
  if image.base = 0 ∨ address < image.base then
    false
  else
    let rva := address - image.base
    image.sections.any fun header =>
      let span := sectionSpan header
      if span = 0 ∨ rva < header.virtualAddress then
        false
      else
        decide (rva - header.virtualAddress < span) &&
          header.characteristics &&& IMAGE_SCN_MEM_EXECUTE ==
            IMAGE_SCN_MEM_EXECUTE

/-! ## Targets -/

structure TargetResult where
  state : TargetState := .notAttempted
  moduleBase : UInt32 := 0
  candidateRva : UInt32 := 0
  candidateAddress : UInt32 := 0
  exactSignatureValidated : Bool := false
  hookSafe : Bool := false
  evidenceSource : String := "not_attempted"
  validation : String := "not_attempted"
  failureReason : String := "not_attempted"
  deriving Repr, DecidableEq

/-- The fields of `Result` that hold a target. -/
inductive Target where
  | whoClassName
  | getClassDesc
  | getClassThreeLetterCode
  | charSelectClassNameFunc
  deriving Repr, DecidableEq

/-- `MarkUnavailable`, on a target that was reset. -/
def markUnavailable (failureReason : String) : TargetResult where
  state := .failed
  validation := "failed"
  failureReason := failureReason
  evidenceSource := EvidenceSource.unavailable.name

/-- `DiscoverPinnedEntryBytesTarget` -/
def discoverPinnedEntryBytesTarget
    (rva : UInt32)
    (expected : PinnedTarget) :
    TargetResult :=
  let candidateAddress :=
    (resolveRvaAddress image rva expected.length).getD 0
  let target : TargetResult :=
    { evidenceSource := EvidenceSource.cleanroomRva.name
      moduleBase := image.base
      candidateRva := rva
      candidateAddress }
  if candidateAddress = 0 then
    { target with
      state := .failed
      validation := "failed"
      failureReason := "rva_out_of_range" }
  else
    let executable := isExecutableAddress image candidateAddress
    let exactMatch := bytesMatchAtRva image bytes rva expected
    let target :=
      { target with
        exactSignatureValidated := exactMatch
        hookSafe := executable && exactMatch }
    if !executable then
      { target with
        state := .failed
        validation := "failed"
        failureReason := "non_executable_target"
        hookSafe := false }
    else if !exactMatch then
      { target with
        state := .foundUnvalidated
        validation := "failed"
        failureReason := "entry_bytes_mismatch"
        hookSafe := false }
    else
      { target with
        state := .validated
        validation := "passed"
        failureReason := "none" }

end Images

def kGetClassDescRva : UInt32 := 0x00114DC0
def kLeftClickedOnPlayerSurrogateRva : UInt32 := 0x00136310
def kGetClassThreeLetterCodeRva : UInt32 := 0x001153C0
def kCharSelectClassNameFuncRva : UInt32 := 0x00321210

/-- The place and the pinned beginning of a target. -/
def Target.entry : Target → UInt32 × PinnedTarget
  | .whoClassName =>
      (kLeftClickedOnPlayerSurrogateRva,
        kLeftClickedOnPlayerSurrogateEntryBytes)
  | .getClassDesc =>
      (kGetClassDescRva, kGetClassDescEntryBytes)
  | .getClassThreeLetterCode =>
      (kGetClassThreeLetterCodeRva, kGetClassThreeLetterCodeEntryBytes)
  | .charSelectClassNameFunc =>
      (kCharSelectClassNameFuncRva, kCharSelectClassNameFuncEntryBytes)

/-! ## Calls of the discovery -/

structure Result where
  allowed : Bool := false
  reason : String := "not run"
  targets : Target → TargetResult := fun _ => {}

/-- `Run`, in the module at this address. -/
def run
    (discoveryAllowed fingerprintMatched : Bool)
    (module : UInt32)
    (bytes : Nat → UInt8) :
    Result :=
  if !(discoveryAllowed && fingerprintMatched) then
    { reason :=
        "class display discovery requires validated ROF2 fingerprint and hook allowance" }
  else
    match buildImageView module bytes with
    | none =>
        { allowed := true
          reason :=
            "class display discovery could not build a view of the loaded image"
          targets := fun _ => markUnavailable "image_view_unavailable" }
    | some image =>
        { allowed := true
          reason :=
            "class display discovery is partially enabled; current ROF2 formatter coverage is incomplete"
          targets := fun target =>
            discoverPinnedEntryBytesTarget image bytes target.entry.1
              target.entry.2 }

/-! ## Evidence -/

/-- A target as a verdict. -/
def TargetResult.verdict (target : TargetResult) : Verdict String where
  accepted := target.state == .validated
  safe := target.hookSafe
  reason := target.failureReason

/-- All gates of a target, for a run. -/
def targetGates
    (discoveryAllowed fingerprintMatched : Bool)
    (module : UInt32)
    (bytes : Nat → UInt8)
    (target : Target) :
    List (Gate String) :=
  ⟨discoveryAllowed && fingerprintMatched, "not_attempted"⟩ ::
    match buildImageView module bytes with
    | none => [⟨false, "image_view_unavailable"⟩]
    | some image =>
        [ ⟨isRvaWithinImage image target.entry.1 target.entry.2.length &&
              image.base + target.entry.1 != 0,
            "rva_out_of_range"⟩,
          ⟨decide (ExecutableAt image target.entry.1),
            "non_executable_target"⟩,
          ⟨bytesMatchAtRva image bytes target.entry.1 target.entry.2,
            "entry_bytes_mismatch"⟩ ]

/-- The two discoveries agree on what is executable. -/
theorem isExecutableAddress_iff
    {image : ImageView}
    (isModule : image.base ≠ 0)
    {rva : UInt32} :
    isExecutableAddress image (image.base + rva) = true ↔
      ExecutableAt image rva := by
  unfold isExecutableAddress ExecutableAt
  by_cases wraps : image.base + rva < image.base
  · rw [if_pos (.inr wraps)]
    constructor
    · intro impossible
      cases impossible
    · rintro ⟨fits, _⟩
      have tooLarge := (add_lt_iff _ _).mp wraps
      omega
  · have fits : image.base.toNat + rva.toNat < 2 ^ 32 := by
      rw [add_lt_iff] at wraps
      omega
    rw [if_neg (not_or.mpr ⟨isModule, wraps⟩), add_sub_base,
      List.any_eq_true, and_iff_right fits]
    apply exists_congr
    intro header
    apply and_congr_right
    intro _
    unfold ImageSectionHeader.limit
    dsimp only
    by_cases outside :
        sectionSpan header = 0 ∨ rva < header.virtualAddress
    · rw [if_pos outside]
      constructor
      · intro impossible
        cases impossible
      · rintro ⟨_, start, inside⟩
        cases outside with
        | inl empty =>
            rw [empty, UInt32.toNat_zero] at inside
            omega
        | inr before =>
            have isBefore := UInt32.lt_iff_toNat_lt.mp before
            omega
    · have start : header.virtualAddress ≤ rva :=
        UInt32.not_lt.mp (not_or.mp outside).2
      have startBound := UInt32.le_iff_toNat_le.mp start
      rw [if_neg outside, Bool.and_eq_true, decide_eq_true_eq, beq_iff_eq,
        UInt32.lt_iff_toNat_lt, UInt32.toNat_sub_of_le _ _ start]
      constructor
      · rintro ⟨inside, isCode⟩
        exact ⟨isCode, startBound, by omega⟩
      · rintro ⟨isCode, _, inside⟩
        exact ⟨by omega, isCode⟩

/-- A view is that of a module. -/
theorem base_of_buildImageView
    {module : UInt32}
    {bytes : Nat → UInt8}
    {image : ImageView}
    (built : buildImageView module bytes = some image) :
    image.base ≠ 0 := by
  unfold buildImageView at built
  split at built
  · cases built
  · rename_i isModule
    split at built
    · cases built
    · split at built
      · cases built
      · split at built
        · cases built
          exact isModule
        · cases built

/-- A target in an image is what its gates say. -/
theorem discoverPinnedEntryBytesTarget_decided
    {image : ImageView}
    (isModule : image.base ≠ 0)
    (bytes : Nat → UInt8)
    (rva : UInt32)
    (entry : PinnedTarget) :
    Verdict.Decided
      (discoverPinnedEntryBytesTarget image bytes rva entry).verdict
      [ ⟨isRvaWithinImage image rva entry.length && image.base + rva != 0,
          "rva_out_of_range"⟩,
        ⟨decide (ExecutableAt image rva), "non_executable_target"⟩,
        ⟨bytesMatchAtRva image bytes rva entry,
          "entry_bytes_mismatch"⟩ ] := by
  unfold discoverPinnedEntryBytesTarget resolveRvaAddress
  dsimp only
  cases isRvaWithinImage image rva entry.length with
  | false =>
      exact .failed rfl rfl rfl
  | true =>
      simp only [if_true, Option.getD_some, Bool.true_and]
      by_cases isNull : image.base + rva = 0
      · rw [if_pos isNull, bne_eq_false_iff_eq.mpr isNull]
        exact .failed rfl rfl rfl
      · rw [if_neg isNull]
        refine .gate (bne_iff_ne.mpr isNull) ?_
        by_cases executable : ExecutableAt image rva
        · rw [(isExecutableAddress_iff isModule).mpr executable]
          refine .gate (decide_eq_true executable) ?_
          cases bytesMatchAtRva image bytes rva entry with
          | false =>
              exact .failed rfl rfl rfl
          | true =>
              exact .gate rfl (.passed rfl rfl)
        · have isRefused :
              isExecutableAddress image (image.base + rva) = false := by
            rw [← Bool.not_eq_true, isExecutableAddress_iff isModule]
            exact executable
          rw [isRefused, decide_eq_false executable]
          exact .failed rfl rfl rfl

/-- So is every target of a run. -/
theorem run_decided
    (discoveryAllowed fingerprintMatched : Bool)
    (module : UInt32)
    (bytes : Nat → UInt8)
    (target : Target) :
    Verdict.Decided
      ((run discoveryAllowed fingerprintMatched module bytes).targets
        target).verdict
      (targetGates discoveryAllowed fingerprintMatched module bytes
        target) := by
  unfold run targetGates
  cases discoveryAllowed && fingerprintMatched with
  | false =>
      exact .failed rfl rfl rfl
  | true =>
      refine .gate rfl ?_
      simp only [Bool.not_true, Bool.false_eq_true, if_false]
      cases built : buildImageView module bytes with
      | none =>
          exact .failed rfl rfl rfl
      | some image =>
          exact
            discoverPinnedEntryBytesTarget_decided
              (base_of_buildImageView built) bytes _ _

end MonomythClient.ClassDisplayDiscovery
