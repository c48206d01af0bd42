import MonomythClient.ClassDisplayDiscovery
import MonomythClient.FingerprintEvaluation
import MonomythClient.ReceiveDispatchDiscovery
import MonomythClient.SpellUsabilityEvidence

namespace MonomythClient.RuntimeCapabilities

open Gates
open SpellUsabilityDiscovery (TargetState)

/-!
# Runtime capabilities

The manifest says what the proxy may do.  It is built from the fingerprint, and
each discovery then adds to it what was found.  Capabilities that were retired
are denied everywhere.
-/

/-! ## The manifest -/

/-- What the manifest keeps of a target. -/
structure ManifestTarget where
  state : TargetState := .notAttempted
  rva : UInt32 := 0
  address : UInt32 := 0
  evidenceSource : String := "not_attempted"
  failureReason : String := "not_attempted"
  deriving Repr, DecidableEq

structure Manifest where
  proxyLoaded : Bool := false
  proxyReady : Bool := false
  hostProcessSupported : Bool := false
  fingerprintChecked : Bool := false
  fingerprintMatched : Bool := false
  fingerprintMethod : Fingerprint.Method := .unavailable
  hooksAllowed : Bool := false
  packetHooksDevOptIn : Bool := false
  packetHooksAllowed : Bool := false
  fullPacketTraceDevOptIn : Bool := false
  fullPacketTraceAllowed : Bool := false
  receiveIntrospectionDevOptIn : Bool := false
  receiveIntrospectionAllowed : Bool := false
  spellUsabilityDiscoveryDevOptIn : Bool := false
  spellUsabilityDiscoveryAllowed : Bool := false
  classDisplayDiscoveryAllowed : Bool := false
  spellUsabilityTraceDevOptIn : Bool := false
  spellUsabilityTraceAllowed : Bool := false
  scrollScribeTraceDevOptIn : Bool := false
  scrollScribeTraceAllowed : Bool := false
  memorizeSendTraceDevOptIn : Bool := false
  memorizeSendTraceAllowed : Bool := false
  multiclassSpellUsabilityDevOptIn : Bool := false
  multiclassSpellUsabilityAllowed : Bool := false
  multiclassItemUsabilityAllowed : Bool := false
  multiclassSkillVisibilityAllowed : Bool := false
  multiclassUiDisplayAllowed : Bool := false
  uiHooksAllowed : Bool := false
  heartbeatAllowed : Bool := false
  receiveDispatchDiscoveryState : ReceiveDispatchDiscovery.State :=
    .unavailable
  receiveDispatchValidated : Bool := false
  runtimeModuleBase : UInt32 := 0
  receiveDispatchRva : UInt32 := 0
  receiveDispatchAddress : UInt32 := 0
  spellTargets : SpellUsabilityDiscovery.Target → ManifestTarget :=
    fun _ => {}
  classTargets : ClassDisplayDiscovery.Target → ManifestTarget :=
    fun _ => {}
  reason : String := "manifest unavailable"
  packetHooksReason : String := "packet hooks unavailable"
  fullPacketTraceReason : String := "full packet trace unavailable"
  receiveIntrospectionReason : String :=
    "receive introspection unavailable"
  spellUsabilityDiscoveryReason : String :=
    "spell usability discovery unavailable"
  classDisplayDiscoveryReason : String :=
    "class display discovery unavailable"
  spellUsabilityTraceReason : String := "spell usability trace unavailable"
  scrollScribeTraceReason : String := "scroll scribe trace unavailable"
  memorizeSendTraceReason : String := "memorize send trace unavailable"
  multiclassSpellUsabilityReason : String :=
    "multiclass spell usability unavailable"
  multiclassItemUsabilityReason : String :=
    "multiclass item usability unavailable"
  multiclassSkillVisibilityReason : String :=
    "multiclass activated skill visibility/use unavailable"
  multiclassUiDisplayReason : String :=
    "multiclass UI display unavailable"

/-- `NormalizeReason` -/
def normalizeReason (reason : String) : String :=
  if reason = "" then "unknown" else reason

/-- `BuildCapabilityManifest` -/
def buildCapabilityManifest
    (proxyLoaded proxyReady fingerprintChecked : Bool)
    (fingerprint : Fingerprint.Result) :
    Manifest :=
  let fingerprintMatched :=
    fingerprint.processNameMatch && fingerprint.matched
  let hooksAllowed := proxyReady && fingerprint.hooksAllowed
  let allowed := hooksAllowed && fingerprintMatched
  { proxyLoaded
    proxyReady
    hostProcessSupported := fingerprint.processNameMatch
    fingerprintChecked
    fingerprintMatched
    fingerprintMethod := fingerprint.method
    hooksAllowed
    spellUsabilityDiscoveryAllowed := allowed
    classDisplayDiscoveryAllowed := allowed
    multiclassSkillVisibilityAllowed := allowed
    heartbeatAllowed := hooksAllowed
    reason := normalizeReason fingerprint.reason
    packetHooksReason :=
      "validated receive dispatcher capture pending for native server auth stats observation"
    fullPacketTraceReason :=
      "full packet tracing retired; capability disabled by default"
    receiveIntrospectionReason :=
      "receive introspection retired; capability disabled by default"
    spellUsabilityDiscoveryReason :=
      if allowed then
        "validated ROF2 spell usability discovery pending target resolution"
      else
        "spell usability discovery requires validated ROF2 fingerprint and hook allowance"
    classDisplayDiscoveryReason :=
      if allowed then
        "validated ROF2 class display discovery pending target resolution"
      else
        "class display discovery requires validated ROF2 fingerprint and hook allowance"
    spellUsabilityTraceReason :=
      "spell usability tracing retired; re-add explicitly if needed"
    scrollScribeTraceReason :=
      "scroll scribe tracing retired; re-add explicitly if needed"
    memorizeSendTraceReason :=
      "memorize send tracing retired; re-add explicitly if needed"
    multiclassSpellUsabilityReason :=
      "default ROF2 multiclass spell usability pending target validation"
    multiclassItemUsabilityReason :=
      "default ROF2 multiclass item usability pending target validation"
    multiclassSkillVisibilityReason :=
      if allowed then
        "enabled by default for validated ROF2 activated skill visibility/use"
      else
        "multiclass activated skill visibility/use requires validated ROF2 fingerprint and hook allowance"
    multiclassUiDisplayReason :=
      "default ROF2 multiclass UI display pending target validation" }

/-- `BuildDisabledCapabilityManifest` -/
def buildDisabledCapabilityManifest
    (proxyLoaded proxyReady : Bool)
    (reason : String) :
    Manifest where
  proxyLoaded := proxyLoaded
  proxyReady := proxyReady
  reason := normalizeReason reason
  packetHooksReason :=
    "receive dispatcher capture disabled before fingerprint/discovery gates"
  fullPacketTraceReason :=
    "full packet tracing retired; disabled before fingerprint/discovery gates"
  receiveIntrospectionReason :=
    "receive introspection retired; disabled before fingerprint/discovery gates"
  spellUsabilityDiscoveryReason :=
    "spell usability discovery disabled before fingerprint/discovery gates"
  classDisplayDiscoveryReason :=
    "class display discovery disabled before fingerprint/discovery gates"
  spellUsabilityTraceReason :=
    "spell usability tracing retired; disabled before fingerprint/discovery gates"
  scrollScribeTraceReason :=
    "scroll scribe tracing retired; disabled before fingerprint/discovery gates"
  memorizeSendTraceReason :=
    "memorize send tracing retired; disabled before fingerprint/discovery gates"
  multiclassSpellUsabilityReason :=
    "default multiclass spell usability disabled before fingerprint/discovery gates"
  multiclassItemUsabilityReason :=
    "default multiclass item usability disabled before fingerprint/discovery gates"
  multiclassSkillVisibilityReason :=
    "default multiclass activated skill visibility/use disabled before fingerprint/discovery gates"
  multiclassUiDisplayReason :=
    "default multiclass UI display disabled before fingerprint/discovery gates"

/-! ## What the discoveries add -/

/-- `ApplyReceiveDispatchDiscovery` -/
def applyReceiveDispatchDiscovery
    (manifest : Manifest)
    (discovery : ReceiveDispatchDiscovery.Result) :
    Manifest :=
  let packetHooksAllowed :=
    manifest.proxyReady && manifest.hooksAllowed &&
      manifest.fingerprintMatched && discovery.validated
  let denied : String :=
    if !manifest.proxyReady then
      "proxy is not ready"
    else if !manifest.hooksAllowed || !manifest.fingerprintMatched then
      "ROF2 fingerprint/host guard denied hook capability"
    else if !discovery.validated then
      "receive dispatcher discovery not validated"
    else
      "receive dispatcher capture denied for unknown reason"
  { manifest with
    receiveDispatchDiscoveryState := discovery.state
    receiveDispatchValidated := discovery.validated
    runtimeModuleBase := discovery.moduleBase
    receiveDispatchRva := discovery.candidateRva
    receiveDispatchAddress := discovery.candidateAddress
    packetHooksAllowed
    fullPacketTraceAllowed := false
    receiveIntrospectionDevOptIn := packetHooksAllowed
    receiveIntrospectionAllowed := packetHooksAllowed
    packetHooksReason :=
      if packetHooksAllowed then
        "enabled by default for validated ROF2 server auth stats observation"
      else
        denied
    receiveIntrospectionReason :=
      if packetHooksAllowed then
        "temporarily hardwired on for validated packet-hook sessions"
      else
        denied
    fullPacketTraceReason :=
      "full packet tracing retired; capability disabled by default" }

/-- A target was validated and is safe to trace. -/
def isTraceSafe (target : SpellUsabilityDiscovery.TargetResult) : Bool :=
  target.state == .validated && target.traceSafe

/-- `ApplySpellUsabilityDiscovery` -/
def applySpellUsabilityDiscovery
    (manifest : Manifest)
    (discovery : SpellUsabilityDiscovery.Result) :
    Manifest :=
  let getSpellLevelNeeded := discovery.targets .getSpellLevelNeeded
  let isClassUsablePredicate := discovery.targets .isClassUsablePredicate
  let canEquip := discovery.targets .canEquip
  let multiclassSpellUsabilityAllowed :=
    discovery.allowed && isTraceSafe getSpellLevelNeeded
  let multiclassItemUsabilityAllowed :=
    discovery.allowed && isTraceSafe isClassUsablePredicate &&
      isTraceSafe canEquip
  { manifest with
    spellUsabilityDiscoveryAllowed := discovery.allowed
    spellUsabilityTraceDevOptIn := false
    spellTargets := fun target =>
      { state := (discovery.targets target).state
        rva := (discovery.targets target).candidateRva
        address := (discovery.targets target).candidateAddress
        evidenceSource := (discovery.targets target).evidenceSource
        failureReason := (discovery.targets target).failureReason }
    scrollScribeTraceDevOptIn := false
    memorizeSendTraceDevOptIn := false
    multiclassSpellUsabilityDevOptIn := false
    fullPacketTraceDevOptIn := false
    spellUsabilityTraceAllowed := false
    scrollScribeTraceAllowed := false
    memorizeSendTraceAllowed := false
    fullPacketTraceAllowed := false
    multiclassSpellUsabilityAllowed
    multiclassItemUsabilityAllowed
    spellUsabilityDiscoveryReason :=
      if !discovery.allowed then
        "capability guard denied spell usability discovery"
      else
        normalizeReason discovery.reason
    spellUsabilityTraceReason :=
      "spell usability tracing retired; re-add explicitly if needed"
    scrollScribeTraceReason :=
      "scroll scribe tracing retired; re-add explicitly if needed"
    memorizeSendTraceReason :=
      "memorize send tracing retired; re-add explicitly if needed"
    fullPacketTraceReason :=
      "full packet tracing retired; capability disabled by default"
    multiclassSpellUsabilityReason :=
      if multiclassSpellUsabilityAllowed then
        "enabled by default for validated ROF2 multiclass spell usability"
      else if !discovery.allowed then
        "multiclass spell usability requires the ROF2 discovery capability gate"
      else if !isTraceSafe getSpellLevelNeeded then
        "multiclass spell usability denied because GetSpellLevelNeeded is not validated trace-safe failure_reason=" ++
          normalizeReason getSpellLevelNeeded.failureReason
      else
        "multiclass spell usability gate denied for unknown reason"
    multiclassItemUsabilityReason :=
      if multiclassItemUsabilityAllowed then
        "enabled by default for validated ROF2 multiclass item usability"
      else if !discovery.allowed then
        "multiclass item usability requires the ROF2 discovery capability gate"
      else if !isTraceSafe isClassUsablePredicate || !isTraceSafe canEquip then
        "multiclass item usability denied because equip gates are not fully validated trace-safe predicate_failure_reason=" ++
          normalizeReason isClassUsablePredicate.failureReason ++
          " can_equip_failure_reason=" ++
          normalizeReason canEquip.failureReason
      else
        "multiclass item usability gate denied for unknown reason" }

/-- A target was validated and is safe to hook. -/
def isHookSafe (target : ClassDisplayDiscovery.TargetResult) : Bool :=
  target.state == .validated && target.hookSafe

/-- `DescribeTargetFailure` -/
def describeTargetFailure
    (name : String)
    (target : ClassDisplayDiscovery.TargetResult) : String :=
  if target.state = .validated ∧ target.hookSafe = true then
    ""
  else if target.state = .validated ∧ ¬ target.hookSafe = true then
    name ++ " failure_reason=hook_unsafe"
  else
    name ++ " failure_reason=" ++ normalizeReason target.failureReason

/-- `ApplyClassDisplayDiscovery` -/
def applyClassDisplayDiscovery
    (manifest : Manifest)
    (discovery : ClassDisplayDiscovery.Result) :
    Manifest :=
  let whoClassName := discovery.targets .whoClassName
  let getClassDesc := discovery.targets .getClassDesc
  let getClassThreeLetterCode := discovery.targets .getClassThreeLetterCode
  let multiclassUiDisplayAllowed :=
    discovery.allowed && isHookSafe whoClassName &&
      isHookSafe getClassDesc && isHookSafe getClassThreeLetterCode
  let withSpace (failure : String) : String :=
    if failure = "" then "" else " " ++ failure
  { manifest with
    classDisplayDiscoveryAllowed := discovery.allowed
    classTargets := fun target =>
      { state := (discovery.targets target).state
        rva := (discovery.targets target).candidateRva
        address := (discovery.targets target).candidateAddress
        evidenceSource := (discovery.targets target).evidenceSource
        failureReason := (discovery.targets target).failureReason }
    multiclassUiDisplayAllowed
    uiHooksAllowed := multiclassUiDisplayAllowed
    classDisplayDiscoveryReason :=
      if !discovery.allowed then
        "capability guard denied class display discovery"
      else
        normalizeReason discovery.reason
    multiclassUiDisplayReason :=
      if multiclassUiDisplayAllowed then
        "enabled by default for validated ROF2 local/self multiclass UI display"
      else if !discovery.allowed then
        "multiclass UI display requires the ROF2 class display discovery capability gate"
      else
        "multiclass UI display denied because one or more formatter hooks are not fully validated hook-safe" ++
          withSpace
            (describeTargetFailure "LeftClickedOnPlayerSurrogate"
              whoClassName) ++
          withSpace (describeTargetFailure "GetClassDesc" getClassDesc) ++
          withSpace
            (describeTargetFailure "GetClassThreeLetterCode"
              getClassThreeLetterCode) }

end MonomythClient.RuntimeCapabilities
