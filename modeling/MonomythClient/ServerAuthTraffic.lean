import MonomythClient.OpcodeReference
import MonomythClient.ServerAuthStatsSnapshot

namespace MonomythClient.PacketObserver

open OpcodeReference PayloadReader ServerAuthStats

/-!
# How received packets reach the server-auth snapshot

A packet under the `OP_ServerAuthStats` opcode goes to the payload observer as
it is.  A packet under another opcode is parsed as a candidate, and one under
opcode 0 is handed on as well when it passes the strict fallback test.
-/

def kServerAuthStatsOpcode : UInt32 := 0x1338
def kAuthStatsCandidatePayloadCeiling : UInt32 := 512
def kAuthStatsCandidatePayloadFloor : UInt32 := 16
def kAuthStatsMissingWarningSequence : UInt64 := 250

/-- The snapshot's globals and the counters kept about such packets. -/
structure ServerAuthTraffic where
  globals : Globals
  exactMatchCount : UInt64
  candidateCount : UInt64
  fallbackAcceptCount : UInt64
  missingWarningLogged : Bool
  /-- The snapshots that `NotifyServerAuthStatsUpdated` was called under. -/
  notifications : List Snapshot
  deriving Repr, DecidableEq

/-- `IsServerAuthStatsOpcode`. -/
def isServerAuthStatsOpcode : UInt32 → Bool :=
  isTableOpcode kServerAuthStatsOpcode "OP_ServerAuthStats"

/-- `IsStrictServerAuthStatsFallbackCandidate`. -/
def isStrictServerAuthStatsFallbackCandidate
    (opcode payloadLength : UInt32)
    (candidate : ParseResult) :
    Bool :=
  decide (opcode = 0) &&
    decide (payloadLength ≤ kAuthStatsCandidatePayloadCeiling) &&
    candidate.valid &&
    decide (0 < candidate.count) &&
    decide (candidate.count ≤ 5) &&
    candidate.classesBitmask.has &&
    !candidate.invalidClassesBitmask &&
    decide (candidate.unknownEntryCount = 0) &&
    decide (candidate.recognizedEntryCount = candidate.count)

/-- Notify the hooks when the snapshot has a class mask. -/
def notifyServerAuthStatsUpdated
    (traffic : ServerAuthTraffic) :
    ServerAuthTraffic :=
  let authAfter := getSnapshot traffic.globals
  if authAfter.classesBitmask.has then
    { traffic with notifications := traffic.notifications ++ [authAfter] }
  else
    traffic

/-- `MaybeHandleServerAuthStatsCandidate`, with its result. -/
def maybeHandleServerAuthStatsCandidate
    (opcode : UInt32)
    (payload : Payload)
    (traffic : ServerAuthTraffic) :
    ServerAuthTraffic × Bool :=
  if opcode = kServerAuthStatsOpcode ∨ payload.pointer = none ∨
      payload.length < kAuthStatsCandidatePayloadFloor ∨
      kAuthStatsCandidatePayloadCeiling < payload.length then
    (traffic, false)
  else
    let candidate := parsePayload payload.pointer payload.length
    if !candidate.valid ||
        (!candidate.classesBitmask.has &&
          !candidate.invalidClassesBitmask) then
      (traffic, false)
    else
      let fallbackAccepted :=
        isStrictServerAuthStatsFallbackCandidate opcode payload.length
          candidate
      let traffic :=
        if fallbackAccepted then
          notifyServerAuthStatsUpdated
            { traffic with
              fallbackAcceptCount := traffic.fallbackAcceptCount + 1
              globals := observeReceivePayload traffic.globals payload }
        else
          traffic
      ({ traffic with candidateCount := traffic.candidateCount + 1 },
        fallbackAccepted)

/-- What `ObserveReceiveMetadata` does with a packet for the snapshot. -/
def observeServerAuthTraffic
    (opcode : UInt32)
    (payload : Payload)
    (traffic : ServerAuthTraffic) :
    ServerAuthTraffic :=
  if isServerAuthStatsOpcode opcode then
    notifyServerAuthStatsUpdated
      { traffic with
        exactMatchCount := traffic.exactMatchCount + 1
        globals := observeReceivePayload traffic.globals payload }
  else
    (maybeHandleServerAuthStatsCandidate opcode payload traffic).1

/-- `MaybeLogMissingServerAuthStatsWarning`: the flag it leaves set. -/
def maybeLogMissingServerAuthStatsWarning
    (sequence : UInt64)
    (traffic : ServerAuthTraffic) :
    ServerAuthTraffic :=
  if sequence < kAuthStatsMissingWarningSequence then
    traffic
  else
    { traffic with missingWarningLogged := true }

end MonomythClient.PacketObserver
