import MonomythClient.ServerAuthAuthority

namespace MonomythClient.PacketObserver

open PayloadReader ServerAuthStats

/-!
# When the opcode-0 fallback is complete

Under opcode 0, a payload of the strict shape should have the effect it has
under the `OP_ServerAuthStats` opcode.  The strict test knows of five entries,
while the parser knows six keys, so a payload that uses all of them is dropped.
-/

/-- The fallback takes the payload, and it has its effect under `opcode`. -/
def FallbackMatches
    (opcode : UInt32)
    (packet : ReceivedPacket)
    (state : ObserverState) : Prop :=
  (maybeHandleServerAuthStatsCandidate packet.opcode packet.payload
      state.serverAuth).2 = true ∧
    getSnapshot (observeReceiveMetadata packet state).serverAuth.globals =
      getSnapshot
        (observeReceiveMetadata { packet with opcode := opcode }
          state).serverAuth.globals

/-- Strict payloads under opcode 0 match exactly up to five entries. -/
theorem fallbackMatches_iff
    {state : ObserverState}
    (initialized : state.lifecycle = .initialized)
    {packet : ReceivedPacket}
    (zero : packet.opcode = 0)
    {entries : List StatEntry}
    (valid : validEntries packet.payload = some entries)
    (small : packet.payload.length ≤ 512)
    (shape : StrictShape entries) :
    FallbackMatches kServerAuthStatsOpcode packet state ↔
      entries.length ≤ 5 := by
  have handled :=
    maybeHandleServerAuthStatsCandidate_spec packet.opcode packet.payload
      state.serverAuth
  constructor
  · intro matched
    rcases handled with ⟨accepted, _⟩ | ⟨_, notTaken, _⟩
    · obtain ⟨_, _, others, othersValid, few, _⟩ := accepted
      rw [valid] at othersValid
      cases othersValid
      exact few
    · rw [matched.1] at notTaken
      contradiction
  · intro few
    have accepted : FallbackAccepted packet.opcode packet.payload :=
      ⟨zero, small, entries, valid, few, shape⟩
    rcases handled with ⟨_, taken, _⟩ | ⟨rejected, _⟩
    · refine ⟨taken, ?_⟩
      rw [globals_observeReceiveMetadata, globals_observeReceiveMetadata,
        if_pos initialized, if_pos initialized]
      rcases globals_observeServerAuthTraffic packet.opcode packet.payload
          state.serverAuth with
        ⟨_, observed⟩ | ⟨undelivered, _⟩
      · rcases globals_observeServerAuthTraffic kServerAuthStatsOpcode
            packet.payload state.serverAuth with
          ⟨_, observedExactly⟩ | ⟨undelivered, _⟩
        · exact congrArg getSnapshot (observed.trans observedExactly.symm)
        · exact (undelivered (.inl rfl)).elim
      · exact (undelivered (.inr accepted)).elim
    · exact (rejected accepted).elim

/-! ## All six keys -/

/-- A packet with the given opcode and bytes, at time zero. -/
def packetOfBytes
    (opcode : UInt32)
    (bytes : List UInt8)
    (fits : bytes.length < 2 ^ 32) :
    ReceivedPacket where
  opcode := opcode
  payload := .ofBytes bytes fits
  serverName := none
  windowMs := 0
  startMs := 0

/-- A class mask with every other recognized key but that of a second pet. -/
def fiveKeys : List UInt8 :=
  [5, 0, 0, 0,
    1, 0, 0, 0, 7, 0, 0, 0, 0, 0, 0, 0,
    2, 0, 0, 0, 16, 0, 0, 0, 0, 0, 0, 0,
    3, 0, 0, 0, 32, 0, 0, 0, 0, 0, 0, 0,
    100, 0, 0, 0, 100, 0, 0, 0, 0, 0, 0, 0,
    102, 0, 0, 0, 5, 0, 0, 0, 0, 0, 0, 0]

/-- Each recognized key once. -/
def allSixKeys : List UInt8 :=
  [6, 0, 0, 0,
    1, 0, 0, 0, 7, 0, 0, 0, 0, 0, 0, 0,
    2, 0, 0, 0, 16, 0, 0, 0, 0, 0, 0, 0,
    3, 0, 0, 0, 32, 0, 0, 0, 0, 0, 0, 0,
    100, 0, 0, 0, 100, 0, 0, 0, 0, 0, 0, 0,
    101, 0, 0, 0, 200, 0, 0, 0, 0, 0, 0, 0,
    102, 0, 0, 0, 5, 0, 0, 0, 0, 0, 0, 0]

/-- Five keys are taken over. -/
theorem fallbackMatches_fiveKeys :
    FallbackMatches kServerAuthStatsOpcode
      (packetOfBytes 0 fiveKeys (by decide)) freshObserver := by
  have valid :
      validEntries (packetOfBytes 0 fiveKeys (by decide)).payload =
        some [⟨1, 7⟩, ⟨2, 16⟩, ⟨3, 32⟩, ⟨100, 100⟩, ⟨102, 5⟩] := by
    decide +kernel
  have shape :
      StrictShape [⟨1, 7⟩, ⟨2, 16⟩, ⟨3, 32⟩, ⟨100, 100⟩, ⟨102, 5⟩] :=
    ⟨by decide, by decide, by unfold InRange; decide⟩
  exact
    (fallbackMatches_iff (by decide) rfl valid (by decide) shape).mpr
      (by decide)

/-- All six keys together, each once and in range, are not. -/
theorem allSixKeys_dropped :
    (∃ entries,
        validEntries (.ofBytes allSixKeys (by decide)) = some entries ∧
          StrictShape entries ∧ (entries.map StatEntry.key).Nodup) ∧
      (packetOfBytes 0 allSixKeys (by decide)).payload.length ≤ 512 ∧
      ¬ FallbackMatches kServerAuthStatsOpcode
        (packetOfBytes 0 allSixKeys (by decide)) freshObserver := by
  refine
    ⟨⟨[⟨1, 7⟩, ⟨2, 16⟩, ⟨3, 32⟩, ⟨100, 100⟩, ⟨101, 200⟩, ⟨102, 5⟩],
      by decide +kernel,
      ⟨by decide, by decide, by unfold InRange; decide⟩, by decide⟩,
      by decide, ?_⟩
  rintro ⟨taken, _⟩
  exact absurd taken (by decide +kernel)

end MonomythClient.PacketObserver
