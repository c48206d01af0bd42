import MonomythClient.PacketObserver

namespace MonomythClient.PacketObserver

open OpcodeReference PayloadReader ServerAuthStats

/-!
# Which packets may change the server-auth snapshot

The dispatcher has two routes to the snapshot.  Seen from the packet, the first
is the `OP_ServerAuthStats` opcode with a valid payload and the second is opcode
0 with a payload of a strict shape, stated here on the payload's entries.
-/

/-! ## Authoritative packets -/

/-- The entry holds a value its key can take. -/
def InRange (entry : StatEntry) : Prop :=
  entry.key = kStatClassesBitmaskKey ∨ entry.key = kStatFocusedPetIdKey →
    entry.value ≤ kUInt32Max

/-- A valid payload with a class mask in which every entry makes sense. -/
structure StrictShape (entries : List StatEntry) : Prop where
  carriesMask : ∃ entry ∈ entries, entry.key = kStatClassesBitmaskKey
  recognized : ∀ entry ∈ entries, Recognized entry
  inRange : ∀ entry ∈ entries, InRange entry

/-- The packets that the snapshot may follow. -/
def Authoritative (opcode : UInt32) (payload : Payload) : Prop :=
  (opcode = kServerAuthStatsOpcode ∧
      (parsePayload payload.pointer payload.length).valid = true) ∨
    (opcode = 0 ∧ payload.length ≤ 512 ∧
      ∃ entries, validEntries payload = some entries ∧ StrictShape entries)

/-- The table has the constant under the opcode's name. -/
theorem isServerAuthStatsOpcode_iff (opcode : UInt32) :
    isServerAuthStatsOpcode opcode = true ↔
      opcode = kServerAuthStatsOpcode :=
  isTableOpcode_iff (by decide +kernel) opcode

/-! ## The strict test on entries -/

/-- A valid payload is as long as its entries need. -/
theorem length_of_valid
    {payload : Payload}
    {entries : List StatEntry}
    (valid : validEntries payload = some entries) :
    payload.length.toNat = 4 + 12 * entries.length := by
  obtain ⟨contents, pointsTo, accepted⟩ := Option.bind_eq_some_iff.mp valid
  by_cases wellSized : WellSized contents
  · rw [if_pos wellSized] at accepted
    cases accepted
    rw [← payload.readable contents pointsTo, statEntries, List.length_map,
      List.length_range]
    exact wellSized
  · rw [if_neg wellSized] at accepted
    contradiction

/-- A valid payload has fewer entries than 32 bits can count. -/
theorem length_entries_lt
    {payload : Payload}
    {entries : List StatEntry}
    (valid : validEntries payload = some entries) :
    entries.length < 2 ^ 32 := by
  have length := length_of_valid valid
  have fits := payload.length.toNat_lt
  omega

/-- Small numbers compare in 32 bits as they do. -/
theorem ofNat_le_iff
    {left right : Nat}
    (leftFits : left < 2 ^ 32)
    (rightFits : right < 2 ^ 32) :
    UInt32.ofNat left ≤ UInt32.ofNat right ↔ left ≤ right := by
  rw [UInt32.le_iff_toNat_le, UInt32.toNat_ofNat', UInt32.toNat_ofNat',
    Nat.mod_eq_of_lt leftFits, Nat.mod_eq_of_lt rightFits]

/-- Small numbers are equal in 32 bits when they are. -/
theorem ofNat_inj_iff
    {left right : Nat}
    (leftFits : left < 2 ^ 32)
    (rightFits : right < 2 ^ 32) :
    UInt32.ofNat left = UInt32.ofNat right ↔ left = right := by
  rw [← UInt32.toNat_inj, UInt32.toNat_ofNat', UInt32.toNat_ofNat',
    Nat.mod_eq_of_lt leftFits, Nat.mod_eq_of_lt rightFits]

/-- The summary has a class mask when some entry carries one in range. -/
theorem carriesMask_iff (entries : List StatEntry) :
    (summarize entries).classesBitmask.has = true ↔
      ∃ entry ∈ entries,
        entry.key = kStatClassesBitmaskKey ∧ entry.value ≤ kUInt32Max := by
  simp [summarize, tally, StatField.ofAccepted, inRange, valuesOf,
    List.filter_eq_nil_iff, -kStatClassesBitmaskKey]

/-- No class mask is out of range. -/
theorem noInvalidMask_iff (entries : List StatEntry) :
    (summarize entries).invalidClassesBitmask = false ↔
      ∀ entry ∈ entries,
        entry.key = kStatClassesBitmaskKey → entry.value ≤ kUInt32Max := by
  simp [summarize, tally, valuesOf, UInt64.not_lt,
    -kStatClassesBitmaskKey]

/-- No entry is counted unknown. -/
theorem noUnknown_iff
    {entries : List StatEntry}
    (fits : entries.length < 2 ^ 32) :
    (summarize entries).unknownEntryCount = 0 ↔
      ∀ entry ∈ entries, ¬ CountedUnknown entry := by
  change UInt32.ofNat _ = UInt32.ofNat 0 ↔ _
  rw [ofNat_inj_iff
    (Nat.lt_of_le_of_lt List.countP_le_length fits) (by decide)]
  simp [List.countP_eq_zero]

/-- Every entry is counted recognized. -/
theorem allRecognized_iff
    {entries : List StatEntry}
    (fits : entries.length < 2 ^ 32) :
    (summarize entries).recognizedEntryCount = (summarize entries).count ↔
      ∀ entry ∈ entries, Recognized entry := by
  change UInt32.ofNat _ = UInt32.ofNat _ ↔ _
  rw [ofNat_inj_iff
    (Nat.lt_of_le_of_lt List.countP_le_length fits) fits]
  simp [List.countP_eq_length]

/-- The strict test accepts strict shapes of at most five entries. -/
theorem isStrict_iff
    (opcode : UInt32)
    {payload : Payload}
    {entries : List StatEntry}
    (valid : validEntries payload = some entries) :
    isStrictServerAuthStatsFallbackCandidate opcode payload.length
          (parsePayload payload.pointer payload.length) = true ↔
      opcode = 0 ∧ payload.length ≤ 512 ∧ entries.length ≤ 5 ∧
        StrictShape entries := by
  have fits := length_entries_lt valid
  have atMostFive :
      (summarize entries).count ≤ 5 ↔ entries.length ≤ 5 :=
    ofNat_le_iff fits (by decide)
  have some_iff :
      0 < (summarize entries).count ↔ 0 < entries.length := by
    rw [← UInt32.not_le, ← Nat.not_le]
    exact not_congr (ofNat_le_iff fits (by decide : 0 < 2 ^ 32))
  rw [parsePayload_of_valid valid]
  simp only [isStrictServerAuthStatsFallbackCandidate, Bool.and_eq_true,
    decide_eq_true_eq, Bool.not_eq_true', carriesMask_iff, noInvalidMask_iff,
    noUnknown_iff fits, allRecognized_iff fits, atMostFive, some_iff]
  constructor
  · rintro ⟨⟨⟨⟨⟨⟨⟨⟨zero, small⟩, _⟩, _⟩, few⟩, mask⟩, masksInRange⟩, known⟩,
      recognized⟩
    obtain ⟨entry, member, isMask, _⟩ := mask
    refine
      ⟨zero, small, few, ⟨entry, member, isMask⟩, recognized, ?_⟩
    intro entry member limited
    rcases limited with isMask | isPet
    · exact masksInRange entry member isMask
    · exact UInt64.not_lt.mp
        fun wide => known entry member (.inr ⟨isPet, wide⟩)
  · rintro ⟨zero, small, few, shape⟩
    obtain ⟨entry, member, isMask⟩ := shape.carriesMask
    have maskInRange :=
      shape.inRange entry member (.inl isMask)
    refine
      ⟨⟨⟨⟨⟨⟨⟨⟨zero, small⟩, rfl⟩, List.length_pos_of_mem member⟩, few⟩,
        entry, member, isMask, maskInRange⟩, ?_⟩, ?_⟩, shape.recognized⟩
    · intro entry member isMask
      exact shape.inRange entry member (.inl isMask)
    · intro entry member unknown
      rcases unknown with unrecognized | ⟨isPet, wide⟩
      · exact unrecognized (shape.recognized entry member)
      · exact UInt64.not_lt.mpr
          (shape.inRange entry member (.inr isPet)) wide

/-! ## The two routes -/

/-- The opcode-0 packets whose payload is handed on. -/
def FallbackAccepted (opcode : UInt32) (payload : Payload) : Prop :=
  opcode = 0 ∧ payload.length ≤ 512 ∧
    ∃ entries,
      validEntries payload = some entries ∧ entries.length ≤ 5 ∧
        StrictShape entries

/-- They are the packets that pass the strict test. -/
theorem fallbackAccepted_iff (opcode : UInt32) (payload : Payload) :
    isStrictServerAuthStatsFallbackCandidate opcode payload.length
          (parsePayload payload.pointer payload.length) = true ↔
      FallbackAccepted opcode payload := by
  constructor
  · intro strict
    have isValid :
        (parsePayload payload.pointer payload.length).valid = true := by
      simp only [isStrictServerAuthStatsFallbackCandidate,
        Bool.and_eq_true] at strict
      exact strict.1.1.1.1.1.1.2
    obtain ⟨entries, valid⟩ := (parsePayload_valid_iff payload).mp isValid
    obtain ⟨zero, small, few, shape⟩ := (isStrict_iff opcode valid).mp strict
    exact ⟨zero, small, entries, valid, few, shape⟩
  · rintro ⟨zero, small, entries, valid, few, shape⟩
    exact (isStrict_iff opcode valid).mpr ⟨zero, small, few, shape⟩

/-- Strict payloads pass the cheap tests made before the strict one. -/
theorem FallbackAccepted.passesTests
    {opcode : UInt32}
    {payload : Payload}
    (accepted : FallbackAccepted opcode payload) :
    ¬ (opcode = kServerAuthStatsOpcode ∨ payload.pointer = none ∨
        payload.length < kAuthStatsCandidatePayloadFloor ∨
        kAuthStatsCandidatePayloadCeiling < payload.length) := by
  obtain ⟨zero, small, entries, valid, _, shape⟩ := accepted
  obtain ⟨entry, member, _⟩ := shape.carriesMask
  have length := length_of_valid valid
  have nonempty := List.length_pos_of_mem member
  rintro (exactOpcode | null | short | long)
  · rw [zero] at exactOpcode
    contradiction
  · rw [validEntries, null] at valid
    contradiction
  · have shortLength := UInt32.lt_iff_toNat_lt.mp short
    change payload.length.toNat < 16 at shortLength
    omega
  · exact UInt32.not_lt.mpr small long

/-- Strict payloads are candidates. -/
theorem FallbackAccepted.isCandidate
    {opcode : UInt32}
    {payload : Payload}
    (accepted : FallbackAccepted opcode payload) :
    let candidate := parsePayload payload.pointer payload.length
    ¬ (!candidate.valid ||
        (!candidate.classesBitmask.has &&
          !candidate.invalidClassesBitmask)) = true := by
  intro candidate
  have strict := (fallbackAccepted_iff opcode payload).mpr accepted
  simp only [isStrictServerAuthStatsFallbackCandidate,
    Bool.and_eq_true] at strict
  have isValid : candidate.valid = true := strict.1.1.1.1.1.1.2
  have hasMask : candidate.classesBitmask.has = true := strict.1.1.1.2
  simp [isValid, hasMask]

/-- Notifying the hooks leaves the globals alone. -/
@[simp] theorem globals_notifyServerAuthStatsUpdated
    (traffic : ServerAuthTraffic) :
    (notifyServerAuthStatsUpdated traffic).globals = traffic.globals := by
  simp only [notifyServerAuthStatsUpdated]
  split
  · rfl
  · rfl

/-- The candidate route hands on exactly the strict payloads. -/
theorem maybeHandleServerAuthStatsCandidate_spec
    (opcode : UInt32)
    (payload : Payload)
    (traffic : ServerAuthTraffic) :
    let handled := maybeHandleServerAuthStatsCandidate opcode payload traffic
    (FallbackAccepted opcode payload ∧ handled.2 = true ∧
        handled.1.globals =
          observeReceivePayload traffic.globals payload) ∨
      (¬ FallbackAccepted opcode payload ∧ handled.2 = false ∧
        handled.1.globals = traffic.globals) := by
  unfold maybeHandleServerAuthStatsCandidate
  split
  · rename_i failsTests
    exact .inr
      ⟨fun accepted => accepted.passesTests failsTests, rfl, rfl⟩
  simp only
  split
  · rename_i noCandidate
    exact .inr
      ⟨fun accepted => accepted.isCandidate noCandidate, rfl, rfl⟩
  · cases strict :
        isStrictServerAuthStatsFallbackCandidate opcode payload.length
          (parsePayload payload.pointer payload.length) with
    | false =>
        refine .inr ⟨fun accepted => ?_, rfl, rfl⟩
        rw [(fallbackAccepted_iff opcode payload).mpr accepted] at strict
        contradiction
    | true =>
        refine .inl ⟨(fallbackAccepted_iff opcode payload).mp strict, rfl, ?_⟩
        simp

/-- A packet's payload reaches the observer by one of the two routes. -/
def Delivered (opcode : UInt32) (payload : Payload) : Prop :=
  opcode = kServerAuthStatsOpcode ∨ FallbackAccepted opcode payload

/-- A delivered packet is observed, any other leaves the globals alone. -/
theorem globals_observeServerAuthTraffic
    (opcode : UInt32)
    (payload : Payload)
    (traffic : ServerAuthTraffic) :
    (Delivered opcode payload ∧
        (observeServerAuthTraffic opcode payload traffic).globals =
          observeReceivePayload traffic.globals payload) ∨
      (¬ Delivered opcode payload ∧
        (observeServerAuthTraffic opcode payload traffic).globals =
          traffic.globals) := by
  by_cases exactOpcode : opcode = kServerAuthStatsOpcode
  · have recognized := (isServerAuthStatsOpcode_iff opcode).mpr exactOpcode
    refine .inl ⟨.inl exactOpcode, ?_⟩
    simp [observeServerAuthTraffic, recognized]
  · have unrecognized : ¬ isServerAuthStatsOpcode opcode = true :=
      fun recognized =>
        exactOpcode ((isServerAuthStatsOpcode_iff opcode).mp recognized)
    rw [observeServerAuthTraffic, if_neg unrecognized]
    rcases maybeHandleServerAuthStatsCandidate_spec opcode payload traffic with
      ⟨accepted, _, observed⟩ | ⟨rejected, _, unchanged⟩
    · exact .inl ⟨.inr accepted, observed⟩
    · refine .inr ⟨fun delivered => ?_, unchanged⟩
      exact delivered.elim exactOpcode rejected

/-- A delivered payload that changes the snapshot is authoritative. -/
theorem authoritative_of_changes
    {opcode : UInt32}
    {payload : Payload}
    {globals : Globals}
    (delivered : Delivered opcode payload)
    (changes : observeReceivePayload globals payload ≠ globals) :
    Authoritative opcode payload := by
  rcases delivered with exactOpcode | accepted
  · refine .inl ⟨exactOpcode, ?_⟩
    by_contra invalid
    exact changes (by simp [observeReceivePayload, invalid])
  · obtain ⟨zero, small, entries, valid, _, shape⟩ := accepted
    exact .inr ⟨zero, small, entries, valid, shape⟩

/-! ## Runs of the dispatcher -/

/-- The warning flag leaves the globals alone. -/
@[simp] theorem globals_maybeLogMissingServerAuthStatsWarning
    (sequence : UInt64)
    (traffic : ServerAuthTraffic) :
    (maybeLogMissingServerAuthStatsWarning sequence traffic).globals =
      traffic.globals := by
  unfold maybeLogMissingServerAuthStatsWarning
  split
  · rfl
  · rfl

/-- A received packet reaches the globals as server-auth traffic only. -/
theorem globals_observeReceiveMetadata
    (packet : ReceivedPacket)
    (state : ObserverState) :
    (observeReceiveMetadata packet state).serverAuth.globals =
      if state.lifecycle = .initialized then
        (observeServerAuthTraffic packet.opcode packet.payload
          state.serverAuth).globals
      else
        state.serverAuth.globals := by
  by_cases initialized : state.lifecycle = .initialized
  · rw [if_pos initialized,
      (observeReceiveMetadata_spec packet initialized).2.1,
      globals_maybeLogMissingServerAuthStatsWarning]
  · rw [if_neg initialized, observeReceiveMetadata_idle packet initialized]

/-- No other event reaches them at all. -/
theorem globals_step_other
    (state : ObserverState)
    {event : Event}
    (notReceived : ∀ packet, event ≠ .received packet) :
    (step state event).serverAuth = state.serverAuth := by
  cases event with
  | received packet =>
      exact (notReceived packet rfl).elim
  | sent packet =>
      exact (observeSendMetadata_spec packet state).2.1
  | activatedSkillArmed skillId callerReturnAddress callerRva =>
      exact
        (armActivatedSkillSendCorrelation_spec skillId callerReturnAddress
          callerRva state).2.1
  | _ =>
      rfl

/-- The payload an event hands to the payload observer. -/
def deliveredPayload : Event → Option Payload
  | .received packet =>
      if isServerAuthStatsOpcode packet.opcode ||
          isStrictServerAuthStatsFallbackCandidate packet.opcode
            packet.payload.length
            (parsePayload packet.payload.pointer packet.payload.length) then
        some packet.payload
      else
        none
  | _ => none

/-- It is the packet's own, when the packet is delivered. -/
theorem deliveredPayload_received (packet : ReceivedPacket) :
    (Delivered packet.opcode packet.payload ∧
        deliveredPayload (.received packet) = some packet.payload) ∨
      (¬ Delivered packet.opcode packet.payload ∧
        deliveredPayload (.received packet) = none) := by
  have delivered_iff :
      (isServerAuthStatsOpcode packet.opcode ||
          isStrictServerAuthStatsFallbackCandidate packet.opcode
            packet.payload.length
            (parsePayload packet.payload.pointer packet.payload.length)) =
          true ↔
        Delivered packet.opcode packet.payload := by
    rw [Bool.or_eq_true, isServerAuthStatsOpcode_iff, fallbackAccepted_iff,
      Delivered]
  by_cases delivered : Delivered packet.opcode packet.payload
  · exact .inl ⟨delivered, if_pos (delivered_iff.mpr delivered)⟩
  · refine .inr ⟨delivered, if_neg fun accepted => ?_⟩
    exact delivered (delivered_iff.mp accepted)

/-- One event observes the payload it delivers and nothing else. -/
theorem globals_step
    {state : ObserverState}
    (initialized : state.lifecycle = .initialized)
    (event : Event) :
    (step state event).serverAuth.globals =
      ((deliveredPayload event).map
        (observeReceivePayload state.serverAuth.globals)).getD
        state.serverAuth.globals := by
  by_cases received : ∃ packet, event = .received packet
  · obtain ⟨packet, rfl⟩ := received
    change (observeReceiveMetadata packet state).serverAuth.globals = _
    rw [globals_observeReceiveMetadata, if_pos initialized]
    rcases globals_observeServerAuthTraffic packet.opcode packet.payload
        state.serverAuth with
      ⟨delivered, observed⟩ | ⟨undelivered, unchanged⟩
    · rcases deliveredPayload_received packet with
        ⟨_, handedOn⟩ | ⟨undelivered, _⟩
      · rw [observed, handedOn]
        rfl
      · exact (undelivered delivered).elim
    · rcases deliveredPayload_received packet with
        ⟨delivered, _⟩ | ⟨_, keptBack⟩
      · exact (undelivered delivered).elim
      · rw [unchanged, keptBack]
        rfl
  · have notReceived : ∀ packet, event ≠ .received packet :=
      fun packet same => received ⟨packet, same⟩
    rw [globals_step_other state notReceived]
    cases event with
    | received packet =>
        exact (notReceived packet rfl).elim
    | _ =>
        rfl

/-- The dispatcher's globals are those of the payloads delivered to it. -/
theorem globals_observe
    {start : ObserverState}
    (initialized : start.lifecycle = .initialized)
    (events : List Event) :
    (observe start events).serverAuth.globals =
      observeAll start.serverAuth.globals
        (events.filterMap deliveredPayload) := by
  have projected :
      (observe start events).serverAuth.globals =
        Runs.run
          (fun globals event =>
            ((deliveredPayload event).map
              (observeReceivePayload globals)).getD globals)
          start.serverAuth.globals events :=
    Runs.project (fun state : ObserverState => state.serverAuth.globals)
      (fun state event stillInitialized =>
        (lifecycle_step state event).trans stillInitialized)
      (fun state event stillInitialized =>
        globals_step stillInitialized event)
      initialized events
  rw [projected, observeAll]
  exact Runs.run_filterMap (fun _ _ => rfl) _ _

/--
Over every run, each event that changes the snapshot is a received packet that
is authoritative.
-/
theorem snapshot_changes_only_authoritatively
    (start : ObserverState)
    (events : List Event)
    (event : Event) :
    getSnapshot (observe start (events ++ [event])).serverAuth.globals =
        getSnapshot (observe start events).serverAuth.globals ∨
      ∃ packet,
        event = .received packet ∧
          Authoritative packet.opcode packet.payload := by
  rw [observe, Runs.run_append, Runs.run_cons, Runs.run_nil, ← observe]
  generalize observe start events = state
  by_cases received : ∃ packet, event = .received packet
  · obtain ⟨packet, rfl⟩ := received
    change
      (observeReceiveMetadata packet state).serverAuth.globals =
          state.serverAuth.globals ∨ _
    rw [globals_observeReceiveMetadata]
    by_cases initialized : state.lifecycle = .initialized
    · rw [if_pos initialized]
      rcases globals_observeServerAuthTraffic packet.opcode packet.payload
          state.serverAuth with
        ⟨delivered, observed⟩ | ⟨_, unchanged⟩
      · by_cases same :
            observeReceivePayload state.serverAuth.globals packet.payload =
              state.serverAuth.globals
        · exact .inl (observed.trans same)
        · exact .inr
            ⟨packet, rfl, authoritative_of_changes delivered same⟩
      · exact .inl unchanged
    · rw [if_neg initialized]
      exact .inl rfl
  · refine .inl ?_
    rw [globals_step_other state fun packet same => received ⟨packet, same⟩]

end MonomythClient.PacketObserver
