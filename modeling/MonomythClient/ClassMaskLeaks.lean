import MonomythClient.WorldChanges

namespace MonomythClient.PacketObserver

open ServerAuthStats

/-!
# Class masks across world changes

Entering a world clears the identities, the roster and the timed cast, but not
the class mask of the server-auth stats.  A mask that is stored when an
enter-world packet arrives is therefore reported for the character that comes
next, until that character's own mask arrives.
-/

/-! ## Masks -/

/-- The snapshot has a class mask. -/
def reportsMask (state : ObserverState) : Prop :=
  (getSnapshot state.serverAuth.globals).classesBitmask.has = true

instance (state : ObserverState) : Decidable (reportsMask state) :=
  inferInstanceAs (Decidable (_ = true))

/-- The class masks in the payloads that some events hand to the auth-stats
observer. -/
def masksReceived (events : List Event) : List UInt32 :=
  receivedMasks (events.filterMap deliveredPayload)

/-- The snapshot after some events reports the mask that came last. -/
theorem reportsMask_observe_iff
    {start : ObserverState}
    (initialized : start.lifecycle = .initialized)
    (events : List Event) :
    reportsMask (observe start events) ↔
      masksReceived events ≠ [] ∨ reportsMask start := by
  unfold reportsMask getSnapshot masksReceived
  rw [globals_observe initialized, classesBitmask_observeAll]
  cases last :
      (receivedMasks (events.filterMap deliveredPayload)).getLast? with
  | none =>
      simp [List.getLast?_eq_none_iff.mp last]
  | some mask =>
      have received :
          receivedMasks (events.filterMap deliveredPayload) ≠ [] := by
        intro empty
        rw [empty] at last
        cases last
      simp [received]

/-- An enter-world packet leaves the snapshot as it was. -/
theorem reportsMask_enterWorld
    {state : ObserverState}
    (initialized : state.lifecycle = .initialized)
    {event : Event}
    (entersWorld : EntersWorld event) :
    reportsMask (step state event) ↔ reportsMask state := by
  unfold reportsMask
  rw [globals_step initialized, deliveredPayload_enterWorld entersWorld]
  rfl

/-! ## Characters -/

/-- Whenever a mask is reported behind an enter-world packet, one came in
between. -/
def MasksStayWithTheirCharacter
    (start : ObserverState)
    (events : List Event) :
    Prop :=
  ∀ earlier event later rest,
    events = earlier ++ event :: (later ++ rest) →
      EntersWorld event →
        reportsMask (observe start (earlier ++ event :: later)) →
          masksReceived later ≠ []

/-- No mask is reported when an enter-world packet arrives. -/
def EntersWithoutMask (state : ObserverState) (event : Event) : Prop :=
  EntersWorld event → ¬ reportsMask state

/--
Masks stay with their character exactly when no enter-world packet arrives
while a mask is reported.
-/
theorem masksStay_iff
    {start : ObserverState}
    (initialized : start.lifecycle = .initialized)
    (events : List Event) :
    MasksStayWithTheirCharacter start events ↔
      Runs.Along step EntersWithoutMask start events := by
  rw [Runs.along_iff]
  constructor
  · rintro stays earlier event later rfl entersWorld reported
    -- The mask is still reported right behind the packet.
    have stillReported :
        reportsMask (observe start (earlier ++ event :: [])) := by
      rw [observe_append_singleton]
      exact
        (reportsMask_enterWorld (lifecycle_observe initialized earlier)
          entersWorld).mpr reported
    exact stays earlier event [] later rfl entersWorld stillReported rfl
  · rintro without earlier event later rest rfl entersWorld reported
    have ready := lifecycle_observe initialized (earlier ++ [event])
    rw [List.append_cons, observe_append,
      reportsMask_observe_iff ready] at reported
    rcases reported with received | stale
    · exact received
    · rw [observe_append_singleton,
        reportsMask_enterWorld (lifecycle_observe initialized earlier)
          entersWorld] at stale
      exact
        (without earlier event (later ++ rest) rfl entersWorld stale).elim

/-- Server-auth stats of a warrior who is a paladin, too. -/
def classMaskPacket : ReceivedPacket :=
  packetOf kServerAuthStatsOpcode
    (.ofBytes [1, 0, 0, 0, 1, 0, 0, 0, 5, 0, 0, 0, 0, 0, 0, 0] (by decide))

/-- A mask received for the new character is its own. -/
theorem masksStay_iff_classMaskPacket :
    MasksStayWithTheirCharacter freshObserver
      [.received enterWorldPacket, .received classMaskPacket] := by
  refine (masksStay_iff rfl _).mpr ⟨?_, ?_, trivial⟩
  · rintro _ reported
    exact absurd reported (by decide)
  · rintro ⟨packet, received, opcode⟩
    obtain rfl := Event.received.inj received
    exact absurd opcode (by decide)

/-- A mask received for the old character is reported for the new one. -/
theorem classMask_survives_enterWorld :
    ¬ MasksStayWithTheirCharacter freshObserver
      [.received classMaskPacket, .received enterWorldPacket] := by
  intro stays
  exact
    stays [.received classMaskPacket] (.received enterWorldPacket) [] [] rfl
      ⟨enterWorldPacket, rfl, rfl⟩ (by decide +kernel) rfl

end MonomythClient.PacketObserver
