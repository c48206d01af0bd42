import MonomythClient.PayloadReader

namespace MonomythClient.PacketObserver

open PayloadReader

/-!
# The timed-cast tracker

A successful cast-spell send opens a window of two seconds.  The next begin-cast
packet with a cast time uses the window up; in time, it marks a cast as active
until its end and a grace period, otherwise it marks none.  The clock is read
where the source reads it, and every reading is an argument here.
-/

def kBeginCastOpcode : UInt32 := 0x318F
def kCastSpellOpcode : UInt32 := 0x1287
def kInterruptCastOpcode : UInt32 := 0x3358
def kTimedCastGraceMs : UInt64 := 250
def kTimedCastBeginWindowMs : UInt64 := 2000

/-- The three globals of the tracker. -/
structure TimedCast where
  activeUntilMs : UInt64
  spellId : UInt32
  localCastBeginPendingUntilMs : UInt64
  deriving Repr, DecidableEq

/-- The tracker at process start. -/
def TimedCast.initial : TimedCast where
  activeUntilMs := 0
  spellId := 0
  localCastBeginPendingUntilMs := 0

/-- `TryReadU32FromPayload`. -/
def tryReadU32FromPayload
    (payload : Payload)
    (offset : UInt32) :
    Option UInt32 :=
  if payload.length < offset + 4 then
    none
  else
    payload.pointer.bind fun memory =>
      match copyBytes memory offset.toNat 4 with
      | some [byte0, byte1, byte2, byte3] =>
          some (LittleEndian.word32 byte0 byte1 byte2 byte3)
      | _ => none

/-- `ClearTimedCastState`. -/
def clearTimedCastState (tracker : TimedCast) : TimedCast :=
  { tracker with
    activeUntilMs := 0
    spellId := 0 }

/-- `ArmLocalBeginCastWindow` at a clock reading. -/
def armLocalBeginCastWindow (nowMs : UInt64) (tracker : TimedCast) : TimedCast :=
  { tracker with
    localCastBeginPendingUntilMs := nowMs + kTimedCastBeginWindowMs }

/-- `ConsumeLocalBeginCastWindow` at a clock reading, with its result. -/
def consumeLocalBeginCastWindow
    (nowMs : UInt64)
    (tracker : TimedCast) :
    TimedCast × Bool :=
  let pendingUntil := tracker.localCastBeginPendingUntilMs
  if pendingUntil = 0 then
    (tracker, false)
  else if pendingUntil < nowMs then
    ({ tracker with localCastBeginPendingUntilMs := 0 }, false)
  else
    ({ tracker with localCastBeginPendingUntilMs := 0 }, true)

/-- The spell id and cast time of a begin-cast packet that can be read. -/
def readBeginCast
    (opcode : UInt32)
    (payload : Payload) :
    Option (UInt32 × UInt32) :=
  if opcode ≠ kBeginCastOpcode ∨ payload.pointer = none ∨
      payload.length < 10 then
    none
  else
    match tryReadU32FromPayload payload 0,
        tryReadU32FromPayload payload 6 with
    | some spellId, some castTime => some (spellId, castTime)
    | _, _ => none

/--
`ObserveTimedCastPacket`.  The window is checked at the first clock reading and
the cast starts at the second.
-/
def observeTimedCastPacket
    (opcode : UInt32)
    (payload : Payload)
    (windowMs startMs : UInt64)
    (tracker : TimedCast) :
    TimedCast :=
  if opcode = kInterruptCastOpcode then
    clearTimedCastState tracker
  else
    match readBeginCast opcode payload with
    | none => tracker
    | some (spellId, castTime) =>
        if castTime = 0 then
          -- The window check is behind `||` and so is not made.
          clearTimedCastState tracker
        else
          let (tracker, matched) :=
            consumeLocalBeginCastWindow windowMs tracker
          if matched then
            { tracker with
              spellId := spellId
              activeUntilMs :=
                startMs + castTime.toUInt64 + kTimedCastGraceMs }
          else
            clearTimedCastState tracker

/-- `IsTimedCastActive` at a clock reading, with its result. -/
def isTimedCastActive (nowMs : UInt64) (tracker : TimedCast) : TimedCast × Bool :=
  if tracker.activeUntilMs = 0 then
    (tracker, false)
  else if nowMs ≤ tracker.activeUntilMs then
    (tracker, true)
  else
    (clearTimedCastState tracker, false)

/-- `GetTimedCastSpellId` at a clock reading, with its result. -/
def getTimedCastSpellId
    (nowMs : UInt64)
    (tracker : TimedCast) :
    TimedCast × UInt32 :=
  let (tracker, active) := isTimedCastActive nowMs tracker
  if active then (tracker, tracker.spellId) else (tracker, 0)

/-! ## Updates of the tracker -/

@[simp] theorem activeUntilMs_armLocalBeginCastWindow
    (nowMs : UInt64)
    (tracker : TimedCast) :
    (armLocalBeginCastWindow nowMs tracker).activeUntilMs =
      tracker.activeUntilMs := by
  simp only [armLocalBeginCastWindow]

@[simp] theorem spellId_armLocalBeginCastWindow
    (nowMs : UInt64)
    (tracker : TimedCast) :
    (armLocalBeginCastWindow nowMs tracker).spellId =
      tracker.spellId := by
  simp only [armLocalBeginCastWindow]

@[simp] theorem pendingUntilMs_armLocalBeginCastWindow
    (nowMs : UInt64)
    (tracker : TimedCast) :
    (armLocalBeginCastWindow nowMs tracker).localCastBeginPendingUntilMs =
      nowMs + kTimedCastBeginWindowMs := by
  simp only [armLocalBeginCastWindow]

/-! ## Queries and the window -/

/-- A cast is active up to its deadline. -/
theorem isTimedCastActive_iff (nowMs : UInt64) (tracker : TimedCast) :
    (isTimedCastActive nowMs tracker).2 = true ↔
      tracker.activeUntilMs ≠ 0 ∧ nowMs ≤ tracker.activeUntilMs := by
  by_cases idle : tracker.activeUntilMs = 0
  · simp [isTimedCastActive, idle]
  · by_cases inTime : nowMs ≤ tracker.activeUntilMs
    · simp [isTimedCastActive, idle, inTime]
    · simp [isTimedCastActive, idle, inTime]

/-- A query clears at most the cast. -/
theorem isTimedCastActive_cases (nowMs : UInt64) (tracker : TimedCast) :
    (isTimedCastActive nowMs tracker).1 = tracker ∨
      (isTimedCastActive nowMs tracker).1 = clearTimedCastState tracker := by
  unfold isTimedCastActive
  split
  · exact .inl rfl
  · split
    · exact .inl rfl
    · exact .inr rfl

/-- Asking for the spell asks whether the cast is active. -/
theorem getTimedCastSpellId_fst (nowMs : UInt64) (tracker : TimedCast) :
    (getTimedCastSpellId nowMs tracker).1 =
      (isTimedCastActive nowMs tracker).1 := by
  simp only [getTimedCastSpellId]
  split
  · rfl
  · rfl

/-- A begin-cast packet uses the window up, and matches it in time. -/
theorem consumeLocalBeginCastWindow_spec
    (nowMs : UInt64)
    (tracker : TimedCast) :
    (consumeLocalBeginCastWindow nowMs tracker).1 =
        { tracker with localCastBeginPendingUntilMs := 0 } ∧
      ((consumeLocalBeginCastWindow nowMs tracker).2 = true ↔
        tracker.localCastBeginPendingUntilMs ≠ 0 ∧
          nowMs ≤ tracker.localCastBeginPendingUntilMs) := by
  obtain ⟨activeUntilMs, spellId, pendingUntilMs⟩ := tracker
  by_cases closed : pendingUntilMs = 0
  · subst closed
    simp [consumeLocalBeginCastWindow]
  · by_cases late : pendingUntilMs < nowMs
    · simp [consumeLocalBeginCastWindow, closed, late]
    · simp [consumeLocalBeginCastWindow, closed, late,
        UInt64.not_lt.mp late]

end MonomythClient.PacketObserver
