import MonomythClient.ByteText
import MonomythClient.ManaPercent
import MonomythClient.Runs

namespace MonomythClient.CasterWindows

open LocalPlayer ManaPercent MulticlassIdentity ProtectedMemory Runs
open ByteText (ascii)

/-!
# Ensuring the caster windows

A native melee class with an assigned casting class is shown the cast-spell
window: by the game's own toggle command while the window is not visible, and
then by calls on the window.  The mask and the class that this was done for are
remembered, so that it need not be done again.  The game's functions are not in
the source; a call of one is logged, and leaves whatever memory the game makes
of it.
-/

/-! ## Places -/

def kCastSpellWindowGlobalRva : UInt32 := 0x0091fc84
def kSpellBookWindowGlobalRva : UInt32 := 0x0091fc88
def kBindListRva : UInt32 := 0x00acbee8
def kExecuteCmdRva : UInt32 := 0x004d7230
def kCXWndBringToTopRva : UInt32 := 0x00462c50
def kCXWndMinimizeRva : UInt32 := 0x004666d0
def kCxWndOpenOffset : UInt32 := 0x001a
def kCxWndVisibleOffset : UInt32 := 0x0196
def kCxWndMinimizedOffset : UInt32 := 0x01ce
def kCxWndActiveOffset : UInt32 := 0x01d4
def kCSidlControlsCreatedOffset : UInt32 := 0x01d8
def kCSidlInitVisibilityOffset : UInt32 := 0x01f4
def kCSidlVisibleBeforeResizeOffset : UInt32 := 0x01f5
def kEqMappableCommandCount : Nat := 500
def kMaxEqMappableCommandNameBytes : Nat := 64

/-- `kToggleSpellsWindowCommandName`. -/
def kToggleSpellsWindowCommandName : List UInt8 := ascii "TOGGLE_SPELLSWIN"

/-! ## The game -/

/-- A call of one of the game's functions. -/
inductive WindowCall where
  | executeCmd (commandId : UInt32) (keyDown : Bool)
  | minimize (window : UInt32) (minimized : Bool)
  | shown (window : UInt32) (shows recurse unknown : Bool)
  | activate (window : UInt32)
  | bringToTop (window : UInt32) (recurse : Bool)
  deriving DecidableEq, Repr

/-- Which addresses hold code, and what memory a call of the function at an
address leaves, whether it returns or throws. -/
structure Game where
  executable : Memory → UInt32 → Bool
  memoryAfter : Memory → UInt32 → WindowCall → Memory

/-- The memory, and the calls that were issued so far. -/
structure Session where
  memory : Memory
  issued : List WindowCall

section Windows

variable (game : Game) (moduleBase : UInt32)

/-- `IsExecutableCodeAddress`, with the address it accepts. -/
def executableTarget (memory : Memory) (address : UInt32) : Option UInt32 :=
  if address ≠ 0 ∧ game.executable memory address = true then
    some address
  else
    none

/-- A function at a fixed distance from the module. -/
def moduleTarget (memory : Memory) (rva : UInt32) : Option UInt32 :=
  if moduleBase = 0 then
    none
  else
    executableTarget game memory (moduleBase + rva)

/-- `TryResolveObjectVirtualTarget`. -/
def tryResolveObjectVirtualTarget
    (memory : Memory)
    (object vftableOffset : UInt32) :
    Option UInt32 := do
  guard (object ≠ 0)
  let vftable ← nonNull (memory.readWord object)
  let target ← nonNull (memory.readWord (vftable + vftableOffset))
  executableTarget game memory target

/-- A call, if there is a function to call. -/
def invoke
    (target : Option UInt32)
    (call : WindowCall)
    (session : Session) :
    Session :=
  match target with
  | none => session
  | some address =>
      { memory := game.memoryAfter session.memory address call
        issued := session.issued ++ [call] }

/-- `TryInvokeEqExecuteCmd`. -/
def tryInvokeEqExecuteCmd
    (commandId : UInt32)
    (keyDown : Bool)
    (session : Session) :
    Session :=
  invoke game (moduleTarget game moduleBase session.memory kExecuteCmdRva)
    (.executeCmd commandId keyDown) session

/-- `TryInvokeWindowMinimize`. -/
def tryInvokeWindowMinimize
    (window : UInt32)
    (minimized : Bool)
    (session : Session) :
    Session :=
  if window = 0 then
    session
  else
    invoke game
      (moduleTarget game moduleBase session.memory kCXWndMinimizeRva)
      (.minimize window minimized) session

/-- `TryInvokeWindowShow`. -/
def tryInvokeWindowShow
    (window : UInt32)
    (shows recurse unknown : Bool)
    (session : Session) :
    Session :=
  invoke game (tryResolveObjectVirtualTarget game session.memory window 0xd8)
    (.shown window shows recurse unknown) session

/-- `TryInvokeWindowActivate`. -/
def tryInvokeWindowActivate (window : UInt32) (session : Session) : Session :=
  invoke game (tryResolveObjectVirtualTarget game session.memory window 0x90)
    (.activate window) session

/-- `TryInvokeWindowBringToTop`. -/
def tryInvokeWindowBringToTop
    (window : UInt32)
    (recurse : Bool)
    (session : Session) :
    Session :=
  if window = 0 then
    session
  else
    invoke game
      (moduleTarget game moduleBase session.memory kCXWndBringToTopRva)
      (.bringToTop window recurse) session

/-- `CxWndStateSnapshot`, as far as its `visible` is concerned; there is one
only where all of its fields can be read. -/
def tryReadCxWndStateSnapshot
    (memory : Memory)
    (window : UInt32) :
    Option Bool := do
  guard (window ≠ 0)
  let _enabledRaw ← memory.readByte (window + kCxWndOpenOffset)
  let visibleRaw ← memory.readByte (window + kCxWndVisibleOffset)
  let _minimizedRaw ← memory.readByte (window + kCxWndMinimizedOffset)
  let _activeRaw ← memory.readByte (window + kCxWndActiveOffset)
  let _controlsCreatedRaw ←
    memory.readByte (window + kCSidlControlsCreatedOffset)
  let _initVisibilityRaw ←
    memory.readByte (window + kCSidlInitVisibilityOffset)
  let _visibleBeforeResizeRaw ←
    memory.readByte (window + kCSidlVisibleBeforeResizeOffset)
  return visibleRaw != 0

/-- The cast-spell window that `TryReadCastSpellWindowPointer` finds; null where
it finds none. -/
def castSpellWindowPointer (memory : Memory) : UInt32 :=
  (tryReadGlobalPointer moduleBase memory kCastSpellWindowGlobalRva).getD 0

/-- `cast_spell_window_visible_before`. -/
def castSpellWindowVisible (memory : Memory) : Bool :=
  (tryReadCxWndStateSnapshot memory
    (castSpellWindowPointer moduleBase memory)).getD false

/-! ## Commands -/

/-- The loop of `TryReadEqMappableCommandName`: the name, if it ends within so
many characters. -/
def readCommandName (memory : Memory) : Nat → UInt32 → Option (List UInt8)
  | 0, _ => none
  | remaining + 1, source => do
      let character ← memory.readByte source
      if character = 0 then
        return []
      else
        let rest ← readCommandName memory remaining (source + 1)
        return character :: rest

/-- `TryReadEqMappableCommandName`. -/
def tryReadEqMappableCommandName
    (memory : Memory)
    (commandId : Nat) :
    Option (List UInt8) := do
  guard (commandId < kEqMappableCommandCount ∧ moduleBase ≠ 0)
  let commandName ←
    nonNull
      (memory.readWord
        (moduleBase + kBindListRva + UInt32.ofNat (4 * commandId)))
  readCommandName memory (kMaxEqMappableCommandNameBytes - 1) commandName

/-- `TryResolveEqMappableCommandId`. -/
def tryResolveEqMappableCommandId
    (memory : Memory)
    (commandName : List UInt8) :
    Option UInt32 :=
  ((List.range kEqMappableCommandCount).find? fun commandId =>
      tryReadEqMappableCommandName moduleBase memory commandId ==
        some commandName).map
    UInt32.ofNat

/-! ## Ensuring -/

/-- `g_multiclass_caster_ui_access_ensured`, `_mask` and `_primary_class`. -/
structure EnsuredCells where
  ensured : Bool
  mask : UInt32
  primaryClass : UInt32
  deriving DecidableEq, Repr

/-- What `ClearEnsuredMulticlassCasterUiAccessState` leaves, and what the
process starts with. -/
def EnsuredCells.cleared : EnsuredCells where
  ensured := false
  mask := 0
  primaryClass := 0

/-- `result_reason`. -/
inductive ResultReason where
  | assignedMaskHasNoCaster
  | primaryClassUnavailable
  | primaryClassNotPlayable
  | primaryClassAlreadyCaster
  | primaryClassMissingFromAssignedMask
  | dedupedSamePrimaryAndMask
  | noUiAttemptAvailable
  | uiAttempted
  deriving DecidableEq, Repr

/-- What one call returned, why, what it logged for `dedupe_hit`, and the calls
of the game's functions that it issued. -/
structure EnsureReport where
  returnValue : Bool
  reason : ResultReason
  dedupeHit : Bool
  issued : List WindowCall
  deriving DecidableEq, Repr

/-- The checks of the mask and the class, with the reason of the first that
fails. -/
def refusal
    (assignedMask : UInt32)
    (primaryClassId : Option UInt8) :
    Option ResultReason :=
  if !hasAnyAuthoritativeCastingClass true assignedMask then
    some .assignedMaskHasNoCaster
  else
    match primaryClassId with
    | none => some .primaryClassUnavailable
    | some primaryClassId =>
        if !isPlayableClassId primaryClassId.toUInt32 then
          some .primaryClassNotPlayable
        else if isCastingClassId primaryClassId.toUInt32 then
          some .primaryClassAlreadyCaster
        else if !hasAuthoritativeClass true assignedMask
            primaryClassId.toUInt32 then
          some .primaryClassMissingFromAssignedMask
        else
          none

/-- `same_primary_and_mask`. -/
def samePrimaryAndMask
    (cells : EnsuredCells)
    (assignedMask : UInt32)
    (primaryClassId : Option UInt8) :
    Bool :=
  match primaryClassId with
  | none => false
  | some primaryClassId =>
      isPlayableClassId primaryClassId.toUInt32 && cells.ensured &&
        cells.mask == assignedMask &&
        cells.primaryClass == primaryClassId.toUInt32

/-- The toggle command, pressed and released unless the window is visible, and
whether it was found. -/
def toggleCastSpellWindow
    (visibleBefore : Bool)
    (session : Session) :
    Session × Bool :=
  if visibleBefore then
    (session, false)
  else
    match tryResolveEqMappableCommandId moduleBase session.memory
        kToggleSpellsWindowCommandName with
    | none => (session, false)
    | some commandId =>
        (tryInvokeEqExecuteCmd game moduleBase commandId false
            (tryInvokeEqExecuteCmd game moduleBase commandId true session),
          true)

/-- The calls on the window itself. -/
def showCastSpellWindow (window : UInt32) (session : Session) : Session :=
  if window = 0 then
    session
  else
    let session := tryInvokeWindowMinimize game moduleBase window false session
    let session := tryInvokeWindowShow game window true true true session
    let session := tryInvokeWindowActivate game window session
    tryInvokeWindowBringToTop game moduleBase window true session

/-- `TryEnsureMulticlassCasterUiAccessForAssignedMask`.  The flag is tested
where the source tests it, before it is computed. -/
def tryEnsureMulticlassCasterUiAccessForAssignedMask
    (assignedMask : UInt32)
    (cells : EnsuredCells)
    (memory : Memory) :
    EnsuredCells × Memory × EnsureReport :=
  let primaryClassId := tryReadLocalProfileClassId moduleBase memory
  let samePair := samePrimaryAndMask cells assignedMask primaryClassId
  let castSpellWindow := castSpellWindowPointer moduleBase memory
  let spellbookWindow :=
    (tryReadGlobalPointer moduleBase memory kSpellBookWindowGlobalRva).getD 0
  let dedupeHit := false
  match refusal assignedMask primaryClassId with
  | some reason => (cells, memory, ⟨false, reason, dedupeHit, []⟩)
  | none =>
      if dedupeHit then
        (cells, memory, ⟨false, .dedupedSamePrimaryAndMask, dedupeHit, []⟩)
      else
        let visibleBefore := castSpellWindowVisible moduleBase memory
        let dedupeHit := samePair && visibleBefore
        let (session, commandResolved) :=
          toggleCastSpellWindow game moduleBase visibleBefore ⟨memory, []⟩
        let castSpellWindow :=
          (tryReadGlobalPointer moduleBase session.memory
            kCastSpellWindowGlobalRva).getD castSpellWindow
        let session :=
          showCastSpellWindow game moduleBase castSpellWindow session
        let spellbookWindow :=
          (tryReadGlobalPointer moduleBase session.memory
            kSpellBookWindowGlobalRva).getD spellbookWindow
        if !(commandResolved || castSpellWindow != 0 ||
            spellbookWindow != 0) then
          (cells, session.memory,
            ⟨false, .noUiAttemptAvailable, dedupeHit, session.issued⟩)
        else
          (⟨true, assignedMask, (primaryClassId.getD 0).toUInt32⟩,
            session.memory,
            ⟨true, .uiAttempted, dedupeHit, session.issued⟩)

/-! ## Runs -/

/-- The remembered pair and the game's memory. -/
structure State where
  cells : EnsuredCells
  memory : Memory

/-- A call of one of the two functions, or anything that the game does. -/
inductive Event where
  | ensureCalled (assignedMask : UInt32)
  | ensuredStateCleared
  | gameRan (memory : Memory)

/-- What an event leaves. -/
def step (state : State) : Event → State
  | .ensureCalled assignedMask =>
      let (cells, memory, _) :=
        tryEnsureMulticlassCasterUiAccessForAssignedMask game moduleBase
          assignedMask state.cells state.memory
      ⟨cells, memory⟩
  | .ensuredStateCleared => { state with cells := .cleared }
  | .gameRan memory => { state with memory := memory }

/-- The state after some events, from a process that starts with the given
memory. -/
def stateAfter (initial : Memory) (events : List Event) : State :=
  run (step game moduleBase) ⟨.cleared, initial⟩ events

/-- The report of a call behind some events. -/
def reportAfter
    (initial : Memory)
    (events : List Event)
    (assignedMask : UInt32) :
    EnsureReport :=
  (tryEnsureMulticlassCasterUiAccessForAssignedMask game moduleBase
    assignedMask (stateAfter game moduleBase initial events).cells
    (stateAfter game moduleBase initial events).memory).2.2

/-- The local profile's class behind some events. -/
def primaryClassAfter (initial : Memory) (events : List Event) : Option UInt8 :=
  tryReadLocalProfileClassId moduleBase
    (stateAfter game moduleBase initial events).memory

/-- A call succeeded for the pair, and the ensured state was not cleared since
then. -/
def WasEnsured
    (initial : Memory)
    (events : List Event)
    (assignedMask : UInt32)
    (primaryClassId : UInt8) :
    Prop :=
  ∃ before after,
    events = before ++ .ensureCalled assignedMask :: after ∧
      primaryClassAfter game moduleBase initial before =
        some primaryClassId ∧
      (reportAfter game moduleBase initial before
        assignedMask).returnValue = true ∧
      .ensuredStateCleared ∉ after

/-- A call behind these events is for a pair that was ensured, and finds the
cast-spell window visible. -/
def Repeats
    (initial : Memory)
    (events : List Event)
    (assignedMask : UInt32) :
    Prop :=
  ∃ primaryClassId,
    primaryClassAfter game moduleBase initial events =
        some primaryClassId ∧
      WasEnsured game moduleBase initial events assignedMask primaryClassId ∧
      castSpellWindowVisible moduleBase
        (stateAfter game moduleBase initial events).memory = true

variable {game moduleBase}

/-- A call that succeeds found nothing to refuse. -/
theorem refusal_of_returned
    {assignedMask : UInt32}
    {cells : EnsuredCells}
    {memory : Memory}
    (returned :
      (tryEnsureMulticlassCasterUiAccessForAssignedMask game moduleBase
        assignedMask cells memory).2.2.returnValue = true) :
    refusal assignedMask (tryReadLocalProfileClassId moduleBase memory) =
      none := by
  rw [tryEnsureMulticlassCasterUiAccessForAssignedMask] at returned
  cases refused :
      refusal assignedMask (tryReadLocalProfileClassId moduleBase memory) with
  | none =>
      rfl
  | some reason =>
      simp only [refused] at returned
      cases returned

/-- A visible window is not null. -/
theorem pointer_of_visible
    {memory : Memory}
    (visible : castSpellWindowVisible moduleBase memory = true) :
    castSpellWindowPointer moduleBase memory ≠ 0 := by
  intro isNull
  rw [castSpellWindowVisible, isNull] at visible
  cases visible

/-- With nothing to refuse and the window visible, a call goes on to the calls
on the window: the flag is tested before it is computed. -/
theorem ensure_visible
    {assignedMask : UInt32}
    (cells : EnsuredCells)
    {memory : Memory}
    (accepted :
      refusal assignedMask (tryReadLocalProfileClassId moduleBase memory) =
        none)
    (visible : castSpellWindowVisible moduleBase memory = true) :
    (tryEnsureMulticlassCasterUiAccessForAssignedMask game moduleBase
        assignedMask cells memory).2.2 =
      { returnValue := true
        reason := .uiAttempted
        dedupeHit :=
          samePrimaryAndMask cells assignedMask
            (tryReadLocalProfileClassId moduleBase memory)
        issued :=
          (showCastSpellWindow game moduleBase
            (castSpellWindowPointer moduleBase memory)
            ⟨memory, []⟩).issued } := by
  have isWindow := pointer_of_visible visible
  have sameWindow :
      (tryReadGlobalPointer moduleBase memory kCastSpellWindowGlobalRva).getD
          (castSpellWindowPointer moduleBase memory) =
        castSpellWindowPointer moduleBase memory := by
    rw [castSpellWindowPointer]
    cases tryReadGlobalPointer moduleBase memory kCastSpellWindowGlobalRva <;>
      rfl
  simp only [tryEnsureMulticlassCasterUiAccessForAssignedMask, accepted,
    visible, toggleCastSpellWindow, sameWindow, if_true, Bool.false_eq_true,
    if_false, Bool.and_true, Bool.false_or]
  rw [if_neg (by simp [isWindow])]

/-- A repeated call attempts everything again. -/
theorem repeats_attempts
    {initial : Memory}
    {events : List Event}
    {assignedMask : UInt32}
    (repeats : Repeats game moduleBase initial events assignedMask) :
    (reportAfter game moduleBase initial events assignedMask).reason =
      .uiAttempted := by
  obtain ⟨primaryClassId, isClass, ensured, visible⟩ := repeats
  obtain ⟨before, after, _, wasClass, returned, _⟩ := ensured
  have accepted := refusal_of_returned returned
  rw [primaryClassAfter] at isClass wasClass
  rw [wasClass, ← isClass] at accepted
  rw [reportAfter, ensure_visible _ accepted visible]

/-- Every repeated call of a run is deduplicated exactly when the run has no
repeated call. -/
theorem repeats_deduplicated_iff
    (game : Game)
    (moduleBase : UInt32)
    (initial : Memory)
    (events : List Event) :
    (∀ earlier assignedMask later,
        events = earlier ++ .ensureCalled assignedMask :: later →
          Repeats game moduleBase initial earlier assignedMask →
            (reportAfter game moduleBase initial earlier
                assignedMask).reason = .dedupedSamePrimaryAndMask ∧
              (reportAfter game moduleBase initial earlier
                assignedMask).issued = []) ↔
      ∀ earlier assignedMask later,
        events = earlier ++ .ensureCalled assignedMask :: later →
          ¬ Repeats game moduleBase initial earlier assignedMask := by
  constructor
  · intro deduplicated earlier assignedMask later isCall repeats
    have isDeduped :=
      (deduplicated earlier assignedMask later isCall repeats).1
    rw [repeats_attempts repeats] at isDeduped
    cases isDeduped
  · intro noRepeat earlier assignedMask later isCall repeats
    exact (noRepeat earlier assignedMask later isCall repeats).elim

end Windows

/-! ## A repeated call -/

/-- A warrior's memory with a visible cast-spell window. -/
def visibleWindowMemory : Memory :=
  warriorMemory.writeEach
    [⟨0x400000 + kCastSpellWindowGlobalRva, [0, 0, 0, 0x16]⟩,
      ⟨0x16000000, [0, 0, 0, 0x17]⟩,
      ⟨0x16000000 + kCxWndVisibleOffset, [1]⟩,
      ⟨0x17000000 + 0x90, [0, 0, 0, 0x18]⟩,
      ⟨0x17000000 + 0xd8, [0, 1, 0, 0x18]⟩]

/-- A game whose functions change nothing. -/
def quietGame : Game where
  executable _ _ := true
  memoryAfter memory _ _ := memory

/-- A call for a warrior with the cleric's class issues the calls on the window
again when it is repeated, although the window is visible. -/
theorem repeated_call_not_deduplicated :
    Repeats quietGame 0x400000 visibleWindowMemory [.ensureCalled 3] 3 ∧
      (reportAfter quietGame 0x400000 visibleWindowMemory [.ensureCalled 3]
        3).reason ≠ .dedupedSamePrimaryAndMask ∧
      (reportAfter quietGame 0x400000 visibleWindowMemory [.ensureCalled 3]
        3).issued =
        [.minimize 0x16000000 false, .shown 0x16000000 true true true,
          .activate 0x16000000, .bringToTop 0x16000000 true] := by
  have ensured :
      WasEnsured quietGame 0x400000 visibleWindowMemory [.ensureCalled 3] 3
        1 :=
    ⟨[], [], rfl, by decide, by decide, List.not_mem_nil⟩
  exact ⟨⟨1, by decide, ensured, by decide⟩, by decide, by decide⟩

end MonomythClient.CasterWindows
