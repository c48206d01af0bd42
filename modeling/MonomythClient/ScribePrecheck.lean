import MonomythClient.LocalPlayer
import MonomythClient.Runs
import MonomythClient.ServerAuthStatsSnapshot

namespace MonomythClient.ScribePrecheck

open MulticlassIdentity LocalPlayer ProtectedMemory ServerAuthStats

/-!
# The scribe precheck gate

The game refuses to scribe a spell whose mask lacks the player's class.  The
gate's hook overrules that refusal when the mask has another assigned class.
What it goes by is a record that the hooks of the functions called inside the
gate write: the class that was resolved, the mask of the spell, and whether a
later rule was asked.

There is one record for all gate calls.  A call starts with a fresh record and
ends with none, so a call inside a call takes the outer one's record away.
-/

/-! ## The record -/

/-- The rules that are asked behind the class check. -/
inductive Rule where
  | rule4462c0
  | rule446190
  | rule446200
  | rule446380
deriving DecidableEq, Repr

/-- `StartSpellScribePrecheckClassMaskSnapshot`, without what is only logged: a
called or copied flag with its value is one member. -/
structure ClassMaskSnapshot where
  active : Bool := false
  correlationId : UInt32 := 0
  classResolverCalled : Bool := false
  classId : Option UInt8 := none
  assignedMask : Option UInt32 := none
  rule4462c0Called : Bool := false
  rule446190Called : Bool := false
  rule446200Called : Bool := false
  rule446380Called : Bool := false
deriving DecidableEq, Repr

/-- `ResetStartSpellScribePrecheckClassMaskSnapshot`. -/
def resetStartSpellScribePrecheckClassMaskSnapshot
    (correlationId : UInt32) :
    ClassMaskSnapshot :=
  { active := true, correlationId := correlationId }

/-- `ClearStartSpellScribePrecheckClassMaskSnapshot`. -/
def clearStartSpellScribePrecheckClassMaskSnapshot : ClassMaskSnapshot :=
  {}

/-! ## The hooks inside the gate -/

/-- What a hook writes to the record, if that is for the correlation at hand. -/
def record
    (correlationId : UInt32)
    (write : ClassMaskSnapshot → ClassMaskSnapshot)
    (snapshot : ClassMaskSnapshot) :
    ClassMaskSnapshot :=
  if snapshot.active && snapshot.correlationId == correlationId then
    write snapshot
  else
    snapshot

/-- The class id in a class record that a resolver returned. -/
def resolvedClassId (memory : Memory) (classRecord : UInt32) : Option UInt8 :=
  if classRecord ≠ 0 then
    memory.readByte (classRecord + kScribeGateResolvedClassIdOffset)
  else
    none

/-- `StartSpellScribePrecheckClassResolverHook`, behind the game's function. -/
def startSpellScribePrecheckClassResolverHook
    (memory : Memory)
    (classRecord correlationId : UInt32) :
    ClassMaskSnapshot → ClassMaskSnapshot :=
  record correlationId fun snapshot =>
    { snapshot with
      classResolverCalled := true
      classId := resolvedClassId memory classRecord }

/-- `StartSpellScribePrecheckAssignedMaskGetterHook`, behind the game's
function. -/
def startSpellScribePrecheckAssignedMaskGetterHook
    (originalResult correlationId : UInt32) :
    ClassMaskSnapshot → ClassMaskSnapshot :=
  record correlationId fun snapshot =>
    { snapshot with assignedMask := some originalResult }

/-- `StartSpellScribePrecheckRule4462c0Hook`, behind the game's function. -/
def startSpellScribePrecheckRule4462c0Hook (correlationId : UInt32) :
    ClassMaskSnapshot → ClassMaskSnapshot :=
  record correlationId fun snapshot => { snapshot with rule4462c0Called := true }

/-- `StartSpellScribePrecheckRule446190Hook`, likewise. -/
def startSpellScribePrecheckRule446190Hook (correlationId : UInt32) :
    ClassMaskSnapshot → ClassMaskSnapshot :=
  record correlationId fun snapshot => { snapshot with rule446190Called := true }

/-- `StartSpellScribePrecheckRule446200Hook`, likewise. -/
def startSpellScribePrecheckRule446200Hook (correlationId : UInt32) :
    ClassMaskSnapshot → ClassMaskSnapshot :=
  record correlationId fun snapshot => { snapshot with rule446200Called := true }

/-- `StartSpellScribePrecheckRule446380Hook`, likewise. -/
def startSpellScribePrecheckRule446380Hook (correlationId : UInt32) :
    ClassMaskSnapshot → ClassMaskSnapshot :=
  record correlationId fun snapshot => { snapshot with rule446380Called := true }

/-- What a hooked function inside the gate returns with. -/
inductive HookReturn where
  | classResolved (memory : Memory) (classRecord : UInt32)
  | assignedMask (originalResult : UInt32)
  | ruleAsked (rule : Rule)

/-- The hook of the function that returned. -/
def HookReturn.hook (correlationId : UInt32) :
    HookReturn → ClassMaskSnapshot → ClassMaskSnapshot
  | .classResolved memory classRecord =>
      startSpellScribePrecheckClassResolverHook memory classRecord
        correlationId
  | .assignedMask originalResult =>
      startSpellScribePrecheckAssignedMaskGetterHook originalResult
        correlationId
  | .ruleAsked .rule4462c0 =>
      startSpellScribePrecheckRule4462c0Hook correlationId
  | .ruleAsked .rule446190 =>
      startSpellScribePrecheckRule446190Hook correlationId
  | .ruleAsked .rule446200 =>
      startSpellScribePrecheckRule446200Hook correlationId
  | .ruleAsked .rule446380 =>
      startSpellScribePrecheckRule446380Hook correlationId

/-! ## The emulated class lookup -/

/-- How a walk along a chain of nodes ends. -/
inductive Walk where
  | unreadable
  | found (node : UInt32)
  | missing
deriving DecidableEq, Repr

/-- The loop over the nodes: how many it may still visit, and the next one.
It gives the nodes it visits and how it ends. -/
def walkNodes (memory : Memory) (key : UInt32) :
    Nat → UInt32 → List UInt32 × Walk
  | 0, _ => ([], .missing)
  | remaining + 1, node =>
      if node = 0 then
        ([], .missing)
      else
        match memory.readWord node with
        | none => ([node], .unreadable)
        | some nodeKey =>
            if nodeKey = key then
              ([node], .found node)
            else
              match memory.readWord (node + kScribeGateNodeNextOffset) with
              | none => ([node], .unreadable)
              | some next =>
                  let (visited, walk) := walkNodes memory key remaining next
                  (node :: visited, walk)

/-- Where the gate's context keeps its chain of class records. -/
def lookupContext (memory : Memory) (thisContext : UInt32) : Option UInt32 := do
  guard (thisContext ≠ 0)
  let descriptorTable ←
    memory.readWord (thisContext + kScribeGateDescriptorTableOffset)
  guard (descriptorTable ≠ 0)
  let relativeOffset ←
    memory.readWord (descriptorTable + kScribeGateRelativeOffsetField)
  guard (relativeOffset ≠ 0 ∧
    relativeOffset ≤ kScribeGateMaxRelativeLookupOffset)
  guard (thisContext ≤
    UInt32.ofNat (UInt32.size - 1) - relativeOffset -
      kScribeGateLookupContextBias)
  return thisContext + relativeOffset + kScribeGateLookupContextBias

/-- The first node of the chain and the key that is looked up in it. -/
def chainAndKey (memory : Memory) (thisContext : UInt32) :
    Option (UInt32 × UInt32) := do
  let context ← lookupContext memory thisContext
  let node ← memory.readWord context
  let key ← memory.readWord (context + kScribeGateLookupKeyOffset)
  return (node, key)

/-- The class id that the chain has for the key, when the lookup comes to an
end: none if there is no node for it, or its record names no class. -/
def emulatedClassId (memory : Memory) (thisContext : UInt32) :
    Option (Option UInt8) :=
  match chainAndKey memory thisContext with
  | none => none
  | some (node, key) =>
      match (walkNodes memory key kScribeGateMaxLookupNodes node).2 with
      | .unreadable => none
      | .missing => some none
      | .found node =>
          (memory.readWord (node + kScribeGateNodeRecordOffset)).map
            (resolvedClassId memory)

/-- `CaptureStartSpellScribePrecheckClassResolverFromGateContext`. -/
def captureStartSpellScribePrecheckClassResolverFromGateContext
    (memory : Memory)
    (thisContext : UInt32)
    (snapshot : ClassMaskSnapshot) :
    ClassMaskSnapshot :=
  if !snapshot.active || snapshot.classResolverCalled then
    snapshot
  else
    match emulatedClassId memory thisContext with
    | none => snapshot
    | some classId =>
        { snapshot with classResolverCalled := true, classId := classId }

/-! ## The gate -/

/-- A gate call that has not returned yet. -/
structure GateCall where
  thisContext : UInt32
  requireKnownLike : Int32
  correlationId : UInt32
deriving DecidableEq, Repr

/-- What a gate call finds when the game's function returns. -/
structure GateReturn where
  originalResult : Bool
  memory : Memory
  authoritativeMask : Stored UInt32
  multiclassSpellUsabilityEnabled : Bool

/-- The decision of `StartSpellScribePrecheckGateHook`, behind the game's
function. -/
def finalResult
    (call : GateCall)
    (returned : GateReturn)
    (snapshot : ClassMaskSnapshot) :
    Bool :=
  let snapshot :=
    captureStartSpellScribePrecheckClassResolverFromGateContext
      returned.memory call.thisContext snapshot
  let authoritativeMaskIntersectsSpellMask :=
    returned.authoritativeMask.has &&
      snapshot.assignedMask.any fun mask =>
        returned.authoritativeMask.value &&& mask != 0
  let noLateRuleCalled :=
    !snapshot.rule4462c0Called && !snapshot.rule446190Called &&
      !snapshot.rule446200Called && !snapshot.rule446380Called
  let currentClassRejectedBySpellMask :=
    snapshot.classId.any fun classId =>
      isPlayableClassId classId.toUInt32 &&
        snapshot.assignedMask.any fun mask =>
          mask &&& classBit classId.toUInt32 == 0
  if returned.multiclassSpellUsabilityEnabled && !returned.originalResult &&
      call.requireKnownLike != 0 && noLateRuleCalled &&
      currentClassRejectedBySpellMask &&
      authoritativeMaskIntersectsSpellMask then
    true
  else
    returned.originalResult

/-! ## Runs -/

/-- The correlation at hand, the record, and the gate calls that are under way,
the innermost first. -/
structure State where
  correlationId : UInt32
  snapshot : ClassMaskSnapshot
  gates : List GateCall

/-- No gate was called yet. -/
def State.initial (correlationId : UInt32) : State :=
  ⟨correlationId, {}, []⟩

/-- Whatever the game does, in any order: other correlations, gate calls, and
returns from the functions that are hooked.  The gate that returns is the one
entered last. -/
inductive Event where
  | correlationChanged (correlationId : UInt32)
  | gateEntered (thisContext : UInt32) (requireKnownLike : Int32)
  | gateReturned (returned : GateReturn)
  | hookReturned (returned : HookReturn)

/-- The state behind an event. -/
def step (state : State) : Event → State
  | .correlationChanged correlationId =>
      { state with correlationId := correlationId }
  | .gateEntered thisContext requireKnownLike =>
      { state with
        snapshot :=
          resetStartSpellScribePrecheckClassMaskSnapshot state.correlationId
        gates :=
          ⟨thisContext, requireKnownLike, state.correlationId⟩ ::
            state.gates }
  | .gateReturned _ =>
      match state.gates with
      | [] => state
      | _ :: outer =>
          { state with
            snapshot := clearStartSpellScribePrecheckClassMaskSnapshot
            gates := outer }
  | .hookReturned returned =>
      { state with
        snapshot := returned.hook state.correlationId state.snapshot }

/-- What the gate call under way returns, when the game's function does. -/
def gateResult (state : State) (returned : GateReturn) : Option Bool :=
  state.gates.head?.map fun call => finalResult call returned state.snapshot

end MonomythClient.ScribePrecheck
