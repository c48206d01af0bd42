import MonomythClient.ScribePrecheck

namespace MonomythClient.ScribePrecheck

open MulticlassIdentity LocalPlayer ProtectedMemory ServerAuthStats

/-!
# What an overruled refusal went by

Here every gate call keeps what the hooked functions returned inside it, apart
from every other call, and remembers whether another gate call was made in it.
The one record of the source is either empty or what the innermost call has
gathered by itself.  So a refusal is overruled only by what was returned in
that very call, under its own correlation.
-/

/-! ## The chain of nodes -/

/-- The node at a position of a chain, as far as it can be read. -/
def nodeAt (memory : Memory) (node : UInt32) : Nat → Option UInt32
  | 0 =>
      if node = 0 then
        none
      else
        some node
  | position + 1 =>
      if node = 0 then
        none
      else
        match memory.readWord (node + kScribeGateNodeNextOffset) with
        | none => none
        | some next => nodeAt memory next position

/-- The key of the node at a position of a chain. -/
def keyAt (memory : Memory) (node : UInt32) (position : Nat) :
    Option UInt32 :=
  (nodeAt memory node position).bind memory.readWord

section Nodes

variable
  {memory : Memory}
  {node next : UInt32}
  (notNull : node ≠ 0)

include notNull

theorem nodeAt_zero : nodeAt memory node 0 = some node := by
  rw [nodeAt, if_neg notNull]

theorem keyAt_zero : keyAt memory node 0 = memory.readWord node := by
  rw [keyAt, nodeAt_zero notNull, Option.bind_some]

variable
  (readableNext :
    memory.readWord (node + kScribeGateNodeNextOffset) = some next)

include readableNext

theorem nodeAt_succ (position : Nat) :
    nodeAt memory node (position + 1) = nodeAt memory next position := by
  rw [nodeAt, if_neg notNull, readableNext]

theorem keyAt_succ (position : Nat) :
    keyAt memory node (position + 1) = keyAt memory next position := by
  rw [keyAt, nodeAt_succ notNull readableNext, keyAt]

end Nodes

/-- A node behind another one is reached through its link. -/
theorem next_of_nodeAt_succ
    {memory : Memory}
    {node found : UInt32}
    {position : Nat}
    (there : nodeAt memory node (position + 1) = some found) :
    node ≠ 0 ∧
      ∃ next,
        memory.readWord (node + kScribeGateNodeNextOffset) = some next ∧
          nodeAt memory next position = some found := by
  rw [nodeAt] at there
  split at there
  · cases there
  next notNull =>
    split at there
    · cases there
    next next readableNext =>
      exact ⟨notNull, next, readableNext, there⟩

/-- A walk visits no more nodes than it may. -/
theorem walkNodes_visited_length
    (memory : Memory)
    (key : UInt32)
    (remaining : Nat)
    (node : UInt32) :
    (walkNodes memory key remaining node).1.length ≤ remaining := by
  induction remaining generalizing node with
  | zero =>
      exact Nat.le_refl 0
  | succ remaining inductionHypothesis =>
      rw [walkNodes]
      split
      · exact Nat.zero_le _
      · split
        · exact Nat.succ_le_succ (Nat.zero_le remaining)
        · split
          · exact Nat.succ_le_succ (Nat.zero_le remaining)
          · split
            · exact Nat.succ_le_succ (Nat.zero_le remaining)
            · exact Nat.succ_le_succ (inductionHypothesis _)

/-- What the walk from a node finds is that node, if it has the key, and
otherwise what the walk from the next one finds. -/
theorem walkNodes_found_succ
    {memory : Memory}
    {key : UInt32}
    {remaining : Nat}
    {node found : UInt32} :
    (walkNodes memory key (remaining + 1) node).2 = .found found ↔
      node ≠ 0 ∧
        ((memory.readWord node = some key ∧ node = found) ∨
          ∃ nodeKey next,
            memory.readWord node = some nodeKey ∧
              nodeKey ≠ key ∧
                memory.readWord (node + kScribeGateNodeNextOffset) =
                    some next ∧
                  (walkNodes memory key remaining next).2 = .found found) := by
  rw [walkNodes]
  split
  next isNull =>
    simp [isNull]
  next notNull =>
    split
    next unreadable =>
      simp [unreadable]
    next nodeKey readable =>
      split
      next sameKey =>
        simp [readable, sameKey, notNull]
      next otherKey =>
        split
        next unreadableNext =>
          simp [readable, otherKey, unreadableNext]
        next next readableNext =>
          simp [readable, otherKey, readableNext, notNull]

/-- A walk finds the first node with the key, if it may go that far. -/
theorem walkNodes_found_iff
    {memory : Memory}
    {key : UInt32}
    {remaining : Nat}
    {node found : UInt32} :
    (walkNodes memory key remaining node).2 = .found found ↔
      ∃ position < remaining,
        nodeAt memory node position = some found ∧
          memory.readWord found = some key ∧
            ∀ earlier < position,
              ∃ otherKey,
                keyAt memory node earlier = some otherKey ∧
                  otherKey ≠ key := by
  induction remaining generalizing node with
  | zero =>
      simp [walkNodes]
  | succ remaining inductionHypothesis =>
      rw [walkNodes_found_succ]
      constructor
      · rintro ⟨notNull, ⟨sameKey, rfl⟩ |
          ⟨nodeKey, next, readable, otherKey, readableNext, foundLater⟩⟩
        · exact ⟨0, Nat.succ_pos remaining, nodeAt_zero notNull, sameKey,
            fun earlier before => absurd before (Nat.not_lt_zero earlier)⟩
        · obtain ⟨position, within, there, sameKey, othersBefore⟩ :=
            inductionHypothesis.mp foundLater
          refine
            ⟨position + 1, Nat.succ_lt_succ within, ?_, sameKey, ?_⟩
          · rw [nodeAt_succ notNull readableNext]
            exact there
          · intro earlier before
            cases earlier with
            | zero =>
                rw [keyAt_zero notNull]
                exact ⟨nodeKey, readable, otherKey⟩
            | succ earlier =>
                rw [keyAt_succ notNull readableNext]
                exact othersBefore earlier (Nat.lt_of_succ_lt_succ before)
      · rintro ⟨position, within, there, sameKey, othersBefore⟩
        cases position with
        | zero =>
            rw [nodeAt] at there
            split at there
            · cases there
            next notNull =>
              cases there
              exact ⟨notNull, .inl ⟨sameKey, rfl⟩⟩
        | succ position =>
            obtain ⟨notNull, next, readableNext, thereBehind⟩ :=
              next_of_nodeAt_succ there
            obtain ⟨nodeKey, isKey, otherKey⟩ :=
              othersBefore 0 (Nat.succ_pos position)
            rw [keyAt_zero notNull] at isKey
            refine
              ⟨notNull, .inr ⟨nodeKey, next, isKey, otherKey, readableNext,
                inductionHypothesis.mpr
                  ⟨position, Nat.lt_of_succ_lt_succ within, thereBehind,
                    sameKey, fun earlier before => ?_⟩⟩⟩
            rw [← keyAt_succ notNull readableNext]
            exact othersBefore (earlier + 1) (Nat.succ_lt_succ before)

/-! ## The evidence of each call -/

/-- A return from a hooked function, with the correlation at hand when it
returned. -/
structure Evidence where
  correlationId : UInt32
  returned : HookReturn

/-- A gate call with what was returned in it, in order, and whether another
gate call was made in it. -/
structure Frame where
  call : GateCall
  evidence : List Evidence
  nested : Bool

/-- The correlation at hand and the gate calls under way, the innermost
first. -/
structure Chronicle where
  correlationId : UInt32
  frames : List Frame

/-- No gate was called yet. -/
def Chronicle.initial (correlationId : UInt32) : Chronicle :=
  ⟨correlationId, []⟩

/-- The chronicle behind an event. -/
def chronicleStep (chronicle : Chronicle) : Event → Chronicle
  | .correlationChanged correlationId =>
      { chronicle with correlationId := correlationId }
  | .gateEntered thisContext requireKnownLike =>
      { chronicle with
        frames :=
          ⟨⟨thisContext, requireKnownLike, chronicle.correlationId⟩, [],
              false⟩ ::
            match chronicle.frames with
            | [] => []
            | enclosing :: outer => { enclosing with nested := true } :: outer }
  | .gateReturned _ =>
      { chronicle with frames := chronicle.frames.tail }
  | .hookReturned returned =>
      match chronicle.frames with
      | [] => chronicle
      | frame :: outer =>
          { chronicle with
            frames :=
              { frame with
                evidence :=
                  frame.evidence ++ [⟨chronicle.correlationId, returned⟩] } ::
                outer }

/-- What was returned, if it was under a correlation. -/
def Evidence.under
    (correlationId : UInt32)
    (evidence : Evidence) :
    Option HookReturn :=
  if evidence.correlationId = correlationId then
    some evidence.returned
  else
    none

/-- What was returned in a call under the call's own correlation. -/
def Frame.own (frame : Frame) : List HookReturn :=
  frame.evidence.filterMap (Evidence.under frame.call.correlationId)

/-- The class a return resolves, if it is one of the resolver's. -/
def HookReturn.resolves : HookReturn → Option (Option UInt8)
  | .classResolved memory classRecord =>
      some (resolvedClassId memory classRecord)
  | _ => none

/-- The mask a return brings, if it is one of the getter's. -/
def HookReturn.mask : HookReturn → Option UInt32
  | .assignedMask originalResult => some originalResult
  | _ => none

/-- The class last resolved in a call, or the emulated lookup's if none was. -/
def Frame.resolvedClass (frame : Frame) (memory : Memory) : Option UInt8 :=
  match (frame.own.filterMap HookReturn.resolves).getLast? with
  | some classId => classId
  | none => (emulatedClassId memory frame.call.thisContext).join

/-- The rule a return is from, if it is one of the rules'. -/
def HookReturn.rule : HookReturn → Option Rule
  | .ruleAsked rule => some rule
  | _ => none

/-- The mask last returned in a call. -/
def Frame.assignedMask (frame : Frame) : Option UInt32 :=
  (frame.own.filterMap HookReturn.mask).getLast?

/-! ## The record and the evidence -/

/-- What a return writes to the record. -/
def HookReturn.write
    (snapshot : ClassMaskSnapshot) :
    HookReturn → ClassMaskSnapshot
  | .classResolved memory classRecord =>
      { snapshot with
        classResolverCalled := true
        classId := resolvedClassId memory classRecord }
  | .assignedMask originalResult =>
      { snapshot with assignedMask := some originalResult }
  | .ruleAsked .rule4462c0 => { snapshot with rule4462c0Called := true }
  | .ruleAsked .rule446190 => { snapshot with rule446190Called := true }
  | .ruleAsked .rule446200 => { snapshot with rule446200Called := true }
  | .ruleAsked .rule446380 => { snapshot with rule446380Called := true }

/-- Every hook writes to the record under the same condition. -/
theorem HookReturn.hook_eq
    (returned : HookReturn)
    (correlationId : UInt32)
    (snapshot : ClassMaskSnapshot) :
    returned.hook correlationId snapshot =
      record correlationId (fun snapshot => returned.write snapshot)
        snapshot := by
  cases returned with
  | classResolved memory classRecord =>
      rfl
  | assignedMask originalResult =>
      rfl
  | ruleAsked rule =>
      cases rule <;> rfl

/-- The record behind some evidence. -/
def recordEvidence
    (snapshot : ClassMaskSnapshot)
    (evidence : Evidence) :
    ClassMaskSnapshot :=
  evidence.returned.hook evidence.correlationId snapshot

/-- The record that a call has gathered by itself. -/
def Frame.snapshot (frame : Frame) : ClassMaskSnapshot :=
  Runs.run recordEvidence
    (resetStartSpellScribePrecheckClassMaskSnapshot frame.call.correlationId)
    frame.evidence

/-- Nothing is written to the empty record. -/
theorem HookReturn.hook_cleared
    (returned : HookReturn)
    (correlationId : UInt32) :
    returned.hook correlationId clearStartSpellScribePrecheckClassMaskSnapshot =
      clearStartSpellScribePrecheckClassMaskSnapshot := by
  rw [hook_eq]
  rfl

/-- The record is empty, or what the innermost call gathered with no other gate
call in it. -/
structure Represents (state : State) (chronicle : Chronicle) : Prop where
  correlationId : state.correlationId = chronicle.correlationId
  gates : state.gates = chronicle.frames.map (·.call)
  snapshot :
    state.snapshot = clearStartSpellScribePrecheckClassMaskSnapshot ∨
      ∃ frame outer,
        chronicle.frames = frame :: outer ∧
          frame.nested = false ∧
            state.snapshot = frame.snapshot

/-- Every event keeps the record to the innermost call's own evidence. -/
theorem step_represents
    (state : State)
    (chronicle : Chronicle)
    (event : Event)
    (represents : Represents state chronicle) :
    Represents (step state event) (chronicleStep chronicle event) := by
  obtain ⟨stateId, snapshot, gates⟩ := state
  obtain ⟨correlationId, frames⟩ := chronicle
  obtain ⟨sameId, sameGates, snapshotIs⟩ := represents
  dsimp only at sameId sameGates snapshotIs
  subst sameId sameGates
  cases event with
  | correlationChanged newId =>
      exact ⟨rfl, rfl, snapshotIs⟩
  | gateEntered thisContext requireKnownLike =>
      refine ⟨rfl, ?_, .inr ⟨_, _, rfl, rfl, rfl⟩⟩
      cases frames with
      | nil =>
          rfl
      | cons enclosing outer =>
          rfl
  | gateReturned returned =>
      cases frames with
      | nil =>
          exact ⟨rfl, rfl, snapshotIs⟩
      | cons frame outer =>
          exact ⟨rfl, rfl, .inl rfl⟩
  | hookReturned returned =>
      cases frames with
      | nil =>
          refine ⟨rfl, rfl, .inl ?_⟩
          rcases snapshotIs with rfl | ⟨frame, outer, inFrames, _⟩
          · exact returned.hook_cleared _
          · cases inFrames
      | cons frame outer =>
          refine ⟨rfl, rfl, ?_⟩
          rcases snapshotIs with rfl | ⟨_, _, inFrames, notNested, rfl⟩
          · exact .inl (returned.hook_cleared _)
          · cases inFrames
            refine .inr ⟨_, _, rfl, notNested, ?_⟩
            simp only [step, Frame.snapshot, Runs.run_append, Runs.run_cons,
              Runs.run_nil, recordEvidence]

/-- After every run, the record is the innermost call's own evidence. -/
theorem run_represents
    (correlationId : UInt32)
    (events : List Event) :
    Represents (Runs.run step (State.initial correlationId) events)
      (Runs.run chronicleStep (Chronicle.initial correlationId) events) :=
  Runs.simulation step_represents ⟨rfl, rfl, .inl rfl⟩ events

/-! ## What a call's own record says -/

/-- A call's own record is what the returns under its correlation wrote. -/
theorem Frame.snapshot_eq_own (frame : Frame) :
    frame.snapshot =
      Runs.run HookReturn.write
        (resetStartSpellScribePrecheckClassMaskSnapshot
          frame.call.correlationId)
        frame.own := by
  -- No write changes the correlation of the record or ends it.
  have writesUnder :
      ∀ snapshot (evidence : Evidence),
        snapshot.active = true ∧
            snapshot.correlationId = frame.call.correlationId →
          recordEvidence snapshot evidence =
            ((evidence.under frame.call.correlationId).map
              (HookReturn.write snapshot)).getD snapshot := by
    rintro snapshot ⟨correlationId, returned⟩ ⟨isActive, sameId⟩
    rw [recordEvidence, HookReturn.hook_eq, record, isActive, sameId,
      Evidence.under]
    by_cases same : correlationId = frame.call.correlationId
    · rw [if_pos same, if_pos (by simp [same])]
      rfl
    · rw [if_neg same, if_neg (by simpa using Ne.symm same)]
      rfl
  have staysActive :
      ∀ snapshot (evidence : Evidence),
        snapshot.active = true ∧
            snapshot.correlationId = frame.call.correlationId →
          (recordEvidence snapshot evidence).active = true ∧
            (recordEvidence snapshot evidence).correlationId =
              frame.call.correlationId := by
    intro snapshot evidence active
    rw [writesUnder snapshot evidence active]
    cases evidence.under frame.call.correlationId with
    | none =>
        exact active
    | some returned =>
        cases returned with
        | classResolved memory classRecord =>
            exact active
        | assignedMask originalResult =>
            exact active
        | ruleAsked rule =>
            cases rule <;> exact active
  rw [snapshot, own]
  refine
    (Runs.project (fun snapshot => snapshot) staysActive writesUnder
      ⟨rfl, rfl⟩ frame.evidence).trans ?_
  exact Runs.run_filterMap (fun _ _ => rfl) _ _

/-- A part of a call's own record is what the last return made of it that the
part depends on. -/
theorem Frame.snapshot_part
    {Part Found : Type}
    (frame : Frame)
    (part : ClassMaskSnapshot → Part)
    (found : HookReturn → Option Found)
    (made : Found → Part)
    (replaces :
      ∀ snapshot (returned : HookReturn),
        part (returned.write snapshot) =
          ((found returned).map made).getD (part snapshot)) :
    part frame.snapshot =
      (((frame.own.filterMap found).getLast?).map made).getD
        (part
          (resetStartSpellScribePrecheckClassMaskSnapshot
            frame.call.correlationId)) := by
  rw [snapshot_eq_own, ← List.getLast?_map, List.map_filterMap]
  exact Runs.run_replacements part _ replaces _ frame.own

/-- The mask in a call's own record. -/
theorem Frame.snapshot_assignedMask (frame : Frame) :
    frame.snapshot.assignedMask = frame.assignedMask := by
  have lastMask :=
    frame.snapshot_part ClassMaskSnapshot.assignedMask HookReturn.mask some
      fun snapshot returned => by
        cases returned with
        | classResolved memory classRecord =>
            rfl
        | assignedMask originalResult =>
            rfl
        | ruleAsked rule =>
            cases rule <;> rfl
  rw [lastMask, assignedMask]
  cases (frame.own.filterMap HookReturn.mask).getLast? with
  | none =>
      rfl
  | some mask =>
      rfl

/-- Whether a class was resolved, and which, in a call's own record. -/
theorem Frame.snapshot_classId (frame : Frame) :
    (frame.snapshot.classResolverCalled, frame.snapshot.classId) =
      match (frame.own.filterMap HookReturn.resolves).getLast? with
      | some classId => (true, classId)
      | none => (false, none) := by
  have lastResolved :=
    frame.snapshot_part
      (fun snapshot => (snapshot.classResolverCalled, snapshot.classId))
      HookReturn.resolves (fun classId => (true, classId))
      fun snapshot returned => by
        cases returned with
        | classResolved memory classRecord =>
            rfl
        | assignedMask originalResult =>
            rfl
        | ruleAsked rule =>
            cases rule <;> rfl
  rw [lastResolved]
  cases (frame.own.filterMap HookReturn.resolves).getLast? with
  | none =>
      rfl
  | some classId =>
      rfl

/-- Whether a rule was asked, by the record. -/
def ClassMaskSnapshot.lateRuleCalled (snapshot : ClassMaskSnapshot) : Bool :=
  snapshot.rule4462c0Called || snapshot.rule446190Called ||
    snapshot.rule446200Called || snapshot.rule446380Called

/-- A rule that was asked under the call's correlation is in its own record. -/
theorem Frame.snapshot_lateRuleCalled
    {frame : Frame}
    (noLateRule : frame.snapshot.lateRuleCalled = false)
    (rule : Rule) :
    .ruleAsked rule ∉ frame.own := by
  intro asked
  have lastRule :=
    frame.snapshot_part ClassMaskSnapshot.lateRuleCalled HookReturn.rule
      (fun _ => true)
      fun snapshot returned => by
        cases returned with
        | classResolved memory classRecord =>
            rfl
        | assignedMask originalResult =>
            rfl
        | ruleAsked rule =>
            cases rule <;>
              simp [HookReturn.write, HookReturn.rule,
                ClassMaskSnapshot.lateRuleCalled]
  rw [lastRule] at noLateRule
  cases isLast : (frame.own.filterMap HookReturn.rule).getLast? with
  | none =>
      have noRules := List.getLast?_eq_none_iff.mp isLast
      have isRule : rule ∈ frame.own.filterMap HookReturn.rule :=
        List.mem_filterMap.mpr ⟨_, asked, rfl⟩
      rw [noRules] at isRule
      cases isRule
  | some lastRule =>
      rw [isLast] at noLateRule
      cases noLateRule

/-! ## Overruled refusals -/

/-- The record that the decision is made by, when a class resolver may have to
be emulated. -/
abbrev GateReturn.captured
    (returned : GateReturn)
    (call : GateCall)
    (snapshot : ClassMaskSnapshot) :
    ClassMaskSnapshot :=
  captureStartSpellScribePrecheckClassResolverFromGateContext
    returned.memory call.thisContext snapshot

/-- When the game's answer is changed. -/
theorem finalResult_changed
    {call : GateCall}
    {returned : GateReturn}
    {snapshot : ClassMaskSnapshot}
    (changed :
      finalResult call returned snapshot ≠ returned.originalResult) :
    returned.multiclassSpellUsabilityEnabled = true ∧
      returned.originalResult = false ∧
        call.requireKnownLike ≠ 0 ∧
          (returned.captured call snapshot).lateRuleCalled = false ∧
            ∃ classId mask,
              (returned.captured call snapshot).classId = some classId ∧
                (returned.captured call snapshot).assignedMask = some mask ∧
                  isPlayableClassId classId.toUInt32 = true ∧
                    mask &&& classBit classId.toUInt32 = 0 ∧
                      returned.authoritativeMask.has = true ∧
                        returned.authoritativeMask.value &&& mask ≠ 0 := by
  rw [finalResult] at changed
  split at changed
  next overruled =>
    simp only [Bool.and_eq_true, Bool.not_eq_true', bne_iff_ne, ne_eq,
      Option.any_eq_true, beq_iff_eq] at overruled
    obtain ⟨⟨⟨⟨⟨isEnabled, wasRefused⟩, isRequired⟩, noLateRule⟩,
      classId, isClass, isPlayable, mask, isMask, rejected⟩,
      hasMask, _, isMaskToo, intersects⟩ := overruled
    obtain ⟨⟨⟨no4462c0, no446190⟩, no446200⟩, no446380⟩ := noLateRule
    rw [isMask] at isMaskToo
    cases isMaskToo
    refine ⟨isEnabled, wasRefused, isRequired, ?_, classId, mask, isClass,
      isMask, isPlayable, rejected, hasMask, intersects⟩
    rw [ClassMaskSnapshot.lateRuleCalled, no4462c0, no446190, no446200,
      no446380]
    rfl
  next =>
    exact absurd rfl changed

/-- Emulating the class resolver leaves the mask and the rules alone. -/
theorem captured_others
    (call : GateCall)
    (returned : GateReturn)
    (snapshot : ClassMaskSnapshot) :
    (returned.captured call snapshot).assignedMask = snapshot.assignedMask ∧
      (returned.captured call snapshot).lateRuleCalled =
        snapshot.lateRuleCalled := by
  rw [GateReturn.captured,
    captureStartSpellScribePrecheckClassResolverFromGateContext]
  split
  · exact ⟨rfl, rfl⟩
  · split
    · exact ⟨rfl, rfl⟩
    · exact ⟨rfl, rfl⟩

/-- Nothing was returned in the empty record's name. -/
theorem cleared_assignedMask :
    clearStartSpellScribePrecheckClassMaskSnapshot.assignedMask = none := rfl

/-- A call's own record is for a call under way. -/
theorem Frame.snapshot_active (frame : Frame) :
    frame.snapshot.active = true := by
  rw [snapshot_eq_own]
  have staysActive :
      ∀ snapshot (returned : HookReturn),
        snapshot.active = true → (returned.write snapshot).active = true := by
    intro snapshot returned isActive
    cases returned with
    | classResolved memory classRecord =>
        exact isActive
    | assignedMask originalResult =>
        exact isActive
    | ruleAsked rule =>
        cases rule <;> exact isActive
  exact Runs.invariant staysActive rfl frame.own

/-- The class that a call's own record has when the decision is made. -/
theorem captured_classId
    (frame : Frame)
    (returned : GateReturn) :
    (returned.captured frame.call frame.snapshot).classId =
      frame.resolvedClass returned.memory := by
  have recorded := frame.snapshot_classId
  rw [GateReturn.captured,
    captureStartSpellScribePrecheckClassResolverFromGateContext,
    frame.snapshot_active, Frame.resolvedClass]
  cases isLast :
      (frame.own.filterMap HookReturn.resolves).getLast? with
  | some classId =>
      rw [isLast] at recorded
      obtain ⟨wasCalled, isClass⟩ := Prod.mk.inj recorded
      rw [wasCalled, if_pos (by decide)]
      exact isClass
  | none =>
      rw [isLast] at recorded
      obtain ⟨notCalled, noClass⟩ := Prod.mk.inj recorded
      rw [notCalled, if_neg (by decide)]
      cases emulatedClassId returned.memory frame.call.thisContext with
      | none =>
          exact noClass
      | some classId =>
          rfl

/-- A gate call returns what the game's function did, or it overrules the
refusal of the native class, by what was returned in that very call: the class
resolved there, or found by the emulated lookup, lacks its bit in the mask
returned there, the present authoritative mask has one of that mask's bits, and
no later rule was asked.  That lookup visits at most 256 nodes and finds the
first one with the key. -/
theorem gate_override_confined
    (correlationId : UInt32)
    (events : List Event)
    (returned : GateReturn) :
    (∀ result,
      gateResult (Runs.run step (State.initial correlationId) events)
          returned =
        some result →
      result ≠ returned.originalResult →
        ∃ frame outer classId mask,
          (Runs.run chronicleStep (Chronicle.initial correlationId)
              events).frames =
            frame :: outer ∧
          frame.nested = false ∧
          returned.multiclassSpellUsabilityEnabled = true ∧
          returned.originalResult = false ∧
          frame.call.requireKnownLike ≠ 0 ∧
          frame.resolvedClass returned.memory = some classId ∧
          isPlayableClassId classId.toUInt32 = true ∧
          frame.assignedMask = some mask ∧
          mask &&& classBit classId.toUInt32 = 0 ∧
          returned.authoritativeMask.has = true ∧
          returned.authoritativeMask.value &&& mask ≠ 0 ∧
          ∀ rule, .ruleAsked rule ∉ frame.own) ∧
      ∀ memory key node,
        (walkNodes memory key kScribeGateMaxLookupNodes node).1.length ≤
            256 ∧
          ∀ found,
            (walkNodes memory key kScribeGateMaxLookupNodes node).2 =
                .found found ↔
              ∃ position < 256,
                nodeAt memory node position = some found ∧
                  memory.readWord found = some key ∧
                    ∀ earlier < position,
                      ∃ otherKey,
                        keyAt memory node earlier = some otherKey ∧
                          otherKey ≠ key := by
  refine
    ⟨?_, fun memory key node =>
      ⟨walkNodes_visited_length memory key _ node, fun found =>
        walkNodes_found_iff⟩⟩
  intro result isResult changed
  obtain ⟨_, sameGates, snapshotIs⟩ := run_represents correlationId events
  obtain ⟨call, isInnermost, rfl⟩ := Option.map_eq_some_iff.mp isResult
  obtain ⟨isEnabled, wasRefused, isRequired, noLateRule, classId, mask,
    isClass, isMask, isPlayable, rejected, hasMask, intersects⟩ :=
    finalResult_changed changed
  obtain ⟨sameMask, sameRules⟩ :=
    captured_others call returned
      (Runs.run step (State.initial correlationId) events).snapshot
  rw [sameMask] at isMask
  rw [sameRules] at noLateRule
  rcases snapshotIs with isEmpty | ⟨frame, outer, inFrames, notNested, own⟩
  · rw [isEmpty, cleared_assignedMask] at isMask
    cases isMask
  · rw [own] at isMask noLateRule isClass
    rw [sameGates, inFrames] at isInnermost
    obtain rfl : frame.call = call := Option.some.inj isInnermost
    exact
      ⟨frame, outer, classId, mask, inFrames, notNested, isEnabled,
        wasRefused, isRequired, (captured_classId frame returned) ▸ isClass,
        isPlayable, frame.snapshot_assignedMask ▸ isMask, rejected, hasMask,
        intersects, Frame.snapshot_lateRuleCalled noLateRule⟩

/-- A memory in which every class record names the warrior, and every chain
comes to a node that is its own next one. -/
def recordsOfWarriors : Memory :=
  { bytes := fun _ => 1
    readable := fun _ => true
    writable := fun _ => false }

/-- A cleric's spell is refused to a warrior who is a cleric too, after an
earlier gate call with another mask. -/
def clericSpellRefused : List Event :=
  [.gateEntered 16 1, .hookReturned (.assignedMask 0x8000),
    .gateReturned ⟨false, recordsOfWarriors, ⟨true, 3⟩, true⟩,
    .correlationChanged 7, .gateEntered 16 1,
    .hookReturned (.classResolved recordsOfWarriors 32),
    .hookReturned (.assignedMask 2)]

theorem cleric_spell_allowed :
    (∃ frame outer,
      (Runs.run chronicleStep (Chronicle.initial 5)
          clericSpellRefused).frames =
        frame :: outer ∧
      frame.nested = false ∧
        frame.call.requireKnownLike ≠ 0 ∧ frame.assignedMask.isSome) ∧
      (walkNodes recordsOfWarriors 5 kScribeGateMaxLookupNodes 16).1.length ≤
        256 := by
  have isAllowed :
      gateResult
          (Runs.run step (State.initial 5) clericSpellRefused)
          ⟨false, recordsOfWarriors, ⟨true, 3⟩, true⟩ =
        some true := by
    decide +kernel
  obtain ⟨confined, lookup⟩ :=
    gate_override_confined 5 clericSpellRefused
      ⟨false, recordsOfWarriors, ⟨true, 3⟩, true⟩
  obtain ⟨frame, outer, _, mask, inFrames, notNested, _, _, isRequired, _, _,
    isMask, _⟩ :=
    confined true isAllowed (by decide)
  refine
    ⟨⟨frame, outer, inFrames, notNested, isRequired, ?_⟩,
      (lookup recordsOfWarriors 5 16).1⟩
  rw [isMask]
  rfl

/-- A chain without the key, though it never ends, is given up. -/
example :
    (walkNodes recordsOfWarriors 5 kScribeGateMaxLookupNodes 16).2 =
      .missing := by
  decide +kernel

end MonomythClient.ScribePrecheck
