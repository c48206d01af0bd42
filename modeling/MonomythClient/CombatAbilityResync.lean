import MonomythClient.CombatAbilitySynthesis

namespace MonomythClient.CombatAbility

open LocalPlayer AuthoritativeEvaluators ServerAuthStats
open ProtectedMemory LittleEndian Runs

/-!
# Resyncing the combat abilities

The game copies the player's combat abilities into the local profile at two
places, and a hook remembers where it copied them from, and how many bytes.  A
resync copies from there again, whatever is there by then; without anything
usable there it copies synthesized abilities.

Only the bytes that were found are copied.  The entries behind them keep what
was in the array before.
-/

def kPcProfileCombatAbilitiesOffset : UInt32 := 0x64d8

/-- The bytes of an array of combat abilities. -/
def arrayLength : Nat :=
  4 * kMaxCombatAbilityIndex

/-! ## Arrays -/

/-- Bytes in front of an array that is zero behind them. -/
def padded (bytes : List UInt8) : List UInt8 :=
  bytes ++ List.replicate (arrayLength - bytes.length) 0

/-- The bytes of some entries. -/
def abilityBytes (abilities : List Int32) : List UInt8 :=
  abilities.flatMap fun ability => bytes32 ability.toUInt32

/-- `TryResolveLocalCombatAbilityArray`, where it is no null pointer. -/
def tryResolveLocalCombatAbilityArray
    (moduleBase : UInt32)
    (memory : Memory) :
    Option UInt32 :=
  nonNull
    ((tryResolveLocalProfileClassStorage moduleBase memory).map
      fun storage => storage.1 + kPcProfileCombatAbilitiesOffset)

/-- The local array. -/
def localArray (memory : Memory) (destination : UInt32) : List UInt8 :=
  memory.range destination arrayLength

/-- `CountNonZeroCombatAbilities`. -/
def countNonZeroCombatAbilities
    (combatAbilities : List UInt8)
    (copiedEntries : Nat) :
    Nat :=
  ((entries combatAbilities).take copiedEntries).countP (0 < ·)

/-- What `TrySnapshotCombatAbilityArray` returns. -/
structure ArraySnapshot where
  copied : List UInt8
  copiedEntries : Nat
  nonzeroEntries : Nat
deriving DecidableEq, Repr

/-- `TrySnapshotCombatAbilityArray`. -/
def trySnapshotCombatAbilityArray
    (memory : Memory)
    (source length : UInt32) :
    Option ArraySnapshot :=
  let boundedLength := min length.toNat arrayLength
  if source = 0 then
    none
  else if boundedLength = 0 then
    some ⟨padded [], 0, 0⟩
  else
    (memory.read source boundedLength).map fun bytes =>
      ⟨padded bytes, boundedLength / 4,
        countNonZeroCombatAbilities (padded bytes) (boundedLength / 4)⟩

/-! ## The hook and the resync -/

/-- The memory, the globals of the hook, and the array it last saw delivered
to the local player as it was then. -/
structure State where
  memory : Memory
  lastSource : UInt32
  lastSourceLength : UInt32
  delivered : Option (List UInt8)

/-- Before any copy. -/
def State.initial (memory : Memory) : State :=
  ⟨memory, 0, 0, none⟩

/-- `InvokeCombatAbilityProducerArrayCopyHook`.  The copy is the game's: it
says whether it returned, and what the memory is then. -/
def invokeCombatAbilityProducerArrayCopyHook
    (moduleBase destination source length : UInt32)
    (copy : Memory → Bool × Memory)
    (state : State) :
    State :=
  let copied := copy state.memory
  let unrecorded := { state with memory := copied.2 }
  if copied.1 ∧
      tryResolveLocalCombatAbilityArray moduleBase copied.2 =
        some destination then
    match trySnapshotCombatAbilityArray copied.2 destination length with
    | none => unrecorded
    | some snapshot =>
        if source ≠ 0 then
          ⟨copied.2, source, length, some snapshot.copied⟩
        else
          { unrecorded with delivered := some snapshot.copied }
  else
    unrecorded

/-- `memcpy` from an array of its own; there is no memory after an access
violation. -/
def memcpy
    (memory : Memory)
    (destination : UInt32)
    (bytes : List UInt8) :
    Option Memory :=
  if memory.accepts ⟨destination, bytes⟩ then
    some (memory.write ⟨destination, bytes⟩)
  else
    none

/-- `try_synthesize` of the resync. -/
def trySynthesize
    (moduleBase : UInt32)
    (snapshot : Snapshot)
    (memory : Memory)
    (destination : UInt32) :
    Option (Bool × Memory) :=
  let synthesized :=
    synthesizeCombatAbilityArrayFromSpellbook moduleBase snapshot memory
  if synthesized = [] then
    some (false, memory)
  else
    (memcpy memory destination
      ((padded (abilityBytes synthesized)).take
        (min arrayLength (4 * synthesized.length)))).map (true, ·)

/-- `TryResyncLocalCombatAbilityArrayFromLastSource`. -/
def tryResyncLocalCombatAbilityArrayFromLastSource
    (moduleBase : UInt32)
    (snapshot : Snapshot)
    (state : State) :
    Option (Bool × Memory) :=
  match tryResolveLocalCombatAbilityArray moduleBase state.memory with
  | none => some (false, state.memory)
  | some destination =>
      if state.lastSource = 0 ∨ state.lastSourceLength = 0 then
        trySynthesize moduleBase snapshot state.memory destination
      else
        match trySnapshotCombatAbilityArray state.memory state.lastSource
            state.lastSourceLength with
        | none => trySynthesize moduleBase snapshot state.memory destination
        | some source =>
            if source.nonzeroEntries = 0 then
              trySynthesize moduleBase snapshot state.memory destination
            else
              (memcpy state.memory destination
                (source.copied.take
                  (min state.lastSourceLength.toNat
                    (4 * source.copiedEntries)))).map (true, ·)

/-! ## Histories -/

/-- What can happen before a resync. -/
inductive Event where
  | arrayCopy
      (destination source length : UInt32)
      (copy : Memory → Bool × Memory)
  | resync (snapshot : Snapshot)
  | hooksRemoved
  | change (effect : Memory → Memory)

/-- What it does. -/
def State.step (moduleBase : UInt32) (state : State) : Event → State
  | .arrayCopy destination source length copy =>
      invokeCombatAbilityProducerArrayCopyHook moduleBase destination source
        length copy state
  | .resync snapshot =>
      { state with
        memory :=
          ((tryResyncLocalCombatAbilityArrayFromLastSource moduleBase
            snapshot state).map Prod.snd).getD state.memory }
  | .hooksRemoved => { state with lastSource := 0, lastSourceLength := 0 }
  | .change effect => { state with memory := effect state.memory }

/-! ## What a resync copies -/

/-- The entries of the last source, if it can be read and one of them is
positive. -/
def usableSource (state : State) : Option (List UInt8) :=
  if state.lastSource = 0 ∨ state.lastSourceLength = 0 then
    none
  else
    ((trySnapshotCombatAbilityArray state.memory state.lastSource
        state.lastSourceLength).filter fun source =>
          source.nonzeroEntries != 0).map fun source =>
            source.copied.take (4 * source.copiedEntries)

/-- The synthesized array, zero behind its entries. -/
def synthesizedArray
    (moduleBase : UInt32)
    (snapshot : Snapshot)
    (memory : Memory) :
    List UInt8 :=
  padded
    (abilityBytes
      (synthesizeCombatAbilityArrayFromSpellbook moduleBase snapshot memory))

/-- The entries that are there to be copied: those of the source, or else
synthesized ones. -/
def availableEntries
    (moduleBase : UInt32)
    (snapshot : Snapshot)
    (state : State) :
    List UInt8 :=
  (usableSource state).getD
    (abilityBytes
      (synthesizeCombatAbilityArrayFromSpellbook moduleBase snapshot
        state.memory))

/-- An array begins with these entries, and behind them it is the array that
is there already. -/
def Continues (front present array : List UInt8) : Prop :=
  front = array.take front.length ∧
    present.drop front.length = array.drop front.length

/-- A resync that returns true leaves the delivered or the synthesized array,
and one that returns false leaves the array alone. -/
def InstallsCoherentArray
    (moduleBase : UInt32)
    (snapshot : Snapshot)
    (state : State) :
    Prop :=
  ∀ destination returned memory,
    tryResolveLocalCombatAbilityArray moduleBase state.memory =
      some destination →
    tryResyncLocalCombatAbilityArrayFromLastSource moduleBase snapshot
      state = some (returned, memory) →
    if returned then
      some (localArray memory destination) = state.delivered ∨
        localArray memory destination =
          synthesizedArray moduleBase snapshot state.memory
    else
      localArray memory destination = localArray state.memory destination

/-- The entries to be copied and the entries behind them that are in the local
array already make up the delivered or the synthesized array. -/
def Coherent
    (moduleBase : UInt32)
    (snapshot : Snapshot)
    (state : State) :
    Prop :=
  ∀ destination,
    tryResolveLocalCombatAbilityArray moduleBase state.memory =
      some destination →
    state.memory.accepts
      ⟨destination, availableEntries moduleBase snapshot state⟩ →
    (∃ array, state.delivered = some array ∧
        Continues (availableEntries moduleBase snapshot state)
          (localArray state.memory destination) array) ∨
      Continues (availableEntries moduleBase snapshot state)
        (localArray state.memory destination)
        (synthesizedArray moduleBase snapshot state.memory)

/-! ## Lengths -/

theorem length_abilityBytes (abilities : List Int32) :
    (abilityBytes abilities).length = 4 * abilities.length := by
  induction abilities with
  | nil =>
      rfl
  | cons ability later inductionHypothesis =>
      rw [abilityBytes, List.flatMap_cons, List.length_append,
        length_bytes32, List.length_cons]
      rw [abilityBytes] at inductionHypothesis
      omega

theorem length_padded
    {bytes : List UInt8}
    (fits : bytes.length ≤ arrayLength) :
    (padded bytes).length = arrayLength := by
  rw [padded, List.length_append, List.length_replicate]
  omega

/-- A snapshot is a whole array, and its entries were in the range. -/
theorem trySnapshotCombatAbilityArray_some
    {memory : Memory}
    {source length : UInt32}
    {snapshot : ArraySnapshot}
    (snapshotted :
      trySnapshotCombatAbilityArray memory source length = some snapshot) :
    snapshot.copied.length = arrayLength ∧
      4 * snapshot.copiedEntries ≤ min length.toNat arrayLength ∧
      (snapshot.copiedEntries = 0 → snapshot.nonzeroEntries = 0) := by
  unfold trySnapshotCombatAbilityArray at snapshotted
  dsimp only at snapshotted
  split at snapshotted
  · cases snapshotted
  · split at snapshotted
    · obtain rfl := Option.some.inj snapshotted
      exact ⟨length_padded (Nat.zero_le _), Nat.zero_le _, fun _ => rfl⟩
    · obtain ⟨bytes, bytesRead, rfl⟩ :=
        Option.map_eq_some_iff.mp snapshotted
      have sameLength := (Memory.read_saves bytesRead).1
      refine ⟨length_padded ?_, ?_, fun noEntries => ?_⟩
      · rw [sameLength]
        exact Nat.min_le_right _ _
      · exact Nat.mul_div_le _ _
      · dsimp only at noEntries ⊢
        rw [countNonZeroCombatAbilities, noEntries]
        rfl

/-- The entries of a usable source fit into the array, and there are some. -/
theorem usableSource_some
    {state : State}
    {front : List UInt8}
    (usable : usableSource state = some front) :
    front ≠ [] ∧ front.length ≤ arrayLength := by
  unfold usableSource at usable
  split at usable
  · cases usable
  · obtain ⟨source, filtered, rfl⟩ := Option.map_eq_some_iff.mp usable
    obtain ⟨snapshotted, positive⟩ := Option.filter_eq_some_iff.mp filtered
    obtain ⟨whole, inside, noPositive⟩ :=
      trySnapshotCombatAbilityArray_some snapshotted
    have someEntry : source.copiedEntries ≠ 0 := by
      intro noEntries
      simp [noPositive noEntries] at positive
    have frontLength :
        (source.copied.take (4 * source.copiedEntries)).length =
          4 * source.copiedEntries := by
      rw [List.length_take, whole]
      omega
    constructor
    · rw [← List.length_pos_iff, frontLength]
      omega
    · rw [frontLength]
      omega

theorem length_availableEntries
    (moduleBase : UInt32)
    (snapshot : Snapshot)
    (state : State) :
    (availableEntries moduleBase snapshot state).length ≤ arrayLength := by
  unfold availableEntries
  cases usable : usableSource state with
  | some front =>
      exact (usableSource_some usable).2
  | none =>
      have fits := synthesize_length moduleBase snapshot state.memory
      rw [Option.getD_none, length_abilityBytes, arrayLength]
      omega

/-! ## What a resync does -/

/-- A resync copies the available entries, if there are any. -/
def copyAvailable
    (moduleBase : UInt32)
    (snapshot : Snapshot)
    (state : State)
    (destination : UInt32) :
    Option (Bool × Memory) :=
  if availableEntries moduleBase snapshot state = [] then
    some (false, state.memory)
  else
    (memcpy state.memory destination
      (availableEntries moduleBase snapshot state)).map (true, ·)

theorem trySynthesize_eq
    {moduleBase destination : UInt32}
    {snapshot : Snapshot}
    {state : State}
    (unusable : usableSource state = none) :
    trySynthesize moduleBase snapshot state.memory destination =
      copyAvailable moduleBase snapshot state destination := by
  have fits := synthesize_length moduleBase snapshot state.memory
  have sameLength :=
    length_abilityBytes
      (synthesizeCombatAbilityArrayFromSpellbook moduleBase snapshot
        state.memory)
  have copied :
      min arrayLength
          (4 * (synthesizeCombatAbilityArrayFromSpellbook moduleBase snapshot
            state.memory).length) =
        (abilityBytes
          (synthesizeCombatAbilityArrayFromSpellbook moduleBase snapshot
            state.memory)).length := by
    rw [sameLength, arrayLength]
    omega
  have noBytes :
      abilityBytes
          (synthesizeCombatAbilityArrayFromSpellbook moduleBase snapshot
            state.memory) = [] ↔
        synthesizeCombatAbilityArrayFromSpellbook moduleBase snapshot
          state.memory = [] := by
    rw [← List.length_eq_zero_iff, sameLength, ← List.length_eq_zero_iff]
    omega
  rw [copyAvailable, availableEntries, unusable, Option.getD_none,
    trySynthesize]
  rw [copied, padded, List.take_left']
  · simp only [noBytes]
  · rfl

/-- What `TryResyncLocalCombatAbilityArrayFromLastSource` comes to. -/
theorem tryResync_eq
    {moduleBase destination : UInt32}
    {snapshot : Snapshot}
    {state : State}
    (resolved :
      tryResolveLocalCombatAbilityArray moduleBase state.memory =
        some destination) :
    tryResyncLocalCombatAbilityArrayFromLastSource moduleBase snapshot
      state = copyAvailable moduleBase snapshot state destination := by
  unfold tryResyncLocalCombatAbilityArrayFromLastSource
  rw [resolved]
  dsimp only
  split
  · rename_i noSource
    exact trySynthesize_eq (if_pos noSource)
  · rename_i hasSource
    cases snapshotted :
        trySnapshotCombatAbilityArray state.memory state.lastSource
          state.lastSourceLength with
    | none =>
        refine trySynthesize_eq ?_
        rw [usableSource, if_neg hasSource, snapshotted]
        rfl
    | some source =>
        dsimp only
        by_cases allZero : source.nonzeroEntries = 0
        · rw [if_pos allZero]
          refine trySynthesize_eq ?_
          rw [usableSource, if_neg hasSource, snapshotted]
          simp [Option.filter, allZero]
        · have usable :
              usableSource state =
                some (source.copied.take (4 * source.copiedEntries)) := by
            rw [usableSource, if_neg hasSource, snapshotted]
            simp [Option.filter, allZero]
          have inside :=
            (trySnapshotCombatAbilityArray_some snapshotted).2.1
          have wholeEntries :
              min state.lastSourceLength.toNat (4 * source.copiedEntries) =
                4 * source.copiedEntries := by
            omega
          rw [if_neg allZero, copyAvailable, availableEntries, usable,
            Option.getD_some, if_neg (usableSource_some usable).1,
            wholeEntries]

/-! ## When the array is coherent -/

/-- A resync installs a coherent array exactly when the entries it copies and
those it leaves behind them belong to one. -/
theorem installsCoherentArray_iff_coherent
    {moduleBase : UInt32}
    {snapshot : Snapshot}
    {state : State} :
    InstallsCoherentArray moduleBase snapshot state ↔
      Coherent moduleBase snapshot state := by
  unfold InstallsCoherentArray Coherent
  refine forall_congr' fun destination => ?_
  constructor
  · intro installs resolved accepted
    have nonempty :
        availableEntries moduleBase snapshot state ≠ [] := by
      intro empty
      rw [empty] at accepted
      simp [Memory.accepts, accessible] at accepted
    have resynced :
        tryResyncLocalCombatAbilityArrayFromLastSource moduleBase snapshot
          state =
          some (true,
            state.memory.write
              ⟨destination, availableEntries moduleBase snapshot state⟩) := by
      rw [tryResync_eq resolved, copyAvailable, if_neg nonempty, memcpy,
        if_pos accepted]
      rfl
    have installed := installs true _ resolved resynced
    rw [if_pos rfl, localArray,
      Memory.range_write accepted (length_availableEntries _ _ _)
        (by decide)] at installed
    rcases installed with delivered | synthesized
    · exact .inl ⟨_, delivered.symm, append_drop_eq_iff.mp rfl⟩
    · exact .inr (append_drop_eq_iff.mp synthesized)
  · intro coherent returned memory resolved resynced
    rw [tryResync_eq resolved, copyAvailable] at resynced
    split at resynced
    · obtain ⟨rfl, rfl⟩ := Prod.mk.inj (Option.some.inj resynced)
      rw [if_neg Bool.false_ne_true]
    · unfold memcpy at resynced
      split at resynced
      · rename_i accepted
        obtain ⟨rfl, rfl⟩ := Prod.mk.inj (Option.some.inj resynced)
        rw [if_pos rfl, localArray,
          Memory.range_write accepted (length_availableEntries _ _ _)
            (by decide)]
        rcases coherent resolved accepted with
          ⟨array, delivered, continues⟩ | continues
        · left
          rw [delivered]
          exact congrArg some (append_drop_eq_iff.mpr continues)
        · exact .inr (append_drop_eq_iff.mpr continues)
      · cases resynced

/-- The same after any history of copies, resyncs and other changes. -/
theorem resync_coherent_iff
    (moduleBase : UInt32)
    (memory : Memory)
    (history : List Event)
    (snapshot : Snapshot) :
    InstallsCoherentArray moduleBase snapshot
        (run (State.step moduleBase) (State.initial memory) history) ↔
      Coherent moduleBase snapshot
        (run (State.step moduleBase) (State.initial memory) history) :=
  installsCoherentArray_iff_coherent

/-! ## An entry left over -/

/-- A warrior has learned discipline 101, and the array has 999 as its second
entry from before. -/
def staleMemory : Memory :=
  warriorMemory.writeEach
    [⟨0x13000000 + kPcProfileDisciplinesOffset, bytes32 101⟩,
      ⟨0x13000004 + kPcProfileCombatAbilitiesOffset, bytes32 999⟩]

/-- The assigned classes of a warrior. -/
def warriorSnapshot : Snapshot :=
  { Globals.initial with classesBitmask := ⟨true, 1⟩ }

/-- Nothing was copied yet, and the resync leaves 999 behind the synthesized
entry. -/
theorem resync_keeps_stale_entry :
    ¬ InstallsCoherentArray 0x400000 warriorSnapshot
      (run (State.step 0x400000) (State.initial staleMemory) []) := by
  intro installs
  have coherent :
      Coherent 0x400000 warriorSnapshot (State.initial staleMemory) :=
    installsCoherentArray_iff_coherent.mp installs
  have synthesized :
      synthesizeCombatAbilityArrayFromSpellbook 0x400000 warriorSnapshot
        (State.initial staleMemory).memory = [101] := by
    decide +kernel
  have available :
      availableEntries 0x400000 warriorSnapshot
        (State.initial staleMemory) = abilityBytes [101] := by
    have noSource : usableSource (State.initial staleMemory) = none :=
      if_pos (.inl rfl)
    rw [availableEntries, noSource, Option.getD_none, synthesized]
  have resolved :
      tryResolveLocalCombatAbilityArray 0x400000
        (State.initial staleMemory).memory = some 0x130064d8 := by
    decide +kernel
  have accepted :
      (State.initial staleMemory).memory.accepts
        ⟨0x130064d8, abilityBytes [101]⟩ = true := by
    decide +kernel
  have leftOver :
      ((localArray (State.initial staleMemory).memory
        0x130064d8).drop 4).head? = some 0xe7 := by
    decide +kernel
  rcases coherent _ resolved (available ▸ accepted) with
    ⟨array, delivered, -⟩ | ⟨-, sameRest⟩
  · cases delivered
  · have fourBytes : (abilityBytes [101]).length = 4 := rfl
    have heads := congrArg List.head? sameRest
    rw [available, synthesizedArray, synthesized, fourBytes, leftOver]
      at heads
    exact absurd heads (by decide +kernel)

end MonomythClient.CombatAbility
