import MonomythClient.ClassOverrideFrames

namespace MonomythClient.AuthoritativeEvaluators

open MulticlassIdentity LocalPlayer TemporaryClassOverride
open ProtectedMemory Runs

/-!
# Stored mana across an evaluation

The game's function for the current mana may store it anew.  What it stored is
put back only when it returns, and only in the fields that a snapshot before
the call could copy.  So a byte keeps its value throughout an evaluation
exactly when each call keeps it: restoring the class covers it, or the call
itself left it, or it is put back.
-/

variable (moduleBase : UInt32)

/-! ## Calls -/

/-- The address is in a class field that restoring writes. -/
def restoredAt
    (address : UInt32)
    (classId : UInt32)
    (memory later : Memory) :
    Bool :=
  (tryApplyTemporaryLocalClassOverride moduleBase classId.toUInt8
    memory).1.originals.any fun original =>
      later.accepts original && decide (original.Covers address)

/-- After the current-mana function: the call returned, and the address is in a
current-mana field that was copied before it and that it left writable. -/
def putBackAt
    (address : UInt32)
    (overridden : Memory)
    (called : Called) :
    Bool :=
  called.result.isSome &&
    (readLocalCurrentManaStorageSnapshot moduleBase overridden).fields.any
      fun field =>
        called.memory.accepts field && decide (field.Covers address)

/-- After the maximal-mana function nothing is put back. -/
def notPutBack (_ : UInt32) (_ : Memory) (_ : Called) : Bool :=
  false

/-- The byte that a call leaves, with what is put back behind it. -/
def leftByCall
    (putBack : UInt32 → Memory → Called → Bool)
    (address : UInt32)
    (native : Native)
    (overridden : Memory) :
    UInt8 :=
  if putBack address overridden (native overridden) then
    overridden.bytes address
  else
    (native overridden).memory.bytes address

/-- A call for a class keeps the byte that it finds: it is not made, for want
of an override, or restoring the class covers the byte, or the byte is put
back, or the call leaves it alone. -/
def CallKeeps
    (putBack : UInt32 → Memory → Called → Bool)
    (address : UInt32)
    (native : UInt32 → Native)
    (memory : Memory)
    (classId : UInt32) : Prop :=
  let applied :=
    tryApplyTemporaryLocalClassOverride moduleBase classId.toUInt8 memory
  applied.1.active = true →
    restoredAt moduleBase address classId memory
        (native classId applied.2).memory =
      false →
      leftByCall putBack address (native classId) applied.2 =
        memory.bytes address

instance
    (putBack : UInt32 → Memory → Called → Bool)
    (address : UInt32)
    (native : UInt32 → Native)
    (memory : Memory)
    (classId : UInt32) :
    Decidable (CallKeeps moduleBase putBack address native memory classId) :=
  inferInstanceAs (Decidable (_ → _ → _))

/-- The current-mana function as an evaluation calls it. -/
def preserving (curMana : UInt32 → Native) : UInt32 → Native :=
  fun classId =>
    tryInvokeCurManaPreservingStorage moduleBase (curMana classId)

/-- The memory after a class was probed. -/
def probeStep
    (native : UInt32 → Native)
    (memory : Memory)
    (classId : UInt32) :
    Memory :=
  (probe moduleBase (native classId) classId memory).called.memory

variable {moduleBase} {address : UInt32} {memory : Memory}

/-! ## One probe -/

/-- Restoring an override sets the bytes of the class fields it can write. -/
theorem restore_bytes
    {classId : UInt32}
    {later : Memory}
    (active :
      (tryApplyTemporaryLocalClassOverride moduleBase classId.toUInt8
        memory).1.active = true) :
    (restoreTemporaryLocalClassOverride
      (tryApplyTemporaryLocalClassOverride moduleBase classId.toUInt8
        memory).1 later).bytes address =
      if restoredAt moduleBase address classId memory later then
        memory.bytes address
      else
        later.bytes address := by
  have saved :
      ∀ original ∈
          (tryApplyTemporaryLocalClassOverride moduleBase classId.toUInt8
            memory).1.originals,
        original.Saves memory.bytes := by
    rw [tryApply_active active]
    exact originals_save_saves
  rw [restoreTemporaryLocalClassOverride, if_pos active,
    Memory.writeEach_agreeing fun original member _ covers =>
      saved original member address covers]
  refine if_congr ?_ rfl rfl
  simp [restoredAt, List.any_eq_true]

/-- The wrapper puts a byte back, or leaves what the call left. -/
theorem tryInvokeCurManaPreservingStorage_bytes
    (native : Native)
    (overridden : Memory) :
    (tryInvokeCurManaPreservingStorage moduleBase native
      overridden).memory.bytes address =
      leftByCall (putBackAt moduleBase) address native overridden := by
  unfold tryInvokeCurManaPreservingStorage leftByCall putBackAt
  dsimp only
  cases returned : (native overridden).result with
  | none =>
      rfl
  | some result =>
      simp only [Option.isSome_some, Bool.true_and]
      split
      · dsimp only
        rw [Memory.writeEach_agreeing fun field member _ covers =>
          fields_snapshot_saves field member address covers]
        refine if_congr ?_ rfl rfl
        simp [List.any_eq_true]
      · rename_i same
        -- An unchanged snapshot holds the bytes of both memories.
        have unchanged :
            readLocalCurrentManaStorageSnapshot moduleBase overridden =
              readLocalCurrentManaStorageSnapshot moduleBase
                (native overridden).memory := by
          simpa [didLocalCurrentManaStorageSnapshotChange] using same
        split
        · rename_i captured
          obtain ⟨field, member, covers⟩ := List.any_eq_true.mp captured
          rw [Bool.and_eq_true, decide_eq_true_iff] at covers
          rw [← fields_snapshot_saves field member address covers.2]
          rw [unchanged] at member
          exact (fields_snapshot_saves field member address covers.2).symm
        · rfl

/-- The wrapper changes no right that the call did not change. -/
theorem tryInvokeCurManaPreservingStorage_writable
    (native : Native)
    (overridden : Memory) :
    (tryInvokeCurManaPreservingStorage moduleBase native
      overridden).memory.writable =
      (native overridden).memory.writable := by
  unfold tryInvokeCurManaPreservingStorage
  dsimp only
  split
  · rfl
  · split
    · exact Memory.writable_writeEach _ _
    · rfl

/-- A probe keeps a byte exactly when its call does. -/
theorem probeStep_keeps_iff
    {putBack : UInt32 → Memory → Called → Bool}
    {native wrapped : UInt32 → Native}
    (bytes :
      ∀ classId overridden,
        (wrapped classId overridden).memory.bytes address =
          leftByCall putBack address (native classId) overridden)
    (rights :
      ∀ classId overridden,
        (wrapped classId overridden).memory.writable =
          (native classId overridden).memory.writable)
    (memory : Memory)
    (classId : UInt32) :
    (probeStep moduleBase wrapped memory classId).bytes address =
        memory.bytes address ↔
      CallKeeps moduleBase putBack address native memory classId := by
  have sameRestored :
      ∀ overridden,
        restoredAt moduleBase address classId memory
            (wrapped classId overridden).memory =
          restoredAt moduleBase address classId memory
            (native classId overridden).memory := by
    intro overridden
    simp only [restoredAt, Memory.accepts, rights]
  cases active :
      (tryApplyTemporaryLocalClassOverride moduleBase classId.toUInt8
        memory).1.active with
  | false =>
      simp only [probeStep, probe, CallKeeps, active, Bool.false_eq_true,
        if_false, false_implies, iff_true]
      exact tryApply_inactive active address
  | true =>
      simp only [probeStep, probe, CallKeeps, active, if_true,
        forall_const]
      rw [restore_bytes active, sameRestored, bytes]
      cases restoredAt moduleBase address classId memory _ with
      | true =>
          simp
      | false =>
          simp

/-! ## A loop of probes -/

/-- A loop keeps a byte from the first probe to the last exactly when each of
its calls keeps it. -/
theorem probes_keep_iff
    {putBack : UInt32 → Memory → Called → Bool}
    {native wrapped : UInt32 → Native}
    (bytes :
      ∀ classId overridden,
        (wrapped classId overridden).memory.bytes address =
          leftByCall putBack address (native classId) overridden)
    (rights :
      ∀ classId overridden,
        (wrapped classId overridden).memory.writable =
          (native classId overridden).memory.writable)
    {byte : UInt8}
    (initially : memory.bytes address = byte)
    (classIds : List UInt32) :
    Along (probeStep moduleBase wrapped)
        (CallKeeps moduleBase putBack address native) memory classIds ↔
      ∀ earlier later,
        classIds = earlier ++ later →
          (run (probeStep moduleBase wrapped) memory earlier).bytes address =
            byte := by
  have exactly :
      ∀ (found : Memory) classId, found.bytes address = byte →
        ((probeStep moduleBase wrapped found classId).bytes address = byte ↔
          CallKeeps moduleBase putBack address native found classId) := by
    intro found classId same
    rw [← same]
    exact probeStep_keeps_iff bytes rights found classId
  exact
    @along_iff_throughout Memory UInt32 _ _
      (fun found => found.bytes address = byte) exactly memory initially
      classIds

/-- The memory after the loop over the classes. -/
theorem bestOf_memory
    (nativeResult : Int32)
    (native : UInt32 → Native)
    (classIds : List UInt32)
    (memory : Memory) :
    (bestOf moduleBase nativeResult native classIds memory).memory =
      run (probeStep moduleBase native) memory classIds := by
  have alone :
      ∀ (best : Best) (classId : UInt32), True →
        (best.consider moduleBase nativeResult native classId).memory =
          probeStep moduleBase native best.memory classId :=
    fun _ _ _ => rfl
  exact project Best.memory (fun _ _ _ => trivial) alone trivial classIds

/-- The memory after the evaluation of the maximal mana. -/
theorem evaluateBestMana_memory
    {native : Option (UInt32 → Native)}
    {delta : HeroicManaAdjustment → Int32}
    {nativeResult : Int32}
    {context : LocalAuthoritativeCastingContext}
    (eligible : context.eligible = true)
    (memory : Memory) :
    (evaluateBestMana moduleBase native delta nativeResult context
      memory).memory =
      (native.map fun installed =>
        run (probeStep moduleBase installed) memory
          (castingClasses context.assignedMask)).getD memory := by
  unfold evaluateBestMana
  rw [eligible]
  cases native with
  | none =>
      rfl
  | some installed =>
      exact bestOf_memory nativeResult installed _ memory

/-! ## An evaluation -/

/-- Each call of an evaluation keeps the byte, those of the current-mana
function first and then those of the maximal-mana function. -/
def CallsKeep
    (moduleBase : UInt32)
    (natives : Natives)
    (context : LocalAuthoritativeCastingContext)
    (address : UInt32)
    (memory : Memory) : Prop :=
  context.eligible = true →
    ∀ curMana, natives .curMana = some curMana →
      Along (probeStep moduleBase (preserving moduleBase curMana))
          (CallKeeps moduleBase (putBackAt moduleBase) address curMana)
          memory (castingClasses context.assignedMask) ∧
        ∀ maxMana, natives .maxMana = some maxMana →
          Along (probeStep moduleBase maxMana)
            (CallKeeps moduleBase notPutBack address maxMana)
            (run (probeStep moduleBase (preserving moduleBase curMana))
              memory (castingClasses context.assignedMask))
            (castingClasses context.assignedMask)

/-- The memories that an evaluation passes: before, between and after the
probes of its two loops. -/
inductive Passes
    (moduleBase : UInt32)
    (natives : Natives)
    (context : LocalAuthoritativeCastingContext)
    (memory : Memory) : Memory → Prop where
  | curMana
      {curMana : UInt32 → Native}
      {earlier later : List UInt32}
      (eligible : context.eligible = true)
      (isCurMana : natives .curMana = some curMana)
      (split : castingClasses context.assignedMask = earlier ++ later) :
      Passes moduleBase natives context memory
        (run (probeStep moduleBase (preserving moduleBase curMana)) memory
          earlier)
  | maxMana
      {curMana maxMana : UInt32 → Native}
      {earlier later : List UInt32}
      (eligible : context.eligible = true)
      (isCurMana : natives .curMana = some curMana)
      (isMaxMana : natives .maxMana = some maxMana)
      (split : castingClasses context.assignedMask = earlier ++ later) :
      Passes moduleBase natives context memory
        (run (probeStep moduleBase maxMana)
          (run (probeStep moduleBase (preserving moduleBase curMana)) memory
            (castingClasses context.assignedMask))
          earlier)

/-- The loop over the current-mana function keeps a byte exactly when each of
its calls does. -/
theorem curManaProbes_keep_iff
    (curMana : UInt32 → Native)
    (memory : Memory)
    (classIds : List UInt32) :
    Along (probeStep moduleBase (preserving moduleBase curMana))
        (CallKeeps moduleBase (putBackAt moduleBase) address curMana) memory
        classIds ↔
      ∀ earlier later,
        classIds = earlier ++ later →
          (run (probeStep moduleBase (preserving moduleBase curMana)) memory
              earlier).bytes address =
            memory.bytes address :=
  probes_keep_iff
    (fun classId => tryInvokeCurManaPreservingStorage_bytes (curMana classId))
    (fun classId =>
      tryInvokeCurManaPreservingStorage_writable (curMana classId))
    rfl classIds

/-- So does the loop over the maximal-mana function. -/
theorem maxManaProbes_keep_iff
    (maxMana : UInt32 → Native)
    {byte : UInt8}
    (initially : memory.bytes address = byte)
    (classIds : List UInt32) :
    Along (probeStep moduleBase maxMana)
        (CallKeeps moduleBase notPutBack address maxMana) memory classIds ↔
      ∀ earlier later,
        classIds = earlier ++ later →
          (run (probeStep moduleBase maxMana) memory earlier).bytes address =
            byte :=
  probes_keep_iff (fun _ _ => rfl) (fun _ _ => rfl) initially classIds

/-- An evaluation keeps a byte throughout exactly when its calls do. -/
theorem callsKeep_iff
    (natives : Natives)
    (context : LocalAuthoritativeCastingContext)
    (memory : Memory)
    (address : UInt32) :
    CallsKeep moduleBase natives context address memory ↔
      ∀ found, Passes moduleBase natives context memory found →
        found.bytes address = memory.bytes address := by
  constructor
  · intro keep found passes
    cases passes with
    | curMana eligible isCurMana split =>
        exact
          (curManaProbes_keep_iff _ memory _).mp
            (keep eligible _ isCurMana).1 _ _ split
    | maxMana eligible isCurMana isMaxMana split =>
        obtain ⟨curManaKeeps, maxManaKeeps⟩ := keep eligible _ isCurMana
        have afterCurMana :=
          (curManaProbes_keep_iff _ memory _).mp curManaKeeps _ []
            (List.append_nil _).symm
        exact
          (maxManaProbes_keep_iff _ afterCurMana _).mp
            (maxManaKeeps _ isMaxMana) _ _ split
  · intro kept eligible curMana isCurMana
    have throughCurMana :
        ∀ earlier later,
          castingClasses context.assignedMask = earlier ++ later →
            (run (probeStep moduleBase (preserving moduleBase curMana))
                memory earlier).bytes address =
              memory.bytes address :=
      fun _ _ split => kept _ (.curMana eligible isCurMana split)
    refine ⟨(curManaProbes_keep_iff _ memory _).mpr throughCurMana, ?_⟩
    intro maxMana isMaxMana
    have afterCurMana :=
      throughCurMana _ [] (List.append_nil _).symm
    refine (maxManaProbes_keep_iff _ afterCurMana _).mpr ?_
    exact fun _ _ split =>
      kept _ (.maxMana eligible isCurMana isMaxMana split)

/-- The memory that an evaluation leaves is the last that it passes, or the
one it found. -/
theorem passes_evaluated
    (natives : Natives)
    (capAtMaxLike nativeResult : Int32)
    (context : LocalAuthoritativeCastingContext)
    (memory : Memory) :
    (evaluateBestAuthoritativeCurMana moduleBase natives capAtMaxLike
        nativeResult context memory).memory =
        memory ∨
      Passes moduleBase natives context memory
        (evaluateBestAuthoritativeCurMana moduleBase natives capAtMaxLike
          nativeResult context memory).memory := by
  unfold evaluateBestAuthoritativeCurMana
  cases eligible : context.eligible with
  | false =>
      exact .inl rfl
  | true =>
      cases isCurMana : natives .curMana with
      | none =>
          exact .inl rfl
      | some curMana =>
          right
          dsimp only
          rw [evaluateBestAuthoritativeMaxMana,
            evaluateBestMana_memory eligible, bestOf_memory]
          cases isMaxMana : natives .maxMana with
          | none =>
              exact .curMana eligible isCurMana (List.append_nil _).symm
          | some maxMana =>
              exact
                .maxMana eligible isCurMana isMaxMana
                  (List.append_nil _).symm

/--
An evaluation whose calls keep a byte keeps it.  They do so exactly when the
byte is the same before, between and after all its probes.
-/
theorem storedMana_kept
    (natives : Natives)
    (capAtMaxLike nativeResult : Int32)
    (context : LocalAuthoritativeCastingContext)
    (memory : Memory)
    (address : UInt32) :
    (CallsKeep moduleBase natives context address memory →
        (evaluateBestAuthoritativeCurMana moduleBase natives capAtMaxLike
            nativeResult context memory).memory.bytes address =
          memory.bytes address) ∧
      (CallsKeep moduleBase natives context address memory ↔
        ∀ found, Passes moduleBase natives context memory found →
          found.bytes address = memory.bytes address) := by
  refine ⟨fun keep => ?_, callsKeep_iff natives context memory address⟩
  have evaluated :=
    @passes_evaluated moduleBase natives capAtMaxLike nativeResult context
      memory
  rcases evaluated with untouched | passes
  · rw [untouched]
  · exact (callsKeep_iff natives context memory address).mp keep _ passes

/-- A current-mana function that stores no mana and returns, or faults. -/
def storingCurMana (result : Option Int32) : Natives
  | .curMana =>
      some fun _ memory =>
        { result := result
          memory := memory.write (currentManaField 0x13000000 0)
          rewritten := true }
  | _ => none

/-- A warrior who is a cleric and a druid, too, keeps the mana where the
function returns. -/
theorem storedMana_kept_where_returned :
    (evaluateBestAuthoritativeCurMana 0x400000 (storingCurMana (some 50)) 0 0
        ⟨true, 1, 35⟩ warriorMemory).memory.bytes 0x1300338c =
      warriorMemory.bytes 0x1300338c := by
  refine
    (storedMana_kept (storingCurMana (some 50)) 0 0 ⟨true, 1, 35⟩
      warriorMemory 0x1300338c).1 ?_
  intro _ curMana isCurMana
  cases isCurMana
  refine ⟨by decide +kernel, ?_⟩
  intro maxMana isMaxMana
  cases isMaxMana

/-- A fault loses it. -/
theorem storedMana_lost_after_fault :
    warriorMemory.readWord 0x1300338c = some 100 ∧
      (evaluateBestAuthoritativeCurMana 0x400000 (storingCurMana none) 0 0
        ⟨true, 1, 35⟩ warriorMemory).memory.readWord 0x1300338c = some 0 := by
  decide +kernel

/-- A second call may store by chance what a first one lost, here the 100 that
the warrior had. -/
example :
    (evaluateBestAuthoritativeCurMana 0x400000
        (fun routine =>
          if routine = .curMana then
            some fun classId memory =>
              { result := none
                memory :=
                  memory.write
                    (currentManaField 0x13000000
                      (if classId = 6 then 100 else 0))
                rewritten := true }
          else
            none)
        0 0 ⟨true, 1, 35⟩ warriorMemory).memory.readWord 0x1300338c =
      some 100 := by
  decide +kernel

end MonomythClient.AuthoritativeEvaluators
