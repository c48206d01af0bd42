import MonomythClient.AuthoritativeEvaluators
import MonomythClient.Runs

namespace MonomythClient.AuthoritativeEvaluators

open MulticlassIdentity LocalPlayer TemporaryClassOverride ServerAuthStats
open ProtectedMemory

/-!
# Class overrides leave no trace

Whatever game code does between an override and its restoration, an address it
leaves alone holds its byte again afterwards.  Game code may fault, and it may
reach evaluators of its own, which override classes that are overridden
already.
-/

/-! ## One call -/

/-- A call leaves the byte at an address as it was, as long as the overrides
made during the call can be written back. -/
def Native.Keeps (native : Native) (address : UInt32) : Prop :=
  ∀ memory, (native memory).rewritten = true →
    (native memory).memory.bytes address = memory.bytes address

variable {moduleBase address : UInt32}

/-- An override around such a call leaves it, too. -/
theorem probe_keeps
    {native : Native}
    {classId : UInt32}
    {memory : Memory}
    (keeps : native.Keeps address)
    (rewritten :
      (probe moduleBase native classId memory).called.rewritten = true) :
    (probe moduleBase native classId memory).called.memory.bytes address =
      memory.bytes address := by
  cases active :
      (tryApplyTemporaryLocalClassOverride moduleBase classId.toUInt8
        memory).1.active with
  | false =>
      simp only [probe, active, Bool.false_eq_true, if_false]
      exact tryApply_inactive active address
  | true =>
      simp only [probe, active, if_true, Bool.and_eq_true] at rewritten ⊢
      exact restore_apply active (keeps _ rewritten.1) rewritten.2

/-- A loop over classes leaves it. -/
theorem bestOf_keeps
    {nativeResult : Int32}
    {native : UInt32 → Native}
    {classIds : List UInt32}
    {memory : Memory}
    (keeps : ∀ classId, (native classId).Keeps address)
    (rewritten :
      (bestOf moduleBase nativeResult native classIds
        memory).rewritten = true) :
    (bestOf moduleBase nativeResult native classIds
      memory).memory.bytes address = memory.bytes address := by
  have oneClass :
      ∀ (best : Best) (classId : UInt32),
        (best.rewritten = true →
          best.memory.bytes address = memory.bytes address) →
        ((best.consider moduleBase nativeResult native
            classId).rewritten = true →
          (best.consider moduleBase nativeResult native
            classId).memory.bytes address = memory.bytes address) := by
    intro best classId soFar bothRewritten
    simp only [Best.consider, Bool.and_eq_true] at bothRewritten ⊢
    rw [probe_keeps (keeps classId) bothRewritten.2, soFar bothRewritten.1]
  exact Runs.invariant oneClass (fun _ => rfl) classIds rewritten

/-! ## The wrapper around current mana -/

section StoredMana

variable {memory : Memory}

theorem mem_fields
    {snapshot : LocalCurrentManaStorageSnapshot}
    {store : Store} :
    store ∈ snapshot.fields ↔
      (∃ saved, snapshot.profile = some saved ∧
          store = currentManaField saved.1 saved.2.2) ∨
        (∃ saved, snapshot.classRecord = some saved ∧
          store = currentManaField saved.1 saved.2.2) := by
  simp only [LocalCurrentManaStorageSnapshot.fields, List.mem_append,
    mem_toList_map]

theorem tryReadProfileMana_some
    {saved : UInt32 × UInt32 × UInt32}
    (found : tryReadProfileMana moduleBase memory = some saved) :
    memory.readWord (saved.1 + kPcProfileCurrentManaOffset) =
      some saved.2.2 := by
  simp only [tryReadProfileMana, bind, Option.bind_eq_some_iff] at found
  obtain ⟨storage, -, value, valueRead, same⟩ := found
  obtain rfl := Option.some.inj same
  exact valueRead

theorem tryReadClassRecordMana_some
    {saved : UInt32 × UInt8 × UInt32}
    (found : tryReadClassRecordMana moduleBase memory = some saved) :
    memory.readWord (saved.1 + kPcProfileCurrentManaOffset) =
      some saved.2.2 := by
  simp only [tryReadClassRecordMana, bind, Option.bind_eq_some_iff] at found
  obtain ⟨storage, -, value, valueRead, same⟩ := found
  obtain rfl := Option.some.inj same
  exact valueRead

/-- A snapshot holds what the memory does. -/
theorem fields_snapshot_saves :
    ∀ store ∈ (readLocalCurrentManaStorageSnapshot moduleBase memory).fields,
      store.Saves memory.bytes := by
  intro store member
  rcases mem_fields.mp member with ⟨saved, found, rfl⟩ | ⟨saved, found, rfl⟩
  · exact Memory.readWord_saves (tryReadProfileMana_some found)
  · exact Memory.readWord_saves (tryReadClassRecordMana_some found)

end StoredMana

/-- Putting stored mana back changes no byte that the call left alone. -/
theorem tryInvokeCurManaPreservingStorage_keeps
    {curMana : Native}
    (keeps : curMana.Keeps address) :
    Native.Keeps
      (tryInvokeCurManaPreservingStorage moduleBase curMana) address := by
  intro memory rewritten
  unfold tryInvokeCurManaPreservingStorage at rewritten ⊢
  dsimp only at rewritten ⊢
  split at rewritten
  · exact keeps memory rewritten
  · split at rewritten
    · rename_i changed
      rw [if_pos changed]
      dsimp only at rewritten ⊢
      rw [Memory.writeEach_agreeing fun store member _ covers =>
        fields_snapshot_saves store member address covers,
        keeps memory rewritten, ite_self]
    · rename_i same
      rw [if_neg same]
      exact keeps memory rewritten

/-! ## Every evaluator -/

/-- The game functions that are installed leave the byte alone. -/
def Natives.Keep (natives : Natives) (address : UInt32) : Prop :=
  ∀ routine native, natives routine = some native →
    ∀ classId, (native classId).Keeps address

section Evaluators

variable {natives : Natives} {memory : Memory}

theorem evaluateBestMana_keeps
    {native : Option (UInt32 → Native)}
    {delta : HeroicManaAdjustment → Int32}
    {nativeResult : Int32}
    {context : LocalAuthoritativeCastingContext}
    (keeps :
      ∀ installed, native = some installed →
        ∀ classId, (installed classId).Keeps address)
    (rewritten :
      (evaluateBestMana moduleBase native delta nativeResult context
        memory).rewritten = true) :
    (evaluateBestMana moduleBase native delta nativeResult context
      memory).memory.bytes address = memory.bytes address := by
  unfold evaluateBestMana at rewritten ⊢
  split at rewritten
  · rename_i installed _
    exact bestOf_keeps (keeps installed rfl) rewritten
  · rfl

theorem evaluateBestAuthoritativeCurMana_keeps
    {capAtMaxLike nativeResult : Int32}
    {context : LocalAuthoritativeCastingContext}
    (keep : natives.Keep address)
    (rewritten :
      (evaluateBestAuthoritativeCurMana moduleBase natives capAtMaxLike
        nativeResult context memory).rewritten = true) :
    (evaluateBestAuthoritativeCurMana moduleBase natives capAtMaxLike
      nativeResult context memory).memory.bytes address =
        memory.bytes address := by
  unfold evaluateBestAuthoritativeCurMana at rewritten ⊢
  split at rewritten
  · rename_i installed _ present
    dsimp only at rewritten ⊢
    rw [Bool.and_eq_true] at rewritten
    rw [evaluateBestAuthoritativeMaxMana,
      evaluateBestMana_keeps (keep .maxMana) rewritten.2]
    exact bestOf_keeps
      (fun classId =>
        tryInvokeCurManaPreservingStorage_keeps
          (keep .curMana installed present classId))
      rewritten.1
  · rfl

theorem evaluateBestSkill_keeps
    {native : Option (UInt32 → Native)}
    {isContext : Memory → UInt32 → Bool}
    {thisContext : UInt32}
    {nativeResult : Int32}
    {snapshot : Snapshot}
    (keeps :
      ∀ installed, native = some installed →
        ∀ classId, (installed classId).Keeps address)
    (rewritten :
      (evaluateBestSkill moduleBase native isContext thisContext
        nativeResult snapshot memory).rewritten = true) :
    (evaluateBestSkill moduleBase native isContext thisContext
      nativeResult snapshot memory).memory.bytes address =
        memory.bytes address := by
  unfold evaluateBestSkill at rewritten ⊢
  split at rewritten
  · rfl
  · rename_i installed
    split at rewritten
    · rename_i refused
      rw [if_pos refused]
      rfl
    · rename_i accepted
      rw [if_neg accepted]
      exact bestOf_keeps (keeps installed rfl) rewritten

theorem tryCandidates_keeps
    {nativeResult : Int32}
    {native : UInt32 → Native}
    {classIds : List UInt32}
    (keeps : ∀ classId, (native classId).Keeps address)
    (rewritten :
      (tryCandidates moduleBase nativeResult native classIds
        memory).rewritten = true) :
    (tryCandidates moduleBase nativeResult native classIds
      memory).memory.bytes address = memory.bytes address := by
  induction classIds generalizing memory with
  | nil =>
      rfl
  | cons classId later inductionHypothesis =>
      rw [tryCandidates] at rewritten ⊢
      dsimp only at rewritten ⊢
      split at rewritten
      · rename_i found
        rw [if_pos found]
        exact probe_keeps (keeps classId) rewritten
      · rename_i notFound
        rw [if_neg notFound]
        dsimp only at rewritten ⊢
        rw [Bool.and_eq_true] at rewritten
        rw [inductionHypothesis rewritten.2,
          probe_keeps (keeps classId) rewritten.1]

theorem evaluateBestAuthoritativeCombatAbility_keeps
    {thisContext : UInt32}
    {abilityIndex nativeResult : Int32}
    {snapshot : Snapshot}
    (keep : natives.Keep address)
    (rewritten :
      (evaluateBestAuthoritativeCombatAbility moduleBase natives thisContext
        abilityIndex nativeResult snapshot memory).rewritten = true) :
    (evaluateBestAuthoritativeCombatAbility moduleBase natives thisContext
      abilityIndex nativeResult snapshot memory).memory.bytes address =
        memory.bytes address := by
  unfold evaluateBestAuthoritativeCombatAbility at rewritten ⊢
  split at rewritten
  · rfl
  · rename_i installed present
    split at rewritten
    · rename_i resolves
      rw [if_pos resolves]
      exact tryCandidates_keeps (keep .combatAbility installed present)
        rewritten
    · rename_i refused
      rw [if_neg refused]

/-- No evaluator changes a byte that the game functions leave alone. -/
theorem Request.evaluate_keeps
    {request : Request}
    (keep : natives.Keep address)
    (rewritten :
      (request.evaluate moduleBase natives memory).2.2 = true) :
    (request.evaluate moduleBase natives memory).2.1.bytes address =
      memory.bytes address := by
  cases request with
  | maxMana nativeResult context =>
      exact evaluateBestMana_keeps (keep .maxMana) rewritten
  | manaRegen nativeResult context =>
      exact evaluateBestMana_keeps (keep .manaRegen) rewritten
  | curMana capAtMaxLike nativeResult context =>
      exact evaluateBestAuthoritativeCurMana_keeps keep rewritten
  | adjustedSkill thisContext nativeResult snapshot =>
      exact evaluateBestSkill_keeps (keep .adjustedSkill) rewritten
  | skillsWindowSkillValue thisContext nativeResult snapshot =>
      exact evaluateBestSkill_keeps (keep .skillsWindowSkillValue) rewritten
  | combatAbility thisContext abilityIndex nativeResult snapshot =>
      exact evaluateBestAuthoritativeCombatAbility_keeps keep rewritten

end Evaluators

/-! ## Game code -/

/-- What game code does during a call: it changes memory, looks at memory,
reaches an evaluator through one of the hooks, and in the end returns or
faults. -/
inductive Behaviour where
  | finish (outcome : Option Int32)
  | act (effect : Memory → Memory) (next : Behaviour)
  | inspect (next : Memory → Behaviour)
  | evaluate
      (installed : Routine → Bool)
      (request : Request)
      (natives : Routine → UInt32 → Behaviour)
      (next : Int32 → Behaviour)

/-- A call of game code that behaves so. -/
def Behaviour.run (moduleBase : UInt32) : Behaviour → Native
  | .finish outcome, memory =>
      { result := outcome, memory := memory, rewritten := true }
  | .act effect next, memory =>
      next.run moduleBase (effect memory)
  | .inspect next, memory =>
      (next memory).run moduleBase memory
  | .evaluate installed request natives next, memory =>
      let evaluated :=
        request.evaluate moduleBase
          (fun routine =>
            if installed routine then
              some fun classId => (natives routine classId).run moduleBase
            else
              none)
          memory
      let called := (next evaluated.1).run moduleBase evaluated.2.1
      { called with rewritten := evaluated.2.2 && called.rewritten }

/-- The installed game functions, each behaving as it does for a class. -/
def Behaviour.natives
    (moduleBase : UInt32)
    (installed : Routine → Bool)
    (behaviours : Routine → UInt32 → Behaviour) :
    Natives :=
  fun routine =>
    if installed routine then
      some fun classId => (behaviours routine classId).run moduleBase
    else
      none

/-- Nothing that the game code itself does writes the address. -/
def Behaviour.Spares (address : UInt32) : Behaviour → Prop
  | .finish _ => True
  | .act effect next =>
      (∀ memory : Memory,
        (effect memory).bytes address = memory.bytes address) ∧
        next.Spares address
  | .inspect next => ∀ memory, (next memory).Spares address
  | .evaluate _ _ natives next =>
      (∀ routine classId, (natives routine classId).Spares address) ∧
        ∀ result, (next result).Spares address

theorem Behaviour.natives_keep
    {installed : Routine → Bool}
    {behaviours : Routine → UInt32 → Behaviour}
    (keeps :
      ∀ routine classId,
        ((behaviours routine classId).run moduleBase).Keeps address) :
    (Behaviour.natives moduleBase installed behaviours).Keep address := by
  intro routine native present classId
  unfold Behaviour.natives at present
  split at present
  · obtain rfl := Option.some.inj present
    exact keeps routine classId
  · cases present

/-- Game code that spares an address keeps its byte, also across the overrides
of evaluators it reaches. -/
theorem Behaviour.run_keeps
    (behaviour : Behaviour)
    (spares : behaviour.Spares address) :
    (behaviour.run moduleBase).Keeps address := by
  induction behaviour with
  | finish outcome =>
      exact fun memory _ => rfl
  | act effect next inductionHypothesis =>
      intro memory rewritten
      rw [run, inductionHypothesis spares.2 _ rewritten, spares.1]
  | inspect next inductionHypothesis =>
      intro memory rewritten
      exact inductionHypothesis memory (spares memory) memory rewritten
  | evaluate installed request behaviours next nestedKeeps nextKeeps =>
      intro memory rewritten
      simp only [run, Bool.and_eq_true] at rewritten ⊢
      rw [nextKeeps _ (spares.2 _) _ rewritten.2]
      exact Request.evaluate_keeps
        (Behaviour.natives_keep fun routine classId =>
          nestedKeeps routine classId (spares.1 routine classId))
        rewritten.1

/-- An evaluator leaves every byte that game code does not write as it was,
whatever that code does and wherever it faults.  The fields it writes on the
way are class fields that could be read and held a playable class. -/
theorem evaluate_leaves_no_trace
    (installed : Routine → Bool)
    (request : Request)
    (behaviours : Routine → UInt32 → Behaviour)
    (memory : Memory)
    (spared :
      ∀ routine classId, (behaviours routine classId).Spares address)
    (rewritten :
      (request.evaluate moduleBase
        (Behaviour.natives moduleBase installed behaviours)
        memory).2.2 = true) :
    (request.evaluate moduleBase
        (Behaviour.natives moduleBase installed behaviours)
        memory).2.1.bytes address = memory.bytes address ∧
      ∀ (before later : Memory) (classId : UInt8) (other : UInt32),
        ¬ Overridable moduleBase before other →
          (tryApplyTemporaryLocalClassOverride moduleBase classId
              before).2.bytes other = before.bytes other ∧
            (restoreTemporaryLocalClassOverride
                (tryApplyTemporaryLocalClassOverride moduleBase classId
                  before).1 later).bytes other = later.bytes other :=
  ⟨Request.evaluate_keeps
      (Behaviour.natives_keep fun routine classId =>
        Behaviour.run_keeps _ (spared routine classId))
      rewritten,
    fun _ _ _ _ outside =>
      ⟨tryApply_outside outside, restore_outside outside⟩⟩

/-- A skill function that asks for the maximal mana, where the game faults, and
then answers with the displayed class. -/
def nestedSkill : Routine → UInt32 → Behaviour
  | .adjustedSkill, _ =>
      .evaluate (fun _ => true) (.maxMana 0 ⟨true, 1, 0x22⟩)
        (fun _ _ => .finish none)
        fun _ =>
          .inspect fun memory =>
            .finish
              ((tryReadLocalPlayerDisplayedClassId 0x400000 memory).map
                fun classId => Int32.ofNat classId.toNat)
  | _, _ => .finish none

/-- The skill of a warrior who is a cleric, too. -/
def warriorRequest : Request :=
  .adjustedSkill 0x10000000 0
    { Globals.initial with classesBitmask := ⟨true, 3⟩ }

/-- It sees the override it is asked under, and a warrior stays one. -/
theorem nested_evaluation_leaves_no_trace :
    (warriorRequest.evaluate 0x400000
        (Behaviour.natives 0x400000 (fun _ => true) nestedSkill)
        warriorMemory).1 = 2 ∧
      (warriorRequest.evaluate 0x400000
        (Behaviour.natives 0x400000 (fun _ => true) nestedSkill)
        warriorMemory).2.1.bytes 0x13003374 = 1 := by
  have spared :
      ∀ routine classId,
        (nestedSkill routine classId).Spares 0x13003374 := by
    intro routine classId
    cases routine <;> simp [nestedSkill, Behaviour.Spares]
  have unchanged :=
    (@evaluate_leaves_no_trace 0x400000 0x13003374 (fun _ => true)
      warriorRequest nestedSkill warriorMemory spared
      (by decide +kernel)).1
  exact ⟨by decide +kernel, unchanged.trans (by decide +kernel)⟩

end MonomythClient.AuthoritativeEvaluators
