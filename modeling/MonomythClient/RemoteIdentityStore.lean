import MonomythClient.RemoteMulticlassIdentity
import MonomythClient.Runs

namespace MonomythClient.RemoteMulticlassIdentity

open ByteText MulticlassIdentity

/-!
# The remote identities as a finite map

The store is a list that is scanned from its front, and it behaves as a map
from case-folded pairs of server and character to identities: storing updates
one key, clearing forgets all of them, and a lookup reads one key and checks
the class id it expects.
-/

/-! ## Acceptable identities -/

/-- A playable class and a playable mask that contains it. -/
structure Acceptable (nativeClassId classesBitmask : Nat) : Prop where
  classId : 1 ≤ nativeClassId ∧ nativeClassId ≤ 16
  nonzero : classesBitmask ≠ 0
  playable : classesBitmask < 2 ^ 16
  contains : classesBitmask.testBit (nativeClassId - 1) = true

/-- `IsAcceptableRemoteIdentityEntry` asks for a name and these facts. -/
theorem isAcceptable_iff
    {characterName : List UInt8}
    {nativeClassId classesBitmask : UInt32} :
    isAcceptableRemoteIdentityEntry characterName nativeClassId
        classesBitmask =
          true ↔
      characterName ≠ [] ∧
        Acceptable nativeClassId.toNat classesBitmask.toNat := by
  have isZero : classesBitmask = 0 ↔ classesBitmask.toNat = 0 := by
    rw [← UInt32.toNat_inj, UInt32.toNat_zero]
  have isNonempty : characterName.isEmpty = false ↔ characterName ≠ [] :=
    List.isEmpty_eq_false_iff
  rw [isAcceptableRemoteIdentityEntry]
  constructor
  · intro accepted
    split at accepted
    · cases accepted
    · rename_i passes
      simp only [Bool.not_eq_true, Bool.or_eq_false_iff,
        Bool.not_eq_false', beq_eq_false_iff_ne] at passes
      obtain ⟨⟨⟨⟨named, id⟩, nonzero⟩, playable⟩, contains⟩ := passes
      have inside := isPlayableClassId_iff.mp id
      exact
        ⟨isNonempty.mp named, inside,
          fun same => nonzero (isZero.mpr same),
          isPlayableClassMask_iff.mp playable,
          (hasClass_iff inside).mp contains⟩
  · rintro ⟨named, accepted⟩
    have nonzero : classesBitmask ≠ 0 :=
      fun same => accepted.nonzero (isZero.mp same)
    simp [named, nonzero, isPlayableClassId_iff.mpr accepted.classId,
      isPlayableClassMask_iff.mpr accepted.playable,
      (hasClass_iff accepted.classId).mpr accepted.contains]

instance (nativeClassId classesBitmask : Nat) :
    Decidable (Acceptable nativeClassId classesBitmask) :=
  decidable_of_iff
    ((1 ≤ nativeClassId ∧ nativeClassId ≤ 16) ∧ classesBitmask ≠ 0 ∧
      classesBitmask < 2 ^ 16 ∧
      classesBitmask.testBit (nativeClassId - 1) = true)
    ⟨fun ⟨id, nonzero, playable, contains⟩ =>
        ⟨id, nonzero, playable, contains⟩,
      fun accepted =>
        ⟨accepted.classId, accepted.nonzero, accepted.playable,
          accepted.contains⟩⟩

/-! ## The abstract map -/

/-- A folded server name and a folded character name. -/
abbrev Key := List UInt8 × List UInt8

/-- A class id and a mask that are acceptable. -/
structure Identity where
  nativeClassId : UInt32
  classesBitmask : UInt32
  acceptable : Acceptable nativeClassId.toNat classesBitmask.toNat
  deriving DecidableEq

/-- The key of two names, when both are given and neither is empty. -/
def nameKey (serverName characterName : Option CString) : Option Key :=
  match serverName, characterName with
  | some server, some character =>
      if server.bytes = [] ∨ character.bytes = [] then
        none
      else
        some (foldCase server.bytes, foldCase character.bytes)
  | _, _ => none

/-- The calls that change the store. -/
inductive Operation where
  | store
      (serverName characterName : Option CString)
      (nativeClassId classesBitmask : UInt32)
  | clear
  deriving DecidableEq

/-- Is the operation a clear? -/
def Operation.isClear : Operation → Bool
  | .store .. => false
  | .clear => true

/-- The identity an operation stores, and its key. -/
def Operation.accepted : Operation → Option (Key × Identity)
  | .store serverName characterName nativeClassId classesBitmask =>
      if acceptable :
          Acceptable nativeClassId.toNat classesBitmask.toNat then
        (nameKey serverName characterName).map fun key =>
          (key, ⟨nativeClassId, classesBitmask, acceptable⟩)
      else
        none
  | .clear => none

/-- The identity an operation stores under one key. -/
def Operation.acceptedFor (key : Key) (operation : Operation) :
    Option Identity :=
  operation.accepted.bind fun stored =>
    if stored.1 = key then some stored.2 else none

/-- Identities by key. -/
abbrev Identities := Key → Option Identity

/-- An operation on the map. -/
def remember
    (identities : Identities)
    (operation : Operation) : Identities :=
  fun key =>
    if operation.isClear then
      none
    else
      (operation.acceptedFor key).or (identities key)

/-- A lookup in the map. -/
def lookupKnown
    (serverName characterName : Option CString)
    (expectedNativeClassId : UInt32)
    (identities : Identities) : Option UInt32 :=
  (nameKey serverName characterName).bind fun key =>
    (identities key).bind fun identity =>
      if expectedNativeClassId = 0 ∨
          expectedNativeClassId = identity.nativeClassId then
        some identity.classesBitmask
      else
        none

/-- The last identity stored under a key since the last clear. -/
def lastAccepted (operations : List Operation) : Identities :=
  fun key =>
    (operations.reverse.takeWhile (!·.isClear)).findSome?
      (Operation.acceptedFor key)

/-- The map after some operations holds what was stored last. -/
theorem run_remember (operations : List Operation) :
    Runs.run remember (fun _ => none) operations =
      lastAccepted operations := by
  induction operations using List.reverseRecOn with
  | nil =>
      rfl
  | append_singleton earlier operation inductionHypothesis =>
      funext key
      rw [Runs.run_append, inductionHypothesis, Runs.run_cons,
        Runs.run_nil, remember, lastAccepted, lastAccepted,
        List.reverse_append]
      cases isClear : operation.isClear with
      | true =>
          simp [isClear]
      | false =>
          cases stored : operation.acceptedFor key with
          | none =>
              simp [isClear, stored]
          | some identity =>
              simp [isClear, stored]

/-! ## The store refines the map -/

/-- The key of a stored entry. -/
def StoredEntry.key (entry : StoredEntry) : Key :=
  (entry.normalizedServerName, entry.normalizedCharacterName)

/-- The entry of an identity under a key. -/
def Identity.entry (key : Key) (identity : Identity) : StoredEntry where
  normalizedServerName := key.1
  normalizedCharacterName := key.2
  nativeClassId := identity.nativeClassId.toUInt8
  classesBitmask := identity.classesBitmask

@[simp] theorem Identity.key_entry (key : Key) (identity : Identity) :
    (identity.entry key).key = key := rfl

/-- The class id of an identity survives its narrowing to a byte. -/
@[simp] theorem Identity.toUInt32_toUInt8 (identity : Identity) :
    identity.nativeClassId.toUInt8.toUInt32 = identity.nativeClassId := by
  have small := identity.acceptable.classId
  rw [← UInt32.toNat_inj, UInt8.toNat_toUInt32, UInt32.toNat_toUInt8]
  exact Nat.mod_eq_of_lt (by omega)

/-- A store holds one entry for each key of the map, and no other. -/
structure Represents (store : Store) (identities : Identities) : Prop where
  unique : KeyedList.Unique StoredEntry.key store
  entries :
    ∀ key,
      KeyedList.lookup StoredEntry.key key store =
        (identities key).map (Identity.entry key)

/-- The store before any operation. -/
theorem represents_nil : Represents [] fun _ => none where
  unique := KeyedList.unique_nil
  entries := by
    intro key
    rfl

/-- Names without a key are null, or fold to nothing. -/
theorem nameKey_some (server character : CString) :
    nameKey (some server) (some character) =
      if (foldCase server.bytes).isEmpty ||
          (foldCase character.bytes).isEmpty then
        none
      else
        some (foldCase server.bytes, foldCase character.bytes) := by
  simp only [nameKey, Bool.or_eq_true, List.isEmpty_iff,
    foldCase_eq_nil server.unterminated,
    foldCase_eq_nil character.unterminated]

/-- Names with a key are given, and the character's is not empty. -/
theorem nameKey_eq_some
    {serverName characterName : Option CString}
    {key : Key}
    (named : nameKey serverName characterName = some key) :
    ∃ server character,
      serverName = some server ∧ characterName = some character ∧
        character.bytes ≠ [] ∧
        key = (foldCase server.bytes, foldCase character.bytes) := by
  cases serverName with
  | none =>
      cases named
  | some server =>
      cases characterName with
      | none =>
          cases named
      | some character =>
          simp only [nameKey] at named
          split at named
          · cases named
          · rename_i nonempty
            rw [not_or] at nonempty
            cases named
            exact ⟨server, character, rfl, rfl, nonempty.2, rfl⟩

/-- Updating the entry under some names is putting the new entry. -/
theorem upsert_eq_put (fresh : StoredEntry) (store : Store) :
    KeyedList.upsert
        (fun entry =>
          entry.normalizedServerName = fresh.normalizedServerName ∧
            entry.normalizedCharacterName = fresh.normalizedCharacterName)
        (fun entry =>
          { entry with
            nativeClassId := fresh.nativeClassId
            classesBitmask := fresh.classesBitmask })
        fresh store =
      KeyedList.put StoredEntry.key fresh store := by
  have sameSelection :
      (fun entry : StoredEntry =>
          decide (entry.normalizedServerName = fresh.normalizedServerName ∧
            entry.normalizedCharacterName =
              fresh.normalizedCharacterName)) =
        fun entry => decide (entry.key = fresh.key) := by
    funext entry
    simp [StoredEntry.key]
  rw [KeyedList.put, sameSelection]
  apply KeyedList.upsert_congr
  intro entry _ selected
  have sameKey := of_decide_eq_true selected
  simp only [StoredEntry.key, Prod.mk.injEq] at sameKey
  rw [sameKey.1, sameKey.2]

/-- Storing puts the accepted identity, or changes nothing. -/
theorem storeCharacterClassMask_eq
    (serverName characterName : Option CString)
    (nativeClassId classesBitmask : UInt32)
    (store : Store) :
    storeCharacterClassMask serverName characterName nativeClassId
        classesBitmask store =
      ((Operation.store serverName characterName nativeClassId
          classesBitmask).accepted.map fun stored =>
        (KeyedList.put StoredEntry.key (stored.2.entry stored.1) store,
          true)).getD
        (store, false) := by
  cases serverName with
  | none =>
      simp [storeCharacterClassMask, Operation.accepted, nameKey]
  | some server =>
      cases characterName with
      | none =>
          simp [storeCharacterClassMask, Operation.accepted, nameKey]
      | some character =>
          simp only [storeCharacterClassMask, Operation.accepted,
            nameKey_some]
          by_cases unnamed :
              ((foldCase server.bytes).isEmpty ||
                (foldCase character.bytes).isEmpty) = true
          · simp [unnamed]
          · have named : character.bytes ≠ [] := by
              simp only [Bool.or_eq_true, List.isEmpty_iff,
                not_or] at unnamed
              rw [Ne, ← foldCase_eq_nil character.unterminated]
              exact unnamed.2
            rw [Bool.not_eq_true] at unnamed
            by_cases acceptable :
                Acceptable nativeClassId.toNat classesBitmask.toNat
            · have passes :=
                (isAcceptable_iff).mpr ⟨named, acceptable⟩
              simp [unnamed, acceptable, passes, Identity.entry,
                ← upsert_eq_put]
            · have fails :
                  isAcceptableRemoteIdentityEntry character.bytes
                      nativeClassId classesBitmask =
                    false := by
                rw [← Bool.not_eq_true, isAcceptable_iff]
                exact fun passes => acceptable passes.2
              simp [unnamed, acceptable, fails]

/-- One operation on the store. -/
def operate (store : Store) : Operation → Store
  | .store serverName characterName nativeClassId classesBitmask =>
      (storeCharacterClassMask serverName characterName nativeClassId
        classesBitmask store).1
  | .clear => clear store

/-- An operation keeps the store and the map together. -/
theorem Represents.operate
    {store : Store}
    {identities : Identities}
    (represents : Represents store identities)
    (operation : Operation) :
    Represents (operate store operation)
      (remember identities operation) := by
  cases operation with
  | clear =>
      exact represents_nil
  | store serverName characterName nativeClassId classesBitmask =>
      rw [RemoteMulticlassIdentity.operate, storeCharacterClassMask_eq]
      unfold remember
      simp only [Operation.isClear, Operation.acceptedFor,
        Bool.false_eq_true, if_false]
      cases accepted :
          (Operation.store serverName characterName nativeClassId
            classesBitmask).accepted with
      | none =>
          exact represents
      | some stored =>
          refine ⟨KeyedList.unique_put represents.unique _, ?_⟩
          intro key
          by_cases same : stored.1 = key
          · subst key
            have found :
                KeyedList.lookup StoredEntry.key
                    (stored.2.entry stored.1).key
                    (KeyedList.put StoredEntry.key
                      (stored.2.entry stored.1) store) =
                  some (stored.2.entry stored.1) :=
              KeyedList.lookup_put_self _ _
            simpa using found
          · have otherKey : key ≠ (stored.2.entry stored.1).key :=
              Ne.symm same
            have kept :
                KeyedList.lookup StoredEntry.key key
                    (KeyedList.put StoredEntry.key
                      (stored.2.entry stored.1) store) =
                  KeyedList.lookup StoredEntry.key key store :=
              KeyedList.lookup_put_other otherKey store
            simpa [same] using kept.trans (represents.entries key)

/-- Every entry of the store is the entry of an identity of the map. -/
theorem Represents.entry_of_mem
    {store : Store}
    {identities : Identities}
    (represents : Represents store identities)
    {entry : StoredEntry}
    (member : entry ∈ store) :
    ∃ identity,
      identities entry.key = some identity ∧
        entry = identity.entry entry.key := by
  have found := represents.entries entry.key
  rw [KeyedList.lookup_of_mem represents.unique member] at found
  obtain ⟨identity, known, isEntry⟩ := Option.map_eq_some_iff.mp found.symm
  exact ⟨identity, known, isEntry.symm⟩

/-- The scan for two names is the lookup of their key. -/
theorem find?_eq_lookup (server character : List UInt8) (store : Store) :
    (store.find? fun entry =>
        entry.normalizedServerName = server ∧
          entry.normalizedCharacterName = character) =
      KeyedList.lookup StoredEntry.key (server, character) store := by
  apply congrArg (List.find? · store)
  funext entry
  simp [StoredEntry.key]

/-- A lookup in the store is the lookup in the map. -/
theorem Represents.tryLookup
    {store : Store}
    {identities : Identities}
    (represents : Represents store identities)
    (serverName characterName : Option CString)
    (expectedNativeClassId : UInt32) :
    tryLookupCharacterClassMask serverName characterName
        expectedNativeClassId store =
      lookupKnown serverName characterName expectedNativeClassId
        identities := by
  cases named : nameKey serverName characterName with
  | none =>
      cases serverName with
      | none =>
          simp [tryLookupCharacterClassMask, lookupKnown, nameKey]
      | some server =>
          cases characterName with
          | none =>
              simp [tryLookupCharacterClassMask, lookupKnown, nameKey]
          | some character =>
              rw [lookupKnown, named, Option.bind_none]
              rw [nameKey_some] at named
              split at named
              · rename_i unnamed
                exact if_pos unnamed
              · cases named
  | some key =>
      obtain ⟨server, character, rfl, rfl, nonempty, isKey⟩ :=
        nameKey_eq_some named
      have given :
          ¬ ((foldCase server.bytes).isEmpty ||
            (foldCase character.bytes).isEmpty) = true := by
        intro unnamed
        rw [nameKey_some, if_pos unnamed] at named
        cases named
      rw [tryLookupCharacterClassMask, lookupKnown, named, Option.bind_some]
      simp only [if_neg given, find?_eq_lookup, ← isKey,
        represents.entries key]
      cases known : identities key with
      | none =>
          rfl
      | some identity =>
          have passes :
              isAcceptableRemoteIdentityEntry character.bytes
                  identity.nativeClassId identity.classesBitmask =
                true :=
            isAcceptable_iff.mpr ⟨nonempty, identity.acceptable⟩
          have stored : identity.nativeClassId.toUInt8 ≠ 0 := by
            intro isZero
            have small := identity.acceptable.classId
            have widened := identity.toUInt32_toUInt8
            rw [isZero] at widened
            rw [← widened] at small
            exact absurd small.1 (by decide)
          simp only [Option.map_some, Identity.entry, stored,
            Identity.toUInt32_toUInt8, passes, ne_eq, not_false_eq_true,
            true_and, Bool.not_true, Bool.false_eq_true, if_false,
            Option.bind_some]
          by_cases anyClass : expectedNativeClassId = 0
          · simp [anyClass]
          · simp only [anyClass, not_false_eq_true, true_and, false_or,
              eq_comm (a := expectedNativeClassId), ite_not]

/-! ## Runs -/

/-- The store after some operations represents the map after them. -/
theorem represents_run (operations : List Operation) :
    Represents (Runs.run operate [] operations)
      (lastAccepted operations) := by
  rw [← run_remember]
  exact
    Runs.simulation
      (fun _ _ operation represents => represents.operate operation)
      represents_nil operations

/-- A store succeeds when it has an identity to store. -/
theorem storeCharacterClassMask_result
    (serverName characterName : Option CString)
    (nativeClassId classesBitmask : UInt32)
    (store : Store) :
    (storeCharacterClassMask serverName characterName nativeClassId
        classesBitmask store).2 =
      (Operation.store serverName characterName nativeClassId
        classesBitmask).accepted.isSome := by
  rw [storeCharacterClassMask_eq]
  cases (Operation.store serverName characterName nativeClassId
      classesBitmask).accepted with
  | none =>
      rfl
  | some stored =>
      rfl

/-- A refused store changes nothing, whatever is stored. -/
theorem storeCharacterClassMask_refused
    {serverName characterName : Option CString}
    {nativeClassId classesBitmask : UInt32}
    {store : Store}
    (refused :
      (storeCharacterClassMask serverName characterName nativeClassId
        classesBitmask store).2 = false) :
    (storeCharacterClassMask serverName characterName nativeClassId
        classesBitmask store).1 =
      store := by
  rw [storeCharacterClassMask_result, Option.isSome_eq_false_iff,
    Option.isNone_iff_eq_none] at refused
  rw [storeCharacterClassMask_eq, refused]
  rfl

/--
After any operations the keys of the store are unique and its entries are
acceptable, a store succeeds for acceptable identities and changes nothing
otherwise, and a lookup finds the identity last stored under its key since the
last clear, when the class id it expects is zero or that identity's.
-/
theorem store_refines_map (operations : List Operation) :
    KeyedList.Unique StoredEntry.key
        (Runs.run operate [] operations) ∧
      (∀ entry ∈ Runs.run operate [] operations,
        Acceptable entry.nativeClassId.toNat
          entry.classesBitmask.toNat) ∧
      (∀ serverName characterName nativeClassId classesBitmask,
        (storeCharacterClassMask serverName characterName nativeClassId
            classesBitmask (Runs.run operate [] operations)).2 =
          (Operation.store serverName characterName nativeClassId
            classesBitmask).accepted.isSome) ∧
      (∀ serverName characterName nativeClassId classesBitmask,
        (storeCharacterClassMask serverName characterName nativeClassId
            classesBitmask (Runs.run operate [] operations)).2 =
          false →
          (storeCharacterClassMask serverName characterName nativeClassId
              classesBitmask (Runs.run operate [] operations)).1 =
            Runs.run operate [] operations) ∧
      ∀ serverName characterName expectedNativeClassId,
        tryLookupCharacterClassMask serverName characterName
            expectedNativeClassId (Runs.run operate [] operations) =
          lookupKnown serverName characterName expectedNativeClassId
            (lastAccepted operations) := by
  have represents := represents_run operations
  refine ⟨represents.unique, ?_, ?_, ?_, represents.tryLookup⟩
  · intro entry member
    obtain ⟨identity, _, isEntry⟩ := represents.entry_of_mem member
    have stored := congrArg StoredEntry.nativeClassId isEntry
    have narrowed : entry.nativeClassId.toNat =
        identity.nativeClassId.toNat := by
      rw [stored, ← UInt8.toNat_toUInt32]
      exact congrArg UInt32.toNat identity.toUInt32_toUInt8
    rw [narrowed, congrArg StoredEntry.classesBitmask isEntry]
    exact identity.acceptable
  · intro serverName characterName nativeClassId classesBitmask
    exact storeCharacterClassMask_result _ _ _ _ _
  · intro serverName characterName nativeClassId classesBitmask
    exact storeCharacterClassMask_refused

end MonomythClient.RemoteMulticlassIdentity
