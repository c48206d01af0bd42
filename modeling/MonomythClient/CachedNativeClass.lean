import MonomythClient.CachePersistence

namespace MonomythClient.CachePersistence

open ByteText LocalPlayer MulticlassCache ServerAuthStats TrainerTraffic
open TrainerSessions (Undisturbed FieldsApart Sound)
open ProtectedMemory Runs

/-!
# The native class in the cache

The native class is read from the profile, where a trainer's session has its
own class.  While no mask is stored under such a session, the class that goes
into the cache is the one that the profile has outside all sessions, and a
lookup with that class finds the mask again.
-/

/-! ## What is found again -/

/-- The row of the cache file that a store makes. -/
def ClassMaskStore.row (stored : ClassMaskStore) : CacheEntry where
  name := stored.characterName.bytes
  normalizedName := normalizeName stored.characterName.bytes
  classesBitmask := stored.classesBitmask
  nativeClassId := stored.nativeClassId.toUInt32.toUInt8
  serverName := stored.serverName.bytes
  normalizedServerName := normalizeName stored.serverName.bytes

/-- While the file has the row of a store, a lookup with the class of a
character finds the mask. -/
def ClassMaskStore.FoundWith
    (stored : ClassMaskStore)
    (nativeClassId : UInt8) :
    Prop :=
  ∀ file,
    cachedEntry file (normalizeName stored.characterName.bytes) =
        some stored.row →
      tryLookupCharacterClassMask .healthy file
          (some stored.characterName) nativeClassId.toUInt32
          (some stored.serverName) =
        some stored.classesBitmask

/-- A store has the class of the profile that a memory has, by which it is
found again. -/
def StoresOwnClass
    (moduleBase : UInt32)
    (initial : Memory)
    (store : ClassMaskStore × State) :
    Prop :=
  tryReadLocalProfileClassId moduleBase initial =
      some store.1.nativeClassId ∧
    store.1.FoundWith store.1.nativeClassId

theorem zero_notMem_readAsciiBytes
    {memory : Memory}
    {remaining : Nat}
    {source : UInt32}
    {text : List UInt8}
    (read : readAsciiBytes memory remaining source = some text) :
    0 ∉ text := by
  induction remaining generalizing source text with
  | zero =>
      obtain rfl := Option.some.inj read
      exact List.not_mem_nil
  | succ remaining inductionHypothesis =>
      rw [readAsciiBytes] at read
      obtain ⟨symbol, -, read⟩ := Option.bind_eq_some_iff.mp read
      split at read
      · obtain rfl := Option.some.inj read
        exact List.not_mem_nil
      · rename_i nonzero
        obtain ⟨rest, restRead, read⟩ := Option.bind_eq_some_iff.mp read
        obtain rfl := Option.some.inj read
        rw [List.mem_cons, not_or]
        exact ⟨fun zero => nonzero zero.symm, inductionHypothesis restRead⟩

/-- A name that was read is not empty. -/
theorem tryReadLocalPlayerName_nonempty
    {moduleBase : UInt32}
    {memory : Memory}
    {name : CString}
    (read : tryReadLocalPlayerName moduleBase memory = some name) :
    name.bytes ≠ [] := by
  simp only [tryReadLocalPlayerName, tryReadEqSpawnName,
    tryReadAsciiCString, bind, Option.bind_eq_some_iff] at read
  obtain ⟨_, -, _, -, _, -, text, textRead, _, nonempty, same⟩ := read
  obtain rfl := Option.some.inj same
  have noZero := zero_notMem_readAsciiBytes textRead
  have kept : text.takeWhile (· ≠ 0) = text := by
    rw [List.takeWhile_eq_self_iff]
    intro symbol member
    exact decide_eq_true fun zero => noZero (zero ▸ member)
  rw [CString.ofText]
  dsimp only
  rw [kept]
  simpa [guard] using nonempty

/-- What is stored is found with the class that it is stored with. -/
theorem ClassMaskStore.foundWith_own
    {stored : ClassMaskStore}
    (nonempty : stored.characterName.bytes ≠ []) :
    stored.FoundWith stored.nativeClassId := by
  intro file cached
  rw [tryLookup_healthy, if_neg nonempty, cached, Option.bind_some,
    matchEntry, row, normalizeServerName, if_neg, if_neg]
  · simp
  · rintro ⟨serverKnown, noServer | differs⟩
    · exact serverKnown noServer
    · exact differs rfl

/-! ## The class that is stored -/

/-- An event leaves the class fields to trainer sessions. -/
def FieldsUndisturbed
    (moduleBase : UInt32)
    (initial : Memory)
    (state : State) :
    Event → Prop
  | .traffic event =>
      Along (TrainerSessions.State.step moduleBase)
        (Undisturbed moduleBase initial) state.traffic.training
        (state.traffic.sessionEvents event)
  | .authStats _ _ => True
  | .persist _ => True

/-- An event makes an attempt that finds all it needs only while no session has
another class than the character, unless the profile cannot be written. -/
def AttemptsOutsideSessions
    (moduleBase : UInt32)
    (initial : Memory)
    (state : State)
    (event : Event) :
    Prop :=
  ∀ attempted ∈ state.attempted event,
    attempted.1.findsAll moduleBase attempted.2 = true →
      attempted.1.traffic.training.session.active = true →
        tryReadLocalProfileClassId moduleBase initial =
            some attempted.1.traffic.training.session.activeClassId ∨
          ∀ profile ∈ tryReadLocalProfilePointer moduleBase initial,
            initial.accepts (profileClassField profile 0) = false

instance
    (moduleBase : UInt32)
    (initial : Memory)
    (state : State)
    (event : Event) :
    Decidable (AttemptsOutsideSessions moduleBase initial state event) :=
  inferInstanceAs (Decidable (∀ attempted ∈ state.attempted event, _))

section Classes

variable {moduleBase : UInt32} {sorter : EntrySorter} {initial : Memory}

/-- The session of a state that an attempt is made in is that of the state
before the event. -/
theorem traffic_attempted
    {state attempting : State}
    {event : Event}
    {attempt : Attempt}
    (attempts : state.attempted event = some (attempting, attempt)) :
    attempting.traffic = state.traffic := by
  cases event with
  | traffic event =>
      cases attempts
  | authStats payload payloadAttempt =>
      obtain ⟨armed, arms, same⟩ := Option.map_eq_some_iff.mp attempts
      obtain ⟨rfl, -⟩ := Prod.mk.inj same
      obtain ⟨-, -, rfl⟩ := armPersist_some arms
      rfl
  | persist persistAttempt =>
      obtain ⟨rfl, -⟩ := Prod.mk.inj (Option.some.inj attempts)
      rfl

/-- Only the traffic changes the session and the memory. -/
theorem traffic_step (state : State) (event : Event) :
    (state.step moduleBase sorter event).traffic =
      match event with
      | .traffic event => state.traffic.step moduleBase event
      | .authStats _ _ => state.traffic
      | .persist _ => state.traffic := by
  cases event with
  | traffic event =>
      rfl
  | authStats payload attempt =>
      rw [State.step, notifyServerAuthStatsUpdated]
      cases arms : (state.receive payload).armPersist with
      | none =>
          rfl
      | some armed =>
          obtain ⟨-, -, rfl⟩ := armPersist_some arms
          exact tryPersistPendingMulticlassCache_keeps.1
  | persist attempt =>
      exact tryPersistPendingMulticlassCache_keeps.1

theorem sound_step
    (state : State)
    (event : Event)
    (sound : Sound moduleBase initial state.traffic.training)
    (undisturbed : FieldsUndisturbed moduleBase initial state event) :
    Sound moduleBase initial
      (state.step moduleBase sorter event).traffic.training := by
  rw [traffic_step]
  cases event with
  | traffic event =>
      dsimp only
      rw [training_step]
      exact invariant_along Sound.step sound undisturbed
  | authStats payload attempt =>
      exact sound
  | persist attempt =>
      exact sound

/-- In an undisturbed run that stores no mask under a session with another
class, every mask is stored with the class of the character. -/
theorem stored_classes_own
    (apart : FieldsApart moduleBase initial)
    (character : CString)
    (file : Option (List UInt8))
    (events : List Event)
    (undisturbed :
      Along (State.step moduleBase sorter)
        (FieldsUndisturbed moduleBase initial)
        (State.initial initial character file) events)
    (outside :
      Along (State.step moduleBase sorter)
        (AttemptsOutsideSessions moduleBase initial)
        (State.initial initial character file) events) :
    ∀ store ∈
      emitted (State.step moduleBase sorter) (State.stores moduleBase)
        (State.initial initial character file) events,
      StoresOwnClass moduleBase initial store := by
  refine emitted_along
    (fun state event sound allowed => sound_step state event sound allowed.1)
    ?_ TrainerSessions.sound_initial (along_and undisturbed outside)
  intro state event sound allowed store member
  obtain ⟨attempt, attempts, called⟩ := mem_stores member
  obtain ⟨findsAll, -, -, classRead, nameRead⟩ := storeCall_some called
  rw [← traffic_attempted attempts] at sound
  refine ⟨?_, ClassMaskStore.foundWith_own
    (tryReadLocalPlayerName_nonempty nameRead)⟩
  rcases sound.profileClassId apart classRead with
    ⟨active, ⟨profile, pointer, accepted⟩, sameClass⟩ | original
  · rcases allowed.2 _ attempts findsAll active with own | refused
    · rw [sameClass]
      exact own
    · rw [refused profile pointer] at accepted
      cases accepted
  · exact original

end Classes

/-! ## A class of a trainer -/

/-- Ulf is trained as a cleric. -/
def ulfTrains : List Event :=
  (trainingEvents CString).map .traffic

/-- Ulf's training ends. -/
def ulfStopsTraining : Event :=
  .traffic (.send 0x20000010 2 id true)

/-- A send whose native part leaves the memory alone. -/
theorem undisturbed_native
    {moduleBase : UInt32}
    {initial : Memory}
    {state : TrainerSessions.State}
    (objects :
      TrainerSessions.SameObjects moduleBase initial state.memory) :
    Undisturbed moduleBase initial state (.change id) :=
  ⟨objects, fun _ _ => ⟨rfl, rfl, rfl⟩⟩

/-- A payload that comes in the middle of a training puts Ulf into the cache
as a cleric. -/
theorem trainer_class_stored :
    ¬ (Along (State.step 0x400000 exampleSorter)
          (FieldsUndisturbed 0x400000 ulfMemory)
          (State.initial ulfMemory ulf none)
          (ulfTrains ++ [.authStats maskPayload serverKnown]) →
        ∀ store ∈
          emitted (State.step 0x400000 exampleSorter)
            (State.stores 0x400000) (State.initial ulfMemory ulf none)
            (ulfTrains ++ [.authStats maskPayload serverKnown]),
          StoresOwnClass 0x400000 ulfMemory store) := by
  intro allOwn
  have own := allOwn
    ⟨trivial,
      ⟨undisturbed_native (by decide +kernel),
        .inr ⟨by decide +kernel, by decide +kernel⟩, trivial⟩,
      trivial, trivial⟩
  have classes :
      ((emitted (State.step 0x400000 exampleSorter)
          (State.stores 0x400000) (State.initial ulfMemory ulf none)
          (ulfTrains ++ [.authStats maskPayload serverKnown])).map
        fun store => store.1.nativeClassId) = [2] := by
    decide +kernel
  have asCleric : (2 : UInt8) ∈ ([2] : List UInt8) := List.mem_singleton_self 2
  rw [← classes] at asCleric
  obtain ⟨store, member, sameClass⟩ := List.mem_map.mp asCleric
  have original := (own store member).1
  rw [sameClass] at original
  exact absurd original (by decide +kernel)

/-- One that comes after it puts Ulf there as a warrior. -/
theorem own_class_stored :
    ((emitted (State.step 0x400000 exampleSorter)
        (State.stores 0x400000) (State.initial ulfMemory ulf none)
        (ulfTrains ++
          [ulfStopsTraining, .authStats maskPayload serverKnown])).map
      fun store => store.1.nativeClassId) = [1] ∧
      ∀ store ∈
        emitted (State.step 0x400000 exampleSorter)
          (State.stores 0x400000) (State.initial ulfMemory ulf none)
          (ulfTrains ++
            [ulfStopsTraining, .authStats maskPayload serverKnown]),
        StoresOwnClass 0x400000 ulfMemory store := by
  refine ⟨by decide +kernel, ?_⟩
  refine stored_classes_own
    (TrainerSessions.fieldsApart_of_objects (by decide +kernel)
      (by decide +kernel))
    ulf none _ ?_ (by decide +kernel)
  exact
    ⟨trivial,
      ⟨undisturbed_native (by decide +kernel),
        .inr ⟨by decide +kernel, by decide +kernel⟩, trivial⟩,
      ⟨undisturbed_native (by decide +kernel),
        ⟨by decide +kernel, by decide +kernel⟩, trivial⟩,
      trivial, trivial⟩

end MonomythClient.CachePersistence
