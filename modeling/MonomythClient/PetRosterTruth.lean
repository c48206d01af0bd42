import MonomythClient.PetRoster

namespace MonomythClient.MultiPetSpawnObserver

open ByteText LittleEndian PayloadReader ServerAuthStats StandardSort

/-!
# What snapshots say about pets

The last packet about a spawn id tells whose pet it is now, if it is one.  A
snapshot should only show pets that this packet gives to the focused pet's
owner.  Spawns without an owner are ignored, also when they take the id of a
pet, and that pet stays in the snapshot; in runs without such a spawn the
snapshot is true.
-/

/-! ## The last packet about a spawn id -/

/-- The spawn id an announcement is about. -/
def Announcement.spawnId : Announcement → UInt32
  | .spawned spawn => spawn.spawnId
  | .deleted spawnId => spawnId

/-- What an event announces about one spawn id. -/
def RosterEvent.announcementFor
    (spawnId : UInt32)
    (event : RosterEvent) : Option Announcement :=
  event.announcement.filter fun announcement =>
    announcement.spawnId = spawnId

/-- The last well-formed spawn or delete packet about a spawn id. -/
def lastAnnouncement
    (spawnId : UInt32)
    (events : List RosterEvent) : Option Announcement :=
  (events.filterMap (RosterEvent.announcementFor spawnId)).getLast?

/-- One more event is the last packet, or leaves it as it was. -/
theorem lastAnnouncement_append
    (spawnId : UInt32)
    (events : List RosterEvent)
    (event : RosterEvent) :
    lastAnnouncement spawnId (events ++ [event]) =
      (event.announcementFor spawnId).or
        (lastAnnouncement spawnId events) := by
  rw [lastAnnouncement, List.filterMap_append]
  cases announces : event.announcementFor spawnId with
  | none =>
      simp [announces, lastAnnouncement]
  | some announcement =>
      simp [announces]

/-- An entry is true when its id was last announced as its owner's pet. -/
def ObservedPetEntry.TrueTo
    (events : List RosterEvent)
    (entry : ObservedPetEntry) : Prop :=
  ∃ spawn,
    lastAnnouncement entry.spawnId events = some (.spawned spawn) ∧
      spawn.ownerId = entry.ownerId

/-! ## Spawns without an owner -/

/-- The spawn an event announces, when it has no owner. -/
def RosterEvent.ownerlessSpawn
    (event : RosterEvent) : Option ParsedSpawnEntry :=
  match event.announcement with
  | some (.spawned announced) =>
      if announced.ownerId = 0 then some announced else none
  | _ => none

/-- A spawn without an owner does not take the id of an active entry. -/
def SparesActive (state : RosterState) (event : RosterEvent) : Prop :=
  ∀ spawn ∈ event.ownerlessSpawn,
    ∀ entry ∈ state.roster.entries,
      entry.spawnId = spawn.spawnId → entry.active = false

instance (state : RosterState) (event : RosterEvent) :
    Decidable (SparesActive state event) :=
  inferInstanceAs
    (Decidable
      (∀ spawn ∈ event.ownerlessSpawn,
        ∀ entry ∈ state.roster.entries,
          entry.spawnId = spawn.spawnId → entry.active = false))

/-- An event about other ids leaves an entry true. -/
theorem ObservedPetEntry.TrueTo.append
    {events : List RosterEvent}
    {entry : ObservedPetEntry}
    (isTrue : entry.TrueTo events)
    {event : RosterEvent}
    (silent : event.announcementFor entry.spawnId = none) :
    entry.TrueTo (events ++ [event]) := by
  obtain ⟨spawn, announced, sameOwner⟩ := isTrue
  refine ⟨spawn, ?_, sameOwner⟩
  rw [lastAnnouncement_append, silent, Option.none_or, announced]

/-- An announced spawn makes the entries of its owner true. -/
theorem ObservedPetEntry.TrueTo.announced
    {events : List RosterEvent}
    {entry : ObservedPetEntry}
    {event : RosterEvent}
    {spawn : ParsedSpawnEntry}
    (announces : event.announcement = some (.spawned spawn))
    (sameId : entry.spawnId = spawn.spawnId)
    (sameOwner : spawn.ownerId = entry.ownerId) :
    entry.TrueTo (events ++ [event]) := by
  refine ⟨spawn, ?_, sameOwner⟩
  rw [lastAnnouncement_append, RosterEvent.announcementFor, announces]
  simp [Announcement.spawnId, sameId]

/-! ## Runs without such spawns -/

/-- All active entries of a roster are true. -/
def Roster.TrueTo (events : List RosterEvent) (roster : Roster) : Prop :=
  ∀ entry ∈ roster.entries, entry.active = true → entry.TrueTo events

/-- An entry of another id is not announced. -/
theorem announcementFor_other
    {event : RosterEvent}
    {announcement : Announcement}
    (announces : event.announcement = some announcement)
    {spawnId : UInt32}
    (other : announcement.spawnId ≠ spawnId) :
    event.announcementFor spawnId = none := by
  simp [RosterEvent.announcementFor, announces, other]

/-- A spawn keeps the roster true, when it has an owner or a free id. -/
theorem Roster.TrueTo.spawned
    {events : List RosterEvent}
    {roster : Roster}
    (isTrue : roster.TrueTo events)
    {event : RosterEvent}
    {spawn : ParsedSpawnEntry}
    (announces : event.announcement = some (.spawned spawn))
    (spares :
      spawn.ownerId = 0 →
        ∀ entry ∈ roster.entries,
          entry.spawnId = spawn.spawnId → entry.active = false) :
    ((Announcement.spawned spawn).apply roster).TrueTo
      (events ++ [event]) := by
  have silentFor :
      ∀ entry : ObservedPetEntry,
        entry.spawnId ≠ spawn.spawnId →
          event.announcementFor entry.spawnId = none :=
    fun entry other => announcementFor_other announces (Ne.symm other)
  intro entry member active
  rw [Announcement.apply] at member
  split at member
  · rename_i ownerless
    refine (isTrue entry member active).append (silentFor entry ?_)
    intro same
    rw [spares ownerless entry member same] at active
    cases active
  · split at member
    · obtain ⟨before, beforeMember, rfl⟩ := List.mem_map.mp member
      by_cases same : before.spawnId = spawn.spawnId
      · refine .announced announces ?_ ?_
        · rw [ObservedPetEntry.spawnId_announced, same]
        · rw [ObservedPetEntry.announced, if_pos same]
      · rw [ObservedPetEntry.announced, if_neg same] at active ⊢
        exact
          (isTrue before beforeMember active).append
            (silentFor before same)
    · rename_i unknown
      rcases List.mem_append.mp member with known | isFresh
      · refine (isTrue entry known active).append (silentFor entry ?_)
        intro same
        rw [← same] at unknown
        exact unknown (List.mem_map_of_mem known)
      · rw [List.mem_singleton.mp isFresh]
        exact .announced announces rfl rfl

/-- So does a delete. -/
theorem Roster.TrueTo.deleted
    {events : List RosterEvent}
    {roster : Roster}
    (isTrue : roster.TrueTo events)
    {event : RosterEvent}
    {spawnId : UInt32}
    (announces : event.announcement = some (.deleted spawnId)) :
    ((Announcement.deleted spawnId).apply roster).TrueTo
      (events ++ [event]) := by
  intro entry member active
  obtain ⟨before, beforeMember, rfl⟩ := List.mem_map.mp member
  by_cases same : before.spawnId = spawnId
  · rw [ObservedPetEntry.deleted, if_pos same] at active
    cases active
  · rw [ObservedPetEntry.deleted, if_neg same] at active ⊢
    exact
      (isTrue before beforeMember active).append
        (announcementFor_other announces (Ne.symm same))

/-- One event keeps the roster true, when it spares the active entries. -/
theorem trueTo_rosterStep
    {events : List RosterEvent}
    {state : RosterState}
    (wellFormed : state.roster.WellFormed)
    (isTrue : state.roster.TrueTo events)
    {event : RosterEvent}
    (spares : SparesActive state event) :
    (rosterStep state event).roster.TrueTo (events ++ [event]) := by
  rw [roster_rosterStep wellFormed]
  split
  · intro entry member
    cases member
  · cases announces : event.announcement with
    | none =>
        intro entry member active
        exact
          (isTrue entry member active).append
            (by simp [RosterEvent.announcementFor, announces])
    | some announcement =>
        cases announcement with
        | spawned spawn =>
            refine isTrue.spawned announces ?_
            intro ownerless
            exact spares spawn
              (by simp [RosterEvent.ownerlessSpawn, announces, ownerless])
        | deleted spawnId =>
            exact isTrue.deleted announces

/-- So a run without spawns that take an active entry's id keeps it true. -/
theorem trueTo_rosterAfter
    {events : List RosterEvent}
    (spares : Runs.Along rosterStep SparesActive .initial events) :
    (rosterAfter events).roster.TrueTo events := by
  induction events using List.reverseRecOn with
  | nil =>
      intro entry member
      cases member
  | append_singleton earlier event inductionHypothesis =>
      obtain ⟨earlierSpares, lastSpares, _⟩ := Runs.along_append.mp spares
      rw [rosterAfter, Runs.run_append]
      exact
        trueTo_rosterStep (wellFormed_rosterAfter earlier)
          (inductionHypothesis earlierSpares) lastSpares

/-! ## Snapshots of true rosters -/

/--
Every pet in the slots was last announced by a spawn with an owner, who is the
owner that the last packet about the focused pet gave it.
-/
def ReportsTruly
    (sorter : Sorter seenBefore)
    (events : List RosterEvent) : Prop :=
  ∀ slot (inside : slot < 2),
    (getSnapshot sorter
        (ServerAuthStats.getSnapshot (rosterAfter events).auth)
        (rosterAfter events).roster).hasOtherPetSpawnId[slot] =
      true →
      ∃ spawn focusedSpawn,
        lastAnnouncement
            (getSnapshot sorter
              (ServerAuthStats.getSnapshot (rosterAfter events).auth)
              (rosterAfter events).roster).otherPetSpawnId[slot]
            events =
          some (.spawned spawn) ∧
        lastAnnouncement
            (getSnapshot sorter
              (ServerAuthStats.getSnapshot (rosterAfter events).auth)
              (rosterAfter events).roster).focusedPetId
            events =
          some (.spawned focusedSpawn) ∧
        spawn.ownerId ≠ 0 ∧ spawn.ownerId = focusedSpawn.ownerId

/-- Filling slots leaves the focused pet's id. -/
theorem focusedPetId_fillSlots
    (slot : Nat)
    (candidates : List ObservedPetEntry)
    (snapshot : Snapshot) :
    (fillSlots slot candidates snapshot).focusedPetId =
      snapshot.focusedPetId := by
  induction candidates generalizing slot snapshot with
  | nil =>
      rfl
  | cons candidate later inductionHypothesis =>
      rw [fillSlots]
      split
      · rw [inductionHypothesis]
      · rfl

/-- A snapshot carries that id along. -/
theorem focusedPetId_getSnapshot
    (sorter : Sorter seenBefore)
    (authSnapshot : ServerAuthStats.Snapshot)
    (roster : Roster) :
    (getSnapshot sorter authSnapshot roster).focusedPetId =
      authSnapshot.focusedPetId.value := by
  unfold getSnapshot
  simp only
  split
  · rfl
  · split
    · rfl
    · split
      · rfl
      · rw [focusedPetId_fillSlots]

/-- A pet in a slot is one of the focused pet's owner, and there is one. -/
theorem otherPet_of_shown
    (sorter : Sorter seenBefore)
    {authSnapshot : ServerAuthStats.Snapshot}
    {roster : Roster}
    (wellFormed : roster.WellFormed)
    {slot : Nat}
    (inside : slot < 2)
    (shown :
      (getSnapshot sorter authSnapshot roster).hasOtherPetSpawnId[slot] =
        true) :
    ∃ focused, IsFocused authSnapshot roster focused ∧
      ∃ pet ∈ otherPets focused roster,
        (getSnapshot sorter authSnapshot roster).otherPetSpawnId[slot] =
          pet.spawnId := by
  by_cases anyFocused : ∃ pet, IsFocused authSnapshot roster pet
  · obtain ⟨focused, isFocused⟩ := anyFocused
    obtain ⟨_, has, _, spawnId⟩ :=
      getSnapshot_focused sorter wellFormed isFocused slot inside
    rw [has, Option.isSome_iff_exists] at shown
    obtain ⟨pet, inSlot⟩ := shown
    refine
      ⟨focused, isFocused, pet,
        List.mem_of_mem_take (List.mem_of_getElem? inSlot), ?_⟩
    rw [spawnId, inSlot]
    rfl
  · obtain ⟨_, has, _⟩ :=
      getSnapshot_unfocused sorter (not_exists.mp anyFocused) slot inside
    rw [has] at shown
    cases shown

/-- A run without spawns that take an active entry's id reports truly. -/
theorem snapshot_truthful
    (sorter : Sorter seenBefore)
    {events : List RosterEvent}
    (spares : Runs.Along rosterStep SparesActive .initial events)
    {earlier : List RosterEvent}
    (reached : earlier <+: events) :
    ReportsTruly sorter earlier := by
  obtain ⟨later, rfl⟩ := reached
  have wellFormed := wellFormed_rosterAfter earlier
  have isTrue := trueTo_rosterAfter (Runs.along_append.mp spares).1
  intro slot inside shown
  obtain ⟨focused, isFocused, pet, isOther, isShown⟩ :=
    otherPet_of_shown sorter wellFormed inside shown
  simp only [otherPets, List.mem_filter, Bool.and_eq_true,
    decide_eq_true_eq] at isOther
  obtain ⟨member, ⟨active, _⟩, sameOwner⟩ := isOther
  obtain ⟨spawn, announced, spawnOwner⟩ := isTrue pet member active
  obtain ⟨focusedSpawn, focusedAnnounced, focusedOwner⟩ :=
    isTrue focused isFocused.member isFocused.active
  refine ⟨spawn, focusedSpawn, ?_, ?_, ?_, ?_⟩
  · rw [isShown, announced]
  · rw [focusedPetId_getSnapshot]
    exact isFocused.sameId ▸ focusedAnnounced
  · rw [spawnOwner]
    exact wellFormed.owned pet member
  · rw [spawnOwner, sameOwner, focusedOwner]

/-! ## A respawn without an owner -/

/-- The payload of a spawn packet with no properties and no last name. -/
def spawnPayload
    (name : CString)
    (short : name.bytes.length ≤ 63)
    (spawnId ownerId : UInt32) : Payload :=
  .ofBytes
    (name.bytes ++ 0 :: bytes32 spawnId ++ List.replicate 19 0 ++
      0 :: List.replicate 58 0 ++ 0 :: List.replicate 6 0 ++
      bytes32 ownerId)
    (by simp; omega)

/-- The payload that puts a pet in focus. -/
def focusPayload (petId : UInt32) : Payload :=
  .ofBytes (bytes32 1 ++ bytes32 102 ++ bytes32 petId ++ bytes32 0)
    (by simp)

/-- The pets' names in the runs below. -/
def petName : CString :=
  .ofText (ascii "Fang000")

theorem petName_short : petName.bytes.length ≤ 63 := by
  decide

/-- Candidates compare like the pair of their number and their id. -/
theorem seenBefore_transitive
    (first middle last : ObservedPetEntry)
    (notBefore : seenBefore middle first = false)
    (notBeforeMiddle : seenBefore last middle = false) :
    seenBefore last first = false := by
  simp only [seenBefore, ne_eq, ite_not] at notBefore notBeforeMiddle ⊢
  grind

/-- Insertion sort for candidates. -/
def petSorter : Sorter seenBefore :=
  .ofWeakOrder seenBefore seenBefore_asymmetric seenBefore_transitive

/-- Two pets of one owner; the second leaves and comes back. -/
def ownedRun : List RosterEvent :=
  [.spawn (spawnPayload petName petName_short 101 42),
    .spawn (spawnPayload petName petName_short 102 42),
    .deleteSpawn (.ofBytes (bytes32 102) (by decide)),
    .spawn (spawnPayload petName petName_short 102 42),
    .authStats (focusPayload 101)]

/-- That run meets the condition, and its snapshot shows the second pet. -/
theorem ownedRun_reportsTruly :
    ReportsTruly petSorter ownedRun ∧
      (getSnapshot petSorter
          (ServerAuthStats.getSnapshot (rosterAfter ownedRun).auth)
          (rosterAfter ownedRun).roster).hasOtherPetSpawnId[0]? =
        some true := by
  have spares : Runs.Along rosterStep SparesActive .initial ownedRun := by
    decide +kernel
  refine ⟨snapshot_truthful petSorter spares ?_, ?_⟩
  · exact List.prefix_refl ownedRun
  · decide +kernel

/-- The second pet's id comes back as a spawn without an owner. -/
def ownerlessRun : List RosterEvent :=
  [.spawn (spawnPayload petName petName_short 101 42),
    .spawn (spawnPayload petName petName_short 102 42),
    .spawn (spawnPayload petName petName_short 102 0),
    .authStats (focusPayload 101)]

/-- It is still shown as a pet. -/
theorem ownerlessRun_reportsFalsely :
    ¬ ReportsTruly petSorter ownerlessRun := by
  intro truthful
  have last :
      lastAnnouncement 102 ownerlessRun =
        some (.spawned ⟨102, 0, ascii "Fang000"⟩) := by
    decide +kernel
  have shown :
      (getSnapshot petSorter
          (ServerAuthStats.getSnapshot (rosterAfter ownerlessRun).auth)
          (rosterAfter ownerlessRun).roster).hasOtherPetSpawnId[0] =
        true := by
    decide +kernel
  have shownId :
      (getSnapshot petSorter
          (ServerAuthStats.getSnapshot (rosterAfter ownerlessRun).auth)
          (rosterAfter ownerlessRun).roster).otherPetSpawnId[0] =
        102 := by
    decide +kernel
  obtain ⟨spawn, _, announced, _, owned, _⟩ :=
    truthful 0 (by decide) shown
  rw [shownId, last] at announced
  cases announced
  exact owned rfl

end MonomythClient.MultiPetSpawnObserver
