import MonomythClient.MultiPetSpawnObserver
import MonomythClient.Runs

namespace MonomythClient.MultiPetSpawnObserver

open PayloadReader ServerAuthStats StandardSort

/-!
# The pet roster over whole runs

Spawn, delete and auth-stat payloads arrive in any order, with clears between
them.  The roster keeps one entry for each spawn id, numbered in the order of
first appearance, and a snapshot shows the first two other active pets of the
focused pet's owner in that order.
-/

/-! ## Runs of the roster -/

/-- What can happen to the roster, or to the focused pet's id. -/
inductive RosterEvent where
  | spawn (payload : Payload)
  | deleteSpawn (payload : Payload)
  | clear
  | authStats (payload : Payload)
  deriving DecidableEq

/-- The roster and the server-auth globals that snapshots read. -/
structure RosterState where
  roster : Roster
  auth : Globals
  deriving DecidableEq

/-- The state at the start. -/
def RosterState.initial : RosterState where
  roster := .initial
  auth := .initial

/-- One event. -/
def rosterStep (state : RosterState) : RosterEvent → RosterState
  | .spawn payload =>
      { state with roster := observeSpawnPayload payload state.roster }
  | .deleteSpawn payload =>
      { state with roster := observeDeleteSpawnPayload payload state.roster }
  | .clear =>
      { state with roster := MultiPetSpawnObserver.clear state.roster }
  | .authStats payload =>
      { state with auth := observeReceivePayload state.auth payload }

/-- The state after some events. -/
def rosterAfter (events : List RosterEvent) : RosterState :=
  Runs.run rosterStep .initial events

/-! ## One packet -/

/-- A spawn that parses has a name. -/
theorem name_ne_nil_of_parse
    {payload : Pointer}
    {payloadLength : UInt32}
    {spawn : ParsedSpawnEntry}
    (parsed : parseSingleSpawnPayload payload payloadLength = some spawn) :
    spawn.name ≠ [] := by
  unfold parseSingleSpawnPayload at parsed
  simp only [Option.bind_eq_bind, Option.bind_eq_some_iff, Prod.exists,
    Option.pure_def, Option.some.injEq] at parsed
  obtain ⟨_, _, name, cursor, _, _, named, fields⟩ := parsed
  obtain ⟨_, _, _, _, _, _, _, _, _, _, _, _, _, _, tail⟩ := fields
  obtain ⟨_, _, _, _, _, _, _, rfl⟩ := tail
  exact (Option.guard_eq_some' _).mp named

/-- An entry once a spawn with an owner is announced. -/
def ObservedPetEntry.announced
    (spawn : ParsedSpawnEntry)
    (entry : ObservedPetEntry) : ObservedPetEntry :=
  if entry.spawnId = spawn.spawnId then
    { entry with
      ownerId := spawn.ownerId
      name := spawn.name
      active := true }
  else
    entry

/-- An entry once a spawn id is deleted. -/
def ObservedPetEntry.deleted
    (spawnId : UInt32)
    (entry : ObservedPetEntry) : ObservedPetEntry :=
  if entry.spawnId = spawnId then
    { entry with active := false }
  else
    entry

/-- The entry of a spawn that is new to the roster. -/
def ParsedSpawnEntry.fresh
    (spawn : ParsedSpawnEntry)
    (order : UInt64) : ObservedPetEntry where
  spawnId := spawn.spawnId
  ownerId := spawn.ownerId
  firstSeenOrder := order
  active := true
  name := spawn.name

/-- Updating an id that no entry has changes nothing. -/
theorem map_update_absent
    {spawnId : UInt32}
    (update : ObservedPetEntry → ObservedPetEntry)
    {entries : List ObservedPetEntry}
    (absent : spawnId ∉ entries.map ObservedPetEntry.spawnId) :
    (entries.map fun entry =>
        if entry.spawnId = spawnId then update entry else entry) =
      entries := by
  have others : ∀ entry ∈ entries, entry.spawnId ≠ spawnId := by
    intro entry member same
    rw [← same] at absent
    exact absent (List.mem_map_of_mem member)
  rw [List.map_congr_left fun entry member =>
    if_neg (others entry member)]
  exact List.map_id' entries

/-- Only entries with the spawn id are updated, when ids are unique. -/
theorem updateBySpawnId_eq
    {spawnId : UInt32}
    {update : ObservedPetEntry → ObservedPetEntry}
    {entries : List ObservedPetEntry}
    (unique : (entries.map ObservedPetEntry.spawnId).Nodup) :
    updateBySpawnId spawnId update entries =
      if spawnId ∈ entries.map ObservedPetEntry.spawnId then
        some
          (entries.map fun entry =>
            if entry.spawnId = spawnId then update entry else entry)
      else
        none := by
  induction entries with
  | nil =>
      rfl
  | cons head rest inductionHypothesis =>
      obtain ⟨headAbsent, restUnique⟩ := List.nodup_cons.mp unique
      rw [updateBySpawnId, List.map_cons]
      by_cases same : head.spawnId = spawnId
      · subst spawnId
        have restKept := map_update_absent update headAbsent
        simp [restKept]
      · have inRest :
            spawnId ∈ head.spawnId :: rest.map ObservedPetEntry.spawnId ↔
              spawnId ∈ rest.map ObservedPetEntry.spawnId := by
          simp [Ne.symm same]
        simp only [if_neg same, inductionHypothesis restUnique, inRest,
          List.map_cons]
        split <;> rfl

/-! ## Announcements -/

/-- What a well-formed spawn or delete packet says. -/
inductive Announcement where
  | spawned (spawn : ParsedSpawnEntry)
  | deleted (spawnId : UInt32)
  deriving DecidableEq

/-- The spawn id of a delete packet that can be read. -/
def deletedSpawnId (payload : Payload) : Option UInt32 :=
  if payload.pointer = none ∨ payload.length < 4 then
    none
  else
    tryReadU32 payload.pointer payload.length 0

/-- What an event announces. -/
def RosterEvent.announcement : RosterEvent → Option Announcement
  | .spawn payload =>
      (parseSingleSpawnPayload payload.pointer payload.length).map .spawned
  | .deleteSpawn payload => (deletedSpawnId payload).map .deleted
  | .clear => none
  | .authStats _ => none

/-- What an announcement makes of a roster with unique ids. -/
def Announcement.apply (roster : Roster) : Announcement → Roster
  | .spawned spawn =>
      if spawn.ownerId = 0 then
        roster
      else if
          spawn.spawnId ∈ roster.entries.map ObservedPetEntry.spawnId then
        { roster with
          entries := roster.entries.map (ObservedPetEntry.announced spawn) }
      else
        { entries :=
            roster.entries ++ [spawn.fresh roster.nextFirstSeenOrder]
          nextFirstSeenOrder := roster.nextFirstSeenOrder + 1 }
  | .deleted spawnId =>
      { roster with
        entries := roster.entries.map (ObservedPetEntry.deleted spawnId) }

/-- Announced spawns have a name. -/
theorem name_ne_nil_of_announcement
    {event : RosterEvent}
    {spawn : ParsedSpawnEntry}
    (announces : event.announcement = some (.spawned spawn)) :
    spawn.name ≠ [] := by
  cases event with
  | spawn payload =>
      obtain ⟨parsedSpawn, parsed, same⟩ :=
        Option.map_eq_some_iff.mp announces
      cases same
      exact name_ne_nil_of_parse parsed
  | deleteSpawn payload =>
      obtain ⟨_, _, same⟩ := Option.map_eq_some_iff.mp announces
      cases same
  | _ =>
      cases announces

/-- `ObserveSpawnPayload` applies what the packet announces. -/
theorem observeSpawnPayload_eq
    {roster : Roster}
    (unique : (roster.entries.map ObservedPetEntry.spawnId).Nodup)
    (payload : Payload) :
    observeSpawnPayload payload roster =
      ((RosterEvent.spawn payload).announcement.map
        (Announcement.apply roster)).getD roster := by
  rw [observeSpawnPayload, RosterEvent.announcement]
  cases parsed :
      parseSingleSpawnPayload payload.pointer payload.length with
  | none =>
      rfl
  | some spawn =>
      simp only [Option.map_some, Option.getD_some, Announcement.apply,
        name_ne_nil_of_parse parsed, or_false, updateBySpawnId_eq unique]
      by_cases ownerless : spawn.ownerId = 0
      · rw [if_pos ownerless, if_pos ownerless]
      · rw [if_neg ownerless, if_neg ownerless]
        split
        · rename_i entries updated
          split at updated
          · rename_i known
            rw [if_pos known]
            cases updated
            rfl
          · cases updated
        · rename_i notUpdated
          split at notUpdated
          · cases notUpdated
          · rename_i unknown
            rw [if_neg unknown]
            rfl

/-- `ObserveDeleteSpawnPayload` does so too. -/
theorem observeDeleteSpawnPayload_eq
    {roster : Roster}
    (unique : (roster.entries.map ObservedPetEntry.spawnId).Nodup)
    (payload : Payload) :
    observeDeleteSpawnPayload payload roster =
      ((RosterEvent.deleteSpawn payload).announcement.map
        (Announcement.apply roster)).getD roster := by
  rw [observeDeleteSpawnPayload, RosterEvent.announcement,
    deletedSpawnId]
  split
  · rfl
  · cases tryReadU32 payload.pointer payload.length 0 with
    | none =>
        rfl
    | some spawnId =>
        simp only [Option.map_some, Option.getD_some, Announcement.apply,
          updateBySpawnId_eq unique]
        by_cases known :
            spawnId ∈ roster.entries.map ObservedPetEntry.spawnId
        · rw [if_pos known]
          rfl
        · have unchanged :
              roster.entries.map (ObservedPetEntry.deleted spawnId) =
                roster.entries :=
            map_update_absent _ known
          rw [if_neg known, unchanged]

/-! ## The roster's invariant -/

/-- Unique ids, numbers in order of appearance, owners and names. -/
structure Roster.WellFormed (roster : Roster) : Prop where
  unique : (roster.entries.map ObservedPetEntry.spawnId).Nodup
  numbered :
    roster.entries.map (fun entry => entry.firstSeenOrder.toNat) =
      List.range' 1 roster.entries.length
  next :
    roster.nextFirstSeenOrder.toNat = roster.entries.length + 1
  owned : ∀ entry ∈ roster.entries, entry.ownerId ≠ 0
  named : ∀ entry ∈ roster.entries, entry.name ≠ []

/-- The empty roster. -/
theorem Roster.wellFormed_initial : Roster.initial.WellFormed where
  unique := List.nodup_nil
  numbered := rfl
  next := rfl
  owned := by simp [Roster.initial]
  named := by simp [Roster.initial]

/-- There are no more entries than spawn ids. -/
theorem Roster.WellFormed.length_le
    {roster : Roster}
    (wellFormed : roster.WellFormed) :
    roster.entries.length ≤ 2 ^ 32 := by
  have distinct :
      ((roster.entries.map ObservedPetEntry.spawnId).map
        UInt32.toFin).Nodup := by
    refine List.Nodup.map ?_ wellFormed.unique
    intro left right same
    exact UInt32.toFin_inj.mp same
  simpa [UInt32.size] using distinct.length_le_card

/-- Entries appear in the order of their numbers. -/
theorem Roster.WellFormed.ordered
    {roster : Roster}
    (wellFormed : roster.WellFormed) :
    roster.entries.Pairwise fun left right =>
      left.firstSeenOrder < right.firstSeenOrder := by
  have increasing : (List.range' 1 roster.entries.length).Pairwise (· < ·) :=
    List.pairwise_lt_range'
  rw [← wellFormed.numbered, List.pairwise_map] at increasing
  exact increasing.imp UInt64.lt_iff_toNat_lt.mpr

/-- A change of owner, name or activity keeps the invariant. -/
theorem Roster.WellFormed.map
    {roster : Roster}
    (wellFormed : roster.WellFormed)
    {change : ObservedPetEntry → ObservedPetEntry}
    (keepsId : ∀ entry, (change entry).spawnId = entry.spawnId)
    (keepsOrder :
      ∀ entry, (change entry).firstSeenOrder = entry.firstSeenOrder)
    (owned : ∀ entry, entry.ownerId ≠ 0 → (change entry).ownerId ≠ 0)
    (named : ∀ entry, entry.name ≠ [] → (change entry).name ≠ []) :
    { roster with entries := roster.entries.map change }.WellFormed where
  unique := by
    simpa [Function.comp_def, keepsId] using wellFormed.unique
  numbered := by
    simpa [Function.comp_def, keepsOrder] using wellFormed.numbered
  next := by
    simpa using wellFormed.next
  owned := by
    intro entry member
    obtain ⟨before, beforeMember, rfl⟩ := List.mem_map.mp member
    exact owned before (wellFormed.owned before beforeMember)
  named := by
    intro entry member
    obtain ⟨before, beforeMember, rfl⟩ := List.mem_map.mp member
    exact named before (wellFormed.named before beforeMember)

@[simp] theorem ObservedPetEntry.spawnId_announced
    (spawn : ParsedSpawnEntry)
    (entry : ObservedPetEntry) :
    (entry.announced spawn).spawnId = entry.spawnId := by
  unfold announced
  split <;> rfl

@[simp] theorem ObservedPetEntry.firstSeenOrder_announced
    (spawn : ParsedSpawnEntry)
    (entry : ObservedPetEntry) :
    (entry.announced spawn).firstSeenOrder = entry.firstSeenOrder := by
  unfold announced
  split <;> rfl

@[simp] theorem ObservedPetEntry.spawnId_deleted
    (spawnId : UInt32)
    (entry : ObservedPetEntry) :
    (entry.deleted spawnId).spawnId = entry.spawnId := by
  unfold deleted
  split <;> rfl

@[simp] theorem ObservedPetEntry.firstSeenOrder_deleted
    (spawnId : UInt32)
    (entry : ObservedPetEntry) :
    (entry.deleted spawnId).firstSeenOrder = entry.firstSeenOrder := by
  unfold deleted
  split <;> rfl

/-- A new spawn keeps the invariant. -/
theorem Roster.WellFormed.append
    {roster : Roster}
    (wellFormed : roster.WellFormed)
    {spawn : ParsedSpawnEntry}
    (unknown :
      spawn.spawnId ∉ roster.entries.map ObservedPetEntry.spawnId)
    (owned : spawn.ownerId ≠ 0)
    (named : spawn.name ≠ []) :
    Roster.WellFormed
      { entries := roster.entries ++ [spawn.fresh roster.nextFirstSeenOrder]
        nextFirstSeenOrder := roster.nextFirstSeenOrder + 1 } where
  unique := by
    rw [List.map_append, List.map_singleton]
    refine List.nodup_append.mpr ⟨wellFormed.unique, by simp, ?_⟩
    intro known knownMember fresh isFresh same
    rw [same, List.mem_singleton.mp isFresh] at knownMember
    exact unknown knownMember
  numbered := by
    rw [List.map_append, wellFormed.numbered, List.length_append,
      List.length_singleton, List.range'_concat]
    simp [ParsedSpawnEntry.fresh, wellFormed.next, Nat.add_comm]
  next := by
    have few := wellFormed.length_le
    have noWrap :
        roster.nextFirstSeenOrder.toNat + (1 : UInt64).toNat < 2 ^ 64 := by
      rw [wellFormed.next, UInt64.toNat_one]
      omega
    rw [UInt64.toNat_add, Nat.mod_eq_of_lt noWrap, wellFormed.next]
    simp
  owned := by
    intro entry member
    rcases List.mem_append.mp member with known | isFresh
    · exact wellFormed.owned entry known
    · rw [List.mem_singleton.mp isFresh]
      exact owned
  named := by
    intro entry member
    rcases List.mem_append.mp member with known | isFresh
    · exact wellFormed.named entry known
    · rw [List.mem_singleton.mp isFresh]
      exact named

/-- An announcement keeps the invariant. -/
theorem Roster.WellFormed.apply
    {roster : Roster}
    (wellFormed : roster.WellFormed)
    {announcement : Announcement}
    (named :
      ∀ spawn, announcement = .spawned spawn → spawn.name ≠ []) :
    (announcement.apply roster).WellFormed := by
  cases announcement with
  | spawned spawn =>
      rw [Announcement.apply]
      split
      · exact wellFormed
      · rename_i owned
        split
        · refine wellFormed.map (by simp) (by simp) ?_ ?_
          · intro entry wasOwned
            unfold ObservedPetEntry.announced
            split
            · exact owned
            · exact wasOwned
          · intro entry wasNamed
            unfold ObservedPetEntry.announced
            split
            · exact named spawn rfl
            · exact wasNamed
        · rename_i unknown
          exact wellFormed.append unknown owned (named spawn rfl)
  | deleted spawnId =>
      refine wellFormed.map (by simp) (by simp) ?_ ?_
      · intro entry wasOwned
        unfold ObservedPetEntry.deleted
        split <;> exact wasOwned
      · intro entry wasNamed
        unfold ObservedPetEntry.deleted
        split <;> exact wasNamed

/-- What one event does to a well-formed roster. -/
theorem roster_rosterStep
    {state : RosterState}
    (wellFormed : state.roster.WellFormed)
    (event : RosterEvent) :
    (rosterStep state event).roster =
      if event = .clear then
        .initial
      else
        (event.announcement.map (Announcement.apply state.roster)).getD
          state.roster := by
  cases event with
  | spawn payload =>
      rw [if_neg (by simp)]
      exact observeSpawnPayload_eq wellFormed.unique payload
  | deleteSpawn payload =>
      rw [if_neg (by simp)]
      exact observeDeleteSpawnPayload_eq wellFormed.unique payload
  | clear =>
      rfl
  | authStats payload =>
      rfl

/-- One event keeps the invariant. -/
theorem wellFormed_rosterStep
    {state : RosterState}
    (wellFormed : state.roster.WellFormed)
    (event : RosterEvent) :
    (rosterStep state event).roster.WellFormed := by
  rw [roster_rosterStep wellFormed]
  split
  · exact Roster.wellFormed_initial
  · cases announces : event.announcement with
    | none =>
        exact wellFormed
    | some announcement =>
        refine wellFormed.apply ?_
        rintro spawn rfl
        exact name_ne_nil_of_announcement announces

/-- Every run keeps the invariant. -/
theorem wellFormed_rosterAfter (events : List RosterEvent) :
    (rosterAfter events).roster.WellFormed := by
  have preserved :
      ∀ (state : RosterState) event,
        state.roster.WellFormed →
          (rosterStep state event).roster.WellFormed :=
    fun _ event wellFormed => wellFormed_rosterStep wellFormed event
  have initially : RosterState.initial.roster.WellFormed :=
    Roster.wellFormed_initial
  have held := Runs.invariant preserved initially events
  exact held

/-! ## Numbers for life -/

/-- Short of a clear, an event keeps every entry under its id and number. -/
theorem kept_rosterStep
    {state : RosterState}
    (wellFormed : state.roster.WellFormed)
    {event : RosterEvent}
    (notClear : event ≠ .clear)
    {entry : ObservedPetEntry}
    (member : entry ∈ state.roster.entries) :
    ∃ kept ∈ (rosterStep state event).roster.entries,
      kept.spawnId = entry.spawnId ∧
        kept.firstSeenOrder = entry.firstSeenOrder := by
  rw [roster_rosterStep wellFormed, if_neg notClear]
  cases event.announcement with
  | none =>
      exact ⟨entry, member, rfl, rfl⟩
  | some announcement =>
      cases announcement with
      | spawned spawn =>
          simp only [Option.map_some, Option.getD_some,
            Announcement.apply]
          split
          · exact ⟨entry, member, rfl, rfl⟩
          · split
            · exact
                ⟨entry.announced spawn, List.mem_map_of_mem member,
                  by simp, by simp⟩
            · exact
                ⟨entry, List.mem_append_left _ member, rfl, rfl⟩
      | deleted spawnId =>
          exact
            ⟨entry.deleted spawnId, List.mem_map_of_mem member,
              by simp, by simp⟩

/-- So does a run without clears. -/
theorem kept_run
    {state : RosterState}
    (wellFormed : state.roster.WellFormed)
    {later : List RosterEvent}
    (noClear : .clear ∉ later)
    {entry : ObservedPetEntry}
    (member : entry ∈ state.roster.entries) :
    ∃ kept ∈ (Runs.run rosterStep state later).roster.entries,
      kept.spawnId = entry.spawnId ∧
        kept.firstSeenOrder = entry.firstSeenOrder := by
  induction later generalizing state entry with
  | nil =>
      exact ⟨entry, member, rfl, rfl⟩
  | cons event rest inductionHypothesis =>
      simp only [List.mem_cons, not_or] at noClear
      obtain ⟨next, nextMember, sameId, sameOrder⟩ :=
        kept_rosterStep wellFormed (Ne.symm noClear.1) member
      obtain ⟨kept, keptMember, keptId, keptOrder⟩ :=
        inductionHypothesis (wellFormed_rosterStep wellFormed event)
          noClear.2 nextMember
      exact
        ⟨kept, keptMember, keptId.trans sameId,
          keptOrder.trans sameOrder⟩

/-! ## Snapshots of the roster -/

/-- The slots show these pets, first to last, and nothing behind them. -/
def Snapshot.Shows
    (snapshot : Snapshot)
    (pets : List ObservedPetEntry) : Prop :=
  ∀ slot (inside : slot < 2),
    snapshot.hasOtherPetName[slot] = pets[slot]?.isSome ∧
      snapshot.hasOtherPetSpawnId[slot] = pets[slot]?.isSome ∧
      snapshot.otherPetName[slot] =
        (pets[slot]?.map fun pet => buildDisplayName pet.name).getD [] ∧
      snapshot.otherPetSpawnId[slot] =
        (pets[slot]?.map ObservedPetEntry.spawnId).getD 0

/-- The active roster entry that the server-auth stats put in focus. -/
structure IsFocused
    (authSnapshot : ServerAuthStats.Snapshot)
    (roster : Roster)
    (pet : ObservedPetEntry) : Prop where
  member : pet ∈ roster.entries
  active : pet.active = true
  announced : authSnapshot.focusedPetId.has = true
  nonzero : authSnapshot.focusedPetId.value ≠ 0
  sameId : pet.spawnId = authSnapshot.focusedPetId.value

/-- The other active pets of a pet's owner. -/
def otherPets
    (focused : ObservedPetEntry)
    (roster : Roster) : List ObservedPetEntry :=
  roster.entries.filter fun pet =>
    pet.active && decide (pet.spawnId ≠ focused.spawnId) &&
      decide (pet.ownerId = focused.ownerId)

/-- The slots take the first two candidates. -/
theorem shows_fillSlots
    (focusedPetId : UInt32)
    (candidates : List ObservedPetEntry) :
    (fillSlots 0 candidates
        { Snapshot.initial with focusedPetId := focusedPetId }).Shows
      (candidates.take 2) := by
  intro slot inside
  have isSlot : slot = 0 ∨ slot = 1 := by omega
  cases candidates with
  | nil =>
      rcases isSlot with rfl | rfl <;> exact ⟨rfl, rfl, rfl, rfl⟩
  | cons first later =>
      cases later with
      | nil =>
          rcases isSlot with rfl | rfl <;> exact ⟨rfl, rfl, rfl, rfl⟩
      | cons second rest =>
          cases rest with
          | nil =>
              rcases isSlot with rfl | rfl <;> exact ⟨rfl, rfl, rfl, rfl⟩
          | cons third others =>
              rcases isSlot with rfl | rfl <;> exact ⟨rfl, rfl, rfl, rfl⟩

/-- Lower numbers come first among candidates. -/
theorem seenBefore_of_lt
    {left right : ObservedPetEntry}
    (earlier : left.firstSeenOrder < right.firstSeenOrder) :
    seenBefore left right = true := by
  have different : left.firstSeenOrder ≠ right.firstSeenOrder := by
    intro same
    exact UInt64.lt_irrefl _ (same ▸ earlier)
  simp [seenBefore, different, earlier]

/-- No two candidates precede each other. -/
theorem seenBefore_asymmetric
    (left right : ObservedPetEntry)
    (isBefore : seenBefore left right = true) :
    seenBefore right left = false := by
  unfold seenBefore at isBefore ⊢
  by_cases same : left.firstSeenOrder = right.firstSeenOrder
  · simp only [same, ne_eq, not_true_eq_false, if_false,
      decide_eq_true_eq, decide_eq_false_iff_not,
      UInt32.not_lt] at isBefore ⊢
    exact Std.le_of_lt isBefore
  · simp only [ne_eq, same, not_false_eq_true, if_true, Ne.symm same,
      decide_eq_true_eq, decide_eq_false_iff_not,
      UInt64.not_lt] at isBefore ⊢
    exact Std.le_of_lt isBefore

/-- The other pets are in the order they were first seen. -/
theorem otherPets_ordered
    {roster : Roster}
    (wellFormed : roster.WellFormed)
    (focused : ObservedPetEntry) :
    (otherPets focused roster).Pairwise fun left right =>
      left.firstSeenOrder < right.firstSeenOrder :=
  wellFormed.ordered.filter _

/-- Without a focused pet the slots stay empty. -/
theorem getSnapshot_unfocused
    (sorter : Sorter seenBefore)
    {authSnapshot : ServerAuthStats.Snapshot}
    {roster : Roster}
    (unfocused : ∀ pet, ¬ IsFocused authSnapshot roster pet) :
    (getSnapshot sorter authSnapshot roster).Shows [] := by
  have empty :
      ({ Snapshot.initial with
          focusedPetId := authSnapshot.focusedPetId.value } :
        Snapshot).Shows [] :=
    shows_fillSlots _ []
  unfold getSnapshot
  simp only
  split
  · exact empty
  · rename_i announced
    simp only [Bool.or_eq_true, Bool.not_eq_true', decide_eq_true_eq,
      not_or, Bool.not_eq_false] at announced
    split
    · exact empty
    · rename_i found
      have selected := List.find?_some found
      simp only [Bool.and_eq_true, decide_eq_true_eq] at selected
      exact
        (unfocused _
          ⟨List.mem_of_find?_eq_some found, selected.1, announced.1,
            announced.2, selected.2⟩).elim

/-- With one they show the first two other pets of its owner. -/
theorem getSnapshot_focused
    (sorter : Sorter seenBefore)
    {authSnapshot : ServerAuthStats.Snapshot}
    {roster : Roster}
    (wellFormed : roster.WellFormed)
    {focused : ObservedPetEntry}
    (isFocused : IsFocused authSnapshot roster focused) :
    (getSnapshot sorter authSnapshot roster).Shows
      ((otherPets focused roster).take 2) := by
  have found :
      (roster.entries.find? fun entry =>
          entry.active &&
            decide (entry.spawnId = authSnapshot.focusedPetId.value)) =
        some focused := by
    have isSome :
        (roster.entries.find? fun entry =>
            entry.active &&
              decide
                (entry.spawnId =
                  authSnapshot.focusedPetId.value)).isSome =
          true := by
      rw [List.find?_isSome]
      exact
        ⟨focused, isFocused.member,
          by simp [isFocused.active, isFocused.sameId]⟩
    obtain ⟨entry, foundEntry⟩ := Option.isSome_iff_exists.mp isSome
    have selected := List.find?_some foundEntry
    simp only [Bool.and_eq_true, decide_eq_true_eq] at selected
    have same : entry = focused :=
      List.inj_on_of_nodup_map wellFormed.unique
        (List.mem_of_find?_eq_some foundEntry) isFocused.member
        (selected.2.trans isFocused.sameId.symm)
    rw [foundEntry, same]
  have candidates :
      (roster.entries.filter fun entry =>
          !(!entry.active || decide (entry.ownerId ≠ focused.ownerId) ||
            decide (entry.spawnId = authSnapshot.focusedPetId.value) ||
            entry.name.isEmpty)) =
        otherPets focused roster := by
    apply List.filter_congr
    intro entry member
    have named : entry.name.isEmpty = false :=
      List.isEmpty_eq_false_iff.mpr (wellFormed.named entry member)
    rw [isFocused.sameId, named]
    by_cases sameOwner : entry.ownerId = focused.ownerId
    · simp [sameOwner]
    · simp [sameOwner]
  have sorted :
      sorter.sort (otherPets focused roster) = otherPets focused roster :=
    sorter.sort_eq_self seenBefore_asymmetric
      ((otherPets_ordered wellFormed focused).imp seenBefore_of_lt)
  have announced :
      ¬ (!authSnapshot.focusedPetId.has ||
        decide (authSnapshot.focusedPetId.value = 0)) = true := by
    simp [isFocused.announced, isFocused.nonzero]
  unfold getSnapshot
  simp only [if_neg announced, found,
    if_neg (wellFormed.owned focused isFocused.member), candidates, sorted]
  exact shows_fillSlots _ _

/--
After any run the roster's spawn ids and numbers are unique, and entries keep
theirs until a clear.  Without a focused pet a snapshot shows no other pet;
with one it shows the first two other active pets of its owner, who is not
zero, in the order they were first seen and under different ids.
-/
theorem rosterAfter_snapshot
    (sorter : Sorter seenBefore)
    (events : List RosterEvent) :
    ((rosterAfter events).roster.entries.map
        ObservedPetEntry.spawnId).Nodup ∧
      ((rosterAfter events).roster.entries.map
        ObservedPetEntry.firstSeenOrder).Nodup ∧
      (∀ later, .clear ∉ later →
        ∀ entry ∈ (rosterAfter events).roster.entries,
          ∃ kept ∈ (rosterAfter (events ++ later)).roster.entries,
            kept.spawnId = entry.spawnId ∧
              kept.firstSeenOrder = entry.firstSeenOrder) ∧
      ((∀ pet,
          ¬ IsFocused (ServerAuthStats.getSnapshot (rosterAfter events).auth)
            (rosterAfter events).roster pet) →
        (getSnapshot sorter
          (ServerAuthStats.getSnapshot (rosterAfter events).auth)
          (rosterAfter events).roster).Shows []) ∧
      ∀ focused,
        IsFocused (ServerAuthStats.getSnapshot (rosterAfter events).auth)
            (rosterAfter events).roster focused →
          focused.ownerId ≠ 0 ∧
            (getSnapshot sorter
              (ServerAuthStats.getSnapshot (rosterAfter events).auth)
              (rosterAfter events).roster).Shows
              ((otherPets focused (rosterAfter events).roster).take 2) ∧
            ((otherPets focused
                (rosterAfter events).roster).Pairwise fun left right =>
              left.firstSeenOrder < right.firstSeenOrder) ∧
            ((otherPets focused (rosterAfter events).roster).map
              ObservedPetEntry.spawnId).Nodup := by
  have wellFormed := wellFormed_rosterAfter events
  refine ⟨wellFormed.unique, ?_, ?_, getSnapshot_unfocused sorter, ?_⟩
  · refine List.pairwise_map.mpr (wellFormed.ordered.imp ?_)
    intro left right isLess same
    exact UInt64.lt_irrefl _ (same ▸ isLess)
  · intro later noClear entry member
    rw [rosterAfter, Runs.run_append]
    exact kept_run wellFormed noClear member
  · intro focused isFocused
    refine
      ⟨wellFormed.owned focused isFocused.member,
        getSnapshot_focused sorter wellFormed isFocused,
        otherPets_ordered wellFormed focused, ?_⟩
    exact (List.filter_sublist.map _).nodup wellFormed.unique

end MonomythClient.MultiPetSpawnObserver
