import MonomythClient.MulticlassCacheRoundTrip

namespace MonomythClient.MulticlassCache

open ByteText

/-!
# Runs of stores

Two questions about runs of `StoreCharacterClassMask`.  With every system call
succeeding, does a lookup return what was last stored for its name and server?
It does for every name that is only ever stored under one server, because the
parser keeps one row per name.  With reads allowed to fail, does a store that
reports success keep the other names?  Exactly when its read delivered the old
entries, each of them can be written back, and the result stays readable.
-/

/-! ## Failure-free runs -/

/-- The file after one store with no failing system call. -/
def storeHealthy
    (sorter : EntrySorter)
    (file : Option (List UInt8))
    (call : StoreCall) :
    Option (List UInt8) :=
  (store sorter .healthy .healthy call file).1

/-- The file after a run of such stores. -/
def runStores
    (sorter : EntrySorter)
    (file : Option (List UInt8))
    (calls : List StoreCall) :
    Option (List UInt8) :=
  calls.foldl (storeHealthy sorter) file

/-- Every store of a run leaves the file within the read cap. -/
def StaysWithinCap
    (sorter : EntrySorter) :
    Option (List UInt8) → List StoreCall → Prop
  | _, [] => True
  | file, call :: later =>
      (rewrittenFile sorter (cachedEntries file) call).length ≤
          kMaxCacheFileBytes ∧
        StaysWithinCap sorter (storeHealthy sorter file call) later

/-- The file's entry for a name, if any, is for this server or for none. -/
def ServerAgrees
    (file : Option (List UInt8))
    (normalizedName normalizedServerName : List UInt8) : Prop :=
  ∀ entry, cachedEntry file normalizedName = some entry →
    entry.normalizedServerName = [] ∨
      entry.normalizedServerName = normalizedServerName

/-- A failure-free store within the cap writes the rewritten file. -/
theorem storeHealthy_eq
    (sorter : EntrySorter)
    (file : Option (List UInt8))
    (call : StoreCall)
    (withinCap :
      (rewrittenFile sorter (cachedEntries file) call).length ≤
        kMaxCacheFileBytes) :
    storeHealthy sorter file call =
      some (rewrittenFile sorter (cachedEntries file) call) := by
  have written :
      writeCacheEntries sorter .healthy
          (updateEntry (cachedEntries file) call.entry) =
        some (rewrittenFile sorter (cachedEntries file) call) := by
    have addressable :
        (rewrittenFile sorter (cachedEntries file) call).length <
          2 ^ 32 :=
      Nat.lt_of_le_of_lt withinCap (by decide)
    simp only [writeCacheEntries, WriteConditions.healthy, true_and]
    exact if_pos addressable
  have wholeRead :
      (readCacheEntries .healthy file).getD [] = cachedEntries file :=
    rfl
  rw [storeHealthy, store_eq, wholeRead, written]

/-- One store of another name keeps the entry a name finds, if retained. -/
theorem cachedEntry_storeHealthy_other
    (sorter : EntrySorter)
    {file : Option (List UInt8)}
    {call : StoreCall}
    (withinCap :
      (rewrittenFile sorter (cachedEntries file) call).length ≤
        kMaxCacheFileBytes)
    {wanted : List UInt8}
    (other : wanted ≠ call.normalizedName) :
    cachedEntry (storeHealthy sorter file call) wanted =
      (cachedEntry file wanted).filter fun entry => Retained entry := by
  obtain ⟨unique, safe⟩ := cachedEntries_sound file
  rw [storeHealthy_eq sorter file call withinCap,
    cachedEntry_rewritten_other sorter unique safe call withinCap other]
  rfl

/-- Stores of other names keep the retained entry a name finds. -/
theorem cachedEntry_runStores_other
    (sorter : EntrySorter)
    {file : Option (List UInt8)}
    {calls : List StoreCall}
    (withinCap : StaysWithinCap sorter file calls)
    {wanted : List UInt8}
    (others : ∀ call ∈ calls, wanted ≠ call.normalizedName)
    {entry : CacheEntry}
    (retained : Retained entry)
    (found : cachedEntry file wanted = some entry) :
    cachedEntry (runStores sorter file calls) wanted = some entry := by
  induction calls generalizing file with
  | nil =>
      exact found
  | cons call later inductionHypothesis =>
      obtain ⟨callWithinCap, laterWithinCap⟩ := withinCap
      apply inductionHypothesis laterWithinCap
        fun next member => others next (by simp [member])
      rw [cachedEntry_storeHealthy_other sorter callWithinCap
        (others call (by simp)), found]
      simp [Option.filter, retained]

/-- One store of a name under its server, or of another name, keeps agreement. -/
theorem serverAgrees_storeHealthy
    (sorter : EntrySorter)
    {file : Option (List UInt8)}
    {call : StoreCall}
    (withinCap :
      (rewrittenFile sorter (cachedEntries file) call).length ≤
        kMaxCacheFileBytes)
    {name server : List UInt8}
    (sameServer :
      call.normalizedName = name → call.normalizedServerName = server)
    (agrees : ServerAgrees file name server) :
    ServerAgrees (storeHealthy sorter file call) name server := by
  intro entry found
  by_cases own : name = call.normalizedName
  · subst own
    rw [storeHealthy_eq sorter file call withinCap,
      cachedEntry_rewritten_self sorter file call withinCap
      (by rw [sameServer rfl]; exact agrees)] at found
    cases found
    exact .inr (sameServer rfl)
  · rw [cachedEntry_storeHealthy_other sorter withinCap own] at found
    exact agrees entry (Option.filter_eq_some_iff.mp found).1

/-- The pair a store is addressed to: folded name and folded server. -/
def StoreCall.key (call : StoreCall) : List UInt8 × List UInt8 :=
  (call.normalizedName, call.normalizedServerName)

/--
A name is used with one server: no store of the run names it under another
server, and the initial file holds it under this server, under none, or not at
all.
-/
def OneServer
    (file : Option (List UInt8))
    (calls : List StoreCall)
    (call : StoreCall) : Prop :=
  (∀ other ∈ calls,
      other.normalizedName = call.normalizedName →
        other.normalizedServerName = call.normalizedServerName) ∧
    ServerAgrees file call.normalizedName call.normalizedServerName

/-- Every lookup addressed to a call's pair returns the call's mask. -/
def Retrieves
    (file : Option (List UInt8))
    (call : StoreCall) : Prop :=
  ∀ name server : CString,
    (normalizeName name.bytes, normalizeName server.bytes) = call.key →
    tryLookupCharacterClassMask .healthy file (some name)
        call.nativeClassId (some server) =
      some call.classesBitmask

/-- A file whose entry for a name is the stored row answers its lookups. -/
theorem retrieves_of_cachedEntry
    {file : Option (List UInt8)}
    {call : StoreCall}
    (found :
      cachedEntry file call.normalizedName = some call.entry) :
    Retrieves file call := by
  intro name server samePair
  obtain ⟨sameName, sameServer⟩ := Prod.mk.inj samePair
  have nameNonempty : name.bytes ≠ [] := by
    intro isEmpty
    apply call.normalizedName_ne_nil
    rw [← sameName, isEmpty]
    rfl
  rw [tryLookup_healthy, if_neg nameNonempty, sameName, found,
    Option.bind_some, matchEntry, normalizeServerName, sameServer,
    if_neg, if_neg]
  · rfl
  · rintro ⟨_, _, differs⟩
    exact differs call.nativeClassId_stored
  · rintro ⟨_, noServer | differs⟩
    · exact call.normalizedServerName_ne_nil noServer
    · exact differs rfl

/-- Agreement holds along a run that uses the name with one server. -/
theorem serverAgrees_runStores
    (sorter : EntrySorter)
    {file : Option (List UInt8)}
    {calls : List StoreCall}
    (withinCap : StaysWithinCap sorter file calls)
    {name server : List UInt8}
    (sameServer :
      ∀ call ∈ calls,
        call.normalizedName = name → call.normalizedServerName = server)
    (agrees : ServerAgrees file name server) :
    ServerAgrees (runStores sorter file calls) name server := by
  induction calls generalizing file with
  | nil =>
      exact agrees
  | cons call later inductionHypothesis =>
      obtain ⟨callWithinCap, laterWithinCap⟩ := withinCap
      exact inductionHypothesis laterWithinCap
        (fun next member => sameServer next (by simp [member]))
        (serverAgrees_storeHealthy sorter callWithinCap
          (sameServer call (by simp)) agrees)

/-- The suffix of a run that stays within the cap does so too. -/
theorem staysWithinCap_append
    (sorter : EntrySorter)
    {file : Option (List UInt8)}
    {before after : List StoreCall}
    (withinCap : StaysWithinCap sorter file (before ++ after)) :
    StaysWithinCap sorter file before ∧
      StaysWithinCap sorter (runStores sorter file before) after := by
  induction before generalizing file with
  | nil =>
      exact ⟨trivial, withinCap⟩
  | cons call later inductionHypothesis =>
      obtain ⟨callWithinCap, laterWithinCap⟩ := withinCap
      obtain ⟨beforeOk, afterOk⟩ := inductionHypothesis laterWithinCap
      exact ⟨⟨callWithinCap, beforeOk⟩, afterOk⟩

/--
In every failure-free run, the last store made for a pair is what lookups of
the pair return, provided its name is used with one server.
-/
theorem lookup_returns_last_store
    (sorter : EntrySorter)
    (file : Option (List UInt8))
    (before after : List StoreCall)
    (call : StoreCall)
    (withinCap : StaysWithinCap sorter file (before ++ call :: after))
    (last : ∀ later ∈ after, later.key ≠ call.key)
    (oneServer : OneServer file (before ++ call :: after) call) :
    Retrieves (runStores sorter file (before ++ call :: after)) call := by
  obtain ⟨beforeWithinCap, restWithinCap⟩ :=
    staysWithinCap_append sorter withinCap
  obtain ⟨callWithinCap, afterWithinCap⟩ := restWithinCap
  obtain ⟨sameServer, initiallyAgrees⟩ := oneServer
  have agrees :
      ServerAgrees (runStores sorter file before)
        call.normalizedName call.normalizedServerName :=
    serverAgrees_runStores sorter beforeWithinCap
      (fun other member => sameServer other (by simp [member]))
      initiallyAgrees
  have storedNow :
      cachedEntry
          (storeHealthy sorter (runStores sorter file before) call)
          call.normalizedName =
        some call.entry := by
    rw [storeHealthy_eq sorter _ call callWithinCap]
    exact cachedEntry_rewritten_self sorter _ call callWithinCap agrees
  have laterOthers :
      ∀ later ∈ after, call.normalizedName ≠ later.normalizedName := by
    intro later member sameName
    exact last later member
      (Prod.ext sameName.symm
        (sameServer later (by simp [member]) sameName.symm))
  rw [runStores, List.foldl_append, List.foldl_cons]
  exact retrieves_of_cachedEntry
    (cachedEntry_runStores_other sorter afterWithinCap laterOthers
      call.retained_entry storedNow)

/-- One character on one server, used by the concrete runs below. -/
def exampleCall
    (name server : CString)
    (classesBitmask : UInt32)
    (nameOk :
      name.bytes ≠ [] ∧ separator ∉ name.bytes ∧
        lineFeed ∉ name.bytes ∧ carriageReturn ∉ name.bytes)
    (serverOk :
      server.bytes ≠ [] ∧ lineFeed ∉ server.bytes ∧
        carriageReturn ∉ server.bytes) :
    StoreCall where
  name := name
  nameNonempty := nameOk.1
  nameOneField := nameOk.2.1
  nameOneLine := nameOk.2.2
  classesBitmask := classesBitmask
  nativeClassId := 1
  nativeClassInRange := by decide
  server := server
  serverNonempty := serverOk.1
  serverOneLine := serverOk.2

def abeOnAlpha : StoreCall :=
  exampleCall ⟨ascii "Abe", by decide⟩ ⟨ascii "Alpha", by decide⟩ 3
    (by decide) (by decide)

def abeOnBeta : StoreCall :=
  exampleCall ⟨ascii "ABE", by decide⟩ ⟨ascii "Beta", by decide⟩ 5
    (by decide) (by decide)

def zoeOnBeta : StoreCall :=
  exampleCall ⟨ascii "zoe", by decide⟩ ⟨ascii "Beta", by decide⟩ 9
    (by decide) (by decide)

/-- A store, then a store of another name: the first is still found. -/
theorem lookup_returns_last_store_witness :
    Retrieves
      (runStores (StandardSort.insertion CacheEntry.normalizedName) none
        [abeOnAlpha, zoeOnBeta])
      abeOnAlpha :=
  lookup_returns_last_store
    (StandardSort.insertion CacheEntry.normalizedName) none
    [] [zoeOnBeta] abeOnAlpha
    ⟨by decide +kernel, by decide +kernel, trivial⟩
    (by decide)
    ⟨by decide, fun entry found => by cases found⟩

/--
The same name stored on a second server: the first pair's last store is not
what its lookup returns, though every call succeeded within the cap.
-/
theorem second_server_hides_first :
    StaysWithinCap (StandardSort.insertion CacheEntry.normalizedName) none
        [abeOnAlpha, abeOnBeta] ∧
      abeOnBeta.key ≠ abeOnAlpha.key ∧
      ¬ Retrieves
        (runStores (StandardSort.insertion CacheEntry.normalizedName) none
          [abeOnAlpha, abeOnBeta])
        abeOnAlpha := by
  refine
    ⟨⟨by decide +kernel, by decide +kernel, trivial⟩, by decide, ?_⟩
  intro retrieves
  have found :=
    retrieves abeOnAlpha.name abeOnAlpha.server rfl
  exact absurd found (by decide +kernel)

/-! ## Runs with failing system calls -/

/-- One store and the outcome of the system calls it makes. -/
structure StoreStep where
  call : StoreCall
  readConditions : ReadConditions
  writeConditions : WriteConditions
  deriving DecidableEq

/-- The file after one step, and whether the store returned true. -/
def storeStep
    (sorter : EntrySorter)
    (file : Option (List UInt8))
    (step : StoreStep) :
    Option (List UInt8) × Bool :=
  store sorter step.readConditions step.writeConditions step.call file

/-- The file after a run of steps. -/
def runSteps
    (sorter : EntrySorter)
    (file : Option (List UInt8))
    (steps : List StoreStep) :
    Option (List UInt8) :=
  steps.foldl (fun current step => (storeStep sorter current step).1) file

/--
The store loses nothing: the file holds no other name, or the read succeeds,
every other entry has a class id and a server, and the rewritten entries fit
in the read cap.
-/
def StoreIsSafe
    (file : Option (List UInt8))
    (step : StoreStep) : Prop :=
  (∀ entry ∈ cachedEntries file,
      entry.normalizedName = step.call.normalizedName) ∨
    (step.readConditions = .healthy ∧
      (∀ entry ∈ cachedEntries file,
        entry.normalizedName ≠ step.call.normalizedName →
          Retained entry) ∧
      rewrittenSize (cachedEntries file) step.call ≤ kMaxCacheFileBytes)

/-- A cached entry is the one its name finds, and a lookup can ask for it. -/
theorem retrievable_of_mem
    {file : Option (List UInt8)}
    {entry : CacheEntry}
    (member : entry ∈ cachedEntries file) :
    cachedEntry file entry.normalizedName = some entry ∧
      ∃ name : CString,
        normalizeName name.bytes = entry.normalizedName ∧
          tryLookupCharacterClassMask .healthy file (some name) 0 none =
            some entry.classesBitmask := by
  obtain ⟨unique, safe⟩ := cachedEntries_sound file
  have found : cachedEntry file entry.normalizedName = some entry :=
    KeyedList.lookup_of_mem unique member
  have entrySafe := safe entry member
  have sameName :
      normalizeName (CString.folded entry.name).bytes =
        entry.normalizedName := by
    rw [entrySafe.nameNormalized]
    exact foldCase_foldCase entry.name
  have nonempty : (CString.folded entry.name).bytes ≠ [] := by
    have visible := entrySafe.nameVisible
    rw [entrySafe.nameNormalized] at visible
    exact visible
  refine ⟨found, CString.folded entry.name, sameName, ?_⟩
  rw [tryLookup_healthy, if_neg nonempty, sameName, found]
  simp [matchEntry, normalizeServerName]

/-- Keeping every other lookup leaves every other name an entry. -/
theorem KeepsOthers.cachedEntry
    {before after : Option (List UInt8)}
    {call : StoreCall}
    (keeps : KeepsOthers before after call)
    {entry : CacheEntry}
    (member : entry ∈ cachedEntries before)
    (other : entry.normalizedName ≠ call.normalizedName) :
    ∃ kept, cachedEntry after entry.normalizedName = some kept := by
  obtain ⟨_, name, sameName, found⟩ := retrievable_of_mem member
  have stillFound :=
    keeps name 0 none entry.classesBitmask
      (by rw [sameName]; exact other) found
  rw [tryLookup_healthy] at stillFound
  split at stillFound
  · contradiction
  obtain ⟨kept, keptFound, _⟩ := Option.bind_eq_some_iff.mp stillFound
  rw [sameName] at keptFound
  exact ⟨kept, keptFound⟩

/-- A rewritten file that keeps some other name is within the cap. -/
theorem KeepsOthers.withinCap
    {sorter : EntrySorter}
    {file : Option (List UInt8)}
    {entries : List CacheEntry}
    {call : StoreCall}
    (keeps :
      KeepsOthers file (some (rewrittenFile sorter entries call)) call)
    (addressable : (rewrittenFile sorter entries call).length < 2 ^ 32)
    {entry : CacheEntry}
    (member : entry ∈ cachedEntries file)
    (other : entry.normalizedName ≠ call.normalizedName) :
    (rewrittenFile sorter entries call).length ≤ kMaxCacheFileBytes := by
  by_contra aboveCap
  obtain ⟨kept, found⟩ := keeps.cachedEntry member other
  rw [MulticlassCache.cachedEntry,
    cachedEntries_of_oversized (Nat.lt_of_not_le aboveCap) addressable]
    at found
  cases found

/-- A store that keeps some other name has read the file. -/
theorem KeepsOthers.healthy
    {sorter : EntrySorter}
    {conditions : ReadConditions}
    {file : Option (List UInt8)}
    {call : StoreCall}
    (keeps :
      KeepsOthers file
        (some
          (rewrittenFile sorter
            ((readCacheEntries conditions file).getD []) call))
        call)
    (withinCap :
      (rewrittenFile sorter
        ((readCacheEntries conditions file).getD []) call).length ≤
          kMaxCacheFileBytes)
    {entry : CacheEntry}
    (member : entry ∈ cachedEntries file)
    (other : entry.normalizedName ≠ call.normalizedName) :
    conditions = .healthy := by
  by_contra unhealthy
  rw [readCacheEntries_of_not_healthy unhealthy file] at keeps withinCap
  obtain ⟨kept, found⟩ := keeps.cachedEntry member other
  rw [cachedEntry_rewritten_other sorter KeyedList.unique_nil (by simp) call
    withinCap other] at found
  cases found

/-- A kept entry is one that can be written back. -/
theorem KeepsOthers.retained
    {sorter : EntrySorter}
    {file : Option (List UInt8)}
    {call : StoreCall}
    (keeps :
      KeepsOthers file
        (some (rewrittenFile sorter (cachedEntries file) call)) call)
    (withinCap :
      (rewrittenFile sorter (cachedEntries file) call).length ≤
        kMaxCacheFileBytes)
    {entry : CacheEntry}
    (member : entry ∈ cachedEntries file)
    (other : entry.normalizedName ≠ call.normalizedName) :
    Retained entry := by
  obtain ⟨unique, safe⟩ := cachedEntries_sound file
  obtain ⟨kept, found⟩ := keeps.cachedEntry member other
  rw [cachedEntry_rewritten_other sorter unique safe call withinCap other]
    at found
  obtain ⟨stored, keptRetained⟩ := Option.filter_eq_some_iff.mp found
  have same : some kept = some entry :=
    stored.symm.trans (retrievable_of_mem member).1
  rw [← Option.some.inj same]
  simpa using keptRetained

/-- A successful store keeps the other names exactly when it is safe. -/
theorem keepsOthers_iff
    {sorter : EntrySorter}
    {file : Option (List UInt8)}
    {step : StoreStep}
    (succeeded : (storeStep sorter file step).2 = true) :
    KeepsOthers file (storeStep sorter file step).1 step.call ↔
      StoreIsSafe file step := by
  obtain ⟨written, addressable⟩ := store_succeeded succeeded
  change (storeStep sorter file step).1 = _ at written
  rw [written]
  constructor
  · intro keeps
    by_cases onlyOwn :
        ∀ entry ∈ cachedEntries file,
          entry.normalizedName = step.call.normalizedName
    · exact .inl onlyOwn
    · -- Some other name was cached, so its entry must have been rewritten.
      push Not at onlyOwn
      obtain ⟨witness, witnessMember, witnessOther⟩ := onlyOwn
      have withinCap := keeps.withinCap addressable witnessMember witnessOther
      have healthy := keeps.healthy withinCap witnessMember witnessOther
      have wholeRead :
          (readCacheEntries step.readConditions file).getD [] =
            cachedEntries file := by
        rw [healthy]
        rfl
      rw [wholeRead] at keeps withinCap
      exact .inr
        ⟨healthy, fun _ member other => keeps.retained withinCap member other,
          length_rewrittenFile sorter _ step.call ▸ withinCap⟩
  · rintro (onlyOwn | ⟨healthy, retained, withinCap⟩)
    · apply keepsOthers_of_entries
      intro wanted other entry found
      obtain ⟨member, sameName⟩ := KeyedList.mem_of_lookup found
      exact (other (sameName.symm.trans (onlyOwn entry member))).elim
    · rw [healthy]
      exact keepsOthers_of_retained sorter file step.call
        ((length_rewrittenFile sorter _ step.call).symm ▸ withinCap)
        retained

/-- Every step of a run that reports success has a property. -/
def OnSuccessfulSteps
    (sorter : EntrySorter)
    (file : Option (List UInt8))
    (steps : List StoreStep)
    (holds : Option (List UInt8) → StoreStep → Prop) : Prop :=
  ∀ before step after, steps = before ++ step :: after →
    (storeStep sorter (runSteps sorter file before) step).2 = true →
    holds (runSteps sorter file before) step

/--
Over every run, no successful store loses another name's entry, exactly when
every successful store of the run is safe.
-/
theorem run_keepsOthers_iff
    (sorter : EntrySorter)
    (file : Option (List UInt8))
    (steps : List StoreStep) :
    (OnSuccessfulSteps sorter file steps fun current step =>
        KeepsOthers current (storeStep sorter current step).1
          step.call) ↔
      OnSuccessfulSteps sorter file steps StoreIsSafe := by
  constructor
  · intro keeps before step after shape succeeded
    exact (keepsOthers_iff succeeded).mp
      (keeps before step after shape succeeded)
  · intro safe before step after shape succeeded
    exact (keepsOthers_iff succeeded).mpr
      (safe before step after shape succeeded)

/--
One transient read failure: the store of a second name reports success and the
first name is no longer found.
-/
theorem failed_read_loses_entry :
    ¬ OnSuccessfulSteps
        (StandardSort.insertion CacheEntry.normalizedName) none
        [⟨abeOnAlpha, .healthy, .healthy⟩,
          ⟨zoeOnBeta, { ReadConditions.healthy with fileOpened := false },
            .healthy⟩]
        fun current step =>
          KeepsOthers current
            (storeStep
              (StandardSort.insertion CacheEntry.normalizedName)
              current step).1
            step.call := by
  intro keeps
  have kept :=
    keeps [⟨abeOnAlpha, .healthy, .healthy⟩] _ [] rfl
      (by decide +kernel) abeOnAlpha.name 1 (some abeOnAlpha.server) 3
      (by decide) (by decide +kernel)
  exact absurd kept (by decide +kernel)

end MonomythClient.MulticlassCache
