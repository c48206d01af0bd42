import MonomythClient.DinputProxy
import MonomythClient.DispatcherShape
import MonomythClient.Runs

namespace MonomythClient.DinputProxy

open Gates ReceiveDispatchDiscovery RuntimeCapabilities Runs

/-!
# Runs of the proxy

Exports are called in any order, by hosts that may change, and the module may
be detached in between.  What the first call found is published, and stays: the
manifest, the result of the initialization, and the real exports.  A capability
is in the manifest exactly when that host had everything it takes.
-/

/-! ## What is published -/

/-- What an initialization leaves to the exports and to the hooks. -/
structure Published where
  initResult : UInt32
  proxyReady : Bool
  capabilities : Manifest
  exports : Export → UInt32

/-- What a state publishes. -/
def State.published (state : State) : Option Published :=
  if state.initialized then
    some
      { initResult := state.initResult
        proxyReady := state.proxyReady
        capabilities := state.capabilities
        exports := state.exports }
  else
    none

/-- What a host gets published in a fresh process. -/
def Host.published (host : Host) : Published where
  initResult := (initializeOnce host {}).initResult
  proxyReady := (initializeOnce host {}).proxyReady
  capabilities := (initializeOnce host {}).capabilities
  exports := (initializeOnce host {}).exports

/-- The host of an event that calls an export. -/
def Event.host : Event → Option Host
  | .call _ host => some host
  | .detach _ => none

/-- The host of the first call. -/
def firstHost (events : List Event) : Option Host :=
  events.findSome? Event.host

/-- Before the first call only the discoveries' results can have changed. -/
def IsFresh (state : State) : Prop :=
  state.initialized = true ∨
    ∃ receiveDispatch spellUsability classDisplay,
      state =
        { receiveDispatch := receiveDispatch
          spellUsability := spellUsability
          classDisplay := classDisplay }

/-- An initialization overwrites the results of the discoveries. -/
theorem initializeOnce_fresh
    (host : Host)
    (receiveDispatch : ReceiveDispatchDiscovery.Result)
    (spellUsability : SpellUsabilityDiscovery.Result)
    (classDisplay : ClassDisplayDiscovery.Result) :
    initializeOnce host
        { receiveDispatch := receiveDispatch
          spellUsability := spellUsability
          classDisplay := classDisplay } =
      initializeOnce host {} := by
  unfold initializeOnce
  cases buildSystemDinputPath host with
  | none =>
      rfl
  | some systemPath =>
      dsimp only
      split
      · rfl
      · split
        · rfl
        · rfl

/-- A shutdown keeps what is published. -/
theorem shutdown_published (state : State) :
    (shutdown state).published = state.published :=
  rfl

/-- Freshness is kept. -/
theorem step_isFresh
    (state : State)
    (event : Event)
    (fresh : IsFresh state) :
    IsFresh (step state event) := by
  cases event with
  | call name host =>
      left
      unfold step ensureInitialized
      dsimp only
      split
      · assumption
      · rfl
  | detach processEnds =>
      cases processEnds with
      | true =>
          exact fresh
      | false =>
          cases fresh with
          | inl initialized =>
              exact .inl initialized
          | inr isInitial =>
              obtain ⟨receiveDispatch, spellUsability, classDisplay, rfl⟩ :=
                isInitial
              exact .inr ⟨_, _, _, rfl⟩

/-- Only the first call publishes. -/
theorem step_published
    (state : State)
    (event : Event)
    (fresh : IsFresh state) :
    (step state event).published =
      state.published.or (event.host.map Host.published) := by
  cases event with
  | detach processEnds =>
      have same : (step state (.detach processEnds)).published =
          state.published := by
        cases processEnds with
        | true =>
            rfl
        | false =>
            exact shutdown_published state
      rw [same]
      exact Option.or_none.symm
  | call name host =>
      unfold step ensureInitialized
      dsimp only
      by_cases initialized : state.initialized = true
      · rw [if_pos initialized]
        unfold State.published
        rw [if_pos initialized]
        rfl
      · rw [if_neg initialized]
        obtain ⟨receiveDispatch, spellUsability, classDisplay, rfl⟩ :=
          fresh.resolve_left initialized
        rw [initializeOnce_fresh]
        rfl

/-- After any events, what is published is what the first host gets. -/
theorem run_published (events : List Event) :
    (run step {} events).published =
      (firstHost events).map Host.published := by
  have fresh : IsFresh {} := .inr ⟨_, _, _, rfl⟩
  unfold firstHost
  rw [latched step_isFresh step_published fresh]
  have nothing : State.published {} = none := rfl
  rw [nothing, Option.none_or, List.map_findSome?]
  rfl

/-! ## What a host has -/

/-- The real library loads, and has the exports that are required. -/
def Ready (host : Host) : Prop :=
  ∃ systemPath,
    buildSystemDinputPath host = some systemPath ∧
      host.loadLibrary systemPath ≠ 0 ∧
        ∀ name ∈ requiredExports, host.procAddress name ≠ 0

/-- What an initialization that does not succeed results in. -/
def initError (host : Host) : UInt32 :=
  match buildSystemDinputPath host with
  | none => hresultFromWin32 ERROR_PATH_NOT_FOUND
  | some systemPath =>
      if host.loadLibrary systemPath = 0 then
        hresultFromWin32 host.lastError
      else
        hresultFromWin32 ERROR_PROC_NOT_FOUND

/-- The executable is the client that the proxy knows. -/
def IsRof2 (host : Host) : Prop :=
  ∀ gate ∈ Fingerprint.rof2Gates host.towlower host.executable,
    gate.holds = true

/-- What the proxy may be allowed to do. -/
inductive Capability where
  | packetHooks
  | spellUsability
  | itemUsability
  | skillVisibility
  | uiDisplay
  deriving Repr, DecidableEq

/-- The manifest's word on a capability. -/
def allows (manifest : Manifest) : Capability → Bool
  | .packetHooks => manifest.packetHooksAllowed
  | .spellUsability => manifest.multiclassSpellUsabilityAllowed
  | .itemUsability => manifest.multiclassItemUsabilityAllowed
  | .skillVisibility => manifest.multiclassSkillVisibilityAllowed
  | .uiDisplay => manifest.multiclassUiDisplayAllowed

/-- Every gate of a target of the spell usability discovery holds. -/
def HasSpellTarget
    (host : Host)
    (target : SpellUsabilityDiscovery.Target) : Prop :=
  ∀ gate ∈ SpellUsabilityDiscovery.imageGates host.spellHost target,
    gate.holds = true

/-- Every gate of a target of the class display discovery holds. -/
def HasClassTarget
    (host : Host)
    (target : ClassDisplayDiscovery.Target) : Prop :=
  ∀ gate ∈ ClassDisplayDiscovery.targetGates true true host.module
      host.bytes target,
    gate.holds = true

/-- What a capability takes besides. -/
def Requires (host : Host) : Capability → Prop
  | .packetHooks => host.module ≠ 0 ∧ HasDispatcher host.bytes
  | .spellUsability => HasSpellTarget host .getSpellLevelNeeded
  | .itemUsability =>
      HasSpellTarget host .isClassUsablePredicate ∧
        HasSpellTarget host .canEquip
  | .skillVisibility => True
  | .uiDisplay =>
      HasClassTarget host .whoClassName ∧
        HasClassTarget host .getClassDesc ∧
          HasClassTarget host .getClassThreeLetterCode

/-! ## The manifest -/

/-- A validated target is safe, so that its gates are all it takes. -/
theorem isTraceSafe_iff (host : Host) (target : SpellUsabilityDiscovery.Target) :
    isTraceSafe
        ((SpellUsabilityDiscovery.run true true host.spellHost).targets
          target) =
        true ↔
      HasSpellTarget host target := by
  have decided :=
    SpellUsabilityDiscovery.run_allowed_decided true host.spellHost target
  unfold HasSpellTarget
  rw [← decided.accepted_iff]
  have isSafe := decided.safe
  unfold SpellUsabilityDiscovery.TargetResult.verdict at isSafe ⊢
  dsimp only at isSafe ⊢
  unfold isTraceSafe
  rw [isSafe, Bool.and_self]

theorem isHookSafe_iff (host : Host) (target : ClassDisplayDiscovery.Target) :
    isHookSafe
        ((ClassDisplayDiscovery.run true true host.module
          host.bytes).targets target) =
        true ↔
      HasClassTarget host target := by
  have decided :=
    ClassDisplayDiscovery.run_decided true true host.module host.bytes target
  unfold HasClassTarget
  rw [← decided.accepted_iff]
  have isSafe := decided.safe
  unfold ClassDisplayDiscovery.TargetResult.verdict at isSafe ⊢
  dsimp only at isSafe ⊢
  unfold isHookSafe
  rw [isSafe, Bool.and_self]

/-- The dispatcher is validated where it is. -/
theorem receiveDispatch_validated_iff
    (result : ReceiveDispatchDiscovery.Result)
    (host : Host) :
    (ReceiveDispatchDiscovery.step result
          (.run true host.module host.bytes)).validated =
        true ↔
      host.module ≠ 0 ∧ HasDispatcher host.bytes := by
  rcases step_run_refused_or_points result true host.module host.bytes with
    ⟨has, points⟩ | ⟨hasNot, refused⟩
  · exact iff_of_true points.validated has.2
  · refine iff_of_false ?_ fun has => hasNot ⟨rfl, has⟩
    rw [refused.1]
    exact Bool.false_ne_true

/-- A manifest that allows no hooks is published without capabilities. -/
theorem published_denied
    (host : Host)
    (state : State)
    (noHooks :
      state.capabilities.hooksAllowed = false ∧
        state.capabilities.spellUsabilityDiscoveryAllowed = false ∧
          state.capabilities.classDisplayDiscoveryAllowed = false ∧
            state.capabilities.multiclassSkillVisibilityAllowed = false)
    (capability : Capability) :
    allows (publishCapabilitiesWithDiscovery host state).capabilities
        capability =
      false := by
  obtain ⟨hooks, spells, classes, skills⟩ := noHooks
  cases capability with
  | packetHooks =>
      simp [allows, publishCapabilitiesWithDiscovery,
        applyClassDisplayDiscovery, applySpellUsabilityDiscovery,
        applyReceiveDispatchDiscovery, hooks]
  | spellUsability | itemUsability =>
      simp [allows, publishCapabilitiesWithDiscovery,
        applyClassDisplayDiscovery, applySpellUsabilityDiscovery,
        applyReceiveDispatchDiscovery, SpellUsabilityDiscovery.step,
        SpellUsabilityDiscovery.run, spells]
  | skillVisibility =>
      exact skills
  | uiDisplay =>
      simp [allows, publishCapabilitiesWithDiscovery,
        applyClassDisplayDiscovery, applySpellUsabilityDiscovery,
        applyReceiveDispatchDiscovery, ClassDisplayDiscovery.run, classes]

/-- One that allows all is published with what the discoveries find. -/
theorem published_allowed
    (host : Host)
    (state : State)
    (hooks :
      state.capabilities.proxyReady = true ∧
        state.capabilities.hooksAllowed = true ∧
          state.capabilities.fingerprintMatched = true)
    (discoveries :
      state.capabilities.spellUsabilityDiscoveryAllowed = true ∧
        state.capabilities.classDisplayDiscoveryAllowed = true ∧
          state.capabilities.multiclassSkillVisibilityAllowed = true)
    (capability : Capability) :
    allows (publishCapabilitiesWithDiscovery host state).capabilities
          capability =
        true ↔
      Requires host capability := by
  obtain ⟨ready, hooksAllowed, isMatch⟩ := hooks
  obtain ⟨spells, classes, skills⟩ := discoveries
  have spellsRun :
      (SpellUsabilityDiscovery.run true true host.spellHost).allowed =
        true := by
    unfold SpellUsabilityDiscovery.run
    simp only [Bool.not_true, Bool.false_eq_true, if_false]
    split
    · rfl
    · rfl
  have classesRun :
      (ClassDisplayDiscovery.run true true host.module
          host.bytes).allowed =
        true := by
    unfold ClassDisplayDiscovery.run
    simp only [Bool.and_true, Bool.not_true, Bool.false_eq_true, if_false]
    split
    · rfl
    · rfl
  unfold publishCapabilitiesWithDiscovery
  cases capability with
  | packetHooks =>
      unfold Requires allows
      simp only [applyClassDisplayDiscovery, applySpellUsabilityDiscovery,
        applyReceiveDispatchDiscovery, ready, hooksAllowed, isMatch,
        Bool.true_and]
      exact receiveDispatch_validated_iff _ host
  | spellUsability =>
      unfold Requires allows
      simp only [applyClassDisplayDiscovery, applySpellUsabilityDiscovery,
        applyReceiveDispatchDiscovery, SpellUsabilityDiscovery.step, spells,
        isMatch, spellsRun, Bool.true_and]
      exact isTraceSafe_iff host _
  | itemUsability =>
      unfold Requires allows
      simp only [applyClassDisplayDiscovery, applySpellUsabilityDiscovery,
        applyReceiveDispatchDiscovery, SpellUsabilityDiscovery.step, spells,
        isMatch, spellsRun, Bool.true_and, Bool.and_eq_true,
        isTraceSafe_iff]
  | skillVisibility =>
      exact iff_of_true skills trivial
  | uiDisplay =>
      unfold Requires allows
      simp only [applyClassDisplayDiscovery, applySpellUsabilityDiscovery,
        applyReceiveDispatchDiscovery, classes, isMatch, classesRun,
        Bool.true_and, Bool.and_eq_true, isHookSafe_iff, and_assoc]

/-- A host that is not ready gets nothing but its error. -/
theorem initializeOnce_not_ready
    {host : Host}
    (notReady : ¬ Ready host) :
    (initializeOnce host {}).initResult = initError host ∧
      (initializeOnce host {}).proxyReady = false ∧
        ∀ capability,
          allows (initializeOnce host {}).capabilities capability =
            false := by
  unfold initializeOnce initError
  cases isPath : buildSystemDinputPath host with
  | none =>
      exact ⟨rfl, rfl, published_denied host _ ⟨rfl, rfl, rfl, rfl⟩⟩
  | some systemPath =>
      dsimp only
      by_cases isMissing : host.loadLibrary systemPath = 0
      · rw [if_pos isMissing, if_pos isMissing]
        exact ⟨rfl, rfl, published_denied host _ ⟨rfl, rfl, rfl, rfl⟩⟩
      · have lacks :
            (requiredExports.any fun name => host.procAddress name == 0) =
              true := by
          by_contra complete
          apply notReady
          refine ⟨systemPath, isPath, isMissing, ?_⟩
          intro name isRequired isNull
          exact
            complete
              (List.any_eq_true.mpr
                ⟨name, isRequired, beq_iff_eq.mpr isNull⟩)
        rw [if_neg isMissing, if_pos lacks, if_neg isMissing]
        exact ⟨rfl, rfl, published_denied host _ ⟨rfl, rfl, rfl, rfl⟩⟩

/-- A host that is ready gets the real exports, and what it has. -/
theorem initializeOnce_ready
    {host : Host}
    (ready : Ready host) :
    (initializeOnce host {}).initResult = S_OK ∧
      (initializeOnce host {}).proxyReady = true ∧
        (initializeOnce host {}).exports = host.procAddress ∧
          ∀ capability,
            allows (initializeOnce host {}).capabilities capability =
                true ↔
              IsRof2 host ∧ Requires host capability := by
  obtain ⟨systemPath, isPath, isLoaded, complete⟩ := ready
  have lacksNothing :
      ¬ (requiredExports.any fun name => host.procAddress name == 0) =
          true := by
    intro lacks
    obtain ⟨name, isRequired, isNull⟩ := List.any_eq_true.mp lacks
    exact complete name isRequired (beq_iff_eq.mp isNull)
  have decided :=
    Fingerprint.evaluate_decided host.towlower host.executable
  have isAccepted := decided.accepted_iff
  have isSafe := decided.safe
  unfold Fingerprint.Result.verdict at isAccepted isSafe
  dsimp only at isAccepted isSafe
  unfold initializeOnce
  rw [isPath]
  dsimp only
  rw [if_neg isLoaded, if_neg lacksNothing]
  refine ⟨rfl, rfl, rfl, ?_⟩
  intro capability
  by_cases isRof2 : IsRof2 host
  · rw [and_iff_right isRof2]
    have accepted := isAccepted.mpr isRof2
    have matched :
        ((Fingerprint.evaluate host.towlower
              host.executable).processNameMatch &&
            (Fingerprint.evaluate host.towlower host.executable).matched) =
          true := by
      rw [Bool.and_comm]
      exact accepted
    have hooksAllowed := isSafe.trans accepted
    apply published_allowed
    · exact ⟨rfl, hooksAllowed, matched⟩
    · dsimp only [buildCapabilityManifest]
      rw [hooksAllowed, matched]
      exact ⟨rfl, rfl, rfl⟩
  · have hooksDenied :
        (Fingerprint.evaluate host.towlower
            host.executable).hooksAllowed =
          false := by
      rw [isSafe, ← Bool.not_eq_true, isAccepted]
      exact isRof2
    refine iff_of_false ?_ fun both => isRof2 both.1
    rw [Bool.not_eq_true]
    apply published_denied
    dsimp only [buildCapabilityManifest]
    rw [hooksDenied]
    exact ⟨rfl, rfl, rfl, rfl⟩

/-- The manifest before any call allows nothing. -/
theorem initial_denied (capability : Capability) :
    allows
        (buildDisabledCapabilityManifest false false
          "initialization pending")
        capability =
      false := by
  cases capability <;> rfl

/-! ## Every run -/

/-- What a state shows when nothing is published. -/
theorem capabilities_of_fresh
    {state : State}
    (fresh : IsFresh state)
    (nothing : state.published = none) :
    state.capabilities =
      buildDisabledCapabilityManifest false false
        "initialization pending" := by
  unfold State.published at nothing
  split at nothing
  · cases nothing
  · rename_i notInitialized
    obtain ⟨_, _, _, rfl⟩ := fresh.resolve_left notInitialized
    rfl

/-- What a state shows when something is published. -/
theorem eq_of_published
    {state : State}
    {published : Published}
    (isPublished : state.published = some published) :
    state.initResult = published.initResult ∧
      state.proxyReady = published.proxyReady ∧
        state.capabilities = published.capabilities ∧
          state.exports = published.exports := by
  unfold State.published at isPublished
  split at isPublished
  · cases isPublished
    exact ⟨rfl, rfl, rfl, rfl⟩
  · cases isPublished

theorem run_isFresh (events : List Event) :
    IsFresh (run step {} events) :=
  invariant step_isFresh (.inr ⟨_, _, _, rfl⟩) events

/-- What an export answers when the first host was not ready. -/
def refusal (host : Host) : Export → Answer
  | .getdfDIJoystick => .null
  | .dllGetClassObject =>
      .failed
        (if isFailed (initError host) then
          initError host
        else
          CLASS_E_CLASSNOTAVAILABLE)
  | _ =>
      .failed
        (if isFailed (initError host) then initError host else E_FAIL)

/-- An export answers as the first host had it. -/
structure AnswersAs (first : Host) (name : Export) (state : State) : Prop where
  forwarded :
    Ready first →
      first.procAddress name ≠ 0 →
        answer state name = .forwarded (first.procAddress name)
  /-- Only one export may be missing from a library that is ready. -/
  missing :
    Ready first →
      first.procAddress name = 0 →
        name = .getdfDIJoystick ∧ answer state name = .null
  refused : ¬ Ready first → answer state name = refusal first name

/-- An event that does not unload keeps the real library. -/
theorem step_keeps_realModule
    (state : State)
    (event : Event)
    (fresh : IsFresh state)
    (loaded : state.proxyReady = true → state.realModule ≠ 0)
    (isKept : event ≠ .detach false) :
    (step state event).proxyReady = true →
      (step state event).realModule ≠ 0 := by
  cases event with
  | detach processEnds =>
      cases processEnds with
      | true =>
          exact loaded
      | false =>
          exact absurd rfl isKept
  | call name host =>
      unfold step ensureInitialized
      dsimp only
      by_cases initialized : state.initialized = true
      · rw [if_pos initialized]
        exact loaded
      · rw [if_neg initialized]
        obtain ⟨_, _, _, rfl⟩ := fresh.resolve_left initialized
        rw [initializeOnce_fresh]
        unfold initializeOnce
        cases buildSystemDinputPath host with
        | none =>
            intro impossible
            cases impossible
        | some systemPath =>
            dsimp only
            split
            · intro impossible
              cases impossible
            · rename_i isLoaded
              split
              · exact fun _ => isLoaded
              · exact fun _ => isLoaded

/-- The real library is loaded while the proxy is ready, if nothing unloads. -/
theorem realModule_ne_zero
    {events : List Event}
    (keeps : ∀ event ∈ events, event ≠ .detach false)
    (ready : (run step {} events).proxyReady = true) :
    (run step {} events).realModule ≠ 0 := by
  have along :
      Along step (fun _ event => event ≠ .detach false) {} events := by
    rw [along_iff]
    rintro earlier event later rfl
    exact keeps event (by simp)
  have kept :
      ∀ state event,
        IsFresh state ∧
            (state.proxyReady = true → state.realModule ≠ 0) →
          event ≠ .detach false →
            IsFresh (step state event) ∧
              ((step state event).proxyReady = true →
                (step state event).realModule ≠ 0) :=
    fun state event holds isKept =>
      ⟨step_isFresh state event holds.1,
        step_keeps_realModule state event holds.1 holds.2 isKept⟩
  have initially :
      IsFresh {} ∧
        (State.proxyReady {} = true → State.realModule {} ≠ 0) :=
    ⟨.inr ⟨_, _, _, rfl⟩, fun impossible => by cases impossible⟩
  exact (invariant_along kept initially along).2 ready

/-- A published state answers as its host had it. -/
theorem answersAs_of_published
    {state : State}
    {first : Host}
    (isPublished : state.published = some first.published)
    (name : Export) :
    AnswersAs first name state := by
  obtain ⟨sameResult, sameReady, _, sameExports⟩ :=
    eq_of_published isPublished
  have success : isFailed S_OK = false := by decide
  refine ⟨?_, ?_, ?_⟩
  · intro ready present
    obtain ⟨isResult, isReady, areExports, _⟩ := initializeOnce_ready ready
    have real : getExport state name = first.procAddress name := by
      unfold getExport
      rw [sameReady.trans isReady, if_pos rfl,
        sameExports.trans areExports]
    unfold answer
    rw [real, sameResult.trans isResult, success]
    cases name <;> simp [present]
  · intro ready isNull
    obtain ⟨isResult, isReady, areExports, _⟩ := initializeOnce_ready ready
    have optional : name = .getdfDIJoystick := by
      obtain ⟨_, _, _, complete⟩ := ready
      cases name with
      | getdfDIJoystick =>
          rfl
      | directInput8Create | dllCanUnloadNow | dllGetClassObject
      | dllRegisterServer | dllUnregisterServer =>
          exact absurd isNull (complete _ (by decide))
    have real : getExport state name = 0 := by
      unfold getExport
      rw [sameReady.trans isReady, if_pos rfl,
        sameExports.trans areExports, isNull]
    refine ⟨optional, ?_⟩
    rw [optional] at real ⊢
    unfold answer
    simp [real]
  · intro notReady
    obtain ⟨isResult, isReady, _⟩ := initializeOnce_not_ready notReady
    have real : getExport state name = 0 := by
      unfold getExport
      rw [sameReady.trans isReady]
      rfl
    unfold answer refusal
    rw [real, sameResult.trans isResult]
    cases name <;> simp

end MonomythClient.DinputProxy
