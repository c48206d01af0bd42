import MonomythClient.RuntimeCapabilities

namespace MonomythClient.DinputProxy

open RuntimeCapabilities
open SpellUsabilityDiscovery (FileReads)

/-!
# The proxy of dinput8.dll

The module stands in for the system's dinput8.dll.  The first export that is
called loads the real library, evaluates the fingerprint, runs the discoveries
and publishes the manifest; every export then forwards to the real one, if that
went well.  What `DllMain` does when the module goes away is here too.
-/

/-! ## The host -/

/-- The exports of dinput8.dll. -/
inductive Export where
  | directInput8Create
  | dllCanUnloadNow
  | dllGetClassObject
  | dllRegisterServer
  | dllUnregisterServer
  | getdfDIJoystick
  deriving Repr, DecidableEq

/--
What the proxy finds when it asks the system: where the libraries are, whether
the real one loads and what it exports, the executable and its module, and how
the hooks start.  A handle or an address that is not to be had is zero.
-/
structure Host where
  systemDirectory : Option (List UInt16)
  loadLibrary : List UInt16 → UInt32
  lastError : UInt32
  procAddress : Export → UInt32
  towlower : UInt16 → UInt16
  executable : Fingerprint.Executable
  hashedFile : FileReads
  module : UInt32
  bytes : Nat → UInt8
  moveItemExport : UInt32
  hooksStart : Bool

/-- What the spell usability discovery finds. -/
def Host.spellHost (host : Host) : SpellUsabilityDiscovery.Host where
  module := host.module
  bytes := host.bytes
  moveItemExport := host.moveItemExport
  processPath := Fingerprint.pathText host.executable.path
  file := host.hashedFile

/-! ## Results -/

def S_OK : UInt32 := 0
def E_FAIL : UInt32 := 0x80004005
def CLASS_E_CLASSNOTAVAILABLE : UInt32 := 0x80040111
def ERROR_PATH_NOT_FOUND : UInt32 := 3
def ERROR_PROC_NOT_FOUND : UInt32 := 127

/-- `FAILED`: the sign of the result is set. -/
def isFailed (result : UInt32) : Bool :=
  decide (0x80000000 ≤ result)

/-- `HRESULT_FROM_WIN32`; a code that is no positive number stays as it is. -/
def hresultFromWin32 (code : UInt32) : UInt32 :=
  if code = 0 ∨ isFailed code = true then
    code
  else
    (code &&& 0x0000ffff) ||| 0x80070000

/-! ## The state -/

structure State where
  initialized : Bool := false
  realModule : UInt32 := 0
  initResult : UInt32 := E_FAIL
  proxyLoaded : Bool := false
  proxyReady : Bool := false
  hooksStarted : Bool := false
  fingerprintChecked : Bool := false
  fingerprint : Fingerprint.Result := {}
  capabilities : Manifest :=
    buildDisabledCapabilityManifest false false "initialization pending"
  exports : Export → UInt32 := fun _ => 0
  receiveDispatch : ReceiveDispatchDiscovery.Result := {}
  spellUsability : SpellUsabilityDiscovery.Result := {}
  classDisplay : ClassDisplayDiscovery.Result := {}

/-- `PublishCapabilitiesWithDiscovery` -/
def publishCapabilitiesWithDiscovery (host : Host) (state : State) : State :=
  let receiveDispatch :=
    ReceiveDispatchDiscovery.step
      (ReceiveDispatchDiscovery.step state.receiveDispatch .init)
      (.run state.capabilities.hooksAllowed host.module host.bytes)
  let capabilities :=
    applyReceiveDispatchDiscovery state.capabilities receiveDispatch
  let spellUsability :=
    SpellUsabilityDiscovery.step
      (SpellUsabilityDiscovery.step state.spellUsability .init)
      (.run capabilities.spellUsabilityDiscoveryAllowed
        capabilities.fingerprintMatched host.spellHost)
  let capabilities := applySpellUsabilityDiscovery capabilities spellUsability
  let classDisplay :=
    ClassDisplayDiscovery.run capabilities.classDisplayDiscoveryAllowed
      capabilities.fingerprintMatched host.module host.bytes
  { state with
    receiveDispatch
    spellUsability
    classDisplay
    capabilities := applyClassDisplayDiscovery capabilities classDisplay }

/-- `BuildSystemDinputPath` -/
def buildSystemDinputPath (host : Host) : Option (List UInt16) :=
  host.systemDirectory.map (· ++ Fingerprint.wide "\\dinput8.dll")

/-- The exports without which `ResolveExports` fails. -/
def requiredExports : List Export :=
  [ .directInput8Create, .dllCanUnloadNow, .dllGetClassObject,
    .dllRegisterServer, .dllUnregisterServer ]

/-- `InitializeOnce` -/
def initializeOnce (host : Host) (state : State) : State :=
  match buildSystemDinputPath host with
  | none =>
      let published :=
        publishCapabilitiesWithDiscovery host
          { state with
            capabilities :=
              buildDisabledCapabilityManifest false false
                "failed to build system dinput8 path" }
      { published with initResult := hresultFromWin32 ERROR_PATH_NOT_FOUND }
  | some systemPath =>
      let realModule := host.loadLibrary systemPath
      if realModule = 0 then
        let published :=
          publishCapabilitiesWithDiscovery host
            { state with
              realModule
              capabilities :=
                buildDisabledCapabilityManifest false false
                  "failed to load real system dinput8.dll" }
        { published with initResult := hresultFromWin32 host.lastError }
      else
        let state :=
          { state with
            realModule
            proxyLoaded := true
            exports := host.procAddress }
        if requiredExports.any fun name => host.procAddress name == 0 then
          let published :=
            publishCapabilitiesWithDiscovery host
              { state with
                capabilities :=
                  buildDisabledCapabilityManifest true false
                    "failed to resolve required dinput8 exports" }
          { published with
            initResult := hresultFromWin32 ERROR_PROC_NOT_FOUND }
        else
          let fingerprint :=
            Fingerprint.evaluate host.towlower host.executable
          let published :=
            publishCapabilitiesWithDiscovery host
              { state with
                proxyReady := true
                fingerprint
                fingerprintChecked := true
                capabilities :=
                  buildCapabilityManifest true true true fingerprint }
          { published with
            hooksStarted :=
              published.capabilities.hooksAllowed && host.hooksStart
            initResult := S_OK }

/-- `EnsureInitialized`: the system runs the callback once. -/
def ensureInitialized (host : Host) (state : State) : State :=
  if state.initialized then
    state
  else
    let initialized := initializeOnce host state
    { initialized with initialized := true }

/-- `Shutdown` -/
def shutdown (state : State) : State :=
  { state with
    hooksStarted := false
    receiveDispatch :=
      ReceiveDispatchDiscovery.step state.receiveDispatch .shutdown
    spellUsability :=
      SpellUsabilityDiscovery.step state.spellUsability .shutdown
    classDisplay := { reason := "shutdown" }
    realModule := 0 }

/-! ## Exports -/

/-- What an export of the proxy answers. -/
inductive Answer where
  /-- What the real export at this address answers. -/
  | forwarded (address : UInt32)
  | failed (result : UInt32)
  | null
  deriving Repr, DecidableEq

/-- `GetDirectInput8Create` and the others of its kind. -/
def getExport (state : State) (name : Export) : UInt32 :=
  if state.proxyReady then state.exports name else 0

/-- What an export does once the proxy is initialized. -/
def answer (state : State) (name : Export) : Answer :=
  let real := getExport state name
  match name with
  | .getdfDIJoystick =>
      if isFailed state.initResult ∨ real = 0 then .null else .forwarded real
  | .dllGetClassObject =>
      if isFailed state.initResult ∨ real = 0 then
        .failed
          (if isFailed state.initResult then
            state.initResult
          else
            CLASS_E_CLASSNOTAVAILABLE)
      else
        .forwarded real
  | _ =>
      if isFailed state.initResult ∨ real = 0 then
        .failed
          (if isFailed state.initResult then state.initResult else E_FAIL)
      else
        .forwarded real

/-! ## Events -/

/-- What happens to the proxy. -/
inductive Event where
  /-- An export is called, with the host as it is then. -/
  | call (name : Export) (host : Host)
  /-- `DLL_PROCESS_DETACH`, because the process ends or is unloaded from. -/
  | detach (processEnds : Bool)

/-- What an event does. -/
def step (state : State) : Event → State
  | .call _ host => ensureInitialized host state
  | .detach processEnds => if processEnds then state else shutdown state

end MonomythClient.DinputProxy
