import AudioSync.Cast.Discovery

/-! The discovery listener and the resolve listener of `NsdHelper`, which `StatisticsActivity` and
the network put to use. -/
namespace AudioSync.Cast.Listeners

open Transition Discovery

/-- The discovery listener is in use from `discoverServices` up to `onDiscoveryStopped`. In
between the system tells that the discovery has started, and can be asked to stop it. -/
inductive DiscoveryState where
  | idle
  | active (started stopping : Bool)
  deriving DecidableEq, Repr

/-- The two listeners as `NsdManager` uses them. -/
structure NsdManager where
  discovery : DiscoveryState
  resolving : Option NsdServiceInfo

/-- `StatisticsActivity` with its button, the helper and the system. -/
structure Device where
  helper : Discovery.NsdHelper
  manager : NsdManager
  mServiceResolvedCallback : Bool
  mService : Option NsdServiceInfo
  resumed : Bool
  mListenButton : Bool

/-- What the user and the system do. The rest of the application registers and unregisters a
service. -/
inductive Event where
  | onResume
  | startListening
  | onPause
  | ofHelper (event : Discovery.Event)
  | onServiceResolved
  | onResolveFailed
  | onDiscoveryStarted
  | onDiscoveryStopped

namespace DiscoveryState

def isStarted : DiscoveryState → Bool
  | idle => false
  | active started _ => started

def isStopping : DiscoveryState → Bool
  | idle => false
  | active _ stopping => stopping

end DiscoveryState

/-! A call of `NsdManager` is `none` when it throws an `IllegalArgumentException`. -/
namespace NsdManager

variable (manager : NsdManager)

def discoverServices : Option NsdManager :=
  match manager.discovery with
  | .idle => some { manager with discovery := .active false false }
  | .active _ _ => none

def stopServiceDiscovery : Option NsdManager :=
  match manager.discovery with
  | .idle => none
  | .active started _ => some { manager with discovery := .active started true }

def resolveService (service : NsdServiceInfo) : Option NsdManager :=
  match manager.resolving with
  | none => some { manager with resolving := some service }
  | some _ => none

end NsdManager

/-- The tests that a service which is found has to pass before it is resolved. -/
def IsResolved (helper : Discovery.NsdHelper) (service : NsdServiceInfo) : Prop :=
  service.serviceType = SERVICE_TYPE ∧
  ¬ (service.serviceName = helper.mServiceName ∧ helper.mSendingBroadcasts = true) ∧
  service.serviceName.contains helper.mServiceName = true

instance (helper : Discovery.NsdHelper) (service : NsdServiceInfo) :
    Decidable (IsResolved helper service) :=
  inferInstanceAs (Decidable (_ ∧ ¬ (_ ∧ _) ∧ _))

namespace Device

def initial : Device := ⟨NsdHelper.initial, ⟨.idle, none⟩, false, none, false, true⟩

variable (device : Device)

def discoverServices : Option Device :=
  device.manager.discoverServices.map fun manager =>
    { device with manager := manager, mServiceResolvedCallback := true }

/-- `onPause`, which ends by resetting the button. -/
def onPause : Device :=
  { device with
    helper := device.helper.unregisterService
    resumed := false
    mListenButton := true }

def stopDiscovery : Option Device :=
  device.manager.stopServiceDiscovery.map fun manager => { device with manager := manager }

def onServiceFound (service : NsdServiceInfo) : Option Device :=
  if IsResolved device.helper service then
    (device.manager.resolveService service).map fun manager =>
      { device with helper := device.helper.onServiceFound service, manager := manager }
  else some device

/-- The listener is free again when it is told about the service. -/
def onServiceResolved (service : NsdServiceInfo) : Option Device :=
  let freed := { device with manager := { device.manager with resolving := none } }
  -- Same IP.
  if device.helper.mSendingBroadcasts = true ∧ service.serviceName = device.helper.mServiceName then
    some freed
  else
    let chosen := { freed with mService := some service }
    if device.mServiceResolvedCallback then chosen.stopDiscovery else some chosen

/-- The event can happen: the activity is there and the button enabled, or the system has been
asked for it. -/
def arrives : Event → Bool
  | .onResume => !device.resumed
  | .startListening => device.resumed && device.mListenButton
  | .onPause => device.resumed
  | .ofHelper (.onServiceFound _) => device.manager.discovery.isStarted
  | .ofHelper event => (device.helper.step event).isSome
  | .onServiceResolved => device.manager.resolving.isSome
  | .onResolveFailed => device.manager.resolving.isSome
  | .onDiscoveryStarted =>
      decide (device.manager.discovery ≠ .idle) && !device.manager.discovery.isStarted
  | .onDiscoveryStopped => device.manager.discovery.isStopping

/-- What the event does when it happens; `none` when `NsdManager` throws. -/
def handle : Event → Option Device
  | .onResume => some { device with resumed := true }
  | .startListening => { device with mListenButton := false }.discoverServices
  | .onPause => some device.onPause
  | .ofHelper (.onServiceFound service) => device.onServiceFound service
  | .ofHelper event => (device.helper.step event).map fun helper => { device with helper := helper }
  | .onServiceResolved => device.manager.resolving.bind device.onServiceResolved
  | .onResolveFailed =>
      some { device with manager := { device.manager with resolving := none } }
  | .onDiscoveryStarted =>
      some { device with manager := { device.manager with
        discovery := .active true device.manager.discovery.isStopping } }
  | .onDiscoveryStopped =>
      some { device with manager := { device.manager with discovery := .idle } }

def step (device : Device) (event : Event) : Option Device :=
  if device.arrives event then device.handle event else none

/-- If the event happens, `NsdManager` does not throw: no listener is used that is busy, and no
discovery is stopped that is not active. -/
def Accepted (device : Device) (event : Event) : Prop :=
  device.arrives event = true → (device.handle event).isSome = true

instance (device : Device) (event : Event) : Decidable (device.Accepted event) :=
  inferInstanceAs (Decidable (_ → _))

/-- What is done with the discovery listener. -/
inductive DiscoveryCall where
  | discovers
  | stops
  | onStopped
  deriving DecidableEq, Repr

/-- What is done with the resolve listener. -/
inductive ResolveCall where
  | resolves
  | onEnded
  deriving DecidableEq, Repr

/-- A service that is resolved ends the discovery, unless it is the device's own. -/
def Chooses (service : NsdServiceInfo) : Prop :=
  ¬ (device.helper.mSendingBroadcasts = true ∧
    service.serviceName = device.helper.mServiceName) ∧ device.mServiceResolvedCallback = true

instance (service : NsdServiceInfo) : Decidable (device.Chooses service) :=
  inferInstanceAs (Decidable (¬ (_ ∧ _) ∧ _))

def discoveryCall (event : Event) : Option DiscoveryCall :=
  if device.arrives event then
    match event with
    | .startListening => some .discovers
    | .onServiceResolved =>
        device.manager.resolving.bind fun service =>
          if device.Chooses service then some .stops else none
    | .onDiscoveryStopped => some .onStopped
    | _ => none
  else none

def resolveCall (event : Event) : Option ResolveCall :=
  if device.arrives event then
    match event with
    | .ofHelper (.onServiceFound service) =>
        if IsResolved device.helper service then some .resolves else none
    | .onServiceResolved => some .onEnded
    | .onResolveFailed => some .onEnded
    | _ => none
  else none

/-- Listening begins only at first, or when the discovery before has been reported as stopped.
After that report nothing is stopped. -/
def InTurn (previous next : DiscoveryCall) : Prop :=
  (next = .discovers → previous = .onStopped) ∧ (next = .stops → previous ≠ .onStopped)

/-- A service is passed on only at first, or when the one before has been resolved or has failed. -/
def OneByOne (previous next : ResolveCall) : Prop := next = .resolves → previous = .onEnded

/-- The order of the events: one discovery after the other, and one service after the other. -/
def Orderly (events : List Event) : Prop :=
  (DiscoveryCall.onStopped :: labels step discoveryCall initial events).IsChain InTurn ∧
  (ResolveCall.onEnded :: labels step resolveCall initial events).IsChain OneByOne

/-- What a step does with the listeners: nothing, or one of the calls. A resolved service frees one
listener and may stop the other. -/
inductive Used : Option DiscoveryCall → Option ResolveCall → NsdManager → NsdManager → Prop where
  | neither {manager next : NsdManager}
      (hDiscovery : next.discovery = .idle ↔ manager.discovery = .idle)
      (hResolving : next.resolving = manager.resolving) : Used none none manager next
  | discovers {manager next : NsdManager} (hCall : manager.discoverServices = some next) :
      Used (some .discovers) none manager next
  | stopped (manager : NsdManager) :
      Used (some .onStopped) none manager { manager with discovery := .idle }
  | resolves {manager next : NsdManager} {service : NsdServiceInfo}
      (hCall : manager.resolveService service = some next) :
      Used none (some .resolves) manager next
  | ended (manager : NsdManager) :
      Used none (some .onEnded) manager { manager with resolving := none }
  | chosen {manager next : NsdManager}
      (hCall : ({ manager with resolving := none } : NsdManager).stopServiceDiscovery = some next) :
      Used (some .stops) (some .onEnded) manager next

section Calls

variable {device} {next : Device} {event : Event} {service : NsdServiceInfo}

theorem step_eq_some :
    step device event = some next ↔ device.arrives event = true ∧ device.handle event = some next := by
  unfold step
  split_ifs with hArrives
  · simp [hArrives]
  · simp [hArrives]

/-- A service that fails one of the tests changes nothing. -/
theorem helper_onServiceFound (hFound : device.onServiceFound service = some next) :
    next.helper = device.helper.onServiceFound service := by
  unfold onServiceFound at hFound
  split_ifs at hFound with hResolved
  · obtain ⟨manager, -, rfl⟩ := Option.map_eq_some_iff.mp hFound
    rfl
  · cases hFound
    unfold IsResolved at hResolved
    unfold NsdHelper.onServiceFound
    split_ifs with hType hOwn hPart
    · rfl
    · rfl
    · exact absurd ⟨not_not.mp hType, hOwn, hPart⟩ hResolved
    · rfl

theorem helper_onServiceResolved (hResolved : device.onServiceResolved service = some next) :
    next.helper = device.helper := by
  unfold onServiceResolved at hResolved
  dsimp only at hResolved
  split_ifs at hResolved
  · cases hResolved
    rfl
  · obtain ⟨manager, -, rfl⟩ := Option.map_eq_some_iff.mp hResolved
    rfl
  · cases hResolved
    rfl

/-- The helper takes steps of its own. -/
theorem helper_step (hStep : step device event = some next) :
    next.helper = device.helper ∨ ∃ event, device.helper.step event = some next.helper := by
  obtain ⟨-, hHandle⟩ := step_eq_some.mp hStep
  cases event with
  | startListening =>
      obtain ⟨manager, -, rfl⟩ := Option.map_eq_some_iff.mp hHandle
      exact Or.inl rfl
  | onPause =>
      cases hHandle
      exact Or.inr ⟨.unregisterService, rfl⟩
  | ofHelper event =>
      refine Or.inr ⟨event, ?_⟩
      cases event with
      | onServiceFound service => exact congrArg some (helper_onServiceFound hHandle).symm
      | registerService port =>
          cases hHandle
          rfl
      | onServiceRegistered index suffix =>
          obtain ⟨helper, hHelper, rfl⟩ := Option.map_eq_some_iff.mp hHandle
          exact hHelper
      | unregisterService =>
          cases hHandle
          rfl
  | onServiceResolved =>
      obtain ⟨service, -, hResolved⟩ := Option.bind_eq_some_iff.mp hHandle
      exact Or.inl (helper_onServiceResolved hResolved)
  | onResume =>
      cases hHandle
      exact Or.inl rfl
  | onResolveFailed =>
      cases hHandle
      exact Or.inl rfl
  | onDiscoveryStarted =>
      cases hHandle
      exact Or.inl rfl
  | onDiscoveryStopped =>
      cases hHandle
      exact Or.inl rfl

/-- In every history the helper knows the names of the application only. -/
theorem named_of_run {events : List Event} (hRun : run step initial events = some device) :
    device.helper.Named := by
  apply run_keeps (p := fun device => device.helper.Named) _ NsdHelper.named_initial hRun
  intro device event next hNamed hStep
  rcases helper_step hStep with hSame | ⟨own, hOwn⟩
  · rwa [hSame]
  · exact NsdHelper.named_step hNamed hOwn

theorem used_onServiceFound (hFound : device.onServiceFound service = some next) :
    Used none (if IsResolved device.helper service then some .resolves else none) device.manager
      next.manager := by
  unfold onServiceFound at hFound
  split_ifs at hFound ⊢ with hResolved
  · obtain ⟨manager, hCall, rfl⟩ := Option.map_eq_some_iff.mp hFound
    exact .resolves hCall
  · cases hFound
    exact .neither Iff.rfl rfl

theorem used_onServiceResolved (hResolved : device.onServiceResolved service = some next) :
    Used (if device.Chooses service then some .stops else none) (some .onEnded) device.manager
      next.manager := by
  unfold onServiceResolved at hResolved
  dsimp only at hResolved
  by_cases hOwn : device.helper.mSendingBroadcasts = true ∧
      service.serviceName = device.helper.mServiceName
  · rw [if_pos hOwn] at hResolved
    rw [if_neg fun hBoth : device.Chooses service => hBoth.1 hOwn]
    cases hResolved
    exact .ended _
  · rw [if_neg hOwn] at hResolved
    by_cases hCallback : device.mServiceResolvedCallback = true
    · rw [if_pos hCallback] at hResolved
      rw [if_pos (show device.Chooses service from ⟨hOwn, hCallback⟩)]
      obtain ⟨manager, hCall, rfl⟩ := Option.map_eq_some_iff.mp hResolved
      exact .chosen hCall
    · rw [if_neg hCallback] at hResolved
      rw [if_neg fun hBoth : device.Chooses service => hCallback hBoth.2]
      cases hResolved
      exact .ended _

theorem used_step (hStep : step device event = some next) :
    Used (device.discoveryCall event) (device.resolveCall event) device.manager next.manager := by
  obtain ⟨hArrives, hHandle⟩ := step_eq_some.mp hStep
  unfold discoveryCall resolveCall
  rw [if_pos hArrives, if_pos hArrives]
  cases event with
  | onResume =>
      cases hHandle
      exact .neither Iff.rfl rfl
  | startListening =>
      obtain ⟨manager, hCall, rfl⟩ := Option.map_eq_some_iff.mp hHandle
      exact .discovers hCall
  | onPause =>
      cases hHandle
      exact .neither Iff.rfl rfl
  | ofHelper event =>
      cases event with
      | onServiceFound service => exact used_onServiceFound hHandle
      | registerService port =>
          cases hHandle
          exact .neither Iff.rfl rfl
      | onServiceRegistered index suffix =>
          obtain ⟨helper, -, rfl⟩ := Option.map_eq_some_iff.mp hHandle
          exact .neither Iff.rfl rfl
      | unregisterService =>
          cases hHandle
          exact .neither Iff.rfl rfl
  | onServiceResolved =>
      obtain ⟨service, hService, hResolved⟩ := Option.bind_eq_some_iff.mp hHandle
      dsimp only
      rw [hService, Option.bind_some]
      exact used_onServiceResolved hResolved
  | onResolveFailed =>
      cases hHandle
      exact .ended _
  | onDiscoveryStarted =>
      cases hHandle
      refine .neither ?_ rfl
      have hActive := of_decide_eq_true (Bool.and_eq_true_iff.mp hArrives).1
      exact iff_of_false DiscoveryState.noConfusion hActive
  | onDiscoveryStopped =>
      cases hHandle
      exact .stopped _

end Calls

/-- As far as the discovery listener goes, the last call tells whether it is in use. -/
def LastDiscovery (device : Device) (last : DiscoveryCall) : Prop :=
  device.manager.discovery = .idle ↔ last = .onStopped

def LastResolve (device : Device) (last : ResolveCall) : Prop :=
  device.manager.resolving = none ↔ last = .onEnded

section Turns

variable {device} {next : Device} {event : Event}

theorem discoverServices_eq_some {manager after : NsdManager}
    (hCall : manager.discoverServices = some after) :
    manager.discovery = .idle ∧ after.discovery ≠ .idle ∧ after.resolving = manager.resolving := by
  unfold NsdManager.discoverServices at hCall
  split at hCall
  · next hIdle =>
      cases hCall
      exact ⟨hIdle, DiscoveryState.noConfusion, rfl⟩
  · cases hCall

theorem stopServiceDiscovery_eq_some {manager after : NsdManager}
    (hCall : manager.stopServiceDiscovery = some after) :
    manager.discovery ≠ .idle ∧ after.discovery ≠ .idle ∧ after.resolving = manager.resolving := by
  unfold NsdManager.stopServiceDiscovery at hCall
  split at hCall
  · cases hCall
  · next hActive =>
      cases hCall
      refine ⟨?_, DiscoveryState.noConfusion, rfl⟩
      rw [hActive]
      exact DiscoveryState.noConfusion

theorem resolveService_eq_some {manager after : NsdManager} {service : NsdServiceInfo}
    (hCall : manager.resolveService service = some after) :
    manager.resolving = none ∧ after.resolving ≠ none ∧ after.discovery = manager.discovery := by
  unfold NsdManager.resolveService at hCall
  split at hCall
  · next hFree =>
      cases hCall
      exact ⟨hFree, Option.some_ne_none service, rfl⟩
  · cases hCall

/-- The last call tells, from step to step, whether a listener is in use. -/
theorem lastDiscovery_step {last : DiscoveryCall} (hLast : device.LastDiscovery last)
    (hStep : step device event = some next) :
    next.LastDiscovery ((device.discoveryCall event).getD last) := by
  have hUsed := used_step hStep
  unfold LastDiscovery at *
  generalize device.discoveryCall event = discovery, device.resolveCall event = resolve,
    next.manager = after at *
  cases hUsed with
  | neither hDiscovery _ => exact hDiscovery.trans hLast
  | discovers hCall =>
      exact iff_of_false (discoverServices_eq_some hCall).2.1 DiscoveryCall.noConfusion
  | stopped => exact iff_of_true rfl rfl
  | resolves hCall =>
      rw [(resolveService_eq_some hCall).2.2]
      exact hLast
  | ended => exact hLast
  | chosen hCall =>
      exact iff_of_false (stopServiceDiscovery_eq_some hCall).2.1 DiscoveryCall.noConfusion

theorem lastResolve_step {last : ResolveCall} (hLast : device.LastResolve last)
    (hStep : step device event = some next) :
    next.LastResolve ((device.resolveCall event).getD last) := by
  have hUsed := used_step hStep
  unfold LastResolve at *
  generalize device.discoveryCall event = discovery, device.resolveCall event = resolve,
    next.manager = after at *
  cases hUsed with
  | neither _ hResolving =>
      rw [hResolving]
      exact hLast
  | discovers hCall =>
      rw [(discoverServices_eq_some hCall).2.2]
      exact hLast
  | stopped => exact hLast
  | resolves hCall =>
      exact iff_of_false (resolveService_eq_some hCall).2.1 ResolveCall.noConfusion
  | ended => exact iff_of_true rfl rfl
  | chosen hCall =>
      rw [(stopServiceDiscovery_eq_some hCall).2.2]
      exact iff_of_true rfl rfl

/-- A call finds the discovery listener as it needs it. -/
def DiscoveryFits (device : Device) (event : Event) : Prop :=
  ∀ call ∈ device.discoveryCall event,
    (call = .discovers → device.manager.discovery = .idle) ∧
    (call = .stops → device.manager.discovery ≠ .idle)

def ResolveFits (device : Device) (event : Event) : Prop :=
  ∀ call ∈ device.resolveCall event, call = .resolves → device.manager.resolving = none

theorem discoverServices_isSome (device : Device) :
    device.discoverServices.isSome = true ↔ device.manager.discovery = .idle := by
  unfold Device.discoverServices NsdManager.discoverServices
  rw [Option.isSome_map]
  cases device.manager.discovery with
  | idle => exact iff_of_true rfl rfl
  | active started stopping => exact iff_of_false Bool.false_ne_true DiscoveryState.noConfusion

theorem stopDiscovery_isSome (device : Device) :
    device.stopDiscovery.isSome = true ↔ device.manager.discovery ≠ .idle := by
  unfold stopDiscovery NsdManager.stopServiceDiscovery
  rw [Option.isSome_map]
  cases device.manager.discovery with
  | idle => exact iff_of_false Bool.false_ne_true (not_not_intro rfl)
  | active started stopping => exact iff_of_true rfl DiscoveryState.noConfusion

theorem onServiceFound_isSome (device : Device) (service : NsdServiceInfo) :
    (device.onServiceFound service).isSome = true ↔
      (IsResolved device.helper service → device.manager.resolving = none) := by
  unfold onServiceFound NsdManager.resolveService
  split_ifs with hResolved
  · rw [Option.isSome_map]
    cases device.manager.resolving with
    | none => exact iff_of_true rfl fun _ => rfl
    | some other => exact iff_of_false Bool.false_ne_true fun h => nomatch h hResolved
  · exact iff_of_true rfl fun h => absurd h hResolved

theorem onServiceResolved_isSome (device : Device) (service : NsdServiceInfo) :
    (device.onServiceResolved service).isSome = true ↔
      (device.Chooses service → device.manager.discovery ≠ .idle) := by
  unfold onServiceResolved Chooses
  dsimp only
  split_ifs with hOwn hCallback
  · exact iff_of_true rfl fun hBoth => absurd hOwn hBoth.1
  · rw [stopDiscovery_isSome]
    exact ⟨fun hActive _ => hActive, fun hActive => hActive ⟨hOwn, hCallback⟩⟩
  · exact iff_of_true rfl fun hBoth => absurd hBoth.2 hCallback

/-- `NsdManager` throws exactly when a call does not find its listener as it needs it. -/
theorem accepted_iff (device : Device) (event : Event) :
    device.Accepted event ↔ device.DiscoveryFits event ∧ device.ResolveFits event := by
  unfold Accepted DiscoveryFits ResolveFits discoveryCall resolveCall
  by_cases hArrives : device.arrives event = true
  · rw [if_pos hArrives, if_pos hArrives, forall_prop_of_true hArrives]
    cases event with
    | onResume => simp [handle]
    | startListening =>
        have hCall := discoverServices_isSome { device with mListenButton := false }
        simp [handle, hCall]
    | onPause => simp [handle]
    | ofHelper event =>
        cases event with
        | onServiceFound service =>
            have hCall := onServiceFound_isSome device service
            by_cases hResolved : IsResolved device.helper service
            · simp [handle, hCall, hResolved]
            · simp [handle, hCall, hResolved]
        | registerService port => simp [handle, NsdHelper.step]
        | onServiceRegistered index suffix => simpa [handle, arrives] using hArrives
        | unregisterService => simp [handle, NsdHelper.step]
    | onServiceResolved =>
        obtain ⟨service, hService⟩ := Option.isSome_iff_exists.mp hArrives
        have hCall := onServiceResolved_isSome device service
        by_cases hChosen : device.Chooses service
        · simp [handle, hService, hCall, hChosen]
        · simp [handle, hService, hCall, hChosen]
    | onResolveFailed => simp [handle]
    | onDiscoveryStarted => simp [handle]
    | onDiscoveryStopped => simp [handle]
  · rw [if_neg hArrives, if_neg hArrives]
    simp [hArrives]

end Turns

/-- No listener is used while it is busy, if and only if one discovery comes after the other and
one service after the other. -/
theorem admits_accepted_iff (events : List Event) :
    Admits step Accepted initial events ↔ Orderly events := by
  have hSame : Accepted = fun device event => device.DiscoveryFits event ∧ device.ResolveFits event :=
    funext fun device => funext fun event => propext (accepted_iff device event)
  rw [hSame, admits_and]
  apply and_congr
  · apply admits_iff_isChain LastDiscovery _ (fun _ _ _ _ => lastDiscovery_step) (iff_of_true rfl rfl)
    intro device event last hLast
    have hIdle : device.manager.discovery = .idle ↔ last = .onStopped := hLast
    simp only [DiscoveryFits, InTurn, ne_eq, hIdle]
  · apply admits_iff_isChain LastResolve _ (fun _ _ _ _ => lastResolve_step) (iff_of_true rfl rfl)
    intro device event last hLast
    have hFree : device.manager.resolving = none ↔ last = .onEnded := hLast
    simp only [ResolveFits, OneByOne, hFree]

/-- The user leaves while a discovery is active, comes back and listens again. -/
def listensAgain : List Event := [.onResume, .startListening, .onPause, .onResume, .startListening]

/-- The service of another device. -/
def otherService (n : Nat) : NsdServiceInfo := ⟨initialName ++ conflictSuffix n, SERVICE_TYPE⟩

/-- Two services are found shortly one after another. -/
def foundTwice : List Event :=
  [.onResume, .startListening, .onDiscoveryStarted, .ofHelper (.onServiceFound (otherService 2)),
    .ofHelper (.onServiceFound (otherService 3))]

/-- A second service is found before the discovery has stopped, and resolved after that. -/
def resolvedLate : List Event :=
  [.onResume, .startListening, .onDiscoveryStarted, .ofHelper (.onServiceFound (otherService 2)),
    .onServiceResolved, .ofHelper (.onServiceFound (otherService 3)), .onDiscoveryStopped,
    .onServiceResolved]

/-- The discovery listener is used twice, the resolve listener is, or a discovery is stopped that
is not active. -/
theorem not_admits_accepted :
    ¬ Admits step Accepted initial listensAgain ∧ ¬ Admits step Accepted initial foundTwice ∧
      ¬ Admits step Accepted initial resolvedLate := by decide +kernel

end Device

end AudioSync.Cast.Listeners
