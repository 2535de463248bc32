import AudioSync.Lib.JavaString
import AudioSync.Lib.Transition
import AudioSync.Cast.Playback

/-! `NsdHelper` with the names of services: its own one, which the system may change, and those
of other devices, which are recognised by it. -/
namespace AudioSync.Cast.Discovery

open Transition

structure NsdServiceInfo where
  serviceName : JavaString
  serviceType : JavaString

def SERVICE_TYPE : JavaString := JavaString.literal "_rtp._udp."

/-- What `mServiceName` is at first. -/
def initialName : JavaString := JavaString.literal "de.rwth_aachen.comsys.AudioSync"

/-- What the system appends to a name that is taken. -/
def conflictSuffix (n : Nat) : JavaString :=
  JavaString.literal " (" ++ JavaString.valueOf n ++ JavaString.literal ")"

/-- A request to the system that waits for `onServiceRegistered`. -/
structure Registration where
  serviceName : JavaString
  withdrawn : Bool

/-- The last four fields are the system's: the port and the requests it was given, the name under
which the device is advertised, and the services that are to be resolved. -/
structure NsdHelper where
  mServiceName : JavaString
  mSendingBroadcasts : Bool
  port : Int
  waiting : List Registration
  advertised : Option JavaString
  resolving : List NsdServiceInfo

/-- The system answers a request with the requested name, or with one suffix more. -/
inductive Event where
  | registerService (port : Int)
  | onServiceRegistered (index : Nat) (suffix : Option Nat)
  | unregisterService
  | onServiceFound (service : NsdServiceInfo)

namespace NsdHelper

def initial : NsdHelper := ⟨initialName, false, 0, [], none, []⟩

variable (helper : NsdHelper)

def registerService (port : Int) : NsdHelper :=
  if helper.mSendingBroadcasts then helper
  else { helper with
    mSendingBroadcasts := true
    port := port
    waiting := helper.waiting ++ [⟨helper.mServiceName, false⟩] }

/-- The service is advertised under the name, unless it has been withdrawn. -/
def onServiceRegistered (index : Nat) (suffix : Option Nat) : Option NsdHelper :=
  helper.waiting[index]?.map fun registration =>
    let serviceName := registration.serviceName ++ (suffix.map conflictSuffix).getD []
    { helper with
      mServiceName := serviceName
      waiting := helper.waiting.eraseIdx index
      advertised := if registration.withdrawn then helper.advertised else some serviceName }

def unregisterService : NsdHelper :=
  if helper.mSendingBroadcasts then
    { helper with
      mSendingBroadcasts := false
      waiting := helper.waiting.map fun registration => { registration with withdrawn := true }
      advertised := none }
  else helper

def onServiceFound (service : NsdServiceInfo) : NsdHelper :=
  if service.serviceType ≠ SERVICE_TYPE then helper
  -- This is only the same machine if we did send out a broadcast too.
  else if service.serviceName = helper.mServiceName ∧ helper.mSendingBroadcasts = true then helper
  else if service.serviceName.contains helper.mServiceName then
    { helper with resolving := helper.resolving ++ [service] }
  else helper

def step (helper : NsdHelper) : Event → Option NsdHelper
  | .registerService port => some (helper.registerService port)
  | .onServiceRegistered index suffix => helper.onServiceRegistered index suffix
  | .unregisterService => some helper.unregisterService
  | .onServiceFound service => some (helper.onServiceFound service)

/-- As the registration of a port. -/
def erase : Cast.NsdHelper := ⟨if helper.mSendingBroadcasts then some helper.port else none⟩

/-- The initial name, with any number of suffixes. -/
def IsAudioSync (serviceName : JavaString) : Prop :=
  ∃ suffixes : List Nat, serviceName = initialName ++ (suffixes.map conflictSuffix).flatten

/-- Whichever service is found next, one of another device is resolved, and one that this device
advertises is not. Two services that are advertised have different names. -/
def Discovers : Prop :=
  (∀ serviceName, IsAudioSync serviceName → helper.advertised ≠ some serviceName →
    (helper.onServiceFound ⟨serviceName, SERVICE_TYPE⟩).resolving =
      helper.resolving ++ [⟨serviceName, SERVICE_TYPE⟩]) ∧
  ∀ serviceName, helper.advertised = some serviceName →
    (helper.onServiceFound ⟨serviceName, SERVICE_TYPE⟩).resolving = helper.resolving

/-- The name is still the initial one, and the system has confirmed it if it was asked to. -/
structure NameStands : Prop where
  initial : helper.mServiceName = initialName
  confirmed : helper.mSendingBroadcasts = true → helper.advertised = some initialName

/-- All names that the helper and the system know of this device have the property. -/
structure NamesIn (P : JavaString → Prop) : Prop where
  name : P helper.mServiceName
  waiting : ∀ registration ∈ helper.waiting, P registration.serviceName
  advertised : ∀ serviceName ∈ helper.advertised, P serviceName

/-- Only a service that is registered is waited for, and advertised. -/
structure Live : Prop where
  waiting : ∀ registration ∈ helper.waiting, registration.withdrawn = false →
    helper.mSendingBroadcasts = true
  advertised : helper.advertised ≠ none → helper.mSendingBroadcasts = true

/-- All names belong to the application, and only a registered service is advertised. -/
structure Named : Prop where
  names : helper.NamesIn IsAudioSync
  live : helper.Live

section Names

variable {helper} {next : NsdHelper} {serviceName : JavaString}

theorem isAudioSync_initialName : IsAudioSync initialName := ⟨[], (List.append_nil _).symm⟩

theorem isAudioSync_suffix (hName : IsAudioSync serviceName) (suffix : Option Nat) :
    IsAudioSync (serviceName ++ (suffix.map conflictSuffix).getD []) := by
  obtain ⟨suffixes, rfl⟩ := hName
  refine ⟨suffixes ++ suffix.toList, ?_⟩
  cases suffix with
  | none => simp
  | some n => simp

theorem namesIn_initial {P : JavaString → Prop} (hInitial : P initialName) :
    initial.NamesIn P where
  name := hInitial
  waiting := List.forall_mem_nil _
  advertised _ hSome := nomatch hSome

/-- Names are changed only by the suffixes that the system appends. -/
theorem namesIn_step {P : JavaString → Prop} {event : Event} (hNames : helper.NamesIn P)
    (hSuffix : ∀ index suffix, event = .onServiceRegistered index suffix → ∀ serviceName,
      P serviceName → P (serviceName ++ (suffix.map conflictSuffix).getD []))
    (hStep : helper.step event = some next) : next.NamesIn P := by
  obtain ⟨hName, hWaiting, hAdvertised⟩ := hNames
  cases event with
  | registerService port =>
      cases hStep
      unfold registerService
      split
      · exact ⟨hName, hWaiting, hAdvertised⟩
      · refine ⟨hName, fun registration hMem => ?_, hAdvertised⟩
        rcases List.mem_append.mp hMem with hOld | hNew
        · exact hWaiting registration hOld
        · rw [List.mem_singleton.mp hNew]
          exact hName
  | onServiceRegistered index suffix =>
      obtain ⟨registration, hRegistration, rfl⟩ := Option.map_eq_some_iff.mp hStep
      have hOwn := hSuffix index suffix rfl registration.serviceName
        (hWaiting registration (List.mem_of_getElem? hRegistration))
      refine ⟨hOwn, fun other hOther => hWaiting other (List.mem_of_mem_eraseIdx hOther), ?_⟩
      cases hWithdrawn : registration.withdrawn with
      | false =>
          intro serviceName hSome
          cases hSome
          exact hOwn
      | true => exact hAdvertised
  | unregisterService =>
      cases hStep
      unfold unregisterService
      split
      · refine ⟨hName, fun registration hMem => ?_, fun serviceName hSome => nomatch hSome⟩
        obtain ⟨old, hOld, rfl⟩ := List.mem_map.mp hMem
        exact hWaiting old hOld
      · exact ⟨hName, hWaiting, hAdvertised⟩
  | onServiceFound service =>
      cases hStep
      unfold onServiceFound
      split_ifs <;> exact ⟨hName, hWaiting, hAdvertised⟩

theorem live_step {event : Event} (hLive : helper.Live)
    (hStep : helper.step event = some next) : next.Live := by
  obtain ⟨hWaiting, hAdvertised⟩ := hLive
  cases event with
  | registerService port =>
      cases hStep
      unfold registerService
      split
      · exact ⟨hWaiting, hAdvertised⟩
      · exact ⟨fun _ _ _ => rfl, fun _ => rfl⟩
  | onServiceRegistered index suffix =>
      obtain ⟨registration, hRegistration, rfl⟩ := Option.map_eq_some_iff.mp hStep
      refine ⟨fun other hOther => hWaiting other (List.mem_of_mem_eraseIdx hOther), ?_⟩
      cases hWithdrawn : registration.withdrawn with
      | false =>
          intro _
          exact hWaiting registration (List.mem_of_getElem? hRegistration) hWithdrawn
      | true => exact hAdvertised
  | unregisterService =>
      cases hStep
      unfold unregisterService
      split
      · refine ⟨fun registration hMem hKept => ?_, fun hSome => absurd rfl hSome⟩
        obtain ⟨old, -, rfl⟩ := List.mem_map.mp hMem
        cases hKept
      · exact ⟨hWaiting, hAdvertised⟩
  | onServiceFound service =>
      cases hStep
      unfold onServiceFound
      split_ifs <;> exact ⟨hWaiting, hAdvertised⟩

theorem named_initial : initial.Named where
  names := namesIn_initial isAudioSync_initialName
  live := ⟨List.forall_mem_nil _, fun hSome => absurd rfl hSome⟩

theorem named_step {event : Event} (hNamed : helper.Named)
    (hStep : helper.step event = some next) : next.Named where
  names := namesIn_step hNamed.names
    (fun _ suffix _ _ hName => isAudioSync_suffix hName suffix) hStep
  live := live_step hNamed.live hStep

/-- A registration is one of a port: the names play no part in it. -/
theorem erase_registerService (port : Int) :
    (helper.registerService port).erase = helper.erase.registerService port := by
  unfold registerService erase
  cases hSending : helper.mSendingBroadcasts with
  | false => rfl
  | true => simp [hSending, Cast.NsdHelper.registerService]

theorem erase_unregisterService :
    helper.unregisterService.erase = helper.erase.unregisterService := by
  unfold unregisterService erase
  cases hSending : helper.mSendingBroadcasts with
  | false => simp [hSending, Cast.NsdHelper.unregisterService]
  | true => rfl

end Names

section Recognition

variable {helper} {serviceName : JavaString}

/-- Two is as short as any number. -/
theorem length_conflictSuffix_two_le (n : Nat) :
    (conflictSuffix 2).length ≤ (conflictSuffix n).length := by
  have hTwo : (conflictSuffix 2).length = 4 := rfl
  have hDigits : 0 < (JavaString.valueOf n).length := by
    rw [JavaString.valueOf_eq, List.length_append, List.length_map, Int.natAbs_natCast]
    exact Nat.lt_add_left _ (List.length_pos_iff.mpr Nat.toDigits_ne_nil)
  have hParts : (conflictSuffix n).length = 2 + (JavaString.valueOf n).length + 1 := by
    unfold conflictSuffix
    rw [List.length_append, List.length_append]
    rfl
  omega

theorem resolving_onServiceFound_iff :
    (helper.onServiceFound ⟨serviceName, SERVICE_TYPE⟩).resolving =
        helper.resolving ++ [⟨serviceName, SERVICE_TYPE⟩] ↔
      ¬(serviceName = helper.mServiceName ∧ helper.mSendingBroadcasts = true) ∧
        helper.mServiceName <:+: serviceName := by
  have hNone : helper.resolving ≠ helper.resolving ++ [⟨serviceName, SERVICE_TYPE⟩] := by
    simp
  unfold onServiceFound JavaString.contains
  rw [if_neg (not_not.mpr rfl)]
  split_ifs with hOwn hPart
  · exact iff_of_false hNone fun hBoth => hBoth.1 hOwn
  · exact iff_of_true rfl ⟨hOwn, of_decide_eq_true hPart⟩
  · exact iff_of_false hNone fun hBoth => hPart (decide_eq_true hBoth.2)

theorem initialName_infix (hName : IsAudioSync serviceName) : initialName <:+: serviceName := by
  obtain ⟨suffixes, rfl⟩ := hName
  exact (List.prefix_append _ _).isInfix

/-- A name that is not longer than `mServiceName` does not contain it, unless it is the same. -/
theorem mServiceName_eq_of_discovers (hDiscovers : helper.Discovers)
    (hName : IsAudioSync serviceName) (hOther : helper.advertised ≠ some serviceName)
    (hShort : serviceName.length ≤ helper.mServiceName.length) :
    helper.mServiceName = serviceName := by
  have hResolved := hDiscovers.1 serviceName hName hOther
  exact (resolving_onServiceFound_iff.mp hResolved).2.eq_of_length_le hShort

/-- Two names with a short suffix have no longer name in common than the initial one. -/
theorem initial_of_discovers (hNamed : helper.Named) (hDiscovers : helper.Discovers) :
    helper.mServiceName = initialName := by
  obtain ⟨suffixes, hName⟩ := hNamed.names.name
  cases suffixes with
  | nil => rw [hName, List.map_nil, List.flatten_nil, List.append_nil]
  | cons n later =>
      rw [List.map_cons, List.flatten_cons, ← List.append_assoc] at hName
      by_cases hOwn : helper.advertised = some initialName
      · have hSame (m : Nat) (hShort : (conflictSuffix m).length ≤ (conflictSuffix n).length) :
            helper.mServiceName = initialName ++ conflictSuffix m := by
          have hSuffixed : IsAudioSync (initialName ++ conflictSuffix m) :=
            isAudioSync_suffix isAudioSync_initialName (some m)
          apply mServiceName_eq_of_discovers hDiscovers hSuffixed
          · intro hAdvertised
            have hEqual := Option.some.inj (hOwn.symm.trans hAdvertised)
            have hEmpty := List.self_eq_append_right.mp hEqual
            exact absurd hEmpty (by simp [conflictSuffix, JavaString.literal])
          · rw [hName, List.length_append, List.length_append, List.length_append]
            omega
        have hTwo := hSame 2 (length_conflictSuffix_two_le n)
        have hThree := hSame 3 (length_conflictSuffix_two_le n)
        have hBoth := List.append_cancel_left (hTwo.symm.trans hThree)
        exact absurd hBoth (by decide)
      · apply mServiceName_eq_of_discovers hDiscovers isAudioSync_initialName hOwn
        rw [hName, List.append_assoc, List.length_append]
        omega

/-- While the name is the initial one, every other name of the application contains it. -/
theorem discovers_iff (hNamed : helper.Named) : helper.Discovers ↔ helper.NameStands := by
  constructor
  · intro hDiscovers
    have hInitial := initial_of_discovers hNamed hDiscovers
    refine ⟨hInitial, fun hSending => ?_⟩
    by_contra hOther
    have hResolved := hDiscovers.1 initialName isAudioSync_initialName hOther
    exact (resolving_onServiceFound_iff.mp hResolved).1 ⟨hInitial.symm, hSending⟩
  · rintro ⟨hInitial, hConfirmed⟩
    refine ⟨fun serviceName hName hOther => ?_, fun serviceName hOwn => ?_⟩
    · rw [resolving_onServiceFound_iff, hInitial]
      refine ⟨?_, initialName_infix hName⟩
      rintro ⟨rfl, hSending⟩
      exact hOther (hConfirmed hSending)
    · have hSending := hNamed.live.advertised (hOwn ▸ Option.some_ne_none serviceName)
      cases hOwn.symm.trans (hConfirmed hSending)
      unfold onServiceFound
      rw [if_neg (not_not.mpr rfl), if_pos ⟨hInitial.symm, hSending⟩]

end Recognition

section Histories

variable {helper} {events : List Event}

/-- In every history, whichever service is found next is treated rightly if and only if the name
stands. -/
theorem discovers_iff_of_run (hRun : run step initial events = some helper) :
    helper.Discovers ↔ helper.NameStands :=
  discovers_iff (run_keeps (fun _ _ _ => named_step) named_initial hRun)

/-- The device has registered its service under the initial name. -/
def registered : NsdHelper :=
  { initial with mSendingBroadcasts := true, port := 10000, advertised := some initialName }

/-- From then on it finds the others, and not itself. -/
theorem discovers_registered : registered.Discovers := by
  have hRun : run step initial [.registerService 10000, .onServiceRegistered 0 none] =
      some registered := rfl
  exact (discovers_iff_of_run hRun).mpr ⟨rfl, fun _ => rfl⟩

/-- Another device has the name already, so the system finds a new one. -/
def renamed : List Event := [.registerService 10000, .onServiceRegistered 0 (some 2)]

/-- The device does not find the one that has the plain name, even after its own registration has
ended. -/
theorem not_discovers_renamed : ¬ ∀ (events : List Event) (helper : NsdHelper),
    run step initial events = some helper → helper.Discovers := by
  intro hAll
  have hRun : (run step initial (renamed ++ [.unregisterService])).isSome = true := rfl
  have hLonger : (run step initial (renamed ++ [.unregisterService])).all
      (fun helper => decide (helper.mServiceName ≠ initialName)) = true := by decide
  obtain ⟨helper, hHelper⟩ := Option.isSome_iff_exists.mp hRun
  rw [hHelper, Option.all_some, decide_eq_true_iff] at hLonger
  have hNamed := run_keeps (fun _ _ _ => named_step) named_initial hHelper
  exact hLonger (initial_of_discovers hNamed (hAll _ helper hHelper))

/-- The system grants the name that it was asked for. -/
def Grants (_ : NsdHelper) : Event → Prop
  | .onServiceRegistered _ suffix => suffix = none
  | _ => True

theorem unrenamed_step {event : Event} {next : NsdHelper}
    (hNames : helper.NamesIn (· = initialName)) (hGrants : helper.Grants event)
    (hStep : helper.step event = some next) : next.NamesIn (· = initialName) := by
  refine namesIn_step hNames (fun index suffix hEvent serviceName hName => ?_) hStep
  subst hEvent
  rw [show suffix = none from hGrants, hName]
  exact List.append_nil _

/-- Where the system never renames, only a registration that it has not answered yet is in the
way. -/
theorem nameStands_iff_of_grants (hGrants : Meets step Grants initial events)
    (hRun : run step initial events = some helper) :
    helper.NameStands ↔ (helper.mSendingBroadcasts = true → helper.advertised ≠ none) := by
  have hNames := (always_of_meets (fun _ _ _ => unrenamed_step) (namesIn_initial rfl)
    hGrants).of_run hRun
  constructor
  · intro hStands hSending
    rw [hStands.confirmed hSending]
    exact Option.some_ne_none initialName
  · intro hAnswered
    refine ⟨hNames.name, fun hSending => ?_⟩
    obtain ⟨serviceName, hSome⟩ := Option.ne_none_iff_exists'.mp (hAnswered hSending)
    rw [hSome, hNames.advertised serviceName hSome]

end Histories

end NsdHelper

end AudioSync.Cast.Discovery
