import AudioSync.Sources.Cases

/-! `connectedSources` against the clients in the source table. -/
namespace AudioSync.Sources.Session

open KeyedTable RTPSourceData

/-- The sources of other sessions with a known address that have not said BYE. -/
def clients (session : Session) : Nat := countValues isClient session.sources

def CountsClients (session : Session) : Prop := session.connectedSources = session.clients

/-- A packet from `senderaddress` does not make a client of an entry that is in the
table already. -/
def NoLateClient (session : Session) (senderaddress : RTPAddress) (ssrc : BitVec 32)
    (isrtp : Bool) : Prop :=
  ∀ dat ∈ session.sources.lookup ssrc, ∀ dat' ∈ dat.checkCollision senderaddress isrtp,
    dat'.isClient = true → dat.isClient = true

/-- The events that keep the count: no entry gets its first address late, and an
entry that says BYE has been a client. -/
def CountAdmits (session : Session) : Event → Prop
  | .rtpPacket senderaddress ssrc _ => session.NoLateClient senderaddress ssrc true
  | .csrcEntry senderaddress csrc => session.NoLateClient senderaddress csrc true
  | .rtcpReport senderaddress ssrc _ => session.NoLateClient senderaddress ssrc false
  | .bye senderaddress ssrc =>
      ∀ dat ∈ session.sources.lookup ssrc, dat.ownssrc = false →
        (dat.checkCollision senderaddress false).isSome = true → dat.isClient = true
  | .timeout _ => True
  | .changeOwnSSRC _ => True

section Counting

variable {session : Session} {ssrc : BitVec 32} {dat dat' : RTPSourceData}

theorem clients_of_lookup (hLookup : session.sources.lookup ssrc = some dat) :
    session.clients =
      countValues isClient (session.sources.erase ssrc) + dat.isClient.toNat :=
  countValues_of_lookup isClient hLookup

theorem clients_put (session : Session) (ssrc : BitVec 32) (dat : RTPSourceData) :
    (session.put ssrc dat).clients =
      countValues isClient (session.sources.erase ssrc) + dat.isClient.toNat :=
  countValues_insert isClient session.sources ssrc dat

theorem clients_put_of_lookup_none (hLookup : session.sources.lookup ssrc = none) :
    (session.put ssrc dat).clients = session.clients + dat.isClient.toNat := by
  rw [clients_put, erase_of_lookup_none hLookup]
  rfl

theorem clients_congr {other : Session} (h : other.sources = session.sources) :
    other.clients = session.clients := by
  rw [clients, h, clients]

theorem connectedSources_onNewSource {dest : RTPAddress} (hOwn : dat.ownssrc = false)
    (hDest : dat.addressFromData = some dest) :
    (session.onNewSource dat).connectedSources = session.connectedSources + 1 := by
  simp [onNewSource, hOwn, hDest]

theorem connectedSources_onBYEPacket {dest : RTPAddress} (hOwn : dat.ownssrc = false)
    (hDest : dat.addressFromData = some dest) :
    (session.onBYEPacket dat).connectedSources = session.connectedSources - 1 := by
  simp [onBYEPacket, dropSource, hOwn, hDest]

/-- A source that is removed is counted until then if it was a client. -/
theorem connectedSources_onRemoveSource :
    (session.onRemoveSource dat).connectedSources =
      session.connectedSources - dat.isClient.toNat := by
  unfold onRemoveSource
  split
  · next hOwn => simp [isClient, clientAddress_of_ownssrc hOwn]
  · next hOwn =>
      rw [Bool.not_eq_true] at hOwn
      split
      · next hBye => simp [isClient, clientAddress_of_receivedbye hBye]
      · next hBye =>
          rw [Bool.not_eq_true] at hBye
          simp only [dropSource, isClient, clientAddress_of_remote hOwn hBye]
          cases dat.addressFromData <;> simp

/-- The clients after an update, against those before. -/
theorem countsClients_put_iff (hCount : session.CountsClients)
    (hLookup : session.sources.lookup ssrc = some dat) :
    (session.put ssrc dat').CountsClients ↔ dat'.isClient = dat.isClient := by
  have hBefore : session.connectedSources = session.clients := hCount
  rw [clients_of_lookup hLookup] at hBefore
  have hAfter : (session.put ssrc dat').connectedSources = session.connectedSources := rfl
  rw [CountsClients, clients_put, hAfter, hBefore]
  cases dat'.isClient <;> cases dat.isClient <;> grind

end Counting

section Steps

variable {session : Session} {senderaddress : RTPAddress} {ssrc : BitVec 32}

theorem countsClients_processPacket_iff (hCount : session.CountsClients)
    (isrtp validates : Bool) :
    (session.processPacket senderaddress ssrc isrtp validates).CountsClients ↔
      session.NoLateClient senderaddress ssrc isrtp := by
  apply processPacket_iff
  · intro dat dest hNone hOwn hClient
    have hIsClient : dat.isClient = true := by simp [isClient, hClient]
    have hPut : (session.put ssrc dat).connectedSources = session.clients := hCount
    rw [CountsClients, connectedSources_onNewSource hOwn (remote_of_clientAddress hClient).2.2,
      clients_congr (onNewSource_frame _ dat).1, clients_put_of_lookup_none hNone, hPut, hIsClient]
    rfl
  · exact hCount
  · intro dat dat' validated hLookup hCollision
    rw [countsClients_put_iff hCount hLookup]
    -- Nobody stops being a client here, so only one direction is in question.
    have hStays : dat.isClient = true → dat'.isClient = true :=
      isClient_of_checkCollision hCollision
    exact ⟨fun hSame hClient => hSame.symm.trans hClient,
      fun hKeep => Bool.eq_iff_iff.mpr ⟨hKeep, hStays⟩⟩

theorem countsClients_processCSRC_iff (hCount : session.CountsClients) :
    (session.processCSRC senderaddress ssrc).CountsClients ↔
      session.NoLateClient senderaddress ssrc true := by
  rcases processCSRC_cases session senderaddress ssrc with
    ⟨hNone, csrcdat, hAddress, hEq⟩ | ⟨-, hEq⟩
  · have hCSRC : (session.put ssrc csrcdat).CountsClients := by
      have hPut : (session.put ssrc csrcdat).connectedSources = session.clients := hCount
      rw [CountsClients, clients_put_of_lookup_none hNone, hPut, isClient, hAddress]
      rfl
    rw [hEq]
    exact iff_of_true hCSRC (by simp [NoLateClient, hNone])
  · rw [hEq]
    exact countsClients_processPacket_iff hCount true true

theorem countsClients_processBYE_iff (hCount : session.CountsClients) :
    (session.processBYE senderaddress ssrc).CountsClients ↔
      session.CountAdmits (.bye senderaddress ssrc) := by
  rcases processBYE_cases session senderaddress ssrc with
    ⟨hNone, dat, hOwn, hBye, hDest, hEq⟩ |
      ⟨dat, hLookup, ⟨hCollision, hEq⟩ | ⟨dat', hCollision, ⟨hOwn, hEq⟩ | ⟨hOwn, hEq⟩⟩⟩
  · have hNew : (session.processBYE senderaddress ssrc).CountsClients := by
      have hNotClient : dat.isClient = false := by
        simp [isClient, clientAddress_of_receivedbye hBye]
      have hPut : (session.put ssrc dat).connectedSources = session.clients := hCount
      rw [hEq, CountsClients, connectedSources_onBYEPacket hOwn hDest,
        connectedSources_onNewSource hOwn hDest, clients_congr (onBYEPacket_frame _ dat).1,
        clients_congr (onNewSource_frame _ dat).1, clients_put_of_lookup_none hNone, hPut,
        hNotClient]
      simp
    exact iff_of_true hNew (by simp [CountAdmits, hNone])
  · rw [hEq]
    exact iff_of_true hCount (by simp [CountAdmits, hLookup, hCollision])
  · have hDatOwn : dat.ownssrc = true := (ownssrc_of_checkCollision hCollision).symm.trans hOwn
    rw [hEq, countsClients_put_iff hCount hLookup]
    apply iff_of_true
    · simp [isClient, clientAddress_of_ownssrc, hOwn, hDatOwn]
    · simp [CountAdmits, hLookup, hDatOwn]
  · -- `OnBYEPacket` counts down; the entry is no client any more.
    obtain ⟨dest, hDest⟩ := Option.isSome_iff_exists.mp (isSome_of_checkCollision hCollision)
    have hBefore : session.connectedSources = session.clients := hCount
    rw [clients_of_lookup hLookup] at hBefore
    have hPut : (session.put ssrc { dat' with receivedbye := true }).connectedSources =
        session.connectedSources := rfl
    have hNotClient : ({ dat' with receivedbye := true } : RTPSourceData).isClient = false := by
      simp [isClient, clientAddress]
    have hLeft : ({ dat' with receivedbye := true } : RTPSourceData).addressFromData =
        some dest := hDest
    have hIff : (session.processBYE senderaddress ssrc).CountsClients ↔ dat.isClient = true := by
      rw [hEq, CountsClients, connectedSources_onBYEPacket (by exact hOwn) hLeft,
        clients_congr (onBYEPacket_frame _ _).1, clients_put, hPut, hBefore, hNotClient]
      cases dat.isClient with
      | true => simp
      | false =>
          simp only [Bool.toNat_false, Bool.false_eq_true, iff_false]
          omega
    have hRemote : dat.ownssrc = false := (ownssrc_of_checkCollision hCollision).symm.trans hOwn
    rw [hIff]
    simp [CountAdmits, hLookup, hCollision, hRemote]

theorem countsClients_timeout (hCount : session.CountsClients) {next : Session}
    (hTimeout : session.timeout ssrc = some next) : next.CountsClients := by
  obtain ⟨dat, hLookup, -, rfl⟩ := timeout_eq_some session ssrc hTimeout
  have hBefore : session.connectedSources = session.clients := hCount
  rw [clients_of_lookup hLookup] at hBefore
  rw [CountsClients, connectedSources_onRemoveSource, clients_congr (onRemoveSource_frame _ dat).1]
  change session.connectedSources - dat.isClient.toNat =
    countValues isClient (session.sources.erase ssrc)
  omega

theorem countsClients_changeOwnSSRC (hOwn : session.OwnEntry) (hCount : session.CountsClients)
    {next : Session} (hChange : session.changeOwnSSRC ssrc = some next) : next.CountsClients := by
  obtain ⟨owndata, hOwndata, hMark⟩ := hOwn
  obtain ⟨hErased, rfl⟩ := changeOwnSSRC_eq_some hOwndata hChange
  have hBefore : session.connectedSources = session.clients := hCount
  have hNotClient : owndata.isClient = false := by
    simp [isClient, clientAddress_of_ownssrc hMark]
  rw [clients_of_lookup hOwndata, hNotClient] at hBefore
  rw [CountsClients, clients, countValues_insert, erase_of_lookup_none hErased]
  exact hBefore

theorem countsClients_step_iff {next : Session} {event : Event} (hOwn : session.OwnEntry)
    (hCount : session.CountsClients) (hStep : session.step event = some next) :
    next.CountsClients ↔ session.CountAdmits event := by
  cases event with
  | rtpPacket senderaddress ssrc validates =>
      cases hStep
      exact countsClients_processPacket_iff hCount true validates
  | csrcEntry senderaddress csrc =>
      cases hStep
      exact countsClients_processCSRC_iff hCount
  | rtcpReport senderaddress ssrc validates =>
      cases hStep
      exact countsClients_processPacket_iff hCount false validates
  | bye senderaddress ssrc =>
      cases hStep
      exact countsClients_processBYE_iff hCount
  | timeout ssrc => exact iff_of_true (countsClients_timeout hCount hStep) trivial
  | changeOwnSSRC newssrc =>
      exact iff_of_true (countsClients_changeOwnSSRC hOwn hCount hStep) trivial

end Steps

theorem countsClients_create (ssrc : BitVec 32) (format : Option String) :
    (create ssrc format).CountsClients := rfl

/-- The counter is right throughout a run exactly when every event keeps it. -/
theorem always_countsClients_iff (ssrc : BitVec 32) (format : Option String)
    (events : List Event) :
    Transition.Always step CountsClients (create ssrc format) events ↔
      Transition.Meets step CountAdmits (create ssrc format) events := by
  apply Transition.always_iff_meets OwnEntry
  · exact fun _ _ _ hOwn hStep => hOwn.step hStep
  · exact fun _ _ _ hOwn hCount hStep => countsClients_step_iff hOwn hCount hStep
  · exact ownEntry_create ssrc format
  · exact countsClients_create ssrc format

/-- A client whose second BYE arrives is subtracted twice. -/
theorem not_always_countsClients_second_bye :
    ¬ Transition.Always step CountsClients (create 1 none)
      [.rtcpReport ⟨10, 5001⟩ 2 true, .bye ⟨10, 5001⟩ 2, .bye ⟨10, 5001⟩ 2] := by
  intro hAlways
  have hEnd := hAlways.of_run rfl
  exact absurd hEnd (by unfold CountsClients; decide)

end AudioSync.Sources.Session
