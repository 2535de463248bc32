import AudioSync.Lib.SetUpdate
import AudioSync.Sources.Cases

/-! The transmitter's destinations against the addresses of the clients. -/
namespace AudioSync.Sources.Session

open KeyedTable RTPSourceData SetUpdate

/-- An entry of the table is a client at the address. -/
def ServedAt (sources : Table (BitVec 32) RTPSourceData) (addr : RTPAddress) : Prop :=
  HasValue (fun dat => dat.clientAddress = some addr) sources

def DestinationsFollow (session : Session) : Prop :=
  ∀ addr, addr ∈ session.destinations ↔ ServedAt session.sources addr

/-- A packet does not change the address of a client, unless other clients have the
old and the new one. -/
def KeepsAddress (session : Session) (senderaddress : RTPAddress) (ssrc : BitVec 32)
    (isrtp : Bool) : Prop :=
  ∀ dat ∈ session.sources.lookup ssrc, ∀ dat' ∈ dat.checkCollision senderaddress isrtp,
    dat'.clientAddress = dat.clientAddress ∨
      (∀ addr ∈ dat.clientAddress, ServedAt (session.sources.erase ssrc) addr) ∧
        ∀ addr ∈ dat'.clientAddress, ServedAt (session.sources.erase ssrc) addr

/-- The events that keep the destinations: a client's address does not change, and
who leaves has an address of its own. -/
def DestinationsAdmit (session : Session) : Event → Prop
  | .rtpPacket senderaddress ssrc _ => session.KeepsAddress senderaddress ssrc true
  | .csrcEntry senderaddress csrc => session.KeepsAddress senderaddress csrc true
  | .rtcpReport senderaddress ssrc _ => session.KeepsAddress senderaddress ssrc false
  | .bye senderaddress ssrc =>
      ∀ data ∈ session.getSourceData senderaddress ssrc false, data.1.ownssrc = false →
        ∀ addr ∈ data.1.addressFromData, ¬ ServedAt (session.sources.erase ssrc) addr
  | .timeout ssrc =>
      ∀ dat ∈ session.sources.lookup ssrc, ∀ addr ∈ dat.clientAddress,
        ¬ ServedAt (session.sources.erase ssrc) addr
  | .changeOwnSSRC _ => True

section Callbacks

variable {session : Session} {dat : RTPSourceData} {dest : RTPAddress}

theorem destinations_onNewSource (hOwn : dat.ownssrc = false)
    (hDest : dat.addressFromData = some dest) :
    (session.onNewSource dat).destinations = insert dest session.destinations := by
  simp [onNewSource, hOwn, hDest]

theorem destinations_onBYEPacket (hOwn : dat.ownssrc = false)
    (hDest : dat.addressFromData = some dest) :
    (session.onBYEPacket dat).destinations = session.destinations.erase dest := by
  simp [onBYEPacket, dropSource, hOwn, hDest]

theorem destinations_onRemoveSource :
    (session.onRemoveSource dat).destinations =
      dat.clientAddress.elim session.destinations session.destinations.erase := by
  unfold onRemoveSource
  split
  · next hOwn => simp [clientAddress_of_ownssrc hOwn]
  · next hOwn =>
      rw [Bool.not_eq_true] at hOwn
      split
      · next hBye => simp [clientAddress_of_receivedbye hBye]
      · next hBye =>
          rw [Bool.not_eq_true] at hBye
          simp only [dropSource, clientAddress_of_remote hOwn hBye]
          cases dat.addressFromData <;> rfl

end Callbacks

section Steps

variable {session : Session} {senderaddress : RTPAddress} {ssrc : BitVec 32}
  {dat dat' : RTPSourceData}

theorem servedAt_put (session : Session) (ssrc : BitVec 32) (dat : RTPSourceData)
    (addr : RTPAddress) : ServedAt (session.put ssrc dat).sources addr ↔
      dat.clientAddress = some addr ∨ ServedAt (session.sources.erase ssrc) addr :=
  hasValue_insert _ session.sources ssrc dat

theorem servedAt_of_lookup (hLookup : session.sources.lookup ssrc = some dat)
    (addr : RTPAddress) : ServedAt session.sources addr ↔
      dat.clientAddress = some addr ∨ ServedAt (session.sources.erase ssrc) addr :=
  hasValue_of_lookup _ hLookup

/-- The destinations are right after an update if the addresses match. -/
theorem destinationsFollow_put_iff (hFollow : session.DestinationsFollow)
    (hLookup : session.sources.lookup ssrc = some dat) :
    (session.put ssrc dat').DestinationsFollow ↔
      dat'.clientAddress = dat.clientAddress ∨
        (∀ addr ∈ dat.clientAddress, ServedAt (session.sources.erase ssrc) addr) ∧
          ∀ addr ∈ dat'.clientAddress, ServedAt (session.sources.erase ssrc) addr := by
  rw [← replace_eq_iff]
  refine forall_congr' fun addr => ?_
  rw [servedAt_put, ← servedAt_of_lookup hLookup, ← hFollow addr]
  rfl

theorem destinationsFollow_processPacket_iff (hFollow : session.DestinationsFollow)
    (isrtp validates : Bool) :
    (session.processPacket senderaddress ssrc isrtp validates).DestinationsFollow ↔
      session.KeepsAddress senderaddress ssrc isrtp := by
  apply processPacket_iff
  · intro dat dest hNone hOwn hClient addr
    rw [destinations_onNewSource hOwn (remote_of_clientAddress hClient).2.2, Finset.mem_insert,
      (onNewSource_frame _ dat).1, servedAt_put, hClient, erase_of_lookup_none hNone,
      ← hFollow addr, Option.some.injEq, eq_comm]
    rfl
  · exact hFollow
  · intro dat dat' validated hLookup hCollision
    exact destinationsFollow_put_iff hFollow hLookup

theorem destinationsFollow_processCSRC_iff (hFollow : session.DestinationsFollow) :
    (session.processCSRC senderaddress ssrc).DestinationsFollow ↔
      session.KeepsAddress senderaddress ssrc true := by
  rcases processCSRC_cases session senderaddress ssrc with
    ⟨hNone, csrcdat, hAddress, hEq⟩ | ⟨-, hEq⟩
  · refine iff_of_true (fun addr => ?_) (by simp [KeepsAddress, hNone])
    rw [hEq, servedAt_put, hAddress, erase_of_lookup_none hNone, ← hFollow addr]
    simp [put]
  · rw [hEq]
    exact destinationsFollow_processPacket_iff hFollow true true

/-- The destinations are right after a source has left if nobody else has its
address. -/
theorem destinationsFollow_left_iff {next : Session} (set : Finset RTPAddress)
    (old : Option RTPAddress) {others : Table (BitVec 32) RTPSourceData} {dest : RTPAddress}
    (hDestinations : next.destinations = set.erase dest)
    (hSources : ∀ addr, ServedAt next.sources addr ↔ ServedAt others addr)
    (hSet : ∀ addr, addr ∈ set ↔ old = some addr ∨ ServedAt others addr)
    (hOld : ∀ addr ∈ old, addr = dest) :
    next.DestinationsFollow ↔ ¬ ServedAt others dest := by
  rw [← erase_eq_others_iff hSet hOld, ← hDestinations]
  exact forall_congr' fun addr => by rw [hSources]

/-- The first BYE ends the service, a later one finds the source as it left it. -/
theorem servedAt_put_of_receivedbye (hBye : dat.receivedbye = true) (addr : RTPAddress) :
    ServedAt (session.put ssrc dat).sources addr ↔ ServedAt (session.sources.erase ssrc) addr := by
  rw [servedAt_put, clientAddress_of_receivedbye hBye]
  simp

theorem destinationsFollow_processBYE_iff (hFollow : session.DestinationsFollow) :
    (session.processBYE senderaddress ssrc).DestinationsFollow ↔
      session.DestinationsAdmit (.bye senderaddress ssrc) := by
  rcases processBYE_cases session senderaddress ssrc with
    ⟨hNone, dat, hOwn, hBye, hDest, hEq⟩ |
      ⟨dat, hLookup, ⟨hCollision, hEq⟩ | ⟨dat', hCollision, ⟨hOwn, hEq⟩ | ⟨hOwn, hEq⟩⟩⟩
  · -- The address is added and taken out again, whoever had it before.
    have hData : session.getSourceData senderaddress ssrc false =
        some (new.setAddress false senderaddress, true) := by
      simp only [getSourceData, hNone]
    have hLeft : (session.processBYE senderaddress ssrc).DestinationsFollow ↔
        ¬ ServedAt (session.sources.erase ssrc) ⟨senderaddress.ip, senderaddress.port - 1⟩ := by
      apply destinationsFollow_left_iff
        (insert ⟨senderaddress.ip, senderaddress.port - 1⟩ session.destinations)
        (some ⟨senderaddress.ip, senderaddress.port - 1⟩)
      · rw [hEq, destinations_onBYEPacket hOwn hDest, destinations_onNewSource hOwn hDest]
        rfl
      · intro addr
        rw [hEq, (onBYEPacket_frame _ dat).1, (onNewSource_frame _ dat).1,
          servedAt_put_of_receivedbye hBye]
      · intro addr
        rw [Finset.mem_insert, hFollow addr, erase_of_lookup_none hNone, Option.some.injEq,
          eq_comm]
      · intro addr hAddr
        exact (Option.some.inj hAddr).symm
    rw [hLeft]
    constructor
    · intro hFree data hOther _ addr hAddr
      obtain rfl := Option.some.inj (hData.symm.trans hOther)
      obtain rfl := Option.some.inj hAddr
      exact hFree
    · exact fun hAdmit => hAdmit _ hData rfl _ rfl
  · have hData : session.getSourceData senderaddress ssrc false = none := by
      simp only [getSourceData, hLookup, hCollision, Option.map_none]
    rw [hEq]
    exact iff_of_true hFollow (by simp [DestinationsAdmit, hData])
  · have hData : session.getSourceData senderaddress ssrc false = some (dat', false) := by
      simp only [getSourceData, hLookup, hCollision, Option.map_some]
    rw [hEq, destinationsFollow_put_iff hFollow hLookup]
    have hDatOwn : dat.ownssrc = true := (ownssrc_of_checkCollision hCollision).symm.trans hOwn
    apply iff_of_true
    · exact Or.inl (by rw [clientAddress_of_ownssrc hOwn, clientAddress_of_ownssrc hDatOwn])
    · simp [DestinationsAdmit, hData, hOwn]
  · have hData : session.getSourceData senderaddress ssrc false = some (dat', false) := by
      simp only [getSourceData, hLookup, hCollision, Option.map_some]
    obtain ⟨dest, hDest⟩ := Option.isSome_iff_exists.mp (isSome_of_checkCollision hCollision)
    have hLeft : (session.processBYE senderaddress ssrc).DestinationsFollow ↔
        ¬ ServedAt (session.sources.erase ssrc) dest := by
      apply destinationsFollow_left_iff session.destinations dat.clientAddress
      · rw [hEq, destinations_onBYEPacket (by exact hOwn) (by exact hDest)]
        rfl
      · intro addr
        rw [hEq, (onBYEPacket_frame _ _).1, servedAt_put_of_receivedbye rfl]
      · intro addr
        rw [hFollow addr, servedAt_of_lookup hLookup]
      · intro addr hAddr
        have hKnown := addressFromData_of_checkCollision_rtcp hCollision
          (remote_of_clientAddress hAddr).2.2
        exact Option.some.inj (hKnown.symm.trans hDest)
    rw [hLeft]
    simp [DestinationsAdmit, hData, hOwn, hDest]

theorem destinationsFollow_timeout_iff (hFollow : session.DestinationsFollow) {next : Session}
    (hTimeout : session.timeout ssrc = some next) :
    next.DestinationsFollow ↔ session.DestinationsAdmit (.timeout ssrc) := by
  obtain ⟨dat, hLookup, -, rfl⟩ := timeout_eq_some session ssrc hTimeout
  have hBefore (addr : RTPAddress) := (hFollow addr).trans (servedAt_of_lookup hLookup addr)
  have hAdmit : session.DestinationsAdmit (.timeout ssrc) ↔
      ∀ addr ∈ dat.clientAddress, ¬ ServedAt (session.sources.erase ssrc) addr := by
    simp only [DestinationsAdmit, hLookup, Option.mem_some_iff, forall_eq']
  rw [hAdmit]
  cases hAddress : dat.clientAddress with
  | none =>
      refine iff_of_true (fun addr => ?_) (fun addr hAddr => by cases hAddr)
      rw [destinations_onRemoveSource, hAddress, (onRemoveSource_frame _ dat).1]
      exact (hBefore addr).trans (by simp [hAddress])
  | some dest =>
      have hLeft : (onRemoveSource { session with sources := session.sources.erase ssrc }
          dat).DestinationsFollow ↔ ¬ ServedAt (session.sources.erase ssrc) dest := by
        apply destinationsFollow_left_iff session.destinations dat.clientAddress
        · rw [destinations_onRemoveSource, hAddress]
          rfl
        · intro addr
          rw [(onRemoveSource_frame _ dat).1]
        · exact hBefore
        · intro addr hAddr
          exact Option.some.inj (hAddr.symm.trans hAddress)
      rw [hLeft]
      simp

theorem destinationsFollow_changeOwnSSRC (hOwn : session.OwnEntry)
    (hFollow : session.DestinationsFollow) {next : Session}
    (hChange : session.changeOwnSSRC ssrc = some next) : next.DestinationsFollow := by
  obtain ⟨owndata, hOwndata, hMark⟩ := hOwn
  obtain ⟨hErased, rfl⟩ := changeOwnSSRC_eq_some hOwndata hChange
  intro addr
  have hBefore := (hFollow addr).trans (servedAt_of_lookup hOwndata addr)
  rw [clientAddress_of_ownssrc hMark] at hBefore
  rw [ServedAt, hasValue_insert, erase_of_lookup_none hErased]
  simpa [ServedAt, clientAddress_of_ownssrc, own] using hBefore

theorem destinationsFollow_step_iff {next : Session} {event : Event} (hOwn : session.OwnEntry)
    (hFollow : session.DestinationsFollow) (hStep : session.step event = some next) :
    next.DestinationsFollow ↔ session.DestinationsAdmit event := by
  cases event with
  | rtpPacket senderaddress ssrc validates =>
      cases hStep
      exact destinationsFollow_processPacket_iff hFollow true validates
  | csrcEntry senderaddress csrc =>
      cases hStep
      exact destinationsFollow_processCSRC_iff hFollow
  | rtcpReport senderaddress ssrc validates =>
      cases hStep
      exact destinationsFollow_processPacket_iff hFollow false validates
  | bye senderaddress ssrc =>
      cases hStep
      exact destinationsFollow_processBYE_iff hFollow
  | timeout ssrc => exact destinationsFollow_timeout_iff hFollow hStep
  | changeOwnSSRC newssrc =>
      exact iff_of_true (destinationsFollow_changeOwnSSRC hOwn hFollow hStep) trivial

end Steps

theorem destinationsFollow_create (ssrc : BitVec 32) (format : Option String) :
    (create ssrc format).DestinationsFollow := by
  intro addr
  rw [create, ServedAt, hasValue_insert, erase_of_lookup_none (AList.lookup_empty ssrc)]
  constructor
  · intro hMem
    cases Finset.notMem_empty addr hMem
  · rintro (hOwn | ⟨other, dat, hLookup, -⟩)
    · cases hOwn
    · cases hLookup

/-- The destinations are right throughout a run exactly when every event keeps them. -/
theorem always_destinationsFollow_iff (ssrc : BitVec 32) (format : Option String)
    (events : List Event) :
    Transition.Always step DestinationsFollow (create ssrc format) events ↔
      Transition.Meets step DestinationsAdmit (create ssrc format) events := by
  apply Transition.always_iff_meets OwnEntry
  · exact fun _ _ _ hOwn hStep => hOwn.step hStep
  · exact fun _ _ _ hOwn hFollow hStep => destinationsFollow_step_iff hOwn hFollow hStep
  · exact ownEntry_create ssrc format
  · exact destinationsFollow_create ssrc format

/-- A client comes back with a new SSRC; the timeout of the old one cuts it off. -/
theorem not_always_destinationsFollow_rejoin :
    ¬ Transition.Always step DestinationsFollow (create 1 none)
      [.rtcpReport ⟨10, 5001⟩ 2 true, .rtcpReport ⟨10, 5001⟩ 3 true, .timeout 2] := by
  intro hAlways
  have hServed := (hAlways.of_run rfl ⟨10, 5000⟩).mpr ⟨3, _, rfl, rfl⟩
  exact absurd hServed (by decide)

end AudioSync.Sources.Session
