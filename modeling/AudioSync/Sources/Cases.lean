import AudioSync.Sources.Session

/-! What a packet can do to the source table, case by case. -/
namespace AudioSync.Sources

open KeyedTable

namespace RTPSourceData

variable {dat dat' : RTPSourceData} {senderaddress : RTPAddress} {isrtp : Bool}

/-- A packet without a collision has the address that was known, or its address is
stored. -/
theorem checkCollision_cases (h : dat.checkCollision senderaddress isrtp = some dat') :
    (dat' = dat ∧ (if isrtp then dat.rtpaddr else dat.rtcpaddr) = some (some senderaddress)) ∨
      (dat' = dat.setAddress isrtp senderaddress ∧
        (if isrtp then dat.rtpaddr else dat.rtcpaddr) = none) := by
  unfold checkCollision at h
  split at h
  · next hUnset =>
      split at h
      · exact Or.inr ⟨(Option.some.inj h).symm, hUnset⟩
      · cases h
      · split at h
        · exact Or.inr ⟨(Option.some.inj h).symm, hUnset⟩
        · cases h
  · cases h
  · next addr hSet =>
      split at h
      · next hSame =>
          rw [hSame] at hSet
          exact Or.inl ⟨(Option.some.inj h).symm, hSet⟩
      · cases h

theorem setAddress_ownssrc (isrtp : Bool) (addr : RTPAddress) (dat : RTPSourceData) :
    (dat.setAddress isrtp addr).ownssrc = dat.ownssrc := by
  cases isrtp <;> rfl

theorem setAddress_receivedbye (isrtp : Bool) (addr : RTPAddress) (dat : RTPSourceData) :
    (dat.setAddress isrtp addr).receivedbye = dat.receivedbye := by
  cases isrtp <;> rfl

/-- One of the two addresses is enough. -/
theorem isSome_addressFromData (dat : RTPSourceData) :
    dat.addressFromData.isSome = (dat.rtpaddr.join.isSome || dat.rtcpaddr.join.isSome) := by
  unfold addressFromData
  cases dat.rtpaddr.join <;> simp

theorem isSome_addressFromData_setAddress (isrtp : Bool) (addr : RTPAddress)
    (dat : RTPSourceData) : (dat.setAddress isrtp addr).addressFromData.isSome = true := by
  rw [isSome_addressFromData]
  cases isrtp <;> simp [setAddress]

theorem ownssrc_of_checkCollision (h : dat.checkCollision senderaddress isrtp = some dat') :
    dat'.ownssrc = dat.ownssrc := by
  rcases checkCollision_cases h with ⟨rfl, -⟩ | ⟨rfl, -⟩
  · rfl
  · exact setAddress_ownssrc isrtp senderaddress dat

theorem receivedbye_of_checkCollision (h : dat.checkCollision senderaddress isrtp = some dat') :
    dat'.receivedbye = dat.receivedbye := by
  rcases checkCollision_cases h with ⟨rfl, -⟩ | ⟨rfl, -⟩
  · rfl
  · exact setAddress_receivedbye isrtp senderaddress dat

/-- After a packet that got through, the address of its source is known. -/
theorem isSome_of_checkCollision (h : dat.checkCollision senderaddress isrtp = some dat') :
    dat'.addressFromData.isSome = true := by
  rcases checkCollision_cases h with ⟨rfl, hSet⟩ | ⟨rfl, -⟩
  · rw [isSome_addressFromData]
    cases isrtp <;> simp_all
  · exact isSome_addressFromData_setAddress isrtp senderaddress dat

/-- A packet from RTCP does not change an address that is known. -/
theorem addressFromData_of_checkCollision_rtcp {addr : RTPAddress}
    (h : dat.checkCollision senderaddress false = some dat')
    (hKnown : dat.addressFromData = some addr) : dat'.addressFromData = some addr := by
  rcases checkCollision_cases h with ⟨rfl, -⟩ | ⟨rfl, hUnset⟩
  · exact hKnown
  · simp only [Bool.false_eq_true, if_false] at hUnset
    simp only [addressFromData, hUnset, setAddress] at hKnown ⊢
    cases hAddr : dat.rtpaddr.join <;> simp_all

/-- Whoever is a client stays one when a packet gets through. -/
theorem isClient_of_checkCollision (h : dat.checkCollision senderaddress isrtp = some dat')
    (hClient : dat.isClient = true) : dat'.isClient = true := by
  have hKnown := isSome_of_checkCollision h
  have hOwn := ownssrc_of_checkCollision h
  have hBye := receivedbye_of_checkCollision h
  simp only [isClient, clientAddress, hOwn, hBye] at hClient ⊢
  split_ifs at hClient ⊢
  · exact hClient
  · exact hKnown

theorem clientAddress_of_remote (hOwn : dat.ownssrc = false) (hBye : dat.receivedbye = false) :
    dat.clientAddress = dat.addressFromData := by
  simp [clientAddress, hOwn, hBye]

theorem remote_of_clientAddress {addr : RTPAddress} (h : dat.clientAddress = some addr) :
    dat.ownssrc = false ∧ dat.receivedbye = false ∧ dat.addressFromData = some addr := by
  simp only [clientAddress] at h
  split at h
  · cases h
  · next hRemote =>
      rw [Bool.or_eq_true, not_or, Bool.not_eq_true, Bool.not_eq_true] at hRemote
      exact ⟨hRemote.1, hRemote.2, h⟩

theorem clientAddress_of_ownssrc (hOwn : dat.ownssrc = true) : dat.clientAddress = none := by
  simp [clientAddress, hOwn]

theorem clientAddress_of_receivedbye (hBye : dat.receivedbye = true) :
    dat.clientAddress = none := by
  simp [clientAddress, hBye]

end RTPSourceData

namespace Session

open RTPSourceData

variable (session : Session) (senderaddress : RTPAddress) (ssrc : BitVec 32)

/-- `processPacket` creates an entry with the packet's address, detects a collision
or updates the entry. -/
theorem processPacket_cases (isrtp validates : Bool) :
    (session.sources.lookup ssrc = none ∧ ∃ dat dest, dat.ownssrc = false ∧
        dat.clientAddress = some dest ∧
        session.processPacket senderaddress ssrc isrtp validates =
          (session.put ssrc dat).onNewSource dat) ∨
      ∃ dat, session.sources.lookup ssrc = some dat ∧
        ((dat.checkCollision senderaddress isrtp = none ∧
            session.processPacket senderaddress ssrc isrtp validates =
              session.onSSRCCollision ssrc) ∨
          ∃ dat', dat.checkCollision senderaddress isrtp = some dat' ∧
            session.processPacket senderaddress ssrc isrtp validates =
              session.put ssrc { dat' with validated := dat'.validated || validates }) := by
  cases hLookup : session.sources.lookup ssrc with
  | none =>
      obtain ⟨dest, hDest⟩ := Option.isSome_iff_exists.mp
        (isSome_addressFromData_setAddress isrtp senderaddress new)
      refine Or.inl ⟨rfl, { new.setAddress isrtp senderaddress with
        validated := (new.setAddress isrtp senderaddress).validated || validates }, dest,
        setAddress_ownssrc isrtp senderaddress new, ?_, ?_⟩
      · exact (clientAddress_of_remote (setAddress_ownssrc isrtp senderaddress new)
          (setAddress_receivedbye isrtp senderaddress new)).trans hDest
      · simp only [processPacket, getSourceData, hLookup, if_true]
  | some dat =>
      refine Or.inr ⟨dat, rfl, ?_⟩
      cases hCollision : dat.checkCollision senderaddress isrtp with
      | none =>
          refine Or.inl ⟨rfl, ?_⟩
          simp only [processPacket, getSourceData, hLookup, hCollision, Option.map_none]
      | some dat' =>
          refine Or.inr ⟨dat', rfl, ?_⟩
          simp only [processPacket, getSourceData, hLookup, hCollision, Option.map_some]
          rfl

/-- A property that new sources and collisions keep, and that an update keeps when
the entries before and after it are related, is kept by a packet under the same
condition. -/
theorem processPacket_iff {keeps : Session → Prop}
    {related : RTPSourceData → RTPSourceData → Prop} (isrtp validates : Bool)
    (hNew : ∀ dat dest, session.sources.lookup ssrc = none → dat.ownssrc = false →
      dat.clientAddress = some dest → keeps ((session.put ssrc dat).onNewSource dat))
    (hCollides : keeps (session.onSSRCCollision ssrc))
    (hUpdate : ∀ dat dat' validated, session.sources.lookup ssrc = some dat →
      dat.checkCollision senderaddress isrtp = some dat' →
        (keeps (session.put ssrc { dat' with validated := validated }) ↔ related dat dat')) :
    keeps (session.processPacket senderaddress ssrc isrtp validates) ↔
      ∀ dat ∈ session.sources.lookup ssrc, ∀ dat' ∈ dat.checkCollision senderaddress isrtp,
        related dat dat' := by
  rcases session.processPacket_cases senderaddress ssrc isrtp validates with
    ⟨hNone, dat, dest, hOwn, hClient, hEq⟩ | ⟨dat, hLookup, ⟨hCollision, hEq⟩ | ⟨dat', hCollision, hEq⟩⟩
  · rw [hEq, hNone]
    exact iff_of_true (hNew dat dest hNone hOwn hClient) fun other hOther => by cases hOther
  · rw [hEq, hLookup]
    simp only [Option.mem_some_iff, forall_eq', hCollision]
    exact iff_of_true hCollides fun other hOther => by cases hOther
  · rw [hEq, hLookup]
    simp only [Option.mem_some_iff, forall_eq', hCollision]
    exact hUpdate dat dat' _ hLookup hCollision

/-- `processBYE` makes an entry that has said BYE and calls `OnBYEPacket` for it, but
leaves the session's own entry alone. -/
theorem processBYE_cases :
    (session.sources.lookup ssrc = none ∧ ∃ dat, dat.ownssrc = false ∧ dat.receivedbye = true ∧
        dat.addressFromData = some ⟨senderaddress.ip, senderaddress.port - 1⟩ ∧
        session.processBYE senderaddress ssrc =
          ((session.put ssrc dat).onNewSource dat).onBYEPacket dat) ∨
      ∃ dat, session.sources.lookup ssrc = some dat ∧
        ((dat.checkCollision senderaddress false = none ∧
            session.processBYE senderaddress ssrc = session.onSSRCCollision ssrc) ∨
          ∃ dat', dat.checkCollision senderaddress false = some dat' ∧
            ((dat'.ownssrc = true ∧
                session.processBYE senderaddress ssrc = session.put ssrc dat') ∨
              dat'.ownssrc = false ∧ session.processBYE senderaddress ssrc =
                (session.put ssrc { dat' with receivedbye := true }).onBYEPacket
                  { dat' with receivedbye := true })) := by
  cases hLookup : session.sources.lookup ssrc with
  | none =>
      refine Or.inl ⟨rfl, { new.setAddress false senderaddress with receivedbye := true },
        rfl, rfl, rfl, ?_⟩
      simp only [processBYE, getSourceData, hLookup]
      rfl
  | some dat =>
      refine Or.inr ⟨dat, rfl, ?_⟩
      cases hCollision : dat.checkCollision senderaddress false with
      | none =>
          refine Or.inl ⟨rfl, ?_⟩
          simp only [processBYE, getSourceData, hLookup, hCollision, Option.map_none]
      | some dat' =>
          refine Or.inr ⟨dat', rfl, ?_⟩
          simp only [processBYE, getSourceData, hLookup, hCollision, Option.map_some]
          cases hOwn : dat'.ownssrc with
          | true => exact Or.inl ⟨rfl, rfl⟩
          | false => exact Or.inr ⟨rfl, rfl⟩

/-- A CSRC entry that is not known yet is added without an address. -/
theorem processCSRC_cases :
    (session.sources.lookup ssrc = none ∧ ∃ csrcdat, csrcdat.clientAddress = none ∧
        session.processCSRC senderaddress ssrc = session.put ssrc csrcdat) ∨
      ((session.sources.lookup ssrc).isSome = true ∧
        session.processCSRC senderaddress ssrc =
          session.processPacket senderaddress ssrc true true) := by
  cases hLookup : session.sources.lookup ssrc with
  | none =>
      refine Or.inl ⟨rfl, { new with validated := true }, rfl, ?_⟩
      simp only [processCSRC, hLookup]
      rfl
  | some dat =>
      refine Or.inr ⟨rfl, ?_⟩
      simp only [processCSRC, hLookup]

/-- Only an entry of another session times out. -/
theorem timeout_eq_some {next : Session} (h : session.timeout ssrc = some next) :
    ∃ dat, session.sources.lookup ssrc = some dat ∧ dat.ownssrc = false ∧
      next = ({ session with sources := session.sources.erase ssrc } : Session).onRemoveSource dat := by
  cases hLookup : session.sources.lookup ssrc with
  | none => simp [timeout, hLookup] at h
  | some dat =>
      refine ⟨dat, rfl, ?_⟩
      simp only [timeout, hLookup] at h
      cases hOwn : dat.ownssrc with
      | true => simp [hOwn] at h
      | false => exact ⟨rfl, by simpa [hOwn] using h.symm⟩

/-- The new own entry takes the place of the old one, under a key that is not in use. -/
theorem changeOwnSSRC_eq_some {session next : Session} {newssrc : BitVec 32} {owndata : RTPSourceData}
    (hOwndata : session.sources.lookup session.ownssrc = some owndata)
    (h : session.changeOwnSSRC newssrc = some next) :
    (session.sources.erase session.ownssrc).lookup newssrc = none ∧
      next = { session with
        sources := (session.sources.erase session.ownssrc).insert newssrc own
        ownssrc := newssrc
        owncollision := false } := by
  simp only [changeOwnSSRC] at h
  split at h
  · next hFree =>
      have hKey : newssrc ≠ session.ownssrc := by
        rintro rfl
        rw [hOwndata] at hFree
        cases hFree.2
      exact ⟨(AList.lookup_erase_ne hKey).trans hFree.2, (Option.some.inj h).symm⟩
  · cases h

section Callbacks

variable (dat : RTPSourceData)

/-- The callbacks do not touch the source table. -/
theorem onNewSource_frame : (session.onNewSource dat).sources = session.sources ∧
    (session.onNewSource dat).ownssrc = session.ownssrc := by
  unfold onNewSource
  split
  · exact ⟨rfl, rfl⟩
  · split <;> exact ⟨rfl, rfl⟩

theorem dropSource_frame : (session.dropSource dat).sources = session.sources ∧
    (session.dropSource dat).ownssrc = session.ownssrc := by
  unfold dropSource
  split <;> exact ⟨rfl, rfl⟩

theorem onBYEPacket_frame : (session.onBYEPacket dat).sources = session.sources ∧
    (session.onBYEPacket dat).ownssrc = session.ownssrc := by
  unfold onBYEPacket
  split
  · exact ⟨rfl, rfl⟩
  · exact session.dropSource_frame dat

theorem onRemoveSource_frame : (session.onRemoveSource dat).sources = session.sources ∧
    (session.onRemoveSource dat).ownssrc = session.ownssrc := by
  unfold onRemoveSource
  split_ifs
  · exact ⟨rfl, rfl⟩
  · exact ⟨rfl, rfl⟩
  · exact session.dropSource_frame dat

end Callbacks

/-- The session's own entry is in the table and is marked as such. -/
def OwnEntry (session : Session) : Prop :=
  ∃ dat, session.sources.lookup session.ownssrc = some dat ∧ dat.ownssrc = true

section OwnEntry

variable {session : Session} {senderaddress : RTPAddress} {ssrc : BitVec 32}

theorem ownEntry_create (ssrc : BitVec 32) (format : Option String) :
    (create ssrc format).OwnEntry :=
  ⟨own, AList.lookup_insert _, rfl⟩

/-- An update keeps the own entry if it keeps the mark. -/
theorem OwnEntry.put (h : session.OwnEntry) {dat' : RTPSourceData}
    (hMark : ∀ dat, session.sources.lookup ssrc = some dat → dat.ownssrc = true →
      dat'.ownssrc = true) : (session.put ssrc dat').OwnEntry := by
  obtain ⟨dat, hLookup, hOwn⟩ := h
  by_cases hKey : session.ownssrc = ssrc
  · subst hKey
    exact ⟨dat', AList.lookup_insert _, hMark dat hLookup hOwn⟩
  · exact ⟨dat, (AList.lookup_insert_ne hKey).trans hLookup, hOwn⟩

/-- A new source does not take the place of the own entry. -/
theorem OwnEntry.put_new (h : session.OwnEntry) (hNone : session.sources.lookup ssrc = none)
    (dat : RTPSourceData) : (session.put ssrc dat).OwnEntry := by
  refine h.put fun other hOther => ?_
  rw [hNone] at hOther
  cases hOther

/-- A source that is known keeps its mark. -/
theorem OwnEntry.put_known (h : session.OwnEntry) {dat dat' : RTPSourceData}
    (hLookup : session.sources.lookup ssrc = some dat) (hSame : dat'.ownssrc = dat.ownssrc) :
    (session.put ssrc dat').OwnEntry := by
  refine h.put fun other hOther hOwn => ?_
  obtain rfl : other = dat := Option.some.inj (hOther.symm.trans hLookup)
  exact hSame.trans hOwn

theorem OwnEntry.congr {other : Session} (h : session.OwnEntry)
    (hFrame : other.sources = session.sources ∧ other.ownssrc = session.ownssrc) :
    other.OwnEntry := by
  rw [OwnEntry, hFrame.1, hFrame.2]
  exact h

theorem OwnEntry.processPacket (h : session.OwnEntry) (isrtp validates : Bool) :
    (session.processPacket senderaddress ssrc isrtp validates).OwnEntry := by
  rcases processPacket_cases session senderaddress ssrc isrtp validates with
    ⟨hNone, dat, dest, -, -, hEq⟩ | ⟨dat, hLookup, ⟨-, hEq⟩ | ⟨dat', hCollision, hEq⟩⟩
  · rw [hEq]
    exact (h.put_new hNone dat).congr (onNewSource_frame _ dat)
  · rw [hEq]
    exact h
  · rw [hEq]
    have hMark := ownssrc_of_checkCollision hCollision
    exact h.put_known hLookup hMark

theorem OwnEntry.processBYE (h : session.OwnEntry) :
    (session.processBYE senderaddress ssrc).OwnEntry := by
  rcases processBYE_cases session senderaddress ssrc with
    ⟨hNone, dat, -, -, -, hEq⟩ |
      ⟨dat, hLookup, ⟨-, hEq⟩ | ⟨dat', hCollision, ⟨hOwn', hEq⟩ | ⟨-, hEq⟩⟩⟩
  · rw [hEq]
    exact ((h.put_new hNone dat).congr (onNewSource_frame _ dat)).congr (onBYEPacket_frame _ dat)
  · rw [hEq]
    exact h
  · rw [hEq]
    exact h.put fun _ _ _ => hOwn'
  · rw [hEq]
    have hMark := ownssrc_of_checkCollision hCollision
    have hPut : (session.put ssrc { dat' with receivedbye := true }).OwnEntry :=
      h.put_known hLookup hMark
    exact hPut.congr (onBYEPacket_frame _ _)

/-- No event takes the own entry away. -/
theorem OwnEntry.step {next : Session} {event : Event} (h : session.OwnEntry)
    (hStep : session.step event = some next) : next.OwnEntry := by
  cases event with
  | rtpPacket senderaddress ssrc validates =>
      cases hStep
      exact h.processPacket true validates
  | csrcEntry senderaddress csrc =>
      cases hStep
      rcases processCSRC_cases session senderaddress csrc with
        ⟨hNone, csrcdat, -, hEq⟩ | ⟨-, hEq⟩
      · rw [hEq]
        exact h.put_new hNone csrcdat
      · rw [hEq]
        exact h.processPacket true true
  | rtcpReport senderaddress ssrc validates =>
      cases hStep
      exact h.processPacket false validates
  | bye senderaddress ssrc =>
      cases hStep
      exact h.processBYE
  | timeout ssrc =>
      obtain ⟨dat, hLookup, hRemote, rfl⟩ := timeout_eq_some session ssrc hStep
      obtain ⟨owndata, hOwndata, hOwn⟩ := h
      have hKey : session.ownssrc ≠ ssrc := by
        rintro rfl
        obtain rfl : owndata = dat := Option.some.inj (hOwndata.symm.trans hLookup)
        rw [hRemote] at hOwn
        cases hOwn
      refine ⟨owndata, ?_, hOwn⟩
      rw [(onRemoveSource_frame _ dat).1, (onRemoveSource_frame _ dat).2]
      exact (AList.lookup_erase_ne hKey).trans hOwndata
  | changeOwnSSRC newssrc =>
      obtain ⟨owndata, hOwndata, -⟩ := h
      obtain ⟨-, rfl⟩ := changeOwnSSRC_eq_some hOwndata hStep
      exact ⟨own, AList.lookup_insert _, rfl⟩

end OwnEntry

end Session

end AudioSync.Sources
