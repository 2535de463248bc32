import AudioSync.Core.EntryPoints
import AudioSync.Format.Delivery
import AudioSync.Lib.KeyedTable
import AudioSync.Rtp.ClockExtension

/-! A receiver's clock offset on its way to the statistics of the sender:
`ReceiverSession::SendClockOffset`, `SenderSession::OnAPPPacket` and
`getAudioDestinations`. -/
namespace AudioSync.Core

open ByteOrder Format KeyedTable MachineInt Rtp

def AUDIOSTREAM_PACKET_CLOCK_OFFSET : Nat := 2

/-- `audiostream_clockOffset`, a packed struct. -/
structure ClockOffset where
  systemTimeUs : BitVec 64
  offsetUSeconds : BitVec 64

/-- The struct in memory. -/
def ClockOffset.bytes (clock : ClockOffset) : List Byte :=
  wordBytes clock.systemTimeUs ++ wordBytes clock.offsetUSeconds

/-- What is read from memory as the struct. -/
def ClockOffset.ofBytes (bytes : List Byte) : ClockOffset :=
  ⟨bytesWord (bytes.take 8), bytesWord ((bytes.drop 8).take 8)⟩

/-- `ReceiverSession::SendClockOffset` at a reading of the clock. -/
def ReceiverSession.sendClockOffset (session : RTPSession) (owncname : List Byte)
    (systemTimeUs offsetUSecs : Int) : Except RtcpError (List APPPacketBytes) :=
  let off : ClockOffset := ⟨htonq systemTimeUs, htonq offsetUSecs⟩
  session.sendRTCPAPPPacket owncname AUDIOSTREAM_PACKET_CLOCK_OFFSET AUDIOSTREAM_APP off.bytes

/-- `SenderSession::OnAPPPacket` on the session's source table. -/
def SenderSession.onAPPPacket (sources : Table (BitVec 32) SourceData)
    (apppacket : RTCPAPPPacket) : Table (BitVec 32) SourceData :=
  if apppacket.getSubType = AUDIOSTREAM_PACKET_CLOCK_OFFSET ∧ 16 ≤ apppacket.getAPPDataLength then
    let clock := ClockOffset.ofBytes apppacket.appData
    alter sources apppacket.getSSRC fun source =>
      { source with clockOffsetUSeconds := ntohq clock.offsetUSeconds }
  else sources

/-- The SSRCs of the sources that `getAudioDestinations` lists, in the same order. -/
def remoteSSRCs (sources : Table (BitVec 32) SourceData) : List (BitVec 32) :=
  (sources.entries.filter fun entry => !entry.2.isOwnSSRC).map Sigma.fst

/-- The offset is reported: the packet is sent, it changes the receiver's entry in this
field only and no other entry, and the receiver's record has the offset. -/
def ReportsOffset (core : State) (sources : Table (BitVec 32) SourceData)
    (session : RTPSession) (owncname : List Byte) (systemTimeUs offsetUSecs : Int) : Prop :=
  ∃ packet, ReceiverSession.sendClockOffset session owncname systemTimeUs offsetUSecs =
      .ok [packet] ∧
    let after := SenderSession.onAPPPacket sources (deliver packet)
    let ssrc := session.packetbuilder.ssrc
    after.lookup ssrc = (sources.lookup ssrc).map (fun source =>
        { source with clockOffsetUSeconds := offsetUSecs }) ∧
      (∀ other, other ≠ ssrc → after.lookup other = sources.lookup other) ∧
      ∃ destinations, ∃ i : Nat, core.getAudioDestinations (values after) = .ok (some destinations) ∧
        (remoteSSRCs after)[i]? = some ssrc ∧
        (destinations[i]?).map AudioDestination.timeOffset = some offsetUSecs

section Offsets

variable {core : State} {sources : Table (BitVec 32) SourceData} {session : RTPSession}

theorem ClockOffset.bytes_length (clock : ClockOffset) : clock.bytes.length = 16 := by
  simp [ClockOffset.bytes, wordBytes]

theorem ClockOffset.ofBytes_bytes (clock : ClockOffset) : ofBytes clock.bytes = clock := by
  have hLength : (wordBytes clock.systemTimeUs).length = 8 := by simp [wordBytes]
  have hSecond : (wordBytes clock.offsetUSeconds).length = 8 := by simp [wordBytes]
  rw [ofBytes, bytes, List.take_left' hLength, List.drop_left' hLength,
    List.take_of_length_le hSecond.le, bytesWord_wordBytes, bytesWord_wordBytes]

/-- `htonq` and `ntohq` are inverse to each other on `int64_t`. -/
theorem ntohq_htonq {value : Int} (hFits : Fits 64 value) : ntohq (htonq value) = value := by
  rw [ntohq, htonq, swap64_swap64, BitVec.toInt_ofInt]
  exact (toSigned_eq_self (by decide)).mpr hFits

/-- The handler on a packet that `SendClockOffset` has built. -/
theorem onAPPPacket_deliver {packet : APPPacketBytes} {ssrc : BitVec 32} {clock : ClockOffset}
    (hData : packet.data = RTCPCompoundPacketBuilder.appPacketData
      AUDIOSTREAM_PACKET_CLOCK_OFFSET ssrc AUDIOSTREAM_APP clock.bytes) :
    SenderSession.onAPPPacket sources (deliver packet) = alter sources ssrc fun source =>
      { source with clockOffsetUSeconds := ntohq clock.offsetUSeconds } := by
  have hSubtype : AUDIOSTREAM_PACKET_CLOCK_OFFSET ≤ 31 := by decide
  have hBytes := appData_deliver hData hSubtype
  have hLength : (deliver packet).getAPPDataLength = 16 := by
    rw [← RTCPAPPPacket.appData_length, hBytes, ClockOffset.bytes_length]
  unfold SenderSession.onAPPPacket
  rw [if_pos ⟨getSubType_deliver hData hSubtype, hLength.ge⟩, getSSRC_deliver hData hSubtype,
    hBytes, ClockOffset.ofBytes_bytes]

/-- A remote source has its record at the place of its SSRC. -/
theorem destination_of_lookup {ssrc : BitVec 32} {source : SourceData}
    (hLookup : sources.lookup ssrc = some source) (hRemote : source.isOwnSSRC = false) :
    ∃ i : Nat, (remoteSSRCs sources)[i]? = some ssrc ∧
      ((values sources).filter fun source => !source.isOwnSSRC)[i]? = some source := by
  have hEntry : (⟨ssrc, source⟩ : Sigma fun _ : BitVec 32 => SourceData) ∈
      sources.entries.filter fun entry => !entry.2.isOwnSSRC :=
    List.mem_filter.mpr ⟨AList.mem_lookup_iff.mp hLookup, by simp [hRemote]⟩
  obtain ⟨i, hAt⟩ := List.mem_iff_getElem?.mp hEntry
  have hValues : ((values sources).filter fun source => !source.isOwnSSRC) =
      (sources.entries.filter fun entry => !entry.2.isOwnSSRC).map Sigma.snd :=
    List.filter_map
  refine ⟨i, ?_, ?_⟩
  · rw [remoteSSRCs, List.getElem?_map, hAt]
    rfl
  · rw [hValues, List.getElem?_map, hAt]
    rfl

/-- The SSRC of a source stands once in the list. -/
theorem remoteSSRCs_nodup (sources : Table (BitVec 32) SourceData) :
    (remoteSSRCs sources).Nodup := by
  have hKeys : (sources.entries.map Sigma.fst).Nodup := sources.nodupKeys
  exact hKeys.sublist (List.filter_sublist.map Sigma.fst)

theorem getAudioDestinations_eq {current : Session} (hCurrent : core.current = some current)
    (hAlive : current.deleted = false) {listed : List SourceData}
    (hSome : (listed.filter fun source => !source.isOwnSSRC) ≠ []) :
    core.getAudioDestinations listed = .ok (some
      ((listed.filter fun source => !source.isOwnSSRC).map SourceData.destination)) := by
  have hDeref : core.deref = .ok (some current) := by simp [State.deref, hCurrent, hAlive]
  have hEmpty : (listed.filter fun source => !source.isOwnSSRC).isEmpty = false := by
    simpa using hSome
  simp [State.getAudioDestinations, hDeref, Except.map, hEmpty]

/-- What `SendClockOffset` sends makes the sender store the offset. -/
theorem sendClockOffset_isOk {maxpacksize : Nat} (hReady : session.Ready maxpacksize)
    (hSize : RTP_MINPACKETSIZE ≤ maxpacksize) (sources : Table (BitVec 32) SourceData)
    (owncname : List Byte) (systemTimeUs : Int) {offsetUSecs : Int} (hFits : Fits 64 offsetUSecs) :
    ∃ packet, ReceiverSession.sendClockOffset session owncname systemTimeUs offsetUSecs =
        .ok [packet] ∧
      SenderSession.onAPPPacket sources (deliver packet) =
        alter sources session.packetbuilder.ssrc fun source =>
          { source with clockOffsetUSeconds := offsetUSecs } := by
  have hSubtype : AUDIOSTREAM_PACKET_CLOCK_OFFSET ≤ 31 := by decide
  let off : ClockOffset := ⟨htonq systemTimeUs, htonq offsetUSecs⟩
  have hOff : ntohq off.offsetUSeconds = offsetUSecs := ntohq_htonq hFits
  have hBytes : off.bytes.length = 16 := off.bytes_length
  obtain ⟨packet, hData, hSent⟩ : ∃ packet : APPPacketBytes,
      packet.data = RTCPCompoundPacketBuilder.appPacketData AUDIOSTREAM_PACKET_CLOCK_OFFSET
        session.packetbuilder.ssrc AUDIOSTREAM_APP off.bytes ∧
      ReceiverSession.sendClockOffset session owncname systemTimeUs offsetUSecs = .ok [packet] :=
    sendRTCPAPPPacket_isOk hReady hSize owncname hSubtype (by rw [hBytes]) (by rw [hBytes]; decide)
  exact ⟨packet, hSent, by rw [onAPPPacket_deliver hData, hOff]⟩

/-- The record of a receiver has its offset, as a `jint`. -/
theorem timeOffset_of_lookup {current : Session} (hCurrent : core.current = some current)
    (hAlive : current.deleted = false) {ssrc : BitVec 32} {source : SourceData}
    (hLookup : sources.lookup ssrc = some source) (hRemote : source.isOwnSSRC = false) :
    ∃ destinations, ∃ i : Nat, core.getAudioDestinations (values sources) =
        .ok (some destinations) ∧ (remoteSSRCs sources)[i]? = some ssrc ∧
      (destinations[i]?).map AudioDestination.timeOffset =
        some (toSigned 32 source.clockOffsetUSeconds) := by
  obtain ⟨i, hPlace, hRecord⟩ := destination_of_lookup hLookup hRemote
  have hList := getAudioDestinations_eq hCurrent hAlive (List.ne_nil_of_mem
    (List.mem_of_getElem? hRecord))
  refine ⟨_, i, hList, hPlace, ?_⟩
  rw [List.getElem?_map, hRecord]
  rfl

/-- An offset that is reported fits a `jint`. -/
theorem fits_of_reportsOffset {current : Session} (hCurrent : core.current = some current)
    (hAlive : current.deleted = false) {source : SourceData}
    (hLookup : sources.lookup session.packetbuilder.ssrc = some source)
    (hRemote : source.isOwnSSRC = false) {owncname : List Byte} {systemTimeUs offsetUSecs : Int}
    (hReports : ReportsOffset core sources session owncname systemTimeUs offsetUSecs) :
    Fits 32 offsetUSecs := by
  obtain ⟨packet, -, hHere, -, destinations, i, hReported, hPlace, hTime⟩ := hReports
  rw [hLookup] at hHere
  obtain ⟨listed, j, hListed, hSame, hStored⟩ :=
    timeOffset_of_lookup hCurrent hAlive hHere hRemote
  obtain rfl : i = j := (List.getElem?_inj (List.getElem?_eq_some_iff.mp hPlace).1
    (remoteSSRCs_nodup _)).mp (hPlace.trans hSame.symm)
  cases hReported.symm.trans hListed
  exact (toSigned_eq_self (by decide)).mp (Option.some.inj (hStored.symm.trans hTime))

/-- Every offset is stored as it is, and reported exactly if it fits a `jint`. -/
theorem reportsOffset_iff {current : Session} (hCurrent : core.current = some current)
    (hAlive : current.deleted = false) {maxpacksize : Nat} (hReady : session.Ready maxpacksize)
    (hSize : RTP_MINPACKETSIZE ≤ maxpacksize) {source : SourceData}
    (hLookup : sources.lookup session.packetbuilder.ssrc = some source)
    (hRemote : source.isOwnSSRC = false) (owncname : List Byte) (systemTimeUs : Int)
    {offsetUSecs : Int} (hFits : Fits 64 offsetUSecs) :
    ReportsOffset core sources session owncname systemTimeUs offsetUSecs ↔ Fits 32 offsetUSecs := by
  constructor
  · exact fits_of_reportsOffset hCurrent hAlive hLookup hRemote
  · intro hSmall
    obtain ⟨packet, hSent, hAfter⟩ :=
      sendClockOffset_isOk hReady hSize sources owncname systemTimeUs hFits
    have hHere : (SenderSession.onAPPPacket sources (deliver packet)).lookup
        session.packetbuilder.ssrc = some { source with clockOffsetUSeconds := offsetUSecs } := by
      rw [hAfter, lookup_alter, if_pos rfl, hLookup]
      rfl
    obtain ⟨destinations, i, hReported, hPlace, hTime⟩ :=
      timeOffset_of_lookup hCurrent hAlive hHere hRemote
    rw [(toSigned_eq_self (by decide)).mpr hSmall] at hTime
    refine ⟨packet, hSent, ?_, ?_, destinations, i, hReported, hPlace, hTime⟩
    · rw [hHere, hLookup]
      rfl
    · intro other hOther
      rw [hAfter, lookup_alter, if_neg hOther]

/-- A sender that knows one receiver. -/
def oneReceiver : Table (BitVec 32) SourceData :=
  (∅ : Table (BitVec 32) SourceData).insert 1 ⟨false, [104], 0, 0, 0⟩

/-- A minute is reported. -/
theorem reportsOffset_minute :
    ∃ session, RTPSession.create RTP_DEFAULTPACKETSIZE 1 0 0 = .ok session ∧
      (ReportsOffset (State.initial.start (Session.startStreaming 10000 (.uri "a.mp3")))
        oneReceiver session [104] 0 60000000 ↔ Fits 32 60000000) := by
  obtain ⟨session, hCreate⟩ : ∃ session, RTPSession.create RTP_DEFAULTPACKETSIZE 1 0 0 =
      .ok session := ⟨_, rfl⟩
  obtain ⟨hReady, hSize⟩ := RTPSession.ready_of_create hCreate
  refine ⟨session, hCreate, ?_⟩
  cases hCreate
  exact reportsOffset_iff rfl rfl hReady hSize (by rfl) rfl [104] 0 (by decide)

/-- An offset of 2147483648 us arrives as -2147483648 us. -/
theorem not_reportsOffset_overflow :
    ∃ session, RTPSession.create RTP_DEFAULTPACKETSIZE 1 0 0 = .ok session ∧
      ¬ ReportsOffset (State.initial.start (Session.startStreaming 10000 (.uri "a.mp3")))
        oneReceiver session [104] 0 2147483648 := by
  refine ⟨_, rfl, fun hReports => ?_⟩
  have hFits : Fits 32 2147483648 :=
    fits_of_reportsOffset rfl rfl (show oneReceiver.lookup 1 = _ by rfl) rfl hReports
  exact absurd hFits (by decide)

end Offsets

end AudioSync.Core
