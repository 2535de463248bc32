import AudioSync.Rtp.Session
import AudioSync.Lib.ByteOrder

/-! How jrtplib builds a compound RTCP packet around an APP packet:
`RTCPCompoundPacketBuilder` and `RTPSession::SendRTCPAPPPacket`. -/
namespace AudioSync.Rtp

open ByteOrder

/-- `RTP_RTCPTYPE_APP`. -/
def RTP_RTCPTYPE_APP : Byte := 204

/-- The error codes of the functions below. -/
inductive RtcpError where
  | maxPacketSizeTooSmall
  | illegalSubType
  | illegalAppDataLength
  | appDataLenTooBig
  | notEnoughBytesLeft
  | noCurrentSource
  | sessionNotCreated
  | transNotCreated
  | specifiedSizeTooBig
  deriving DecidableEq, Repr

/-- The bytes of one APP packet. Its header counts its words, less one, in 16 bits. -/
structure APPPacketBytes where
  data : List Byte
  short : data.length ≤ 4 * 2 ^ 16

/-- A source of the SDES packet with the sizes of its items. -/
structure SDESSource where
  ssrc : BitVec 32
  items : List Nat

/-- `SDESSource::NeededBytes`: the SSRC, the items and a zero byte, in whole words. -/
def SDESSource.neededBytes (source : SDESSource) : Nat :=
  4 + (source.items.sum + 1 + 3) / 4 * 4

/-- `RTCPCompoundPacketBuilder` while it builds; `headerlength` is that of the report. -/
structure RTCPCompoundPacketBuilder where
  maximumpacketsize : Nat
  headerlength : Nat
  sdessources : List SDESSource
  apppackets : List APPPacketBytes

namespace RTCPCompoundPacketBuilder

/-- `InitBuild` of a new builder. -/
def initBuild (maxpacketsize : Nat) : Except RtcpError RTCPCompoundPacketBuilder :=
  if maxpacketsize < RTP_MINPACKETSIZE then .error .maxPacketSizeTooSmall
  else .ok ⟨maxpacketsize, 0, [], []⟩

/-- The report's `NeededBytes`, without report blocks. -/
def reportBytes (pb : RTCPCompoundPacketBuilder) : Nat :=
  if pb.headerlength = 0 then 0 else 4 + pb.headerlength

/-- The `NeededBytes` of an SDES packet with these sources; one packet has 31 at most. -/
def sdesBytes (sources : List SDESSource) : Nat :=
  (sources.map SDESSource.neededBytes).sum + (sources.length + 30) / 31 * 4

def appsize (pb : RTCPCompoundPacketBuilder) : Nat :=
  (pb.apppackets.map fun packet => packet.data.length).sum

def startReceiverReport (pb : RTCPCompoundPacketBuilder) :
    Except RtcpError RTCPCompoundPacketBuilder :=
  if pb.maximumpacketsize < pb.appsize + sdesBytes pb.sdessources + 8 then
    .error .notEnoughBytesLeft
  else .ok { pb with headerlength := 4 }

/-- The check is made with two more words for the new source, and with none for the first. -/
def addSDESSource (pb : RTCPCompoundPacketBuilder) (ssrc : BitVec 32) :
    Except RtcpError RTCPCompoundPacketBuilder :=
  let sdesBytes :=
    if pb.sdessources = [] then 0
    else (pb.sdessources.map SDESSource.neededBytes).sum + 8 +
      (pb.sdessources.length + 1 + 30) / 31 * 4
  if pb.maximumpacketsize < pb.appsize + pb.reportBytes + sdesBytes then
    .error .notEnoughBytesLeft
  else .ok { pb with sdessources := pb.sdessources ++ [⟨ssrc, []⟩] }

/-- `AddSDESNormalItem`, whose length argument is a `uint8_t`. -/
def addSDESNormalItem (pb : RTCPCompoundPacketBuilder) (itemlength : BitVec 8) :
    Except RtcpError RTCPCompoundPacketBuilder :=
  match pb.sdessources.getLast? with
  | none => .error .noCurrentSource
  | some source =>
      let sources := pb.sdessources.dropLast ++
        [{ source with items := source.items ++ [2 + itemlength.toNat] }]
      if pb.maximumpacketsize < pb.appsize + pb.reportBytes + sdesBytes sources then
        .error .notEnoughBytesLeft
      else .ok { pb with sdessources := sources }

/-- The bytes of an APP packet: version and subtype, the packet type, the length, the SSRC,
the name and the data, all numbers in network order. -/
def appPacketData (subtype : Nat) (ssrc : BitVec 32) (name appdata : List Byte) : List Byte :=
  [BitVec.ofNat 8 (128 + subtype), RTP_RTCPTYPE_APP] ++
    (littleEndian 2 (appdata.length / 4 + 2)).reverse ++ (littleEndian 4 ssrc.toNat).reverse ++
    name ++ appdata

theorem appPacketData_length (subtype : Nat) (ssrc : BitVec 32) {name appdata : List Byte}
    (hName : name.length = 4) :
    (appPacketData subtype ssrc name appdata).length = 12 + appdata.length := by
  simp [appPacketData, hName]
  omega

/-- `AddAPPPacket`. -/
def addAPPPacket (pb : RTCPCompoundPacketBuilder) (subtype : Nat) (ssrc : BitVec 32)
    (name : { name : List Byte // name.length = 4 }) (appdata : List Byte) :
    Except RtcpError RTCPCompoundPacketBuilder :=
  if 31 < subtype then .error .illegalSubType
  else if hWords : appdata.length % 4 ≠ 0 then .error .illegalAppDataLength
  else if hBig : 65535 < appdata.length / 4 + 2 then .error .appDataLenTooBig
  else if pb.maximumpacketsize <
      pb.appsize + sdesBytes pb.sdessources + pb.reportBytes + (12 + appdata.length) then
    .error .notEnoughBytesLeft
  else .ok { pb with
    apppackets := pb.apppackets ++ [
      { data := appPacketData subtype ssrc name appdata
        short := by rw [appPacketData_length subtype ssrc name.2]; omega }] }

/-- The length of the packet that `EndBuild` makes. -/
def compoundPacketLength (pb : RTCPCompoundPacketBuilder) : Nat :=
  pb.appsize + pb.reportBytes + sdesBytes pb.sdessources

end RTCPCompoundPacketBuilder

/-- `RTPUDPv4Transmitter::SendRTCPData`. -/
def Transmitter.sendRTCPData (transmitter : Transmitter) (length : Nat) : Option RtcpError :=
  if transmitter.created = false then some .transNotCreated
  else if transmitter.maxpacksize < length then some .specifiedSizeTooBig
  else none

/-- `RTPSession::SendRTCPAPPPacket`: the APP packets of the compound packet that is sent.
`Create` gives the maximum packet size to the session and the builder alike. -/
def RTPSession.sendRTCPAPPPacket (session : RTPSession) (owncname : List Byte) (subtype : Nat)
    (name : { name : List Byte // name.length = 4 }) (appdata : List Byte) :
    Except RtcpError (List APPPacketBytes) := do
  if session.created = false then .error .sessionNotCreated
  else
    let ssrc := session.packetbuilder.ssrc
    let pb ← RTCPCompoundPacketBuilder.initBuild session.packetbuilder.maxpacksize
    let pb ← pb.startReceiverReport
    let pb ← pb.addSDESSource ssrc
    let pb ← pb.addSDESNormalItem (BitVec.ofNat 8 owncname.length)
    let pb ← pb.addAPPPacket subtype ssrc name appdata
    match session.rtptrans.sendRTCPData pb.compoundPacketLength with
    | some e => .error e
    | none => .ok pb.apppackets

section Sending

open RTCPCompoundPacketBuilder

variable {session : RTPSession} {subtype : Nat}
variable {name : { name : List Byte // name.length = 4 }} {appdata : List Byte}

/-- The builder when the APP packet is added. -/
def reportedBuilder (maxpacksize : Nat) (ssrc : BitVec 32) (owncname : List Byte) :
    RTCPCompoundPacketBuilder :=
  ⟨maxpacksize, 4, [⟨ssrc, [2 + owncname.length % 256]⟩], []⟩

/-- An APP packet that is added holds whole words of data, and these bytes. -/
theorem addAPPPacket_eq_ok {pb next : RTCPCompoundPacketBuilder} {ssrc : BitVec 32}
    (hAdd : pb.addAPPPacket subtype ssrc name appdata = .ok next) :
    appdata.length % 4 = 0 ∧ ∃ packet : APPPacketBytes,
      packet.data = appPacketData subtype ssrc name appdata ∧
        next = { pb with apppackets := pb.apppackets ++ [packet] } := by
  unfold addAPPPacket at hAdd
  split_ifs at hAdd with hSubtype hWords hBig hLeft
  cases hAdd
  exact ⟨not_not.mp hWords, _, rfl, rfl⟩

/-- It is added when there is room for it. -/
theorem addAPPPacket_isOk (pb : RTCPCompoundPacketBuilder) (ssrc : BitVec 32)
    (name : { name : List Byte // name.length = 4 }) (appdata : List Byte)
    (hSubtype : subtype ≤ 31) (hWords : appdata.length % 4 = 0)
    (hSmall : appdata.length ≤ 1400)
    (hRoom : pb.appsize + sdesBytes pb.sdessources + pb.reportBytes + (12 + appdata.length) ≤
      pb.maximumpacketsize) :
    ∃ packet : APPPacketBytes, packet.data = appPacketData subtype ssrc name appdata ∧
      pb.addAPPPacket subtype ssrc name appdata =
        .ok { pb with apppackets := pb.apppackets ++ [packet] } := by
  unfold addAPPPacket
  rw [if_neg (by omega), dif_neg (by omega), dif_neg (by omega), if_neg (by omega)]
  exact ⟨_, rfl, rfl⟩

theorem reportedBuilder_bytes (maxpacksize : Nat) (ssrc : BitVec 32) (owncname : List Byte) :
    (reportedBuilder maxpacksize ssrc owncname).appsize +
        sdesBytes (reportedBuilder maxpacksize ssrc owncname).sdessources +
        (reportedBuilder maxpacksize ssrc owncname).reportBytes ≤ 276 := by
  have hName : owncname.length % 256 < 256 := Nat.mod_lt _ (by decide)
  simp [reportedBuilder, appsize, sdesBytes, SDESSource.neededBytes, reportBytes]
  omega

/-- The report and the own name fit into any packet, so that the APP packet decides. -/
theorem sendRTCPAPPPacket_eq (hCreated : session.created = true) (owncname : List Byte)
    (hSize : RTP_MINPACKETSIZE ≤ session.packetbuilder.maxpacksize) :
    session.sendRTCPAPPPacket owncname subtype name appdata =
      ((reportedBuilder session.packetbuilder.maxpacksize session.packetbuilder.ssrc
          owncname).addAPPPacket subtype session.packetbuilder.ssrc name appdata).bind fun pb =>
        match session.rtptrans.sendRTCPData pb.compoundPacketLength with
        | some e => .error e
        | none => .ok pb.apppackets := by
  have hName : owncname.length % 256 < 256 := Nat.mod_lt _ (by decide)
  have hMin : 600 ≤ session.packetbuilder.maxpacksize := hSize
  have hReport : startReceiverReport ⟨session.packetbuilder.maxpacksize, 0, [], []⟩ =
      .ok ⟨session.packetbuilder.maxpacksize, 4, [], []⟩ := by
    simp [startReceiverReport, appsize, sdesBytes]
    omega
  have hSource : addSDESSource ⟨session.packetbuilder.maxpacksize, 4, [], []⟩
      session.packetbuilder.ssrc =
      .ok ⟨session.packetbuilder.maxpacksize, 4, [⟨session.packetbuilder.ssrc, []⟩], []⟩ := by
    simp [addSDESSource, appsize, reportBytes]
    omega
  have hItem : addSDESNormalItem
      ⟨session.packetbuilder.maxpacksize, 4, [⟨session.packetbuilder.ssrc, []⟩], []⟩
      (BitVec.ofNat 8 owncname.length) =
      .ok (reportedBuilder session.packetbuilder.maxpacksize session.packetbuilder.ssrc
        owncname) := by
    simp [addSDESNormalItem, reportedBuilder, appsize, reportBytes, sdesBytes,
      SDESSource.neededBytes]
    omega
  unfold RTPSession.sendRTCPAPPPacket
  rw [if_neg (by simp [hCreated]), initBuild, if_neg (by omega)]
  simp only [bind, Except.bind, hReport, hSource, hItem]

/-- What is sent is one APP packet, with whole words of data. -/
theorem appPackets_of_sendRTCPAPPPacket {owncname : List Byte} {packets : List APPPacketBytes}
    (hSent : session.sendRTCPAPPPacket owncname subtype name appdata = .ok packets) :
    appdata.length % 4 = 0 ∧ ∃ packet : APPPacketBytes,
      packet.data = appPacketData subtype session.packetbuilder.ssrc name appdata ∧
        packets = [packet] := by
  have hCreated : session.created = true := by
    by_contra hNot
    unfold RTPSession.sendRTCPAPPPacket at hSent
    rw [if_pos (by simpa using hNot)] at hSent
    cases hSent
  have hSize : RTP_MINPACKETSIZE ≤ session.packetbuilder.maxpacksize := by
    by_contra hSmall
    simp [RTPSession.sendRTCPAPPPacket, hCreated, initBuild, not_le.mp hSmall, bind,
      Except.bind] at hSent
  rw [sendRTCPAPPPacket_eq hCreated owncname hSize] at hSent
  cases hAdd : (reportedBuilder session.packetbuilder.maxpacksize session.packetbuilder.ssrc
      owncname).addAPPPacket subtype session.packetbuilder.ssrc name appdata with
  | error e =>
      rw [hAdd] at hSent
      cases hSent
  | ok pb =>
      obtain ⟨hWords, packet, hData, rfl⟩ := addAPPPacket_eq_ok hAdd
      rw [hAdd] at hSent
      simp only [Except.bind] at hSent
      split at hSent
      · cases hSent
      · cases hSent
        exact ⟨hWords, packet, hData, rfl⟩

/-- Short data in whole words is sent by any session that is ready. -/
theorem sendRTCPAPPPacket_isOk {maxpacksize : Nat} (hReady : session.Ready maxpacksize)
    (hSize : RTP_MINPACKETSIZE ≤ maxpacksize) (owncname : List Byte) (hSubtype : subtype ≤ 31)
    (hWords : appdata.length % 4 = 0) (hSmall : appdata.length ≤ 300) :
    ∃ packet : APPPacketBytes,
      packet.data = appPacketData subtype session.packetbuilder.ssrc name appdata ∧
        session.sendRTCPAPPPacket owncname subtype name appdata = .ok [packet] := by
  have hBytes := reportedBuilder_bytes maxpacksize session.packetbuilder.ssrc owncname
  have hMin : 600 ≤ maxpacksize := hSize
  obtain ⟨packet, hData, hAdd⟩ := addAPPPacket_isOk
    (reportedBuilder maxpacksize session.packetbuilder.ssrc owncname)
    session.packetbuilder.ssrc name appdata hSubtype hWords (by omega)
    (by show _ ≤ maxpacksize; omega)
  refine ⟨packet, hData, ?_⟩
  rw [sendRTCPAPPPacket_eq hReady.created owncname (by rw [hReady.builderSize]; exact hSize),
    hReady.builderSize, hAdd]
  have hLength : compoundPacketLength { reportedBuilder maxpacksize session.packetbuilder.ssrc
      owncname with apppackets := [packet] } ≤ maxpacksize := by
    have hPacket : packet.data.length = 12 + appdata.length := by
      rw [hData, appPacketData_length _ _ name.2]
    simp only [compoundPacketLength, appsize, reportBytes, reportedBuilder, sdesBytes] at hBytes ⊢
    simp [hPacket] at hBytes ⊢
    omega
  simp only [Except.bind, reportedBuilder, List.nil_append] at hLength ⊢
  simp [Transmitter.sendRTCPData, hReady.transCreated, hReady.transSize, not_lt.mpr hLength]

end Sending

end AudioSync.Rtp
