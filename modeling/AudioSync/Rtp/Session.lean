import AudioSync.Basic

/-! How jrtplib builds and sends data packets: `RTPPacket::BuildPacket`,
`RTPPacketBuilder` and the sending functions of `RTPSession`. -/
namespace AudioSync.Rtp

/-- `RTP_MAXCSRCS`. -/
def RTP_MAXCSRCS : Nat := 15

/-- `RTP_MINPACKETSIZE`. -/
def RTP_MINPACKETSIZE : Nat := 600

/-- `RTP_DEFAULTPACKETSIZE`. -/
def RTP_DEFAULTPACKETSIZE : Nat := 1400

/-- The error codes of the functions below. -/
inductive RtpError where
  | badPayloadType
  | dataExceedsMaxSize
  | tooManyCsrcs
  | packbuildNotInit
  | sessionNotCreated
  | maxPacketSizeTooSmall
  | transNotCreated
  | specifiedSizeTooBig
  deriving DecidableEq, Repr

/-- A header extension: its data is counted in words of four bytes. -/
structure HeaderExtension where
  id : BitVec 16
  words : BitVec 16
  data : List Byte
  sized : data.length = 4 * words.toNat

structure RTPPacket where
  payloadType : BitVec 8
  hasMarker : Bool
  sequenceNumber : BitVec 16
  timestamp : BitVec 32
  ssrc : BitVec 32
  csrcs : List (BitVec 32)
  extension : Option HeaderExtension
  payload : List Byte

namespace RTPPacket

/-- The bytes of the header, the CSRC list, the extension and the payload. -/
def packetLength (packet : RTPPacket) : Nat :=
  12 + 4 * packet.csrcs.length +
    packet.extension.elim 0 (fun extension => 4 + 4 * extension.words.toNat) +
    packet.payload.length

/-- `RTPPacket::BuildPacket` for a packet with these contents. -/
def buildPacket (maxsize : Nat) (packet : RTPPacket) : Except RtpError RTPPacket :=
  if RTP_MAXCSRCS < packet.csrcs.length then .error .tooManyCsrcs
  else if 127 < packet.payloadType.toNat then .error .badPayloadType
  else if packet.payloadType = 72 ∨ packet.payloadType = 73 then .error .badPayloadType
  else if 0 < maxsize ∧ maxsize < packet.packetLength then .error .dataExceedsMaxSize
  else .ok packet

/-- A payload type that `BuildPacket` accepts: 7 bits, and not those of a report. -/
def ValidPayloadType (payloadType : BitVec 8) : Prop :=
  payloadType.toNat ≤ 127 ∧ payloadType ≠ 72 ∧ payloadType ≠ 73

theorem validPayloadType_zero : ValidPayloadType 0 := ⟨by decide, by decide, by decide⟩

/-- Without CSRCs and with a valid payload type only the size can be wrong. -/
theorem buildPacket_eq (maxsize : Nat) (packet : RTPPacket) (hCsrcs : packet.csrcs = [])
    (hType : ValidPayloadType packet.payloadType) :
    buildPacket maxsize packet =
      if 0 < maxsize ∧ maxsize < packet.packetLength then .error .dataExceedsMaxSize
      else .ok packet := by
  obtain ⟨hSmall, hReports⟩ := hType
  unfold buildPacket
  rw [if_neg (by simp [hCsrcs]), if_neg (not_lt.mpr hSmall), if_neg (not_or.mpr hReports)]

end RTPPacket

/-- `RTPPacketBuilder`: what it puts into the next packet. -/
structure RTPPacketBuilder where
  init : Bool
  maxpacksize : Nat
  ssrc : BitVec 32
  timestamp : BitVec 32
  seqnr : BitVec 16
  csrcs : List (BitVec 32)

/-- The arguments of one sending call. -/
structure PacketRequest where
  data : List Byte
  payloadType : BitVec 8
  mark : Bool
  timestampinc : BitVec 32
  extension : Option HeaderExtension

/-- The length of the packet a request leads to, if there are no CSRCs. -/
def PacketRequest.packetLength (request : PacketRequest) : Nat :=
  12 + request.extension.elim 0 (fun extension => 4 + 4 * extension.words.toNat) +
    request.data.length

namespace RTPPacketBuilder

/-- The packet the builder makes of a request in its present state. -/
def packet (builder : RTPPacketBuilder) (request : PacketRequest) : RTPPacket where
  payloadType := request.payloadType
  hasMarker := request.mark
  sequenceNumber := builder.seqnr
  timestamp := builder.timestamp
  ssrc := builder.ssrc
  csrcs := builder.csrcs
  extension := request.extension
  payload := request.data

def advance (builder : RTPPacketBuilder) (timestampinc : BitVec 32) : RTPPacketBuilder :=
  { builder with timestamp := builder.timestamp + timestampinc, seqnr := builder.seqnr + 1 }

/-- `BuildPacket` and `BuildPacketEx`. The timestamp is advanced once the packet
has been built, and a packet that cannot be built advances nothing. -/
def buildPacket (builder : RTPPacketBuilder) (request : PacketRequest) :
    Except RtpError (RTPPacket × RTPPacketBuilder) :=
  if builder.init then
    match RTPPacket.buildPacket builder.maxpacksize (builder.packet request) with
    | .error e => .error e
    | .ok packet => .ok (packet, builder.advance request.timestampinc)
  else .error .packbuildNotInit

end RTPPacketBuilder

/-- `RTPUDPv4Transmitter`, as far as sending depends on it. -/
structure Transmitter where
  created : Bool
  maxpacksize : Nat

/-- `RTPUDPv4Transmitter::SendRTPData`. -/
def Transmitter.sendRTPData (transmitter : Transmitter) (length : Nat) : Option RtpError :=
  if transmitter.created = false then some .transNotCreated
  else if transmitter.maxpacksize < length then some .specifiedSizeTooBig
  else none

structure RTPSession where
  created : Bool
  packetbuilder : RTPPacketBuilder
  rtptrans : Transmitter

namespace RTPSession

/-- `RTPSession::Create` with a maximum packet size, and the random numbers the
builder starts from. -/
def create (maxpacksize : Nat) (ssrc timestamp : BitVec 32) (seqnr : BitVec 16) :
    Except RtpError RTPSession :=
  if maxpacksize < RTP_MINPACKETSIZE then .error .maxPacketSizeTooSmall
  else .ok ⟨true, ⟨true, maxpacksize, ssrc, timestamp, seqnr, []⟩, ⟨true, maxpacksize⟩⟩

/-- `SendPacket` and `SendPacketEx`: the session afterwards, and the packet that
was transmitted or the error that was returned. -/
def sendPacket (session : RTPSession) (request : PacketRequest) :
    RTPSession × Except RtpError RTPPacket :=
  if session.created then
    match session.packetbuilder.buildPacket request with
    | .error e => (session, .error e)
    | .ok (packet, builder) =>
        ({ session with packetbuilder := builder },
          match session.rtptrans.sendRTPData packet.packetLength with
          | some e => .error e
          | none => .ok packet)
  else (session, .error .sessionNotCreated)

/-- A session that can send packets of up to `maxpacksize` bytes. -/
structure Ready (maxpacksize : Nat) (session : RTPSession) : Prop where
  created : session.created = true
  init : session.packetbuilder.init = true
  builderSize : session.packetbuilder.maxpacksize = maxpacksize
  noCsrcs : session.packetbuilder.csrcs = []
  transCreated : session.rtptrans.created = true
  transSize : session.rtptrans.maxpacksize = maxpacksize

variable {maxpacksize : Nat} {session : RTPSession} {request : PacketRequest}

theorem ready_of_create {ssrc timestamp : BitVec 32} {seqnr : BitVec 16}
    (hCreate : create maxpacksize ssrc timestamp seqnr = .ok session) :
    session.Ready maxpacksize ∧ RTP_MINPACKETSIZE ≤ maxpacksize := by
  unfold create at hCreate
  split_ifs at hCreate with hSmall
  cases hCreate
  exact ⟨⟨rfl, rfl, rfl, rfl, rfl, rfl⟩, not_lt.mp hSmall⟩

theorem Ready.packetLength (h : session.Ready maxpacksize) (request : PacketRequest) :
    (session.packetbuilder.packet request).packetLength = request.packetLength := by
  simp [RTPPacket.packetLength, RTPPacketBuilder.packet, PacketRequest.packetLength, h.noCsrcs]

theorem Ready.advance (h : session.Ready maxpacksize) (timestampinc : BitVec 32) :
    ({ session with packetbuilder := session.packetbuilder.advance timestampinc } :
      RTPSession).Ready maxpacksize :=
  ⟨h.created, h.init, h.builderSize, h.noCsrcs, h.transCreated, h.transSize⟩

/-- A request that fits is transmitted with the builder's current timestamp, and
the builder moves on. -/
theorem Ready.sendPacket_of_le (h : session.Ready maxpacksize)
    (hType : RTPPacket.ValidPayloadType request.payloadType)
    (hFits : request.packetLength ≤ maxpacksize) :
    session.sendPacket request =
      ({ session with packetbuilder := session.packetbuilder.advance request.timestampinc },
        .ok (session.packetbuilder.packet request)) := by
  have hLength := h.packetLength request
  have hBuild := RTPPacket.buildPacket_eq maxpacksize (session.packetbuilder.packet request)
    h.noCsrcs hType
  rw [hLength, if_neg (by omega)] at hBuild
  have hSent : session.rtptrans.sendRTPData request.packetLength = none := by
    have hSmall : ¬ maxpacksize < request.packetLength := by omega
    simp [Transmitter.sendRTPData, h.transCreated, h.transSize, hSmall]
  simp [sendPacket, RTPPacketBuilder.buildPacket, h.created, h.init, h.builderSize, hBuild,
    hLength, hSent]

/-- A request that does not fit changes nothing, not even the sequence number. -/
theorem Ready.sendPacket_of_lt (h : session.Ready maxpacksize)
    (hType : RTPPacket.ValidPayloadType request.payloadType) (hPos : 0 < maxpacksize)
    (hLarge : maxpacksize < request.packetLength) :
    session.sendPacket request = (session, .error .dataExceedsMaxSize) := by
  have hBuild := RTPPacket.buildPacket_eq maxpacksize (session.packetbuilder.packet request)
    h.noCsrcs hType
  rw [h.packetLength request, if_pos ⟨hPos, hLarge⟩] at hBuild
  simp [sendPacket, RTPPacketBuilder.buildPacket, h.created, h.init, h.builderSize, hBuild]

end RTPSession

end AudioSync.Rtp
