import AudioSync.Rtp.WireFormat

/-! The packets that a session sends one after the other, and the datagrams that carry them. -/
namespace AudioSync.Rtp

/-- `RTPUDPV4TRANS_MAXPACKSIZE`. -/
def RTPUDPV4TRANS_MAXPACKSIZE : Nat := 65535

/-- A datagram with these bytes, and nothing behind them. -/
def RTPRawPacket.ofBytes (bytes : List Byte) : RTPRawPacket where
  isRTP := true
  data := fun i => bytes.getD i 0
  dataLength := bytes.length

theorem RTPRawPacket.bytes_ofBytes (bytes : List Byte) : (ofBytes bytes).bytes = bytes := by
  apply List.ext_getElem
  · simp [RTPRawPacket.bytes, ofBytes]
  · intro i hLeft hRight
    simp [RTPRawPacket.bytes, ofBytes, hRight]

namespace RTPSession

/-- The session after so many sending calls. -/
def after (session : RTPSession) (requests : Nat → PacketRequest) : Nat → RTPSession
  | 0 => session
  | count + 1 => ((session.after requests count).sendPacket (requests count)).1

/-- The packet that is built for a sending call. -/
def packetOf (session : RTPSession) (requests : Nat → PacketRequest) (count : Nat) : RTPPacket :=
  (session.after requests count).packetbuilder.packet (requests count)

variable {session : RTPSession} {maxpacksize : Nat} {requests : Nat → PacketRequest}

/-- A session whose packets all fit stays ready and counts them. -/
theorem Ready.after (h : session.Ready maxpacksize)
    (hType : ∀ i, RTPPacket.ValidPayloadType (requests i).payloadType)
    (hFits : ∀ i, (requests i).packetLength ≤ maxpacksize) (count : Nat) :
    (session.after requests count).Ready maxpacksize ∧
      (session.after requests count).packetbuilder.seqnr =
        session.packetbuilder.seqnr + BitVec.ofNat 16 count := by
  induction count with
  | zero => exact ⟨h, by simp [RTPSession.after]⟩
  | succ count ih =>
      obtain ⟨hReady, hNumber⟩ := ih
      rw [RTPSession.after, hReady.sendPacket_of_le (hType count) (hFits count)]
      refine ⟨hReady.advance _, ?_⟩
      show (session.after requests count).packetbuilder.seqnr + 1 = _
      rw [hNumber, BitVec.ofNat_add, BitVec.add_assoc]
      rfl

theorem Ready.sendable (h : session.Ready maxpacksize) {request : PacketRequest}
    (hType : RTPPacket.ValidPayloadType request.payloadType) :
    (session.packetbuilder.packet request).Sendable := by
  have hCsrcs : (session.packetbuilder.packet request).csrcs = [] := h.noCsrcs
  refine ⟨?_, hType.1, fun _ => hType.2⟩
  rw [hCsrcs]
  exact Nat.zero_le _

end RTPSession

/-- A datagram brings the packet with this number. -/
structure Brings (datagram : Nat → RTPRawPacket) (sent : Nat → RTPPacket) (number : Nat) :
    Prop where
  parsed : RTPPacket.parseRawPacket (datagram number) = some (sent number)
  numbered : (sent number).sequenceNumber = BitVec.ofNat 16 number
  few : number < 65535 * 65536

/-- Datagrams that carry what a session transmits, from its first number on. -/
def Carries (session : RTPSession) (requests : Nat → PacketRequest)
    (datagram : Nat → RTPRawPacket) : Prop :=
  ∀ count packet, ((session.after requests count).sendPacket (requests count)).2 = .ok packet →
    (datagram (session.packetbuilder.seqnr.toNat + count)).isRTP = true ∧
      (datagram (session.packetbuilder.seqnr.toNat + count)).bytes = packet.bytes

section Session

variable {session : RTPSession} {maxpacksize : Nat} {requests : Nat → PacketRequest}
variable {datagram : Nat → RTPRawPacket}

theorem brings_of_carries (hReady : session.Ready maxpacksize)
    (hMax : maxpacksize ≤ RTPUDPV4TRANS_MAXPACKSIZE)
    (hType : ∀ i, RTPPacket.ValidPayloadType (requests i).payloadType)
    (hFits : ∀ i, (requests i).packetLength ≤ maxpacksize)
    (hCarries : Carries session requests datagram) {number : Nat}
    (hFirst : session.packetbuilder.seqnr.toNat ≤ number) (hFew : number < 65535 * 65536) :
    Brings datagram
      (fun number => session.packetOf requests (number - session.packetbuilder.seqnr.toNat))
      number := by
  obtain ⟨count, rfl⟩ := Nat.exists_eq_add_of_le hFirst
  obtain ⟨hLater, hNumber⟩ := hReady.after hType hFits count
  have hSend := congrArg Prod.snd (hLater.sendPacket_of_le (hType count) (hFits count))
  obtain ⟨hRtp, hBytes⟩ := hCarries count _ hSend
  have hLength := congrArg List.length hBytes
  rw [RTPPacket.bytes_length, hLater.packetLength, RTPRawPacket.bytes,
    Pointer.bytes_length] at hLength
  have hSmall := hFits count
  have hShort : (datagram (session.packetbuilder.seqnr.toNat + count)).dataLength < 2 ^ 31 := by
    unfold RTPUDPV4TRANS_MAXPACKSIZE at hMax
    omega
  refine ⟨?_, ?_, hFew⟩
  · rw [Nat.add_sub_cancel_left]
    exact RTPPacket.parseRawPacket_of_bytes hShort hRtp (hLater.sendable (hType count))
      isPadding_nil hBytes
  · rw [Nat.add_sub_cancel_left]
    show (session.after requests count).packetbuilder.seqnr = _
    rw [hNumber, BitVec.ofNat_add, BitVec.ofNat_toNat, BitVec.setWidth_eq]

/-- A session whose sequence numbers are about to wrap around. -/
def wrappingSession : RTPSession := ⟨true, ⟨true, 1400, 7, 0, 65534, []⟩, ⟨true, 1400⟩⟩

def countingRequests : Nat → PacketRequest := fun i => ⟨[BitVec.ofNat 8 i], 96, false, 10, none⟩

theorem countingRequests_type (count : Nat) :
    RTPPacket.ValidPayloadType (countingRequests count).payloadType := by
  show RTPPacket.ValidPayloadType 96
  exact ⟨by decide, by decide, by decide⟩

def countingDatagram (number : Nat) : RTPRawPacket :=
  .ofBytes (wrappingSession.packetOf countingRequests (number - 65534)).bytes

theorem wrappingSession_ready : wrappingSession.Ready 1400 := ⟨rfl, rfl, rfl, rfl, rfl, rfl⟩

theorem countingRequests_fits (count : Nat) : (countingRequests count).packetLength ≤ 1400 := by
  show 12 + 0 + 1 ≤ 1400
  decide

theorem carries_countingDatagram :
    Carries wrappingSession countingRequests countingDatagram := by
  intro count packet hSend
  have hLater : (wrappingSession.after countingRequests count).Ready 1400 :=
    (wrappingSession_ready.after countingRequests_type countingRequests_fits count).1
  have hPacket := congrArg Prod.snd
    (hLater.sendPacket_of_le (countingRequests_type count) (countingRequests_fits count))
  rw [hSend] at hPacket
  cases hPacket
  have hFirst : wrappingSession.packetbuilder.seqnr.toNat = 65534 := rfl
  rw [hFirst, countingDatagram, Nat.add_sub_cancel_left]
  exact ⟨rfl, RTPRawPacket.bytes_ofBytes _⟩

end Session

end AudioSync.Rtp
