import AudioSync.Format.APPPacket
import AudioSync.Rtp.CompoundPacket
import Mathlib.Tactic.IntervalCases

/-! An APP packet from the session that sends it to the one that receives it. -/
namespace AudioSync.Format

open ByteOrder Rtp RTCPCompoundPacketBuilder

/-- `AUDIOSTREAM_APP`. -/
def AUDIOSTREAM_APP : { name : List Byte // name.length = 4 } := ⟨chars "ADST", by decide⟩

/-- The packet as the receiving session takes it out of the compound packet. -/
def deliver (packet : APPPacketBytes) : RTCPAPPPacket := .ofData packet.data packet.short

def RTCPAPPPacket.getSSRC (packet : RTCPAPPPacket) : BitVec 32 :=
  if packet.knownformat then BitVec.ofNat 32 (value ((packet.data.drop 4).take 4).reverse) else 0

section Delivery

variable {packet : APPPacketBytes} {subtype : Nat} {ssrc : BitVec 32} {appdata : List Byte}
variable {name : { name : List Byte // name.length = 4 }}

/-- The first byte of a packet holds its subtype, and no padding bit. -/
theorem firstByte_appPacketData (hSubtype : subtype ≤ 31) :
    ((appPacketData subtype ssrc name appdata).headD 0).toNat = 128 + subtype ∧
      ((appPacketData subtype ssrc name appdata).headD 0).getLsbD 5 = false := by
  have hHead : (appPacketData subtype ssrc name appdata).headD 0 = BitVec.ofNat 8 (128 + subtype) :=
    rfl
  rw [hHead]
  interval_cases subtype <;> decide

theorem deliver_eq (hData : packet.data = appPacketData subtype ssrc name appdata)
    (hSubtype : subtype ≤ 31) :
    (deliver packet).data = packet.data ∧ (deliver packet).knownformat = true ∧
      (deliver packet).appdatalen = appdata.length := by
  have hLength : packet.data.length = 12 + appdata.length := by
    rw [hData, appPacketData_length _ _ name.2]
  have hPadding : ¬ (packet.data.headD 0).getLsbD 5 = true := by
    rw [hData, (firstByte_appPacketData hSubtype).2]
    decide
  unfold deliver RTCPAPPPacket.ofData
  rw [if_neg hPadding]
  unfold RTCPAPPPacket.ofLength
  rw [dif_neg (by omega)]
  exact ⟨rfl, rfl, by simp [hLength]⟩

theorem getSubType_deliver (hData : packet.data = appPacketData subtype ssrc name appdata)
    (hSubtype : subtype ≤ 31) : (deliver packet).getSubType = subtype := by
  obtain ⟨hSame, hKnown, -⟩ := deliver_eq hData hSubtype
  rw [RTCPAPPPacket.getSubType, if_pos hKnown, hSame, hData, (firstByte_appPacketData hSubtype).1]
  omega

/-- The data arrives as it was given to the builder. -/
theorem appData_deliver (hData : packet.data = appPacketData subtype ssrc name appdata)
    (hSubtype : subtype ≤ 31) : (deliver packet).appData = appdata := by
  obtain ⟨hSame, hKnown, hLength⟩ := deliver_eq hData hSubtype
  have hHeader : (appPacketData subtype ssrc name appdata).drop 12 = appdata := by
    obtain ⟨name, hName⟩ := name
    match name, hName with
    | [a, b, c, d], _ => rfl
  rw [RTCPAPPPacket.appData, RTCPAPPPacket.getAPPDataLength, if_pos hKnown, hLength, hSame, hData,
    hHeader, List.take_length]

theorem getSSRC_deliver (hData : packet.data = appPacketData subtype ssrc name appdata)
    (hSubtype : subtype ≤ 31) : (deliver packet).getSSRC = ssrc := by
  obtain ⟨hSame, hKnown, -⟩ := deliver_eq hData hSubtype
  have hField : ((appPacketData subtype ssrc name appdata).drop 4).take 4 =
      (littleEndian 4 ssrc.toNat).reverse := rfl
  rw [RTCPAPPPacket.getSSRC, if_pos hKnown, hSame, hData, hField, List.reverse_reverse,
    value_littleEndian]
  apply BitVec.eq_of_toNat_eq
  have hBound := ssrc.isLt
  rw [BitVec.toNat_ofNat]
  omega

end Delivery

end AudioSync.Format
