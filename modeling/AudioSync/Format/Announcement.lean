import AudioSync.Format.Delivery

/-! The media format on its way from `SenderSession::OnNewSource` to
`audiostream_createFormat`. -/
namespace AudioSync.Format

open CString Rtp

/-- What `OnNewSource` sends when the session has a format: `text` is the memory at
`formatString`, and `strlen` does not count the NUL. -/
def announceFormat (session : RTPSession) (owncname text : List Byte) :
    Except RtcpError (List APPPacketBytes) :=
  session.sendRTCPAPPPacket owncname AUDIOSTREAM_PACKET_MEDIAFORMAT AUDIOSTREAM_APP
    (firstString text)

/-- The string, if any, that `ReceiverSession::OnAPPPacket` calls `audiostream_createFormat`
with. -/
def formatString (abi : Abi) (packet : RTCPAPPPacket) : Except Fault (Option (List Byte)) := do
  if packet.getSubType = AUDIOSTREAM_PACKET_MEDIAFORMAT then
    let last ← reading (packet.appData[·]?)
      (packet.getAPPData.add abi (abi.size (packet.getAPPDataLength - 1)))
    if last = 0 then return some (← reading (readString packet.appData) packet.getAPPData)
    else return none
  else return none

/-- The handler parses this string, and nothing else. -/
theorem onAPPPacket_eq {Single Codec : Type} (abi : Abi) (codecs : CodecLibrary Single Codec)
    (strtod : List Byte → CharPtr → Except Fault (Single × CharPtr))
    (session : ReceiverSession Single Codec) (packet : RTCPAPPPacket) :
    onAPPPacket abi codecs strtod session packet =
      (formatString abi packet).bind fun text =>
        match text with
        | none => .ok session
        | some _ => (createFormat abi strtod packet.appData).map fun newFormat =>
            if session.format.isNone then setFormat codecs session newFormat else session := by
  unfold onAPPPacket formatString
  split
  · dsimp only
    generalize reading (packet.appData[·]?)
      (packet.getAPPData.add abi (abi.size (packet.getAPPDataLength - 1))) = last
    generalize reading (readString packet.appData) packet.getAPPData = text
    generalize createFormat abi strtod packet.appData = newFormat
    cases last with
    | error fault => rfl
    | ok last =>
        rw [except_bind_ok, except_bind_ok]
        by_cases hNul : last = 0
        · rw [if_pos hNul, if_pos hNul]
          cases text with
          | error fault => rfl
          | ok text =>
              cases newFormat with
              | error fault => rfl
              | ok newFormat =>
                  show (if _ then _ else _) = Except.ok _
                  split <;> rfl
        · rw [if_neg hNul, if_neg hNul]
          rfl
  · rfl

/-- The announced string arrives: the packet is sent, and the receiver passes on the string. -/
def AnnouncementArrives (abi : Abi) (session : RTPSession) (owncname text : List Byte) : Prop :=
  ∃ packet, announceFormat session owncname text = .ok [packet] ∧
    formatString abi (deliver packet) = .ok (some (firstString text))

section Announcement

variable {abi : Abi} {packet : RTCPAPPPacket}

theorem formatString_empty (hSub : packet.getSubType = AUDIOSTREAM_PACKET_MEDIAFORMAT)
    (hEmpty : packet.appData = []) :
    formatString abi packet = .error (.wild (2 ^ abi.bits - 1)) := by
  have hLength : packet.getAPPDataLength = 0 := by rw [← packet.appData_length, hEmpty]; rfl
  have hNull : packet.getAPPData = .address 0 := by rw [packet.getAPPData_eq, if_pos hEmpty]; rfl
  unfold formatString
  rw [if_pos hSub, hNull, hLength]
  cases abi <;> rfl

theorem formatString_unterminated (hSub : packet.getSubType = AUDIOSTREAM_PACKET_MEDIAFORMAT)
    {c : Byte} (hLast : packet.appData.getLast? = some c) (hOther : c ≠ 0) :
    formatString abi packet = .ok none := by
  unfold formatString
  rw [if_pos hSub, load_last abi hLast, except_bind_ok, if_neg hOther]
  rfl

/-- The last byte of the data is not the NUL that the receiver asks for: `strlen` has left
it out. -/
theorem formatString_firstString (hSub : packet.getSubType = AUDIOSTREAM_PACKET_MEDIAFORMAT)
    {text : List Byte} (hData : packet.appData = firstString text) (passed : List Byte) :
    formatString abi packet ≠ .ok (some passed) := by
  cases hLast : packet.appData.getLast? with
  | none =>
      rw [formatString_empty hSub (List.getLast?_eq_none_iff.mp hLast)]
      exact nofun
  | some c =>
      have hOther : c ≠ 0 := by
        have hMem := List.mem_of_getLast? hLast
        rw [hData] at hMem
        simpa using List.mem_takeWhile_imp hMem
      rw [formatString_unterminated hSub hLast hOther]
      exact nofun

/-- No announced string arrives, whatever its length. -/
theorem not_announcementArrives (abi : Abi) (session : RTPSession) (owncname text : List Byte) :
    ¬ AnnouncementArrives abi session owncname text := by
  rintro ⟨packet, hSent, hPassed⟩
  obtain ⟨-, sent, hData, hPackets⟩ := appPackets_of_sendRTCPAPPPacket hSent
  obtain rfl : packet = sent := List.singleton_inj.mp hPackets
  have hSubtype : AUDIOSTREAM_PACKET_MEDIAFORMAT ≤ 31 := by decide
  exact formatString_firstString (getSubType_deliver hData hSubtype)
    (appData_deliver hData hSubtype) (firstString text) hPassed

/-- A string of four characters is sent, and dropped by the receiver. -/
theorem not_announcementArrives_mime :
    ∃ session packet, RTPSession.create RTP_DEFAULTPACKETSIZE 1 0 0 = .ok session ∧
      announceFormat session (chars "host") (chars "mime" ++ [0]) = .ok [packet] ∧
      formatString .ilp32 (deliver packet) = .ok none ∧
      ¬ AnnouncementArrives .ilp32 session (chars "host") (chars "mime" ++ [0]) := by
  refine ⟨_, ⟨[129, 204, 0, 3, 0, 0, 0, 1] ++ chars "ADSTmime", by decide⟩, rfl, by rfl, by rfl, ?_⟩
  rintro ⟨packet, hSent, hPassed⟩
  cases (Except.ok.inj hSent).symm
  exact absurd hPassed (by decide)

end Announcement

end AudioSync.Format
