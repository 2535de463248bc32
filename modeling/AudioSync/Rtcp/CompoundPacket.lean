import AudioSync.Rtcp.Packets

/-! `RTCPCompoundPacket`: how the bytes of a compound packet are divided into packets. -/
namespace AudioSync.Rtcp

open ByteOrder Records

/-- Whether a packet is a sender report or a receiver report. -/
def IsReport (data : List Byte) : Prop :=
  headerType data = RTP_RTCPTYPE_SR ∨ headerType data = RTP_RTCPTYPE_RR

instance (data : List Byte) : Decidable (IsReport data) := inferInstanceAs (Decidable (_ ∨ _))

namespace RTCPCompoundPacket

/-- The loop of `ParseData`, with the data of each packet. The first argument bounds its rounds,
and `first` tells whether no packet was found yet. -/
def parsePackets : Nat → Bool → List Byte → Option (List (List Byte))
  | 0, _, _ => none
  | fuel + 1, first, data =>
      let length := (headerLength data + 1) * 4
      if headerVersion data ≠ 2 then none
      else if first = true ∧ ¬ IsReport data then none
      else if data.length < length then none
      else if headerPadding data = true ∧ length ≠ data.length then none
      else if 4 ≤ data.length - length then
        (parsePackets fuel false (data.drop length)).map fun packets => data.take length :: packets
      else if data.length - length ≠ 0 then none
      else some [data.take length]

/-- `ParseData`. -/
def parseData (data : List Byte) : Option (List (List Byte)) :=
  if data.length < 4 then none else parsePackets data.length true data

/-- `rtcppacklist` after `ParseData`. -/
def rtcppacklist (data : List Byte) : Option (List RTCPPacket) :=
  (parseData data).map fun packets => packets.map RTCPPacket.read

end RTCPCompoundPacket

/-- The bytes of one packet, as many as its header says. -/
structure Framed (packet : List Byte) : Prop where
  header : 4 ≤ packet.length
  version : headerVersion packet = 2
  length : packet.length = (headerLength packet + 1) * 4

/-- The packets of a compound packet, or what follows its first ones. -/
structure Compound (first : Bool) (packets : List (List Byte)) : Prop where
  some : packets ≠ []
  framed : ∀ packet ∈ packets, Framed packet
  report : first = true → ∀ packet ∈ packets.head?, IsReport packet
  /-- Only the last packet is padded. -/
  unpadded : ∀ packet ∈ packets.dropLast, headerPadding packet = false

section Header

variable {packet rest : List Byte}

theorem getD_append_left {index : Nat} (hIndex : index < packet.length) :
    (packet ++ rest).getD index 0 = packet.getD index 0 := by
  rw [List.getD_eq_getElem?_getD, List.getElem?_append_left hIndex, List.getD_eq_getElem?_getD]

variable (hHeader : 4 ≤ packet.length)
include hHeader

theorem headerVersion_append : headerVersion (packet ++ rest) = headerVersion packet := by
  rw [headerVersion, getD_append_left (by omega), headerVersion]

theorem headerPadding_append : headerPadding (packet ++ rest) = headerPadding packet := by
  rw [headerPadding, getD_append_left (by omega), headerPadding]

theorem headerLength_append : headerLength (packet ++ rest) = headerLength packet := by
  rw [headerLength, headerLength, recordAt, recordAt, List.drop_append_of_le_length (by omega),
    List.take_append_of_le_length]
  rw [List.length_drop]
  omega

theorem isReport_append : IsReport (packet ++ rest) ↔ IsReport packet := by
  rw [IsReport, IsReport, headerType, headerType, getD_append_left (by omega)]

end Header

namespace Compound

variable {first : Bool} {packet : List Byte} {packets : List (List Byte)}

theorem singleton (hFramed : Framed packet) (hReport : first = true → IsReport packet) :
    Compound first [packet] where
  some := List.cons_ne_nil _ _
  framed := fun other hMem => List.mem_singleton.mp hMem ▸ hFramed
  report := by simpa using hReport
  unpadded := by simp

theorem cons (hFramed : Framed packet) (hReport : first = true → IsReport packet)
    (hPadding : headerPadding packet = false) (hLater : Compound false packets) :
    Compound first (packet :: packets) where
  some := List.cons_ne_nil _ _
  framed := List.forall_mem_cons.mpr ⟨hFramed, hLater.framed⟩
  report := by simpa using hReport
  unpadded := by
    rw [List.dropLast_cons_of_ne_nil hLater.some]
    exact List.forall_mem_cons.mpr ⟨hPadding, hLater.unpadded⟩

theorem tail (hCompound : Compound first (packet :: packets)) (hSome : packets ≠ []) :
    headerPadding packet = false ∧ Compound false packets := by
  have hUnpadded := hCompound.unpadded
  rw [List.dropLast_cons_of_ne_nil hSome] at hUnpadded
  refine ⟨hUnpadded packet (List.mem_cons_self ..), hSome, ?_,
    fun hFirst => absurd hFirst Bool.false_ne_true, ?_⟩
  · exact fun other hMem => hCompound.framed other (List.mem_cons_of_mem _ hMem)
  · exact fun other hMem => hUnpadded other (List.mem_cons_of_mem _ hMem)

end Compound

namespace RTCPCompoundPacket

variable {fuel : Nat} {first : Bool} {data : List Byte} {packets : List (List Byte)}

/-- The packets that are found make up the data, and follow one another as they should. -/
theorem compound_of_parsePackets (hData : 4 ≤ data.length)
    (hParse : parsePackets fuel first data = some packets) :
    packets.flatten = data ∧ Compound first packets := by
  induction fuel generalizing first data packets with
  | zero => cases hParse
  | succ fuel ih =>
      rw [parsePackets] at hParse
      split_ifs at hParse with hVersion hFirst hShort hPadding hMore hLeft
      all_goals
        have hSplit := List.take_append_drop ((headerLength data + 1) * 4) data
        have hLength : (data.take ((headerLength data + 1) * 4)).length =
            (headerLength data + 1) * 4 := List.length_take_of_le (not_lt.mp hShort)
        have hHeader : 4 ≤ (data.take ((headerLength data + 1) * 4)).length := by omega
        have hFramed : Framed (data.take ((headerLength data + 1) * 4)) := by
          refine ⟨hHeader, ?_, ?_⟩
          · rw [← headerVersion_append hHeader, hSplit]
            exact not_not.mp hVersion
          · rw [← headerLength_append hHeader, hSplit, hLength]
        have hReport : first = true → IsReport (data.take ((headerLength data + 1) * 4)) := by
          intro hIsFirst
          rw [← isReport_append hHeader, hSplit]
          exact not_not.mp fun hNone => hFirst ⟨hIsFirst, hNone⟩
      · obtain ⟨later, hLater, rfl⟩ := Option.map_eq_some_iff.mp hParse
        obtain ⟨hFlatten, hCompound⟩ := ih (by rw [List.length_drop]; exact hMore) hLater
        refine ⟨by rw [List.flatten_cons, hFlatten, hSplit], .cons hFramed hReport ?_ hCompound⟩
        rw [← headerPadding_append hHeader, hSplit]
        refine Bool.eq_false_of_not_eq_true fun hPadded => hPadding ⟨hPadded, ?_⟩
        omega
      · obtain rfl := Option.some.inj hParse
        refine ⟨?_, .singleton hFramed hReport⟩
        rw [List.flatten_singleton, List.take_of_length_le (by omega)]

/-- Packets that follow one another as they should are found. -/
theorem parsePackets_flatten (hCompound : Compound first packets)
    (hFuel : packets.length ≤ fuel) : parsePackets fuel first packets.flatten = some packets := by
  induction packets generalizing fuel first with
  | nil => exact absurd rfl hCompound.some
  | cons packet packets ih =>
      obtain ⟨fuel, rfl⟩ := Nat.exists_eq_add_of_le' (Nat.one_le_of_lt hFuel)
      obtain ⟨hHeader, hVersion, hLength⟩ := hCompound.framed packet (List.mem_cons_self ..)
      have hReport : first = true → IsReport packet := fun hFirst =>
        hCompound.report hFirst packet rfl
      have hTotal : (packet ++ packets.flatten).length = packet.length + packets.flatten.length :=
        List.length_append
      rw [parsePackets, List.flatten_cons, headerVersion_append hHeader,
        headerLength_append hHeader, headerPadding_append hHeader, ← hLength]
      simp only [isReport_append hHeader]
      rw [if_neg (not_not.mpr hVersion), if_neg (fun h => h.2 (hReport h.1)), if_neg (by omega),
        List.take_left, List.drop_left]
      by_cases hLast : packets = []
      · subst hLast
        simp
      · obtain ⟨hPadding, hLater⟩ := hCompound.tail hLast
        obtain ⟨next, later, rfl⟩ := List.exists_cons_of_ne_nil hLast
        have hNext := (hLater.framed next (List.mem_cons_self ..)).header
        have hRest : 4 ≤ (next :: later).flatten.length := by
          rw [List.flatten_cons, List.length_append]
          omega
        rw [if_neg (by simp [hPadding]), if_pos (by omega),
          ih hLater (Nat.le_of_succ_le_succ hFuel)]
        rfl

theorem length_le_flatten (hFramed : ∀ packet ∈ packets, Framed packet) :
    4 * packets.length ≤ packets.flatten.length := by
  induction packets with
  | nil => exact Nat.zero_le _
  | cons packet packets ih =>
      have hHeader := (hFramed packet (List.mem_cons_self ..)).header
      have hLater := ih fun other hMem => hFramed other (List.mem_cons_of_mem _ hMem)
      rw [List.flatten_cons, List.length_append, List.length_cons]
      omega

/-- What `ParseData` accepts, and the packets that it finds: those whose headers tell their
lengths make up all of the data, the first one is a report and at most the last one is padded. -/
theorem parseData_eq_some_iff :
    parseData data = some packets ↔ packets.flatten = data ∧ Compound true packets := by
  constructor
  · intro hParse
    rw [parseData] at hParse
    split_ifs at hParse with hShort
    exact compound_of_parsePackets (not_lt.mp hShort) hParse
  · rintro ⟨rfl, hCompound⟩
    have hPackets := length_le_flatten hCompound.framed
    have hSome := List.length_pos_iff.mpr hCompound.some
    rw [parseData, if_neg (by omega), parsePackets_flatten hCompound (by omega)]

end RTCPCompoundPacket

namespace RTCPPacket

def packettype : RTCPPacket → Byte
  | sr .. => RTP_RTCPTYPE_SR
  | rr .. => RTP_RTCPTYPE_RR
  | sdes _ => RTP_RTCPTYPE_SDES
  | bye .. => RTP_RTCPTYPE_BYE
  | app .. => RTP_RTCPTYPE_APP
  | unknown packettype => packettype

/-- A packet that is written is a header and whole words. -/
theorem exists_packetBytes {packet : RTCPPacket} (hWritable : packet.Writable) :
    ∃ count body, count ≤ 31 ∧ body.length % 4 = 0 ∧
      packet.bytes = packetBytes count packet.packettype body := by
  cases packet with
  | sr senderssrc info blocks =>
      refine ⟨blocks.length, _, hWritable, ?_, rfl⟩
      have hBlocks := flatMap_length ReportBlock.bytes_length blocks
      rw [List.length_append, List.length_append, htonl_length, info.bytes_length, hBlocks]
      omega
  | rr senderssrc blocks =>
      refine ⟨blocks.length, _, hWritable, ?_, rfl⟩
      have hBlocks := flatMap_length ReportBlock.bytes_length blocks
      rw [List.length_append, htonl_length, hBlocks]
      omega
  | sdes chunks =>
      refine ⟨chunks.length, _, hWritable, ?_, rfl⟩
      induction chunks with
      | nil => rfl
      | cons chunk chunks ih =>
          have hLater := ih (Nat.le_of_succ_le hWritable)
          have hChunk := chunk.neededBytes_mod
          rw [List.flatMap_cons, List.length_append, chunk.bytes_length]
          omega
  | bye ssrcs reason =>
      refine ⟨ssrcs.length, _, hWritable.1, ?_, rfl⟩
      have hSsrcs := flatMap_length htonl_length ssrcs
      rw [List.length_append, hSsrcs]
      cases reason with
      | none =>
          rw [reasonBytes, List.length_nil]
          omega
      | some text =>
          have hAlign := alignment_spec (4 + 4 * ssrcs.length + 1 + text.length)
          simp only [reasonBytes, List.length_cons, List.length_append, List.length_replicate]
          omega
  | app subtype ssrc name appdata =>
      obtain ⟨hSubtype, hName, hAppdata⟩ := hWritable
      refine ⟨subtype, _, hSubtype, ?_, rfl⟩
      rw [List.length_append, List.length_append, htonl_length, hName]
      omega
  | unknown packettype => exact hWritable.elim

/-- Its length is told by its header, where 16 bits are enough for it. -/
theorem framed_bytes {packet : RTCPPacket} (hWritable : packet.Writable)
    (hShort : packet.bytes.length ≤ 4 * 2 ^ 16) : Framed packet.bytes := by
  obtain ⟨count, body, hCount, hWords, hBytes⟩ := exists_packetBytes hWritable
  rw [hBytes] at hShort ⊢
  rw [packetBytes_length] at hShort
  refine ⟨?_, headerVersion_packetBytes hCount, ?_⟩
  · rw [packetBytes_length]
    omega
  · rw [headerLength_packetBytes (by omega), packetBytes_length]
    omega

theorem isReport_bytes {packet : RTCPPacket} (hWritable : packet.Writable)
    (hReport : packet.packettype = RTP_RTCPTYPE_SR ∨ packet.packettype = RTP_RTCPTYPE_RR) :
    IsReport packet.bytes := by
  obtain ⟨count, body, -, -, hBytes⟩ := exists_packetBytes hWritable
  rwa [IsReport, hBytes, headerType_packetBytes]

theorem headerPadding_bytes {packet : RTCPPacket} (hWritable : packet.Writable) :
    headerPadding packet.bytes = false := by
  obtain ⟨count, body, hCount, -, hBytes⟩ := exists_packetBytes hWritable
  rw [hBytes, headerPadding_packetBytes hCount]

end RTCPPacket

namespace RTCPCompoundPacket

/-- Packets that were written one after the other are read, when the first one is a report. -/
theorem rtcppacklist_bytes {packets : List RTCPPacket} (hSome : packets ≠ [])
    (hWritable : ∀ packet ∈ packets, packet.Writable)
    (hShort : ∀ packet ∈ packets, packet.bytes.length ≤ 4 * 2 ^ 16)
    (hFirst : ∀ packet ∈ packets.head?,
      packet.packettype = RTP_RTCPTYPE_SR ∨ packet.packettype = RTP_RTCPTYPE_RR) :
    rtcppacklist (packets.map RTCPPacket.bytes).flatten = some packets := by
  have hCompound : Compound true (packets.map RTCPPacket.bytes) := by
    refine ⟨?_, List.forall_mem_map.mpr ?_, fun _ => ?_, ?_⟩
    · rwa [ne_eq, List.map_eq_nil_iff]
    · exact fun packet hMem => RTCPPacket.framed_bytes (hWritable packet hMem) (hShort packet hMem)
    · intro data hData
      rw [List.head?_map] at hData
      obtain ⟨packet, hHead, rfl⟩ := Option.map_eq_some_iff.mp hData
      exact RTCPPacket.isReport_bytes (hWritable packet (List.mem_of_head? hHead))
        (hFirst packet hHead)
    · rw [← List.map_dropLast]
      exact List.forall_mem_map.mpr fun packet hMem =>
        RTCPPacket.headerPadding_bytes (hWritable packet (List.mem_of_mem_dropLast hMem))
  have hRead : ∀ packet ∈ packets, (RTCPPacket.read ∘ RTCPPacket.bytes) packet = packet :=
    fun packet hMem => RTCPPacket.read_bytes (hWritable packet hMem)
  rw [rtcppacklist, parseData_eq_some_iff.mpr ⟨rfl, hCompound⟩, Option.map_some, List.map_map,
    List.map_congr_left hRead, List.map_id']

end RTCPCompoundPacket

end AudioSync.Rtcp
