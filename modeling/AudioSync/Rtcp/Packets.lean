import AudioSync.Basic
import AudioSync.Lib.ByteOrder
import AudioSync.Lib.Records

/-! The five types of RTCP packets: the bytes that `RTCPCompoundPacketBuilder` writes for them,
and what the classes of the packet types read from their bytes. -/
namespace AudioSync.Rtcp

open ByteOrder Records

/-! `RTP_RTCPTYPE_SR` and the other packet types. -/

def RTP_RTCPTYPE_SR : Byte := 200
def RTP_RTCPTYPE_RR : Byte := 201
def RTP_RTCPTYPE_SDES : Byte := 202
def RTP_RTCPTYPE_BYE : Byte := 203
def RTP_RTCPTYPE_APP : Byte := 204

/-- A 32 bit word in network order. -/
def htonl (word : BitVec 32) : List Byte := bigEndian 4 word.toNat

def ntohl (bytes : List Byte) : BitVec 32 := BitVec.ofNat 32 (bigValue bytes)

@[simp]
theorem htonl_length (word : BitVec 32) : (htonl word).length = 4 := bigEndian_length ..

@[simp]
theorem ntohl_htonl (word : BitVec 32) : ntohl (htonl word) = word := by
  have hWord : bigValue (htonl word) = word.toNat := by
    rw [htonl, bigValue_bigEndian]
    exact Nat.mod_eq_of_lt word.isLt
  rw [ntohl, hWord, BitVec.ofNat_toNat, BitVec.setWidth_eq]

/-- `RTCPReceiverReport`. The count of lost packets has 24 bits. -/
structure ReportBlock where
  ssrc : BitVec 32
  fractionlost : Byte
  packetslost : BitVec 24
  exthighseqnr : BitVec 32
  jitter : BitVec 32
  lsr : BitVec 32
  dlsr : BitVec 32
  deriving DecidableEq, Repr

namespace ReportBlock

def bytes (block : ReportBlock) : List Byte :=
  htonl block.ssrc ++ (block.fractionlost :: (bigEndian 3 block.packetslost.toNat ++
    (htonl block.exthighseqnr ++ (htonl block.jitter ++ (htonl block.lsr ++ htonl block.dlsr)))))

/-- `GotoReport` and the getters of a report block. -/
def ofBytes (data : List Byte) : ReportBlock where
  ssrc := recordAt ntohl 4 0 data
  fractionlost := data.getD 4 0
  packetslost := BitVec.ofNat 24 (recordAt bigValue 3 5 data)
  exthighseqnr := recordAt ntohl 4 8 data
  jitter := recordAt ntohl 4 12 data
  lsr := recordAt ntohl 4 16 data
  dlsr := recordAt ntohl 4 20 data

/-- `GetLostPacketCount`, which extends the sign. -/
def lostPacketCount (block : ReportBlock) : Int := (block.packetslost.signExtend 32).toInt

theorem bytes_length (block : ReportBlock) : (bytes block).length = 24 := by
  simp [bytes]

@[simp]
theorem ofBytes_bytes (block : ReportBlock) : ofBytes block.bytes = block := by
  have hLost : BitVec.ofNat 24 (bigValue (bigEndian 3 block.packetslost.toNat)) =
      block.packetslost := by
    have hFits : block.packetslost.toNat < 256 ^ 3 := block.packetslost.isLt
    rw [bigValue_bigEndian, Nat.mod_eq_of_lt hFits, BitVec.ofNat_toNat, BitVec.setWidth_eq]
  calc ofBytes block.bytes
      = ⟨ntohl (htonl block.ssrc), block.fractionlost,
          BitVec.ofNat 24 (bigValue (bigEndian 3 block.packetslost.toNat)),
          ntohl (htonl block.exthighseqnr), ntohl (htonl block.jitter),
          ntohl (htonl block.lsr), ntohl (htonl block.dlsr)⟩ := rfl
    _ = block := by simp only [ntohl_htonl, hLost]

end ReportBlock

/-- `RTCPSenderReport`. -/
structure SenderInfo where
  ntptime_msw : BitVec 32
  ntptime_lsw : BitVec 32
  rtptimestamp : BitVec 32
  packetcount : BitVec 32
  octetcount : BitVec 32
  deriving DecidableEq, Repr

namespace SenderInfo

def bytes (info : SenderInfo) : List Byte :=
  htonl info.ntptime_msw ++ (htonl info.ntptime_lsw ++ (htonl info.rtptimestamp ++
    (htonl info.packetcount ++ htonl info.octetcount)))

def ofBytes (data : List Byte) : SenderInfo where
  ntptime_msw := recordAt ntohl 4 0 data
  ntptime_lsw := recordAt ntohl 4 4 data
  rtptimestamp := recordAt ntohl 4 8 data
  packetcount := recordAt ntohl 4 12 data
  octetcount := recordAt ntohl 4 16 data

theorem bytes_length (info : SenderInfo) : (bytes info).length = 20 := by
  simp [bytes]

@[simp]
theorem ofBytes_bytes (info : SenderInfo) : ofBytes info.bytes = info := by
  calc ofBytes info.bytes
      = ⟨ntohl (htonl info.ntptime_msw), ntohl (htonl info.ntptime_lsw),
          ntohl (htonl info.rtptimestamp), ntohl (htonl info.packetcount),
          ntohl (htonl info.octetcount)⟩ := rfl
    _ = info := by simp only [ntohl_htonl]

end SenderInfo

/-- An item of an SDES chunk. A zero in the place of `sdesid` ends the list of items. -/
structure SDESItem where
  sdesid : Byte
  data : List Byte
  named : sdesid ≠ 0
  short : data.length < 256
  deriving DecidableEq, Repr

def SDESItem.bytes (item : SDESItem) : List Byte :=
  item.sdesid :: BitVec.ofNat 8 item.data.length :: item.data

/-- `SDESSource`, and a chunk of an SDES packet. -/
structure SDESChunk where
  ssrc : BitVec 32
  items : List SDESItem
  deriving DecidableEq, Repr

/-- The bytes up to the next 32 bit boundary. -/
def alignment (offset : Nat) : Nat := if offset % 4 ≠ 0 then 4 - offset % 4 else 0

theorem alignment_spec (offset : Nat) :
    (offset + alignment offset) % 4 = 0 ∧ alignment offset < 4 := by
  unfold alignment
  split_ifs <;> omega

namespace SDESChunk

def itemBytes (chunk : SDESChunk) : List Byte := chunk.items.flatMap SDESItem.bytes

/-- The SSRC, the items, a zero and as many more as align the chunk. -/
def bytes (chunk : SDESChunk) : List Byte :=
  htonl chunk.ssrc ++ (chunk.itemBytes ++
    0 :: List.replicate (alignment (4 + chunk.itemBytes.length + 1)) 0)

/-- `SDESSource::NeededBytes`. -/
def neededBytes (chunk : SDESChunk) : Nat :=
  chunk.itemBytes.length + 1 + alignment (chunk.itemBytes.length + 1) + 4

/-- Exactly the bytes that were reckoned with are written. -/
theorem bytes_length (chunk : SDESChunk) : chunk.bytes.length = chunk.neededBytes := by
  have hAlign : alignment (4 + chunk.itemBytes.length + 1) =
      alignment (chunk.itemBytes.length + 1) := by
    unfold alignment
    have hMod : (4 + chunk.itemBytes.length + 1) % 4 = (chunk.itemBytes.length + 1) % 4 := by omega
    rw [hMod]
  simp only [bytes, neededBytes, List.length_append, htonl_length, List.length_cons,
    List.length_replicate, hAlign]
  omega

theorem neededBytes_mod (chunk : SDESChunk) :
    chunk.neededBytes % 4 = 0 ∧ 8 ≤ chunk.neededBytes := by
  have hAlign := alignment_spec (chunk.itemBytes.length + 1)
  unfold neededBytes
  omega

end SDESChunk

/-- The packets of a compound packet, and one that its class does not understand. -/
inductive RTCPPacket where
  | sr (senderssrc : BitVec 32) (info : SenderInfo) (blocks : List ReportBlock)
  | rr (senderssrc : BitVec 32) (blocks : List ReportBlock)
  | sdes (chunks : List SDESChunk)
  | bye (ssrcs : List (BitVec 32)) (reason : Option (List Byte))
  | app (subtype : Nat) (ssrc : BitVec 32) (name appdata : List Byte)
  | unknown (packettype : Byte)
  deriving DecidableEq, Repr

/-- `RTCPCommonHeader` without padding, for a packet of a number of 32 bit words. -/
def commonHeader (count : Nat) (packettype : Byte) (numwords : Nat) : List Byte :=
  BitVec.ofNat 8 (128 + count) :: packettype :: bigEndian 2 (numwords - 1)

/-- A header and what follows it. -/
def packetBytes (count : Nat) (packettype : Byte) (body : List Byte) : List Byte :=
  commonHeader count packettype ((4 + body.length) / 4) ++ body

@[simp]
theorem commonHeader_length (count : Nat) (packettype : Byte) (numwords : Nat) :
    (commonHeader count packettype numwords).length = 4 := by
  simp [commonHeader]

theorem packetBytes_length (count : Nat) (packettype : Byte) (body : List Byte) :
    (packetBytes count packettype body).length = 4 + body.length := by
  simp [packetBytes]

/-- The reason of a BYE packet, behind its length and before the zeros that align it. -/
def reasonBytes (offset : Nat) : Option (List Byte) → List Byte
  | none => []
  | some reason =>
      BitVec.ofNat 8 reason.length ::
        (reason ++ List.replicate (alignment (offset + 1 + reason.length)) 0)

namespace RTCPPacket

/-- The bytes that the builder writes for a packet. -/
def bytes : RTCPPacket → List Byte
  | sr senderssrc info blocks =>
      packetBytes blocks.length RTP_RTCPTYPE_SR
        (htonl senderssrc ++ (info.bytes ++ blocks.flatMap ReportBlock.bytes))
  | rr senderssrc blocks =>
      packetBytes blocks.length RTP_RTCPTYPE_RR
        (htonl senderssrc ++ blocks.flatMap ReportBlock.bytes)
  | sdes chunks => packetBytes chunks.length RTP_RTCPTYPE_SDES (chunks.flatMap SDESChunk.bytes)
  | bye ssrcs reason =>
      packetBytes ssrcs.length RTP_RTCPTYPE_BYE
        (ssrcs.flatMap htonl ++ reasonBytes (4 + 4 * ssrcs.length) reason)
  | app subtype ssrc name appdata =>
      packetBytes subtype RTP_RTCPTYPE_APP (htonl ssrc ++ (name ++ appdata))
  | unknown _ => []

end RTCPPacket

/-! The fields of `RTCPCommonHeader`. -/

def headerVersion (data : List Byte) : Nat := (data.getD 0 0).toNat / 64

def headerPadding (data : List Byte) : Bool := decide ((data.getD 0 0).toNat / 32 % 2 = 1)

def headerCount (data : List Byte) : Nat := (data.getD 0 0).toNat % 32

def headerType (data : List Byte) : Byte := data.getD 1 0

def headerLength (data : List Byte) : Nat := recordAt bigValue 2 2 data

/-- The length without the padding, in each of the constructors of the packet types. -/
def unpaddedLength (data : List Byte) : Option Nat :=
  if headerPadding data then
    let padcount := (data.getD (data.length - 1) 0).toNat
    if padcount % 4 ≠ 0 then none
    else if data.length ≤ padcount then none
    else some (data.length - padcount)
  else some data.length

/-- The report blocks behind an offset, as many as the header counts. -/
def reportBlocks (offset : Nat) (data : List Byte) : List ReportBlock :=
  recordsAt ReportBlock.ofBytes 24 offset (headerCount data) data

/-- The items of a chunk, and the bytes behind its end. The first argument bounds the number of
items, and `chunkoffset` is the number of bytes of the chunk before these. -/
def readItems : Nat → Nat → List Byte → Option (List SDESItem × List Byte)
  | 0, _, _ => none
  | _ + 1, _, [] => none
  | fuel + 1, chunkoffset, sdesid :: rest =>
      if hNamed : sdesid = 0 then
        let addoffset := alignment (chunkoffset + 1)
        if rest.length < addoffset then none else some ([], rest.drop addoffset)
      else
        match rest with
        | [] => none
        | itemlen :: rest =>
            if rest.length < itemlen.toNat then none
            else
              let item : SDESItem :=
                { sdesid := sdesid
                  data := rest.take itemlen.toNat
                  named := hNamed
                  short := lt_of_le_of_lt (List.length_take_le _ _) itemlen.isLt }
              (readItems fuel (chunkoffset + 2 + itemlen.toNat) (rest.drop itemlen.toNat)).map
                fun next => (item :: next.1, next.2)

/-- The chunks, as many as the header counts, and nothing behind them. -/
def readChunks : Nat → List Byte → Option (List SDESChunk)
  | 0, rest => if rest = [] then some [] else none
  | ssrccount + 1, rest =>
      if rest.length < 8 then none
      else
        (readItems rest.length 4 (rest.drop 4)).bind fun next =>
          (readChunks ssrccount next.2).map fun chunks =>
            ⟨recordAt ntohl 4 0 rest, next.1⟩ :: chunks

namespace RTCPPacket

/-- The constructor of `RTCPSRPacket` and the getters. -/
def readSR (data : List Byte) : Option RTCPPacket :=
  (unpaddedLength data).bind fun len =>
    if 4 + 4 + 20 + 24 * headerCount data ≠ len then none
    else some (sr (recordAt ntohl 4 4 data) (recordAt SenderInfo.ofBytes 20 8 data)
      (reportBlocks 28 data))

def readRR (data : List Byte) : Option RTCPPacket :=
  (unpaddedLength data).bind fun len =>
    if 4 + 4 + 24 * headerCount data ≠ len then none
    else some (rr (recordAt ntohl 4 4 data) (reportBlocks 8 data))

def readSDES (data : List Byte) : Option RTCPPacket :=
  (unpaddedLength data).bind fun len =>
    if len < 4 then none
    else (readChunks (headerCount data) ((data.take len).drop 4)).map sdes

def readBYE (data : List Byte) : Option RTCPPacket :=
  (unpaddedLength data).bind fun len =>
    let ssrclen := 4 * headerCount data + 4
    let ssrcs := recordsAt ntohl 4 4 (headerCount data) data
    if len < ssrclen then none
    else if ssrclen < len then
      let reaslen := (data.getD ssrclen 0).toNat
      if len - ssrclen - 1 < reaslen then none
      else some (bye ssrcs (some ((data.drop (ssrclen + 1)).take reaslen)))
    else some (bye ssrcs none)

def readAPP (data : List Byte) : Option RTCPPacket :=
  (unpaddedLength data).bind fun len =>
    if len < 12 then none
    else some (app (headerCount data) (recordAt ntohl 4 4 data) ((data.drop 8).take 4)
      ((data.drop 12).take (len - 12)))

/-- The packet that `RTCPCompoundPacket` makes of these bytes; `IsKnownFormat` tells whether its
class understands them. -/
def read (data : List Byte) : RTCPPacket :=
  let known :=
    if headerType data = RTP_RTCPTYPE_SR then readSR data
    else if headerType data = RTP_RTCPTYPE_RR then readRR data
    else if headerType data = RTP_RTCPTYPE_SDES then readSDES data
    else if headerType data = RTP_RTCPTYPE_BYE then readBYE data
    else if headerType data = RTP_RTCPTYPE_APP then readAPP data
    else none
  known.getD (unknown (headerType data))

end RTCPPacket

section Header

variable {count : Nat} {packettype : Byte} {body : List Byte}

theorem headerType_packetBytes : headerType (packetBytes count packettype body) = packettype := rfl

theorem packetBytes_first (hCount : count ≤ 31) :
    ((packetBytes count packettype body).getD 0 0).toNat = 128 + count := by
  have hByte : (BitVec.ofNat 8 (128 + count)).toNat = 128 + count := by
    rw [BitVec.toNat_ofNat]
    omega
  exact hByte

theorem headerVersion_packetBytes (hCount : count ≤ 31) :
    headerVersion (packetBytes count packettype body) = 2 := by
  rw [headerVersion, packetBytes_first hCount]
  omega

theorem headerCount_packetBytes (hCount : count ≤ 31) :
    headerCount (packetBytes count packettype body) = count := by
  rw [headerCount, packetBytes_first hCount]
  omega

theorem headerPadding_packetBytes (hCount : count ≤ 31) :
    headerPadding (packetBytes count packettype body) = false := by
  rw [headerPadding, packetBytes_first hCount, decide_eq_false_iff_not]
  omega

theorem unpaddedLength_packetBytes (hCount : count ≤ 31) :
    unpaddedLength (packetBytes count packettype body) = some (4 + body.length) := by
  rw [unpaddedLength, headerPadding_packetBytes hCount, packetBytes_length]
  rfl

/-- The length field counts the words but one, in 16 bits. -/
theorem headerLength_packetBytes (hShort : (4 + body.length) / 4 ≤ 65536) :
    headerLength (packetBytes count packettype body) = (4 + body.length) / 4 - 1 := by
  have hField : headerLength (packetBytes count packettype body) =
      bigValue (bigEndian 2 ((4 + body.length) / 4 - 1)) := rfl
  have hPow : (256 : Nat) ^ 2 = 65536 := by decide
  rw [hField, bigValue_bigEndian, hPow]
  omega

/-- A record behind the header and some more bytes. -/
theorem recordAt_packetBytes {α : Type*} {decode : List Byte → α} {size offset : Nat}
    {before record after : List Byte} (hBefore : 4 + before.length = offset)
    (hSize : record.length = size) :
    recordAt decode size offset (packetBytes count packettype (before ++ (record ++ after))) =
      decode record := by
  have hHeader : (commonHeader count packettype
      ((4 + (before ++ (record ++ after)).length) / 4) ++ before).length = offset := by
    rw [List.length_append, commonHeader_length, hBefore]
  rw [packetBytes, ← List.append_assoc]
  exact recordAt_append hHeader hSize

/-- Records behind the header and some more bytes, up to the end. -/
theorem recordsAt_packetBytes {α : Type*} {decode : List Byte → α} {encode : α → List Byte}
    {size offset : Nat} (hSize : ∀ x, (encode x).length = size)
    (hDecode : ∀ x, decode (encode x) = x) {before : List Byte}
    (hBefore : 4 + before.length = offset) (xs : List α) :
    recordsAt decode size offset xs.length
      (packetBytes count packettype (before ++ xs.flatMap encode)) = xs := by
  have hHeader : (commonHeader count packettype
      ((4 + (before ++ xs.flatMap encode).length) / 4) ++ before).length = offset := by
    rw [List.length_append, commonHeader_length, hBefore]
  have hRead : recordsAt decode size offset xs.length ((commonHeader count packettype
      ((4 + (before ++ xs.flatMap encode).length) / 4) ++ before) ++
        (xs.flatMap encode ++ [])) = xs := recordsAt_flatMap hSize hDecode hHeader xs
  rw [List.append_nil, List.append_assoc] at hRead
  exact hRead

/-- The record right behind the header. -/
theorem recordAt_body {α : Type*} {decode : List Byte → α} {size : Nat} {record after : List Byte}
    (hSize : record.length = size) :
    recordAt decode size 4 (packetBytes count packettype (record ++ after)) = decode record :=
  recordAt_append (commonHeader_length ..) hSize

/-- The records right behind the header. -/
theorem recordsAt_body {α : Type*} {decode : List Byte → α} {encode : α → List Byte}
    {size : Nat} (hSize : ∀ x, (encode x).length = size) (hDecode : ∀ x, decode (encode x) = x)
    (xs : List α) {after : List Byte} :
    recordsAt decode size 4 xs.length
      (packetBytes count packettype (xs.flatMap encode ++ after)) = xs :=
  recordsAt_flatMap hSize hDecode (commonHeader_length ..) xs

end Header

section SDES

/-- The items that were written are read, up to the zero that ends them and its alignment. -/
theorem readItems_bytes (items : List SDESItem) {fuel chunkoffset : Nat} {rest : List Byte}
    (hFuel : items.length < fuel) :
    readItems fuel chunkoffset (items.flatMap SDESItem.bytes ++ 0 ::
        (List.replicate (alignment
          (chunkoffset + (items.flatMap SDESItem.bytes).length + 1)) 0 ++ rest)) =
      some (items, rest) := by
  induction items generalizing fuel chunkoffset with
  | nil =>
      obtain ⟨fuel, rfl⟩ := Nat.exists_eq_succ_of_ne_zero (Nat.ne_of_gt hFuel)
      simp [readItems]
  | cons item items ih =>
      obtain ⟨fuel, rfl⟩ := Nat.exists_eq_succ_of_ne_zero
        (Nat.ne_of_gt (lt_of_le_of_lt (Nat.zero_le _) hFuel))
      obtain ⟨sdesid, data, hNamed, hShort⟩ := item
      have hLength : (BitVec.ofNat 8 data.length).toNat = data.length := by
        rw [BitVec.toNat_ofNat]
        exact Nat.mod_eq_of_lt hShort
      have hLater : readItems fuel (chunkoffset + 2 + data.length)
          (items.flatMap SDESItem.bytes ++ 0 :: (List.replicate (alignment
            (chunkoffset + 2 + data.length + (items.flatMap SDESItem.bytes).length + 1)) 0 ++
              rest)) = some (items, rest) := ih (Nat.lt_of_succ_lt_succ hFuel)
      have hOffset : chunkoffset + 2 + data.length + (items.flatMap SDESItem.bytes).length =
          chunkoffset + ((sdesid :: BitVec.ofNat 8 data.length :: data) ++
            items.flatMap SDESItem.bytes).length := by
        simp only [List.length_append, List.length_cons]
        omega
      rw [hOffset] at hLater
      simp only [List.flatMap_cons, SDESItem.bytes, List.cons_append, List.append_assoc] at hLater ⊢
      rw [readItems, dif_neg hNamed]
      simp only [hLength, List.take_left, List.drop_left, List.length_append]
      rw [if_neg (by omega), hLater]
      rfl

theorem length_le_itemBytes (items : List SDESItem) :
    items.length ≤ (items.flatMap SDESItem.bytes).length := by
  induction items with
  | nil => exact Nat.le_refl _
  | cons item items ih =>
      simp only [List.flatMap_cons, SDESItem.bytes, List.length_append, List.length_cons]
      omega

/-- The chunks that were written are read, and nothing is left. -/
theorem readChunks_bytes (chunks : List SDESChunk) :
    readChunks chunks.length (chunks.flatMap SDESChunk.bytes) = some chunks := by
  induction chunks with
  | nil => rfl
  | cons chunk chunks ih =>
      have hSize := chunk.neededBytes_mod
      rw [← chunk.bytes_length] at hSize
      have hItems := length_le_itemBytes chunk.items
      have hAll : chunk.bytes ++ chunks.flatMap SDESChunk.bytes =
          htonl chunk.ssrc ++ (chunk.itemBytes ++ 0 ::
            (List.replicate (alignment (4 + chunk.itemBytes.length + 1)) 0 ++
              chunks.flatMap SDESChunk.bytes)) := by
        simp only [SDESChunk.bytes, List.append_assoc, List.cons_append]
      have hFuel : chunk.items.length < (chunk.bytes ++ chunks.flatMap SDESChunk.bytes).length := by
        have hBytes : chunk.itemBytes.length < chunk.bytes.length := by
          rw [chunk.bytes_length, SDESChunk.neededBytes]
          omega
        rw [List.length_append]
        exact lt_of_le_of_lt hItems (hBytes.trans_le (Nat.le_add_right _ _))
      have hRead : readItems (chunk.bytes ++ chunks.flatMap SDESChunk.bytes).length 4
          (chunk.itemBytes ++ 0 ::
            (List.replicate (alignment (4 + chunk.itemBytes.length + 1)) 0 ++
              chunks.flatMap SDESChunk.bytes)) =
            some (chunk.items, chunks.flatMap SDESChunk.bytes) :=
        readItems_bytes chunk.items hFuel
      have hSsrc : recordAt ntohl 4 0 (chunk.bytes ++ chunks.flatMap SDESChunk.bytes) =
          chunk.ssrc := by
        rw [hAll]
        exact (recordAt_append List.length_nil (htonl_length chunk.ssrc)).trans (ntohl_htonl _)
      have hDrop : (chunk.bytes ++ chunks.flatMap SDESChunk.bytes).drop 4 = chunk.itemBytes ++ 0 ::
          (List.replicate (alignment (4 + chunk.itemBytes.length + 1)) 0 ++
            chunks.flatMap SDESChunk.bytes) := by
        rw [hAll, List.drop_left' (htonl_length chunk.ssrc)]
      rw [List.length_cons, List.flatMap_cons, readChunks, if_neg (by
        rw [List.length_append]
        omega), hSsrc, hDrop]
      refine (congrArg (fun next => Option.bind next _) hRead).trans ?_
      rw [Option.bind_some, ih]
      rfl

end SDES

namespace RTCPPacket

/-- What the builder lets into its packets. -/
def Writable : RTCPPacket → Prop
  | sr _ _ blocks => blocks.length ≤ 31
  | rr _ blocks => blocks.length ≤ 31
  | sdes chunks => chunks.length ≤ 31
  | bye ssrcs reason => ssrcs.length ≤ 31 ∧ ∀ text ∈ reason, text.length < 256
  | app subtype _ name appdata => subtype ≤ 31 ∧ name.length = 4 ∧ appdata.length % 4 = 0
  | unknown _ => False

theorem readSR_bytes {senderssrc : BitVec 32} {info : SenderInfo} {blocks : List ReportBlock}
    (hBlocks : blocks.length ≤ 31) :
    readSR (sr senderssrc info blocks).bytes = some (sr senderssrc info blocks) := by
  have hLength := flatMap_length ReportBlock.bytes_length blocks
  have hSsrc : recordAt ntohl 4 4 (sr senderssrc info blocks).bytes = senderssrc := by
    rw [bytes, recordAt_body (htonl_length senderssrc), ntohl_htonl]
  have hInfo : recordAt SenderInfo.ofBytes 20 8 (sr senderssrc info blocks).bytes = info := by
    have hBefore : 4 + (htonl senderssrc).length = 8 := by rw [htonl_length]
    rw [bytes, recordAt_packetBytes hBefore info.bytes_length, info.ofBytes_bytes]
  have hReports : reportBlocks 28 (sr senderssrc info blocks).bytes = blocks := by
    have hBefore : 4 + (htonl senderssrc ++ info.bytes).length = 28 := by
      rw [List.length_append, htonl_length, info.bytes_length]
    rw [reportBlocks, bytes, headerCount_packetBytes hBlocks, ← List.append_assoc,
      recordsAt_packetBytes ReportBlock.bytes_length ReportBlock.ofBytes_bytes hBefore]
  rw [readSR, hSsrc, hInfo, hReports]
  rw [bytes, unpaddedLength_packetBytes hBlocks, Option.bind_some, headerCount_packetBytes hBlocks,
    if_neg]
  rw [List.length_append, List.length_append, htonl_length, info.bytes_length, hLength]
  omega

theorem readRR_bytes {senderssrc : BitVec 32} {blocks : List ReportBlock}
    (hBlocks : blocks.length ≤ 31) :
    readRR (rr senderssrc blocks).bytes = some (rr senderssrc blocks) := by
  have hLength := flatMap_length ReportBlock.bytes_length blocks
  have hSsrc : recordAt ntohl 4 4 (rr senderssrc blocks).bytes = senderssrc := by
    rw [bytes, recordAt_body (htonl_length senderssrc), ntohl_htonl]
  have hReports : reportBlocks 8 (rr senderssrc blocks).bytes = blocks := by
    have hBefore : 4 + (htonl senderssrc).length = 8 := by rw [htonl_length]
    rw [reportBlocks, bytes, headerCount_packetBytes hBlocks,
      recordsAt_packetBytes ReportBlock.bytes_length ReportBlock.ofBytes_bytes hBefore]
  rw [readRR, hSsrc, hReports]
  rw [bytes, unpaddedLength_packetBytes hBlocks, Option.bind_some, headerCount_packetBytes hBlocks,
    if_neg]
  rw [List.length_append, htonl_length, hLength]
  omega

theorem readSDES_bytes {chunks : List SDESChunk} (hChunks : chunks.length ≤ 31) :
    readSDES (sdes chunks).bytes = some (sdes chunks) := by
  rw [readSDES, bytes, unpaddedLength_packetBytes hChunks, Option.bind_some,
    headerCount_packetBytes hChunks, if_neg (by omega),
    ← packetBytes_length chunks.length RTP_RTCPTYPE_SDES, List.take_length, packetBytes,
    List.drop_left' (commonHeader_length ..), readChunks_bytes]
  rfl

theorem readBYE_bytes {ssrcs : List (BitVec 32)} {reason : Option (List Byte)}
    (hSsrcs : ssrcs.length ≤ 31) (hReason : ∀ text ∈ reason, text.length < 256) :
    readBYE (bye ssrcs reason).bytes = some (bye ssrcs reason) := by
  have hLength := flatMap_length htonl_length ssrcs
  have hRead : recordsAt ntohl 4 4 ssrcs.length (bye ssrcs reason).bytes = ssrcs := by
    rw [bytes, recordsAt_body htonl_length ntohl_htonl]
  have hBehind : (bye ssrcs reason).bytes.drop (4 * ssrcs.length + 4) =
      reasonBytes (4 + 4 * ssrcs.length) reason := by
    rw [bytes, packetBytes, ← List.append_assoc]
    refine List.drop_left' ?_
    rw [List.length_append, commonHeader_length, hLength]
    omega
  have hTotal : (bye ssrcs reason).bytes.length =
      4 * ssrcs.length + 4 + (reasonBytes (4 + 4 * ssrcs.length) reason).length := by
    rw [bytes, packetBytes_length, List.length_append, hLength]
    omega
  have hCount : headerCount (bye ssrcs reason).bytes = ssrcs.length :=
    headerCount_packetBytes hSsrcs
  have hUnpadded : unpaddedLength (bye ssrcs reason).bytes =
      some (bye ssrcs reason).bytes.length := by
    rw [bytes, unpaddedLength_packetBytes hSsrcs, packetBytes_length]
  rw [readBYE, hUnpadded, Option.bind_some]
  dsimp only
  rw [hCount, hRead, hTotal]
  cases reason with
  | none => simp [reasonBytes]
  | some text =>
      have hShort := hReason text rfl
      have hByte : (BitVec.ofNat 8 text.length).toNat = text.length := by
        rw [BitVec.toNat_ofNat]
        exact Nat.mod_eq_of_lt hShort
      have hReaslen : ((bye ssrcs (some text)).bytes.getD (4 * ssrcs.length + 4) 0).toNat =
          text.length := by
        have hFirst : (bye ssrcs (some text)).bytes.getD (4 * ssrcs.length + 4) 0 =
            ((bye ssrcs (some text)).bytes.drop (4 * ssrcs.length + 4)).getD 0 0 := by
          simp [List.getD_eq_getElem?_getD]
        rw [hFirst, hBehind]
        exact hByte
      have hText : (bye ssrcs (some text)).bytes.drop (4 * ssrcs.length + 4 + 1) =
          text ++ List.replicate (alignment (4 + 4 * ssrcs.length + 1 + text.length)) 0 := by
        rw [← List.drop_drop, hBehind]
        rfl
      rw [hReaslen, hText, List.take_left]
      simp only [reasonBytes, List.length_cons, List.length_append]
      rw [if_neg (by omega), if_pos (by omega), if_neg (by omega)]

theorem readAPP_bytes {subtype : Nat} {ssrc : BitVec 32} {name appdata : List Byte}
    (hSubtype : subtype ≤ 31) (hName : name.length = 4) :
    readAPP (app subtype ssrc name appdata).bytes = some (app subtype ssrc name appdata) := by
  have hSsrc : recordAt ntohl 4 4 (app subtype ssrc name appdata).bytes = ssrc := by
    rw [bytes, recordAt_body (htonl_length ssrc), ntohl_htonl]
  have hBefore : 4 + (htonl ssrc).length = 8 := by rw [htonl_length]
  have hRead : recordAt id 4 8 (app subtype ssrc name appdata).bytes = name := by
    rw [bytes, recordAt_packetBytes hBefore hName, id]
  have hCount : headerCount (app subtype ssrc name appdata).bytes = subtype :=
    headerCount_packetBytes hSubtype
  have hData : (app subtype ssrc name appdata).bytes.drop 12 = appdata := by
    rw [bytes, packetBytes, ← List.append_assoc, ← List.append_assoc]
    refine List.drop_left' ?_
    simp only [List.length_append, commonHeader_length, htonl_length, hName]
  have hLength : 4 + (htonl ssrc ++ (name ++ appdata)).length = 12 + appdata.length := by
    simp only [List.length_append, htonl_length, hName]
    omega
  have hUnpadded : unpaddedLength (app subtype ssrc name appdata).bytes =
      some (12 + appdata.length) := by
    rw [bytes, unpaddedLength_packetBytes hSubtype, hLength]
  have hRest : 12 + appdata.length - 12 = appdata.length := by omega
  rw [readAPP, hUnpadded, Option.bind_some, if_neg (by omega), hCount, hSsrc, hData, hRest,
    List.take_length]
  exact congrArg (fun text => some (app subtype ssrc text appdata)) hRead

/-- A packet that was written is the packet that is read. -/
theorem read_bytes {packet : RTCPPacket} (hWritable : packet.Writable) :
    read packet.bytes = packet := by
  cases packet with
  | sr senderssrc info blocks =>
      have hType : headerType (sr senderssrc info blocks).bytes = RTP_RTCPTYPE_SR := rfl
      rw [read, hType, if_pos rfl, readSR_bytes hWritable]
      rfl
  | rr senderssrc blocks =>
      have hType : headerType (rr senderssrc blocks).bytes = RTP_RTCPTYPE_RR := rfl
      rw [read, hType, if_neg (by decide), if_pos rfl, readRR_bytes hWritable]
      rfl
  | sdes chunks =>
      have hType : headerType (sdes chunks).bytes = RTP_RTCPTYPE_SDES := rfl
      rw [read, hType, if_neg (by decide), if_neg (by decide), if_pos rfl,
        readSDES_bytes hWritable]
      rfl
  | bye ssrcs reason =>
      have hType : headerType (bye ssrcs reason).bytes = RTP_RTCPTYPE_BYE := rfl
      rw [read, hType, if_neg (by decide), if_neg (by decide), if_neg (by decide), if_pos rfl,
        readBYE_bytes hWritable.1 hWritable.2]
      rfl
  | app subtype ssrc name appdata =>
      have hType : headerType (app subtype ssrc name appdata).bytes = RTP_RTCPTYPE_APP := rfl
      rw [read, hType, if_neg (by decide), if_neg (by decide), if_neg (by decide),
        if_neg (by decide), if_pos rfl, readAPP_bytes hWritable.1 hWritable.2.1]
      rfl
  | unknown packettype => exact hWritable.elim

end RTCPPacket

end AudioSync.Rtcp
