import AudioSync.Lib.Transition
import AudioSync.Rtcp.CompoundPacket
import AudioSync.Rtp.Session

/-! `RTCPCompoundPacketBuilder`: reports, source descriptions and other packets are collected in
buffers, and `EndBuild` writes the compound packet. -/
namespace AudioSync.Rtcp

open AudioSync.Rtp (RTP_MINPACKETSIZE)

/-- The error codes of the builder. -/
inductive RTCPError where
  | alreadyBuilding
  | alreadyBuilt
  | maxPacketSizeTooSmall
  | bufferSizeTooSmall
  | notBuilding
  | alreadyGotReport
  | notEnoughBytesLeft
  | reportNotStarted
  | noCurrentSource
  | invalidItemType
  | totalItemLengthTooBig
  | tooManySSRCs
  | illegalSubtype
  | illegalAppDataLength
  | appDataLenTooBig
  | noReportPresent
  deriving DecidableEq, Repr

/-- `RTCPSDESPacket::ItemType`. -/
inductive ItemType where
  | none | cname | name | email | phone | loc | tool | note | priv | unknown
  deriving DecidableEq, Repr

/-- The identifier of a normal item, `RTCP_SDES_ID_CNAME` to `RTCP_SDES_ID_NOTE`. -/
def ItemType.itemid : ItemType → Option { itemid : Byte // itemid ≠ 0 }
  | cname => some ⟨1, by decide⟩
  | name => some ⟨2, by decide⟩
  | email => some ⟨3, by decide⟩
  | phone => some ⟨4, by decide⟩
  | loc => some ⟨5, by decide⟩
  | tool => some ⟨6, by decide⟩
  | note => some ⟨7, by decide⟩
  | _ => Option.none

def RTCP_SDES_ID_PRIVATE : Byte := 8

/-- Data whose length is a `uint8_t`. -/
structure Text where
  data : List Byte
  short : data.length < 256

/-- A `Buffer`. -/
abbrev Buffer := List Byte

/-- The number of packets for `n` blocks or sources, 31 at most in each. -/
def packetCount (n : Nat) : Nat := n / 31 + if n % 31 ≠ 0 then 1 else 0

theorem packetCount_eq (n : Nat) : packetCount n = (n + 31 - 1) / 31 := by
  unfold packetCount
  split_ifs <;> omega

/-- The report of a builder. Its header data is the SSRC and, of a sender, the sender's
information; it is empty until the report is started. -/
structure Report where
  isSR : Bool
  headerdata : Buffer
  reportblocks : List Buffer
  deriving DecidableEq, Repr

namespace Report

/-- The size with `n` report blocks. -/
def bytesWithBlocks (report : Report) (n : Nat) : Nat :=
  n * 24 + packetCount n * 8 + if report.isSR then 20 else 0

def neededBytes (report : Report) : Nat :=
  if report.reportblocks.length = 0 then
    if report.headerdata.length = 0 then 0 else 4 + report.headerdata.length
  else report.bytesWithBlocks report.reportblocks.length

def neededBytesWithExtraReportBlock (report : Report) : Nat :=
  report.bytesWithBlocks (report.reportblocks.length + 1)

/-- The loop of `EndBuild` over the report blocks, with the packets that it writes. The first
argument bounds its rounds. -/
def write (report : Report) : Nat → Bool → List Buffer → List Buffer
  | 0, _, _ => []
  | fuel + 1, firstpacket, blocks =>
      (if firstpacket && report.isSR then
        packetBytes (blocks.take 31).length RTP_RTCPTYPE_SR
          (report.headerdata ++ (blocks.take 31).flatten)
      else
        packetBytes (blocks.take 31).length RTP_RTCPTYPE_RR
          (report.headerdata.take 4 ++ (blocks.take 31).flatten)) ::
        if blocks.drop 31 = [] then [] else write report fuel false (blocks.drop 31)

end Report

/-- A source of the SDES packets. -/
structure SDESSource where
  ssrc : BitVec 32
  items : List Buffer
  totalitemsize : Nat
  deriving DecidableEq, Repr

namespace SDESSource

/-- The size with items of these many bytes. -/
def bytesWithItems (size : Nat) : Nat := size + 1 + alignment (size + 1) + 4

def neededBytes (source : SDESSource) : Nat := bytesWithItems source.totalitemsize

def neededBytesWithExtraItem (source : SDESSource) (itemdatalength : Nat) : Nat :=
  bytesWithItems (source.totalitemsize + 2 + itemdatalength)

def addItem (source : SDESSource) (buf : Buffer) : SDESSource :=
  { source with totalitemsize := source.totalitemsize + buf.length, items := source.items ++ [buf] }

/-- What `EndBuild` writes for a source, behind what it wrote of the packet. -/
def write (written : Buffer) (source : SDESSource) : Buffer :=
  let items := written ++ htonl source.ssrc ++ source.items.flatten ++ [0]
  items ++ List.replicate (alignment items.length) 0

end SDESSource

/-! `SDES`, a list of sources. Items are added to the last one. -/

namespace SDES

def neededBytes (sources : List SDESSource) : Nat :=
  if sources = [] then 0
  else (sources.map SDESSource.neededBytes).sum + packetCount sources.length * 4

def neededBytesWithExtraItem (sources : List SDESSource) (itemdatalength : Nat) : Nat :=
  match sources.getLast? with
  | none => 0
  | some last =>
      (sources.dropLast.map SDESSource.neededBytes).sum +
        last.neededBytesWithExtraItem itemdatalength + packetCount sources.length * 4

def neededBytesWithExtraSource (sources : List SDESSource) : Nat :=
  if sources = [] then 0
  else (sources.map SDESSource.neededBytes).sum + 8 + packetCount (sources.length + 1) * 4

def addSSRC (sources : List SDESSource) (ssrc : BitVec 32) : List SDESSource :=
  sources ++ [⟨ssrc, [], 0⟩]

def addItem (sources : List SDESSource) (buf : Buffer) : List SDESSource :=
  match sources.getLast? with
  | none => sources
  | some last => sources.dropLast ++ [last.addItem buf]

/-- What is written behind the header of a packet with these sources. The four bytes of the
header are filled in at the end. -/
def packetBody (sources : List SDESSource) : Buffer :=
  (sources.foldl SDESSource.write (commonHeader 0 0 0)).drop 4

/-- The loop of `EndBuild` over the sources, with the packets that it writes. -/
def write : Nat → List SDESSource → List Buffer
  | 0, _ => []
  | fuel + 1, sources =>
      packetBytes (sources.take 31).length RTP_RTCPTYPE_SDES (packetBody (sources.take 31)) ::
        if sources.drop 31 = [] then [] else write fuel (sources.drop 31)

end SDES

/-- The builder, and the compound packet once it is built. -/
structure RTCPCompoundPacketBuilder where
  maximumpacketsize : Nat
  external : Bool
  arebuilding : Bool
  report : Report
  sdessources : List SDESSource
  byepackets : List Buffer
  byesize : Nat
  apppackets : List Buffer
  appsize : Nat
  compoundpacket : Option Buffer
  compoundpacketlength : Nat
  /-- The bytes that each packet of the list stands for. -/
  rtcppacklist : List Buffer
  deriving DecidableEq, Repr

/-- The calls of the functions of a builder. -/
inductive Call where
  | initBuild (external : Bool) (maxpacketsize : Nat)
  | startSenderReport (senderssrc : BitVec 32) (info : SenderInfo)
  | startReceiverReport (senderssrc : BitVec 32)
  | addReportBlock (ssrc : BitVec 32) (fractionlost : Byte) (packetslost : BitVec 32)
      (exthighestseq jitter lsr dlsr : BitVec 32)
  | addSDESSource (ssrc : BitVec 32)
  | addSDESNormalItem (t : ItemType) (itemdata : Text)
  | addSDESPrivateItem (prefixdata valuedata : Text)
  | addBYEPacket (ssrcs : List (BitVec 32)) (reason : Text)
  | addAPPPacket (subtype : Nat) (ssrc : BitVec 32) (name : Fin 4 → Byte) (appdata : List Byte)
  | endBuild

/-- A report block; of the count of lost packets the low 24 bits are written. -/
def reportBlock (ssrc : BitVec 32) (fractionlost : Byte) (packetslost : BitVec 32)
    (exthighestseq jitter lsr dlsr : BitVec 32) : ReportBlock :=
  ⟨ssrc, fractionlost, packetslost.setWidth 24, exthighestseq, jitter, lsr, dlsr⟩

/-- A count of lost packets that fits 24 bits is read as it was given, also a negative one. -/
theorem lostPacketCount_reportBlock {ssrc packetslost exthighestseq jitter lsr dlsr : BitVec 32}
    {fractionlost : Byte} (hLow : -2 ^ 23 ≤ packetslost.toInt) (hHigh : packetslost.toInt < 2 ^ 23) :
    (reportBlock ssrc fractionlost packetslost exthighestseq jitter lsr dlsr).lostPacketCount =
      packetslost.toInt := by
  have hExtend : ((packetslost.setWidth 24).signExtend 32).toInt =
      (packetslost.setWidth 24).toInt := BitVec.toInt_signExtend_of_le (by decide)
  rw [ReportBlock.lostPacketCount, reportBlock, hExtend, BitVec.toInt_setWidth]
  rw [BitVec.toInt_eq_toNat_cond] at hLow hHigh ⊢
  rw [Int.bmod_def]
  split_ifs at hLow hHigh ⊢ <;> omega

/-- The item of `AddSDESNormalItem`. -/
def normalItem (t : ItemType) (itemdata : Text) : Except RTCPError SDESItem :=
  match t.itemid with
  | none => .error .invalidItemType
  | some itemid => .ok ⟨itemid, itemdata.data, itemid.property, itemdata.short⟩

/-- The item of `AddSDESPrivateItem`: the length of the prefix, the prefix and the value. -/
def privateItem (prefixdata valuedata : Text) : Except RTCPError SDESItem :=
  if hShort : (BitVec.ofNat 8 prefixdata.data.length ::
      (prefixdata.data ++ valuedata.data)).length < 256 then
    .ok ⟨RTCP_SDES_ID_PRIVATE, _, by decide, hShort⟩
  else .error .totalItemLengthTooBig

/-- A BYE packet; an empty text is no reason. -/
def byePacket (ssrcs : List (BitVec 32)) (reason : Text) : RTCPPacket :=
  .bye ssrcs (if reason.data.length = 0 then none else some reason.data)

def appPacket (subtype : Nat) (ssrc : BitVec 32) (name : Fin 4 → Byte) (appdata : List Byte) :
    RTCPPacket :=
  .app subtype ssrc (List.ofFn name) appdata

namespace RTCPCompoundPacketBuilder

/-- A builder as it is constructed. -/
def new : RTCPCompoundPacketBuilder :=
  ⟨0, false, false, ⟨false, [], []⟩, [], [], 0, [], 0, none, 0, []⟩

def neededBytes (pb : RTCPCompoundPacketBuilder) : Nat :=
  pb.appsize + pb.byesize + pb.report.neededBytes + SDES.neededBytes pb.sdessources

/-- The packets that `EndBuild` writes, one after the other. -/
def packetsOfBuffers (pb : RTCPCompoundPacketBuilder) : List Buffer :=
  pb.report.write (pb.report.reportblocks.length + 1) true pb.report.reportblocks ++
    ((if pb.sdessources = [] then [] else SDES.write (pb.sdessources.length + 1) pb.sdessources) ++
      (pb.apppackets ++ pb.byepackets))

def initBuild (pb : RTCPCompoundPacketBuilder) (external : Bool) (maxpacketsize : Nat) :
    Except RTCPError RTCPCompoundPacketBuilder :=
  if pb.arebuilding then .error .alreadyBuilding
  else if pb.compoundpacket.isSome then .error .alreadyBuilt
  else if maxpacketsize < RTP_MINPACKETSIZE then
    .error (if external then .bufferSizeTooSmall else .maxPacketSizeTooSmall)
  else .ok { pb with
    maximumpacketsize := maxpacketsize
    external := external
    byesize := 0
    appsize := 0
    arebuilding := true }

/-- `StartSenderReport` and `StartReceiverReport`. The bytes that are left are a `size_t`. -/
def startReport (abi : Abi) (pb : RTCPCompoundPacketBuilder) (isSR : Bool) (headerdata : Buffer) :
    Except RTCPError RTCPCompoundPacketBuilder :=
  if ¬ pb.arebuilding then .error .notBuilding
  else if pb.report.headerdata.length ≠ 0 then .error .alreadyGotReport
  else
    let totalsize : Nat := pb.byesize + pb.appsize + SDES.neededBytes pb.sdessources
    let sizeleft := abi.size ((pb.maximumpacketsize : Int) - totalsize)
    if sizeleft < 4 + headerdata.length then .error .notEnoughBytesLeft
    else .ok { pb with report := { pb.report with isSR := isSR, headerdata := headerdata } }

def addReportBlock (pb : RTCPCompoundPacketBuilder) (block : ReportBlock) :
    Except RTCPError RTCPCompoundPacketBuilder :=
  if ¬ pb.arebuilding then .error .notBuilding
  else if pb.report.headerdata.length = 0 then .error .reportNotStarted
  else if pb.maximumpacketsize < pb.byesize + pb.appsize + SDES.neededBytes pb.sdessources +
      pb.report.neededBytesWithExtraReportBlock then .error .notEnoughBytesLeft
  else .ok { pb with
    report := { pb.report with reportblocks := pb.report.reportblocks ++ [block.bytes] } }

def addSDESSource (pb : RTCPCompoundPacketBuilder) (ssrc : BitVec 32) :
    Except RTCPError RTCPCompoundPacketBuilder :=
  if ¬ pb.arebuilding then .error .notBuilding
  else if pb.maximumpacketsize < pb.byesize + pb.appsize + pb.report.neededBytes +
      SDES.neededBytesWithExtraSource pb.sdessources then .error .notEnoughBytesLeft
  else .ok { pb with sdessources := SDES.addSSRC pb.sdessources ssrc }

/-- `AddSDESNormalItem` and `AddSDESPrivateItem`, with the item that they make. -/
def addSDESItem (pb : RTCPCompoundPacketBuilder) (item : Except RTCPError SDESItem) :
    Except RTCPError RTCPCompoundPacketBuilder :=
  if ¬ pb.arebuilding then .error .notBuilding
  else if pb.sdessources = [] then .error .noCurrentSource
  else
    match item with
    | .error e => .error e
    | .ok item =>
        if pb.maximumpacketsize < SDES.neededBytesWithExtraItem pb.sdessources item.data.length +
            (pb.byesize + pb.appsize + pb.report.neededBytes) then .error .notEnoughBytesLeft
        else .ok { pb with sdessources := SDES.addItem pb.sdessources item.bytes }

def addBYEPacket (pb : RTCPCompoundPacketBuilder) (ssrcs : List (BitVec 32)) (reason : Text) :
    Except RTCPError RTCPCompoundPacketBuilder :=
  if ¬ pb.arebuilding then .error .notBuilding
  else if 31 < ssrcs.length then .error .tooManySSRCs
  else
    let packsize := 4 + 4 * ssrcs.length +
      if 0 < reason.data.length then
        1 + reason.data.length + alignment (4 + 4 * ssrcs.length + 1 + reason.data.length)
      else 0
    if pb.maximumpacketsize < pb.appsize + pb.byesize + SDES.neededBytes pb.sdessources +
        pb.report.neededBytes + packsize then .error .notEnoughBytesLeft
    else .ok { pb with
      byepackets := pb.byepackets ++ [(byePacket ssrcs reason).bytes]
      byesize := pb.byesize + packsize }

def addAPPPacket (pb : RTCPCompoundPacketBuilder) (subtype : Nat) (ssrc : BitVec 32)
    (name : Fin 4 → Byte) (appdata : List Byte) : Except RTCPError RTCPCompoundPacketBuilder :=
  if ¬ pb.arebuilding then .error .notBuilding
  else if 31 < subtype then .error .illegalSubtype
  else if appdata.length % 4 ≠ 0 then .error .illegalAppDataLength
  else if 65535 < appdata.length / 4 + 2 then .error .appDataLenTooBig
  else
    let packsize := 4 + 4 * 2 + appdata.length
    if pb.maximumpacketsize < pb.appsize + pb.byesize + SDES.neededBytes pb.sdessources +
        pb.report.neededBytes + packsize then .error .notEnoughBytesLeft
    else .ok { pb with
      apppackets := pb.apppackets ++ [(appPacket subtype ssrc name appdata).bytes]
      appsize := pb.appsize + packsize }

def endBuild (pb : RTCPCompoundPacketBuilder) : Except RTCPError RTCPCompoundPacketBuilder :=
  if ¬ pb.arebuilding then .error .notBuilding
  else if pb.report.headerdata.length = 0 then .error .noReportPresent
  else .ok { new with
    maximumpacketsize := pb.maximumpacketsize
    external := pb.external
    compoundpacket := some pb.packetsOfBuffers.flatten
    compoundpacketlength := pb.neededBytes
    rtcppacklist := pb.packetsOfBuffers }

/-- A call of one of the functions. -/
def apply (abi : Abi) (pb : RTCPCompoundPacketBuilder) :
    Call → Except RTCPError RTCPCompoundPacketBuilder
  | .initBuild external maxpacketsize => pb.initBuild external maxpacketsize
  | .startSenderReport senderssrc info =>
      startReport abi pb true (htonl senderssrc ++ info.bytes)
  | .startReceiverReport senderssrc => startReport abi pb false (htonl senderssrc)
  | .addReportBlock ssrc fractionlost packetslost exthighestseq jitter lsr dlsr =>
      pb.addReportBlock (reportBlock ssrc fractionlost packetslost exthighestseq jitter lsr dlsr)
  | .addSDESSource ssrc => pb.addSDESSource ssrc
  | .addSDESNormalItem t itemdata => pb.addSDESItem (normalItem t itemdata)
  | .addSDESPrivateItem prefixdata valuedata => pb.addSDESItem (privateItem prefixdata valuedata)
  | .addBYEPacket ssrcs reason => pb.addBYEPacket ssrcs reason
  | .addAPPPacket subtype ssrc name appdata => pb.addAPPPacket subtype ssrc name appdata
  | .endBuild => pb.endBuild

/-- The builder after a call; it is as before when the call fails. -/
def step (abi : Abi) (pb : RTCPCompoundPacketBuilder) (call : Call) :
    Option RTCPCompoundPacketBuilder :=
  some ((pb.apply abi call).toOption.getD pb)

/-- The calls that succeed. -/
def accepted (abi : Abi) (pb : RTCPCompoundPacketBuilder) (call : Call) : Option Call :=
  if (pb.apply abi call).toOption.isSome then some call else none

section Successes

variable {pb next : RTCPCompoundPacketBuilder}

theorem initBuild_eq_ok {external : Bool} {maxpacketsize : Nat}
    (hOk : pb.initBuild external maxpacketsize = .ok next) :
    pb.arebuilding = false ∧ pb.compoundpacket = none ∧ RTP_MINPACKETSIZE ≤ maxpacketsize ∧
      next = { pb with
        maximumpacketsize := maxpacketsize
        external := external
        byesize := 0
        appsize := 0
        arebuilding := true } := by
  rw [initBuild] at hOk
  split_ifs at hOk with hBuilding hBuilt hSmall
  exact ⟨Bool.eq_false_of_not_eq_true hBuilding, Option.not_isSome_iff_eq_none.mp hBuilt,
    not_lt.mp hSmall, (Except.ok.inj hOk).symm⟩

theorem startReport_eq_ok {abi : Abi} {isSR : Bool} {headerdata : Buffer}
    (hOk : startReport abi pb isSR headerdata = .ok next) :
    pb.arebuilding = true ∧ pb.report.headerdata.length = 0 ∧
      4 + headerdata.length ≤ abi.size ((pb.maximumpacketsize : Int) -
        (pb.byesize + pb.appsize + SDES.neededBytes pb.sdessources : Nat)) ∧
      next = { pb with report := { pb.report with isSR := isSR, headerdata := headerdata } } := by
  rw [startReport] at hOk
  dsimp only at hOk
  split_ifs at hOk with hBuilding hStarted hLeft
  exact ⟨hBuilding, not_not.mp hStarted, not_lt.mp hLeft, (Except.ok.inj hOk).symm⟩

theorem addReportBlock_eq_ok {block : ReportBlock} (hOk : pb.addReportBlock block = .ok next) :
    pb.arebuilding = true ∧ pb.report.headerdata.length ≠ 0 ∧
      pb.byesize + pb.appsize + SDES.neededBytes pb.sdessources +
        pb.report.neededBytesWithExtraReportBlock ≤ pb.maximumpacketsize ∧
      next = { pb with
        report := { pb.report with reportblocks := pb.report.reportblocks ++ [block.bytes] } } := by
  rw [addReportBlock] at hOk
  split_ifs at hOk with hBuilding hStarted hLeft
  exact ⟨hBuilding, hStarted, not_lt.mp hLeft, (Except.ok.inj hOk).symm⟩

theorem addSDESSource_eq_ok {ssrc : BitVec 32} (hOk : pb.addSDESSource ssrc = .ok next) :
    pb.arebuilding = true ∧
      pb.byesize + pb.appsize + pb.report.neededBytes +
        SDES.neededBytesWithExtraSource pb.sdessources ≤ pb.maximumpacketsize ∧
      next = { pb with sdessources := SDES.addSSRC pb.sdessources ssrc } := by
  rw [addSDESSource] at hOk
  split_ifs at hOk with hBuilding hLeft
  exact ⟨hBuilding, not_lt.mp hLeft, (Except.ok.inj hOk).symm⟩

theorem addSDESItem_eq_ok {item : Except RTCPError SDESItem}
    (hOk : pb.addSDESItem item = .ok next) :
    pb.arebuilding = true ∧ pb.sdessources ≠ [] ∧ ∃ made, item = .ok made ∧
      SDES.neededBytesWithExtraItem pb.sdessources made.data.length +
        (pb.byesize + pb.appsize + pb.report.neededBytes) ≤ pb.maximumpacketsize ∧
      next = { pb with sdessources := SDES.addItem pb.sdessources made.bytes } := by
  unfold addSDESItem at hOk
  split_ifs at hOk with hBuilding hSource
  cases item with
  | error e => cases hOk
  | ok made =>
      dsimp only at hOk
      split_ifs at hOk with hLeft
      exact ⟨hBuilding, hSource, made, rfl, not_lt.mp hLeft, (Except.ok.inj hOk).symm⟩

theorem addBYEPacket_eq_ok {ssrcs : List (BitVec 32)} {reason : Text}
    (hOk : pb.addBYEPacket ssrcs reason = .ok next) :
    pb.arebuilding = true ∧ (byePacket ssrcs reason).Writable ∧
      pb.neededBytes + (byePacket ssrcs reason).bytes.length ≤ pb.maximumpacketsize ∧
      next = { pb with
        byepackets := pb.byepackets ++ [(byePacket ssrcs reason).bytes]
        byesize := pb.byesize + (byePacket ssrcs reason).bytes.length } := by
  have hSize : (byePacket ssrcs reason).bytes.length = 4 + 4 * ssrcs.length +
      if 0 < reason.data.length then
        1 + reason.data.length + alignment (4 + 4 * ssrcs.length + 1 + reason.data.length)
      else 0 := by
    have hSsrcs := Records.flatMap_length htonl_length ssrcs
    rw [byePacket, RTCPPacket.bytes, packetBytes_length, List.length_append, hSsrcs]
    by_cases hReason : reason.data.length = 0
    · rw [if_pos hReason, if_neg (by omega)]
      rfl
    · rw [if_neg hReason, if_pos (Nat.pos_of_ne_zero hReason)]
      simp only [reasonBytes, List.length_cons, List.length_append, List.length_replicate]
      omega
  rw [addBYEPacket] at hOk
  dsimp only at hOk
  rw [← hSize] at hOk
  split_ifs at hOk with hBuilding hMany hLeft
  refine ⟨hBuilding, ⟨not_lt.mp hMany, fun text hMem => ?_⟩, ?_, (Except.ok.inj hOk).symm⟩
  · by_cases hReason : reason.data.length = 0
    · rw [if_pos hReason] at hMem
      cases hMem
    · rw [if_neg hReason] at hMem
      exact Option.some.inj hMem ▸ reason.short
  · rw [neededBytes]
    omega

theorem addAPPPacket_eq_ok {subtype : Nat} {ssrc : BitVec 32} {name : Fin 4 → Byte}
    {appdata : List Byte} (hOk : pb.addAPPPacket subtype ssrc name appdata = .ok next) :
    pb.arebuilding = true ∧ (appPacket subtype ssrc name appdata).Writable ∧
      pb.neededBytes + (appPacket subtype ssrc name appdata).bytes.length ≤
        pb.maximumpacketsize ∧
      next = { pb with
        apppackets := pb.apppackets ++ [(appPacket subtype ssrc name appdata).bytes]
        appsize := pb.appsize + (appPacket subtype ssrc name appdata).bytes.length } := by
  have hSize : (appPacket subtype ssrc name appdata).bytes.length = 4 + 4 * 2 + appdata.length := by
    rw [appPacket, RTCPPacket.bytes, packetBytes_length]
    simp only [List.length_append, htonl_length, List.length_ofFn]
    omega
  rw [addAPPPacket] at hOk
  dsimp only at hOk
  rw [← hSize] at hOk
  split_ifs at hOk with hBuilding hSubtype hAligned hBig hLeft
  refine ⟨hBuilding, ⟨not_lt.mp hSubtype, List.length_ofFn, not_not.mp hAligned⟩, ?_,
    (Except.ok.inj hOk).symm⟩
  rw [neededBytes]
  omega

theorem endBuild_eq_ok (hOk : pb.endBuild = .ok next) :
    pb.arebuilding = true ∧ pb.report.headerdata.length ≠ 0 ∧
      next = { new with
        maximumpacketsize := pb.maximumpacketsize
        external := pb.external
        compoundpacket := some pb.packetsOfBuffers.flatten
        compoundpacketlength := pb.neededBytes
        rtcppacklist := pb.packetsOfBuffers } := by
  rw [endBuild] at hOk
  split_ifs at hOk with hBuilding hStarted
  exact ⟨hBuilding, hStarted, (Except.ok.inj hOk).symm⟩

end Successes

end RTCPCompoundPacketBuilder

end AudioSync.Rtcp
