import AudioSync.Rtcp.Builder

/-! What is asked of a builder, and that the receiver of the compound packet finds all of it. -/
namespace AudioSync.Rtcp

open Records

/-- What a compound packet is to hold: its sender, with the sender's information if it sends, and
all that is reported and described. -/
structure Contents where
  header : Option (BitVec 32 × Option SenderInfo)
  blocks : List ReportBlock
  chunks : List SDESChunk
  apps : List RTCPPacket
  byes : List RTCPPacket
  deriving DecidableEq, Repr

namespace RTCPPacket

/-- The sender of a report. -/
def header : RTCPPacket → Option (BitVec 32 × Option SenderInfo)
  | sr senderssrc info _ => some (senderssrc, some info)
  | rr senderssrc _ => some (senderssrc, none)
  | _ => none

def blocks : RTCPPacket → List ReportBlock
  | sr _ _ blocks => blocks
  | rr _ blocks => blocks
  | _ => []

def chunks : RTCPPacket → List SDESChunk
  | sdes chunks => chunks
  | _ => []

/-- One of the five types, and a format for which `IsKnownFormat` is true. -/
def isKnown : RTCPPacket → Bool
  | unknown _ => false
  | _ => true

theorem isKnown_of_writable {packet : RTCPPacket} (hWritable : packet.Writable) :
    packet.isKnown = true := by
  cases packet with
  | unknown packettype => exact absurd hWritable id
  | _ => rfl

end RTCPPacket

namespace Contents

def empty : Contents := ⟨none, [], [], [], []⟩

/-- What the packets of a compound packet hold together. -/
def ofPackets (packets : List RTCPPacket) : Contents where
  header := packets.head?.bind RTCPPacket.header
  blocks := packets.flatMap RTCPPacket.blocks
  chunks := packets.flatMap RTCPPacket.chunks
  apps := packets.filter fun packet => packet.packettype = RTP_RTCPTYPE_APP
  byes := packets.filter fun packet => packet.packettype = RTP_RTCPTYPE_BYE

/-- An item for the source that was added last. -/
def withItem (chunks : List SDESChunk) (item : SDESItem) : List SDESChunk :=
  match chunks.getLast? with
  | none => chunks
  | some last => chunks.dropLast ++ [{ last with items := last.items ++ [item] }]

def addItem (contents : Contents) : Except RTCPError SDESItem → Contents
  | .error _ => contents
  | .ok item => { contents with chunks := withItem contents.chunks item }

/-- What a call asks for. -/
def add (contents : Contents) : Call → Contents
  | .initBuild _ _ => contents
  | .startSenderReport senderssrc info => { contents with header := some (senderssrc, some info) }
  | .startReceiverReport senderssrc => { contents with header := some (senderssrc, none) }
  | .addReportBlock ssrc fractionlost packetslost exthighestseq jitter lsr dlsr =>
      { contents with blocks := contents.blocks ++
          [reportBlock ssrc fractionlost packetslost exthighestseq jitter lsr dlsr] }
  | .addSDESSource ssrc => { contents with chunks := contents.chunks ++ [⟨ssrc, []⟩] }
  | .addSDESNormalItem t itemdata => contents.addItem (normalItem t itemdata)
  | .addSDESPrivateItem prefixdata valuedata => contents.addItem (privateItem prefixdata valuedata)
  | .addBYEPacket ssrcs reason => { contents with byes := contents.byes ++ [byePacket ssrcs reason] }
  | .addAPPPacket subtype ssrc name appdata =>
      { contents with apps := contents.apps ++ [appPacket subtype ssrc name appdata] }
  | .endBuild => contents

/-- What was asked for by these calls, one after the other. -/
def ofCalls (calls : List Call) : Contents := calls.foldl add empty

/-- The first of the reports. -/
def firstReport (senderssrc : BitVec 32) : Option SenderInfo → List ReportBlock → RTCPPacket
  | none, blocks => .rr senderssrc blocks
  | some info, blocks => .sr senderssrc info blocks

/-- The reports, with 31 blocks at most in each. -/
def reports (contents : Contents) : List RTCPPacket :=
  match contents.header, parts 31 (contents.blocks.length + 1) contents.blocks with
  | some (senderssrc, info), first :: later =>
      firstReport senderssrc info first :: later.map (RTCPPacket.rr senderssrc)
  | _, _ => []

/-- The source descriptions, with 31 sources at most in each. -/
def descriptions (contents : Contents) : List RTCPPacket :=
  if contents.chunks = [] then []
  else (parts 31 (contents.chunks.length + 1) contents.chunks).map RTCPPacket.sdes

/-- The packets that hold these contents. -/
def packets (contents : Contents) : List RTCPPacket :=
  contents.reports ++ (contents.descriptions ++ (contents.apps ++ contents.byes))

/-! The buffers that hold these contents. -/

def headerdata (contents : Contents) : Buffer :=
  match contents.header with
  | none => []
  | some (senderssrc, none) => htonl senderssrc
  | some (senderssrc, some info) => htonl senderssrc ++ info.bytes

def isSR (contents : Contents) : Bool :=
  (contents.header.bind Prod.snd).isSome

def report (contents : Contents) : Report :=
  ⟨contents.isSR, contents.headerdata, contents.blocks.map ReportBlock.bytes⟩

end Contents

def SDESChunk.source (chunk : SDESChunk) : SDESSource :=
  ⟨chunk.ssrc, chunk.items.map SDESItem.bytes, chunk.itemBytes.length⟩

section Reports

variable {senderssrc : BitVec 32} {report : Report}

theorem write_receiver (hHeader : report.headerdata.take 4 = htonl senderssrc) {fuel : Nat}
    (blocks : List ReportBlock) :
    report.write fuel false (blocks.map ReportBlock.bytes) =
      ((parts 31 fuel blocks).map (RTCPPacket.rr senderssrc)).map RTCPPacket.bytes := by
  induction fuel generalizing blocks with
  | zero => rfl
  | succ fuel ih =>
      rw [Report.write, parts, ← List.map_take, ← List.map_drop, List.length_map, ih,
        Bool.false_and, if_neg Bool.false_ne_true, hHeader, List.map_cons, List.map_cons]
      refine congrArg₂ List.cons rfl ?_
      by_cases hDone : blocks.drop 31 = []
      · rw [if_pos hDone, if_pos (List.map_eq_nil_iff.mpr hDone)]
        rfl
      · rw [if_neg hDone, if_neg (mt List.map_eq_nil_iff.mp hDone)]

/-- The reports that are written are those of the contents. -/
theorem write_reports {contents : Contents} (hStarted : contents.header ≠ none) :
    contents.report.write (contents.report.reportblocks.length + 1) true
      contents.report.reportblocks = contents.reports.map RTCPPacket.bytes := by
  obtain ⟨header, blocks, chunks, apps, byes⟩ := contents
  obtain ⟨⟨senderssrc, info⟩, rfl⟩ := Option.ne_none_iff_exists'.mp hStarted
  have hParts : parts 31 (blocks.length + 1) blocks = blocks.take 31 ::
      if blocks.drop 31 = [] then [] else parts 31 blocks.length (blocks.drop 31) := rfl
  have hLater (data : Buffer) (isSR : Bool) (hData : data.take 4 = htonl senderssrc) :
      (if (blocks.map ReportBlock.bytes).drop 31 = [] then [] else
        Report.write ⟨isSR, data, blocks.map ReportBlock.bytes⟩ blocks.length false
          ((blocks.map ReportBlock.bytes).drop 31)) =
      ((if blocks.drop 31 = [] then [] else parts 31 blocks.length (blocks.drop 31)).map
        (RTCPPacket.rr senderssrc)).map RTCPPacket.bytes := by
    rw [← List.map_drop]
    by_cases hDone : blocks.drop 31 = []
    · rw [if_pos hDone, if_pos (List.map_eq_nil_iff.mpr hDone)]
      rfl
    · rw [if_neg hDone, if_neg (mt List.map_eq_nil_iff.mp hDone)]
      exact write_receiver hData _
  have hSsrc (rest : Buffer) : (htonl senderssrc ++ rest).take 4 = htonl senderssrc :=
    List.take_left' (htonl_length senderssrc)
  simp only [Contents.report, Contents.reports, hParts, List.length_map, List.map_cons]
  cases info with
  | none =>
      have hData : (htonl senderssrc).take 4 = htonl senderssrc :=
        List.take_of_length_le (htonl_length senderssrc).le
      refine congrArg₂ List.cons ?_ (hLater _ _ hData)
      simp only [Contents.isSR, Contents.headerdata, Option.bind_some, Option.isSome_none,
        Bool.and_false, if_neg Bool.false_ne_true, hData, ← List.map_take, List.length_map]
      rfl
  | some info =>
      refine congrArg₂ List.cons ?_ (hLater _ _ (hSsrc info.bytes))
      simp only [Contents.isSR, Contents.headerdata, Option.bind_some, Option.isSome_some,
        Bool.and_true, if_true, ← List.map_take, List.length_map, List.append_assoc]
      rfl

theorem rr_length (senderssrc : BitVec 32) (blocks : List ReportBlock) :
    (RTCPPacket.rr senderssrc blocks).bytes.length = 8 + 24 * blocks.length := by
  have hBlocks := flatMap_length ReportBlock.bytes_length blocks
  rw [RTCPPacket.bytes, packetBytes_length, List.length_append, htonl_length, hBlocks]
  omega

theorem firstReport_length (senderssrc : BitVec 32) (info : Option SenderInfo)
    (blocks : List ReportBlock) : (Contents.firstReport senderssrc info blocks).bytes.length =
      8 + 24 * blocks.length + if info.isSome then 20 else 0 := by
  cases info with
  | none => exact rr_length senderssrc blocks
  | some info =>
      have hBlocks := flatMap_length ReportBlock.bytes_length blocks
      rw [Contents.firstReport, RTCPPacket.bytes, packetBytes_length, List.length_append,
        List.length_append, htonl_length, info.bytes_length, hBlocks, Option.isSome_some, if_pos rfl]
      omega

/-- As many bytes are written for the reports as were reckoned with. -/
theorem reports_length {contents : Contents} (hStarted : contents.header ≠ none) :
    (contents.reports.map RTCPPacket.bytes).flatten.length = contents.report.neededBytes := by
  obtain ⟨header, blocks, chunks, apps, byes⟩ := contents
  obtain ⟨⟨senderssrc, info⟩, rfl⟩ := Option.ne_none_iff_exists'.mp hStarted
  obtain ⟨first, later, hParts⟩ : ∃ first later,
      parts 31 (blocks.length + 1) blocks = first :: later := ⟨_, _, rfl⟩
  have hFlatten : (first :: later).flatten = blocks := by
    rw [← hParts, flatten_parts (by decide) (Nat.lt_succ_self _)]
  have hCount : 8 * (first :: later).length + 24 * blocks.length =
      if blocks.length = 0 then 8 else blocks.length * 24 + packetCount blocks.length * 8 := by
    by_cases hNone : blocks = []
    · subst hNone
      rw [← hParts]
      rfl
    · have hLength : (parts 31 (blocks.length + 1) blocks).length = (blocks.length + 31 - 1) / 31 :=
        length_parts (by decide) (Nat.lt_succ_self _) hNone
      rw [if_neg (mt List.length_eq_zero_iff.mp hNone), packetCount_eq, ← hLength, hParts]
      omega
  have hOnes (part : List ReportBlock) : (part.map fun _ => 24).sum = 24 * part.length := by
    rw [List.map_const', List.sum_replicate_nat, Nat.mul_comm]
  have hSum := sum_map_flatten 8 (fun _ : ReportBlock => 24) (first :: later)
  simp only [hOnes, hFlatten, hCount, List.map_cons, List.sum_cons] at hSum
  have hLater : ((later.map (RTCPPacket.rr senderssrc)).map RTCPPacket.bytes).flatten.length =
      (later.map fun part => 8 + 24 * part.length).sum := by
    rw [List.length_flatten, List.map_map, List.map_map]
    exact congrArg List.sum (List.map_congr_left fun part _ => rr_length senderssrc part)
  rw [Contents.reports, hParts, List.map_cons, List.flatten_cons, List.length_append,
    firstReport_length, hLater, Nat.add_right_comm, hSum, Contents.report, Report.neededBytes]
  simp only [List.length_map, Report.bytesWithBlocks, Contents.isSR, Contents.headerdata,
    Option.bind_some]
  cases info with
  | none =>
      simp only [Option.isSome_none, htonl_length]
      split_ifs <;> simp_all
  | some info =>
      simp only [Option.isSome_some, List.length_append, htonl_length, info.bytes_length]
      split_ifs <;> simp_all

end Reports

section Descriptions

theorem alignment_add {offset size : Nat} (hAligned : offset % 4 = 0) :
    alignment (offset + size) = alignment size := by
  have hMod : (offset + size) % 4 = size % 4 := by omega
  rw [alignment, hMod, alignment]

/-- A source that is written behind whole words is its chunk. -/
theorem write_source {written : Buffer} (hAligned : written.length % 4 = 0) (chunk : SDESChunk) :
    chunk.source.write written = written ++ chunk.bytes := by
  have hLength : (written ++ htonl chunk.ssrc ++ chunk.itemBytes ++ [0]).length =
      written.length + (4 + chunk.itemBytes.length + 1) := by
    simp only [List.length_append, htonl_length, List.length_singleton]
    omega
  have hItems : chunk.source.items.flatten = chunk.itemBytes := rfl
  have hSsrc : chunk.source.ssrc = chunk.ssrc := rfl
  rw [SDESSource.write, hItems, hSsrc, hLength, alignment_add hAligned, SDESChunk.bytes]
  simp only [List.append_assoc, List.singleton_append]

theorem write_sources (chunks : List SDESChunk) {written : Buffer}
    (hAligned : written.length % 4 = 0) :
    (chunks.map SDESChunk.source).foldl SDESSource.write written =
      written ++ chunks.flatMap SDESChunk.bytes := by
  induction chunks generalizing written with
  | nil => exact (List.append_nil _).symm
  | cons chunk chunks ih =>
      have hNext : (written ++ chunk.bytes).length % 4 = 0 := by
        have hChunk := chunk.neededBytes_mod
        rw [List.length_append, chunk.bytes_length]
        omega
      rw [List.map_cons, List.foldl_cons, write_source hAligned, ih hNext, List.flatMap_cons,
        List.append_assoc]

theorem packetBody_sources (chunks : List SDESChunk) :
    SDES.packetBody (chunks.map SDESChunk.source) = chunks.flatMap SDESChunk.bytes := by
  have hHeader : (commonHeader 0 0 0).length = 4 := commonHeader_length ..
  rw [SDES.packetBody, write_sources chunks (by rw [hHeader]), List.drop_left' hHeader]

theorem write_chunks (fuel : Nat) (chunks : List SDESChunk) :
    SDES.write fuel (chunks.map SDESChunk.source) =
      ((parts 31 fuel chunks).map RTCPPacket.sdes).map RTCPPacket.bytes := by
  induction fuel generalizing chunks with
  | zero => rfl
  | succ fuel ih =>
      rw [SDES.write, parts, ← List.map_take, ← List.map_drop, List.length_map, ih,
        packetBody_sources, List.map_cons, List.map_cons]
      refine congrArg₂ List.cons rfl ?_
      by_cases hDone : chunks.drop 31 = []
      · rw [if_pos hDone, if_pos (List.map_eq_nil_iff.mpr hDone)]
        rfl
      · rw [if_neg hDone, if_neg (mt List.map_eq_nil_iff.mp hDone)]

/-- The source descriptions that are written are those of the contents. -/
theorem write_descriptions (contents : Contents) :
    (if contents.chunks.map SDESChunk.source = [] then []
      else SDES.write ((contents.chunks.map SDESChunk.source).length + 1)
        (contents.chunks.map SDESChunk.source)) =
      contents.descriptions.map RTCPPacket.bytes := by
  rw [Contents.descriptions]
  by_cases hNone : contents.chunks = []
  · rw [if_pos hNone, if_pos (List.map_eq_nil_iff.mpr hNone)]
    rfl
  · rw [if_neg hNone, if_neg (mt List.map_eq_nil_iff.mp hNone), List.length_map, write_chunks]

theorem sdes_length (chunks : List SDESChunk) :
    (RTCPPacket.sdes chunks).bytes.length = 4 + (chunks.map SDESChunk.neededBytes).sum := by
  rw [RTCPPacket.bytes, packetBytes_length, List.length_flatMap]
  exact congrArg (4 + List.sum ·) (List.map_congr_left fun chunk _ => chunk.bytes_length)

/-- As many bytes are written for the source descriptions as were reckoned with. -/
theorem descriptions_length (contents : Contents) :
    (contents.descriptions.map RTCPPacket.bytes).flatten.length =
      SDES.neededBytes (contents.chunks.map SDESChunk.source) := by
  rw [Contents.descriptions, SDES.neededBytes]
  by_cases hNone : contents.chunks = []
  · rw [if_pos hNone, if_pos (List.map_eq_nil_iff.mpr hNone)]
    rfl
  · have hLength : (parts 31 (contents.chunks.length + 1) contents.chunks).length =
        (contents.chunks.length + 31 - 1) / 31 :=
      length_parts (by decide) (Nat.lt_succ_self _) hNone
    have hSum := sum_map_flatten 4 SDESChunk.neededBytes
      (parts 31 (contents.chunks.length + 1) contents.chunks)
    rw [flatten_parts (by decide) (Nat.lt_succ_self _), hLength, ← packetCount_eq] at hSum
    have hSizes : (contents.chunks.map SDESChunk.source).map SDESSource.neededBytes =
        contents.chunks.map SDESChunk.neededBytes := by
      rw [List.map_map]
      rfl
    rw [if_neg hNone, if_neg (mt List.map_eq_nil_iff.mp hNone), hSizes, List.length_map,
      List.length_flatten, List.map_map, List.map_map]
    refine (congrArg List.sum (List.map_congr_left fun part _ => sdes_length part)).trans ?_
    rw [hSum]
    ring

end Descriptions

/-- What is true of all that was asked for by calls that succeeded. -/
structure Contents.Sound (contents : Contents) : Prop where
  unstarted : contents.header = none → contents.blocks = []
  apps : ∀ packet ∈ contents.apps, packet.Writable ∧ packet.packettype = RTP_RTCPTYPE_APP
  byes : ∀ packet ∈ contents.byes, packet.Writable ∧ packet.packettype = RTP_RTCPTYPE_BYE

/-- The buffers of a builder hold these contents. -/
structure Collected (pb : RTCPCompoundPacketBuilder) (contents : Contents) : Prop where
  sound : contents.Sound
  report : pb.report = contents.report
  sources : pb.sdessources = contents.chunks.map SDESChunk.source
  apps : pb.apppackets = contents.apps.map RTCPPacket.bytes
  appsize : pb.appsize = pb.apppackets.flatten.length
  byes : pb.byepackets = contents.byes.map RTCPPacket.bytes
  byesize : pb.byesize = pb.byepackets.flatten.length

/-- A builder before, while and after it builds a packet with these contents. -/
inductive Holds (pb : RTCPCompoundPacketBuilder) (contents : Contents) : Prop where
  | fresh (hNew : pb = .new) (hEmpty : contents = .empty)
  | building (hBuilding : pb.arebuilding = true) (hUnbuilt : pb.compoundpacket = none)
      (hCollected : Collected pb contents)
  | built (hIdle : pb.arebuilding = false) (hSound : contents.Sound)
      (hStarted : contents.header ≠ none)
      (hPacket : pb.compoundpacket = some (contents.packets.map RTCPPacket.bytes).flatten)
      (hLength : pb.compoundpacketlength = (contents.packets.map RTCPPacket.bytes).flatten.length)
      (hList : pb.rtcppacklist = contents.packets.map RTCPPacket.bytes)

namespace Collected

variable {pb next : RTCPCompoundPacketBuilder} {contents : Contents}

/-- What is written are the packets of the contents. -/
theorem packetsOfBuffers_eq (hCollected : Collected pb contents)
    (hStarted : contents.header ≠ none) :
    pb.packetsOfBuffers = contents.packets.map RTCPPacket.bytes := by
  rw [RTCPCompoundPacketBuilder.packetsOfBuffers, hCollected.report, hCollected.sources,
    hCollected.apps, hCollected.byes, write_reports hStarted, write_descriptions, Contents.packets,
    List.map_append, List.map_append, List.map_append]

/-- As many bytes are written as were reckoned with. -/
theorem neededBytes_eq (hCollected : Collected pb contents) (hStarted : contents.header ≠ none) :
    pb.neededBytes = (contents.packets.map RTCPPacket.bytes).flatten.length := by
  have hReports := reports_length hStarted
  have hDescriptions := descriptions_length contents
  rw [← hCollected.report] at hReports
  rw [← hCollected.sources] at hDescriptions
  rw [Contents.packets, List.map_append, List.map_append, List.map_append, List.flatten_append,
    List.flatten_append, List.flatten_append, List.length_append, List.length_append,
    List.length_append, hReports, hDescriptions, ← hCollected.apps, ← hCollected.byes,
    ← hCollected.appsize, ← hCollected.byesize, RTCPCompoundPacketBuilder.neededBytes]
  omega

theorem headerdata_length (contents : Contents) :
    contents.headerdata.length = 0 ↔ contents.header = none := by
  obtain ⟨header, blocks, chunks, apps, byes⟩ := contents
  rcases header with _ | ⟨senderssrc, _ | info⟩ <;> simp [Contents.headerdata]

theorem startReport {abi : Abi} {isSR : Bool} {headerdata : Buffer}
    {header : BitVec 32 × Option SenderInfo} (hCollected : Collected pb contents)
    (hOk : RTCPCompoundPacketBuilder.startReport abi pb isSR headerdata = .ok next)
    (hSR : isSR = header.2.isSome)
    (hHeader : headerdata = ({ contents with header := some header } : Contents).headerdata) :
    Collected next { contents with header := some header } := by
  obtain ⟨-, hStarted, -, rfl⟩ := RTCPCompoundPacketBuilder.startReport_eq_ok hOk
  refine { hCollected with
    sound := { hCollected.sound with unstarted := fun h => absurd h (Option.some_ne_none _) }
    report := ?_ }
  rw [hCollected.report, hSR, hHeader]
  rfl

theorem addReportBlock {block : ReportBlock} (hCollected : Collected pb contents)
    (hOk : pb.addReportBlock block = .ok next) :
    Collected next { contents with blocks := contents.blocks ++ [block] } := by
  obtain ⟨-, hStarted, -, rfl⟩ := RTCPCompoundPacketBuilder.addReportBlock_eq_ok hOk
  rw [hCollected.report] at hStarted
  refine { hCollected with
    sound := { hCollected.sound with
      unstarted := fun h => absurd ((headerdata_length contents).mpr h) hStarted }
    report := ?_ }
  rw [hCollected.report, Contents.report, Contents.report, List.map_append]
  rfl

theorem addSDESSource {ssrc : BitVec 32} (hCollected : Collected pb contents)
    (hOk : pb.addSDESSource ssrc = .ok next) :
    Collected next { contents with chunks := contents.chunks ++ [⟨ssrc, []⟩] } := by
  obtain ⟨-, -, rfl⟩ := RTCPCompoundPacketBuilder.addSDESSource_eq_ok hOk
  refine { hCollected with sound := { hCollected.sound with }, sources := ?_ }
  rw [hCollected.sources, List.map_append]
  rfl

theorem addItem_source (chunks : List SDESChunk) (item : SDESItem) :
    SDES.addItem (chunks.map SDESChunk.source) item.bytes =
      (Contents.withItem chunks item).map SDESChunk.source := by
  rcases List.eq_nil_or_concat' chunks with rfl | ⟨earlier, last, rfl⟩
  · rfl
  · have hLast : last.source.addItem item.bytes =
        SDESChunk.source { last with items := last.items ++ [item] } := by
      simp [SDESSource.addItem, SDESChunk.source, SDESChunk.itemBytes]
    rw [List.map_append, List.map_singleton, SDES.addItem, Contents.withItem,
      List.getLast?_concat, List.getLast?_concat]
    dsimp only
    rw [List.dropLast_concat, List.dropLast_concat, List.map_append, List.map_singleton, hLast]

theorem addSDESItem {item : Except RTCPError SDESItem} (hCollected : Collected pb contents)
    (hOk : pb.addSDESItem item = .ok next) : Collected next (contents.addItem item) := by
  obtain ⟨-, -, made, rfl, -, rfl⟩ := RTCPCompoundPacketBuilder.addSDESItem_eq_ok hOk
  refine { hCollected with sound := { hCollected.sound with }, sources := ?_ }
  rw [hCollected.sources, addItem_source]
  rfl

theorem addBYEPacket {ssrcs : List (BitVec 32)} {reason : Text}
    (hCollected : Collected pb contents) (hOk : pb.addBYEPacket ssrcs reason = .ok next) :
    Collected next { contents with byes := contents.byes ++ [byePacket ssrcs reason] } := by
  obtain ⟨-, hWritable, -, rfl⟩ := RTCPCompoundPacketBuilder.addBYEPacket_eq_ok hOk
  refine { hCollected with
    sound := { hCollected.sound with byes := ?_ }
    byes := ?_
    byesize := ?_ }
  · rw [List.forall_mem_append, List.forall_mem_singleton]
    exact ⟨hCollected.sound.byes, hWritable, rfl⟩
  · rw [hCollected.byes, List.map_append, List.map_singleton]
  · rw [List.flatten_append, List.length_append, hCollected.byesize, List.flatten_singleton]

theorem addAPPPacket {subtype : Nat} {ssrc : BitVec 32} {name : Fin 4 → Byte}
    {appdata : List Byte} (hCollected : Collected pb contents)
    (hOk : pb.addAPPPacket subtype ssrc name appdata = .ok next) :
    Collected next
      { contents with apps := contents.apps ++ [appPacket subtype ssrc name appdata] } := by
  obtain ⟨-, hWritable, -, rfl⟩ := RTCPCompoundPacketBuilder.addAPPPacket_eq_ok hOk
  refine { hCollected with
    sound := { hCollected.sound with apps := ?_ }
    apps := ?_
    appsize := ?_ }
  · rw [List.forall_mem_append, List.forall_mem_singleton]
    exact ⟨hCollected.sound.apps, hWritable, rfl⟩
  · rw [hCollected.apps, List.map_append, List.map_singleton]
  · rw [List.flatten_append, List.length_append, hCollected.appsize, List.flatten_singleton]

end Collected

section Runs

variable {abi : Abi} {pb next : RTCPCompoundPacketBuilder} {contents : Contents} {call : Call}

/-- Only `InitBuild` succeeds when nothing is being built. -/
theorem arebuilding_of_apply (hOk : pb.apply abi call = .ok next) :
    (∃ external maxpacketsize, call = .initBuild external maxpacketsize) ∨
      pb.arebuilding = true := by
  cases call with
  | initBuild external maxpacketsize => exact .inl ⟨external, maxpacketsize, rfl⟩
  | startSenderReport => exact .inr (RTCPCompoundPacketBuilder.startReport_eq_ok hOk).1
  | startReceiverReport => exact .inr (RTCPCompoundPacketBuilder.startReport_eq_ok hOk).1
  | addReportBlock => exact .inr (RTCPCompoundPacketBuilder.addReportBlock_eq_ok hOk).1
  | addSDESSource => exact .inr (RTCPCompoundPacketBuilder.addSDESSource_eq_ok hOk).1
  | addSDESNormalItem => exact .inr (RTCPCompoundPacketBuilder.addSDESItem_eq_ok hOk).1
  | addSDESPrivateItem => exact .inr (RTCPCompoundPacketBuilder.addSDESItem_eq_ok hOk).1
  | addBYEPacket => exact .inr (RTCPCompoundPacketBuilder.addBYEPacket_eq_ok hOk).1
  | addAPPPacket => exact .inr (RTCPCompoundPacketBuilder.addAPPPacket_eq_ok hOk).1
  | endBuild => exact .inr (RTCPCompoundPacketBuilder.endBuild_eq_ok hOk).1

theorem collected_empty {external : Bool} {maxpacketsize : Nat}
    (hOk : RTCPCompoundPacketBuilder.new.initBuild external maxpacketsize = .ok next) :
    Holds next .empty := by
  obtain ⟨-, -, -, rfl⟩ := RTCPCompoundPacketBuilder.initBuild_eq_ok hOk
  exact .building rfl rfl
    { sound := ⟨fun _ => rfl, List.forall_mem_nil _, List.forall_mem_nil _⟩
      report := rfl, sources := rfl, apps := rfl, appsize := rfl, byes := rfl, byesize := rfl }

/-- A call that succeeds adds to the contents what it asks for. -/
theorem holds_of_apply (hHolds : Holds pb contents) (hOk : pb.apply abi call = .ok next) :
    Holds next (contents.add call) := by
  cases hHolds with
  | fresh hNew hEmpty =>
      subst hNew hEmpty
      rcases arebuilding_of_apply hOk with ⟨external, maxpacketsize, rfl⟩ | hBuilding
      · exact collected_empty hOk
      · exact absurd hBuilding Bool.false_ne_true
  | built hIdle hSound hStarted hPacket hLength hList =>
      rcases arebuilding_of_apply hOk with ⟨external, maxpacketsize, rfl⟩ | hBuilding
      · have hNone := (RTCPCompoundPacketBuilder.initBuild_eq_ok hOk).2.1
        exact absurd (hPacket.symm.trans hNone) (Option.some_ne_none _)
      · exact absurd (hIdle.symm.trans hBuilding) Bool.false_ne_true
  | building hBuilding hUnbuilt hCollected =>
      cases call with
      | initBuild external maxpacketsize =>
          have hIdle := (RTCPCompoundPacketBuilder.initBuild_eq_ok hOk).1
          exact absurd (hIdle.symm.trans hBuilding) Bool.false_ne_true
      | startSenderReport senderssrc info =>
          have hNext : Collected next { contents with header := some (senderssrc, some info) } :=
            hCollected.startReport hOk rfl rfl
          obtain ⟨-, -, -, rfl⟩ := RTCPCompoundPacketBuilder.startReport_eq_ok hOk
          exact .building hBuilding hUnbuilt hNext
      | startReceiverReport senderssrc =>
          have hNext : Collected next { contents with header := some (senderssrc, none) } :=
            hCollected.startReport hOk rfl rfl
          obtain ⟨-, -, -, rfl⟩ := RTCPCompoundPacketBuilder.startReport_eq_ok hOk
          exact .building hBuilding hUnbuilt hNext
      | addReportBlock =>
          have hNext := hCollected.addReportBlock hOk
          obtain ⟨-, -, -, rfl⟩ := RTCPCompoundPacketBuilder.addReportBlock_eq_ok hOk
          exact .building hBuilding hUnbuilt hNext
      | addSDESSource ssrc =>
          have hNext := hCollected.addSDESSource hOk
          obtain ⟨-, -, rfl⟩ := RTCPCompoundPacketBuilder.addSDESSource_eq_ok hOk
          exact .building hBuilding hUnbuilt hNext
      | addSDESNormalItem t itemdata =>
          have hNext := hCollected.addSDESItem hOk
          obtain ⟨-, -, made, -, -, rfl⟩ := RTCPCompoundPacketBuilder.addSDESItem_eq_ok hOk
          exact .building hBuilding hUnbuilt hNext
      | addSDESPrivateItem prefixdata valuedata =>
          have hNext := hCollected.addSDESItem hOk
          obtain ⟨-, -, made, -, -, rfl⟩ := RTCPCompoundPacketBuilder.addSDESItem_eq_ok hOk
          exact .building hBuilding hUnbuilt hNext
      | addBYEPacket ssrcs reason =>
          have hNext := hCollected.addBYEPacket hOk
          obtain ⟨-, -, -, rfl⟩ := RTCPCompoundPacketBuilder.addBYEPacket_eq_ok hOk
          exact .building hBuilding hUnbuilt hNext
      | addAPPPacket subtype ssrc name appdata =>
          have hNext := hCollected.addAPPPacket hOk
          obtain ⟨-, -, -, rfl⟩ := RTCPCompoundPacketBuilder.addAPPPacket_eq_ok hOk
          exact .building hBuilding hUnbuilt hNext
      | endBuild =>
          obtain ⟨-, hHeader, rfl⟩ := RTCPCompoundPacketBuilder.endBuild_eq_ok hOk
          rw [hCollected.report] at hHeader
          have hStarted := mt (Collected.headerdata_length contents).mpr hHeader
          have hPackets := hCollected.packetsOfBuffers_eq hStarted
          exact .built rfl hCollected.sound hStarted (congrArg (some ∘ List.flatten) hPackets)
            (hCollected.neededBytes_eq hStarted) hPackets

/-- After any calls, the builder holds what was asked for by those that succeeded. -/
theorem holds_of_run {calls : List Call}
    (hRun : Transition.run (RTCPCompoundPacketBuilder.step abi) .new calls = some pb) :
    Holds pb (.ofCalls (Transition.labels (RTCPCompoundPacketBuilder.step abi)
      (RTCPCompoundPacketBuilder.accepted abi) .new calls)) := by
  have hStart : Holds .new .empty := .fresh rfl rfl
  have hEach (contents : Contents) (asked : List Call) :
      Transition.run (fun contents call => some (contents.add call)) contents asked =
        some (asked.foldl Contents.add contents) := by
    induction asked generalizing contents with
    | nil => rfl
    | cons call asked ih => exact ih (contents.add call)
  have hStep (pb : RTCPCompoundPacketBuilder) (call : Call) (next : RTCPCompoundPacketBuilder)
      (contents : Contents) (hHolds : Holds pb contents) (hStep : pb.step abi call = some next) :
      ∃ contents', Transition.run (fun contents call => some (contents.add call)) contents
        (pb.accepted abi call).toList = some contents' ∧ Holds next contents' := by
    rw [RTCPCompoundPacketBuilder.step, Option.some.injEq] at hStep
    rw [RTCPCompoundPacketBuilder.accepted]
    cases hOk : pb.apply abi call with
    | ok after =>
        rw [hOk] at hStep
        exact ⟨contents.add call, rfl, hStep ▸ holds_of_apply hHolds hOk⟩
    | error e =>
        rw [hOk] at hStep
        exact ⟨contents, rfl, hStep ▸ hHolds⟩
  obtain ⟨contents, hAsked, hHolds⟩ := Transition.run_labels Holds hStep hStart hRun
  rw [hEach, Option.some.injEq] at hAsked
  rwa [Contents.ofCalls, hAsked]

end Runs

namespace Contents

variable {contents : Contents}

theorem reports_eq {senderssrc : BitVec 32} {info : Option SenderInfo}
    (hHeader : contents.header = some (senderssrc, info)) :
    ∃ (first : List ReportBlock) (later : List (List ReportBlock)),
      contents.blocks = first ++ later.flatten ∧ first.length ≤ 31 ∧
      (∀ part ∈ later, part.length ≤ 31) ∧ contents.reports =
        firstReport senderssrc info first :: later.map (RTCPPacket.rr senderssrc) := by
  obtain ⟨first, later, hParts⟩ : ∃ first later,
      parts 31 (contents.blocks.length + 1) contents.blocks = first :: later := ⟨_, _, rfl⟩
  have hFlatten : (parts 31 (contents.blocks.length + 1) contents.blocks).flatten =
      contents.blocks := flatten_parts (by decide) (Nat.lt_succ_self _)
  have hShort (part : List ReportBlock) (hMem : part ∈ first :: later) : part.length ≤ 31 := by
    rw [← hParts] at hMem
    exact length_le_of_mem_parts hMem
  rw [hParts, List.flatten_cons] at hFlatten
  refine ⟨first, later, hFlatten.symm, hShort first (List.mem_cons_self ..),
    fun part hMem => hShort part (List.mem_cons_of_mem _ hMem), ?_⟩
  rw [reports, hHeader, hParts]

theorem firstReport_packettype (senderssrc : BitVec 32) (info : Option SenderInfo)
    (blocks : List ReportBlock) :
    (firstReport senderssrc info blocks).packettype = RTP_RTCPTYPE_SR ∨
      (firstReport senderssrc info blocks).packettype = RTP_RTCPTYPE_RR := by
  cases info with
  | none => exact .inr rfl
  | some info => exact .inl rfl

theorem firstReport_header (senderssrc : BitVec 32) (info : Option SenderInfo)
    (blocks : List ReportBlock) :
    (firstReport senderssrc info blocks).header = some (senderssrc, info) := by
  cases info <;> rfl

theorem firstReport_blocks (senderssrc : BitVec 32) (info : Option SenderInfo)
    (blocks : List ReportBlock) : (firstReport senderssrc info blocks).blocks = blocks := by
  cases info <;> rfl

theorem firstReport_writable {senderssrc : BitVec 32} {info : Option SenderInfo}
    {blocks : List ReportBlock} (hBlocks : blocks.length ≤ 31) :
    (firstReport senderssrc info blocks).Writable := by
  cases info <;> exact hBlocks

/-- The descriptions hold all chunks, 31 at most in each. -/
theorem descriptions_eq (contents : Contents) :
    ∃ chunkss : List (List SDESChunk), contents.chunks = chunkss.flatten ∧
      (∀ part ∈ chunkss, part.length ≤ 31) ∧ contents.descriptions = chunkss.map RTCPPacket.sdes := by
  by_cases hNone : contents.chunks = []
  · refine ⟨[], hNone, List.forall_mem_nil _, ?_⟩
    rw [descriptions, if_pos hNone, List.map_nil]
  · refine ⟨parts 31 (contents.chunks.length + 1) contents.chunks,
      (flatten_parts (by decide) (Nat.lt_succ_self _)).symm,
      fun part hMem => length_le_of_mem_parts hMem, ?_⟩
    rw [descriptions, if_neg hNone]

/-- Packets that are no reports have no report blocks. -/
theorem flatMap_blocks_eq_nil {packets : List RTCPPacket} (hTypes : ∀ packet ∈ packets,
    packet.packettype ≠ RTP_RTCPTYPE_SR ∧ packet.packettype ≠ RTP_RTCPTYPE_RR) :
    packets.flatMap RTCPPacket.blocks = [] := by
  refine List.flatMap_eq_nil_iff.mpr fun packet hMem => ?_
  cases packet with
  | sr senderssrc info blocks => exact absurd rfl (hTypes _ hMem).1
  | rr senderssrc blocks => exact absurd rfl (hTypes _ hMem).2
  | _ => rfl

theorem flatMap_chunks_eq_nil {packets : List RTCPPacket}
    (hTypes : ∀ packet ∈ packets, packet.packettype ≠ RTP_RTCPTYPE_SDES) :
    packets.flatMap RTCPPacket.chunks = [] := by
  refine List.flatMap_eq_nil_iff.mpr fun packet hMem => ?_
  cases packet with
  | sdes chunks => exact absurd rfl (hTypes _ hMem)
  | _ => rfl

theorem filter_packettype_eq_nil {packets : List RTCPPacket} {packettype : Byte}
    (hTypes : ∀ packet ∈ packets, packet.packettype ≠ packettype) :
    packets.filter (fun packet => packet.packettype = packettype) = [] :=
  List.filter_eq_nil_iff.mpr fun packet hMem => by simpa using hTypes packet hMem

theorem filter_packettype_eq_self {packets : List RTCPPacket} {packettype : Byte}
    (hTypes : ∀ packet ∈ packets, packet.packettype = packettype) :
    packets.filter (fun packet => packet.packettype = packettype) = packets :=
  List.filter_eq_self.mpr fun packet hMem => by simpa using hTypes packet hMem

theorem packettype_of_mem_reports {packet : RTCPPacket} (hMem : packet ∈ contents.reports) :
    packet.packettype = RTP_RTCPTYPE_SR ∨ packet.packettype = RTP_RTCPTYPE_RR := by
  cases hHeader : contents.header with
  | none =>
      rw [reports, hHeader] at hMem
      cases hMem
  | some header =>
      obtain ⟨first, later, -, -, -, hReports⟩ := reports_eq hHeader
      rw [hReports, List.mem_cons, List.mem_map] at hMem
      rcases hMem with rfl | ⟨part, -, rfl⟩
      · exact firstReport_packettype ..
      · exact .inr rfl

theorem packettype_of_mem_descriptions {packet : RTCPPacket}
    (hMem : packet ∈ contents.descriptions) : packet.packettype = RTP_RTCPTYPE_SDES := by
  obtain ⟨chunkss, -, -, hDescriptions⟩ := descriptions_eq contents
  rw [hDescriptions, List.mem_map] at hMem
  obtain ⟨part, -, rfl⟩ := hMem
  rfl

/-- What comes behind the reports has its type told by its place. -/
theorem packettype_of_mem_rest (hSound : contents.Sound) {packet : RTCPPacket}
    (hMem : packet ∈ contents.descriptions ++ (contents.apps ++ contents.byes)) :
    packet.packettype ≠ RTP_RTCPTYPE_SR ∧ packet.packettype ≠ RTP_RTCPTYPE_RR := by
  have hType : packet.packettype = RTP_RTCPTYPE_SDES ∨ packet.packettype = RTP_RTCPTYPE_APP ∨
      packet.packettype = RTP_RTCPTYPE_BYE := by
    rw [List.mem_append, List.mem_append] at hMem
    rcases hMem with hMem | hMem | hMem
    · exact .inl (packettype_of_mem_descriptions hMem)
    · exact .inr (.inl (hSound.apps packet hMem).2)
    · exact .inr (.inr (hSound.byes packet hMem).2)
  rcases hType with hType | hType | hType <;> rw [hType] <;> decide

theorem flatMap_blocks (hSound : contents.Sound) :
    contents.packets.flatMap RTCPPacket.blocks = contents.blocks := by
  rw [packets, List.flatMap_append,
    flatMap_blocks_eq_nil fun packet hMem => packettype_of_mem_rest hSound hMem, List.append_nil]
  cases hHeader : contents.header with
  | none =>
      rw [hSound.unstarted hHeader, reports, hHeader]
      rfl
  | some header =>
      obtain ⟨first, later, hBlocks, -, -, hReports⟩ := reports_eq hHeader
      rw [hReports, hBlocks, List.flatMap_cons, firstReport_blocks, List.flatMap_map]
      exact congrArg (first ++ ·) List.flatMap_id'

theorem flatMap_chunks (hSound : contents.Sound) :
    contents.packets.flatMap RTCPPacket.chunks = contents.chunks := by
  have hReports : contents.reports.flatMap RTCPPacket.chunks = [] :=
    flatMap_chunks_eq_nil fun packet hMem => by
      rcases packettype_of_mem_reports hMem with hType | hType <;> rw [hType] <;> decide
  have hApps : contents.apps.flatMap RTCPPacket.chunks = [] :=
    flatMap_chunks_eq_nil fun packet hMem => by rw [(hSound.apps packet hMem).2]; decide
  have hByes : contents.byes.flatMap RTCPPacket.chunks = [] :=
    flatMap_chunks_eq_nil fun packet hMem => by rw [(hSound.byes packet hMem).2]; decide
  obtain ⟨chunkss, hChunks, -, hDescriptions⟩ := descriptions_eq contents
  rw [packets, List.flatMap_append, List.flatMap_append, List.flatMap_append, hReports, hApps,
    hByes, hDescriptions, hChunks, List.flatMap_map, List.nil_append, List.append_nil,
    List.append_nil]
  exact List.flatMap_id'

/-- APP and BYE packets are neither reports nor source descriptions. -/
theorem filter_packets {packettype : Byte} (hOther : packettype ≠ RTP_RTCPTYPE_SR ∧
    packettype ≠ RTP_RTCPTYPE_RR ∧ packettype ≠ RTP_RTCPTYPE_SDES) :
    contents.packets.filter (fun packet => packet.packettype = packettype) =
      contents.apps.filter (fun packet => packet.packettype = packettype) ++
        contents.byes.filter (fun packet => packet.packettype = packettype) := by
  have hReports : contents.reports.filter (fun packet => packet.packettype = packettype) = [] :=
    filter_packettype_eq_nil fun packet hMem hType => by
      rcases packettype_of_mem_reports hMem with hReport | hReport
      · exact hOther.1 (hType.symm.trans hReport)
      · exact hOther.2.1 (hType.symm.trans hReport)
  have hDescriptions :
      contents.descriptions.filter (fun packet => packet.packettype = packettype) = [] :=
    filter_packettype_eq_nil fun packet hMem hType =>
      hOther.2.2 (hType.symm.trans (packettype_of_mem_descriptions hMem))
  rw [packets, List.filter_append, List.filter_append, List.filter_append, hReports, hDescriptions,
    List.nil_append, List.nil_append]

theorem filter_apps (hSound : contents.Sound) :
    contents.packets.filter (fun packet => packet.packettype = RTP_RTCPTYPE_APP) =
      contents.apps := by
  rw [filter_packets (by decide),
    filter_packettype_eq_self fun packet hMem => (hSound.apps packet hMem).2,
    filter_packettype_eq_nil fun packet hMem => ?_, List.append_nil]
  rw [(hSound.byes packet hMem).2]
  decide

theorem filter_byes (hSound : contents.Sound) :
    contents.packets.filter (fun packet => packet.packettype = RTP_RTCPTYPE_BYE) =
      contents.byes := by
  have hApps : contents.apps.filter (fun packet => packet.packettype = RTP_RTCPTYPE_BYE) = [] :=
    filter_packettype_eq_nil fun packet hMem => by
      rw [(hSound.apps packet hMem).2]
      decide
  rw [filter_packets (by decide), hApps, List.nil_append,
    filter_packettype_eq_self fun packet hMem => (hSound.byes packet hMem).2]

theorem head?_packets {senderssrc : BitVec 32} {info : Option SenderInfo}
    (hHeader : contents.header = some (senderssrc, info)) :
    ∃ blocks, contents.packets.head? = some (firstReport senderssrc info blocks) := by
  obtain ⟨first, later, -, -, -, hReports⟩ := reports_eq hHeader
  rw [packets, hReports]
  exact ⟨first, rfl⟩

/-- The packets hold the contents, all of them and nothing else. -/
theorem ofPackets_packets (hSound : contents.Sound) (hStarted : contents.header ≠ none) :
    ofPackets contents.packets = contents := by
  obtain ⟨⟨senderssrc, info⟩, hHeader⟩ := Option.ne_none_iff_exists'.mp hStarted
  obtain ⟨blocks, hHead⟩ := head?_packets hHeader
  rw [ofPackets, hHead, Option.bind_some, firstReport_header, ← hHeader, flatMap_blocks hSound,
    flatMap_chunks hSound, filter_apps hSound, filter_byes hSound]

/-- The packets can all be written. -/
theorem writable_packets (hSound : contents.Sound) :
    ∀ packet ∈ contents.packets, packet.Writable := by
  intro packet hMem
  rw [packets, List.mem_append, List.mem_append, List.mem_append] at hMem
  rcases hMem with hMem | hMem | hMem | hMem
  · cases hHeader : contents.header with
    | none =>
        rw [reports, hHeader] at hMem
        cases hMem
    | some header =>
        obtain ⟨first, later, -, hFirst, hLater, hReports⟩ := reports_eq hHeader
        rw [hReports, List.mem_cons, List.mem_map] at hMem
        rcases hMem with rfl | ⟨part, hPart, rfl⟩
        · exact firstReport_writable hFirst
        · exact hLater part hPart
  · obtain ⟨chunkss, -, hShort, hDescriptions⟩ := descriptions_eq contents
    rw [hDescriptions, List.mem_map] at hMem
    obtain ⟨part, hPart, rfl⟩ := hMem
    exact hShort part hPart
  · exact (hSound.apps packet hMem).1
  · exact (hSound.byes packet hMem).1

end Contents

/-- Whatever was called, a compound packet that was built has the length that was reckoned with,
and who reads it finds packets of known formats only, the reports, descriptions, APP and BYE
packets for what was asked for by the calls that succeeded, all of it and nothing else. -/
theorem ofPackets_of_run {abi : Abi} {calls : List Call} {pb : RTCPCompoundPacketBuilder}
    {data : Buffer}
    (hRun : Transition.run (RTCPCompoundPacketBuilder.step abi) .new calls = some pb)
    (hBuilt : pb.compoundpacket = some data) (hShort : data.length ≤ 4 * 2 ^ 16) :
    data.length = pb.compoundpacketlength ∧
      ∃ packets, RTCPCompoundPacket.rtcppacklist data = some packets ∧
        (∀ packet ∈ packets, packet.isKnown = true) ∧
        packets = (Contents.ofPackets packets).packets ∧
        Contents.ofPackets packets =
          .ofCalls (Transition.labels (RTCPCompoundPacketBuilder.step abi)
            (RTCPCompoundPacketBuilder.accepted abi) .new calls) := by
  cases holds_of_run hRun with
  | fresh hNew hEmpty =>
      rw [hNew] at hBuilt
      cases hBuilt
  | building hBuilding hUnbuilt hCollected =>
      rw [hUnbuilt] at hBuilt
      cases hBuilt
  | built hIdle hSound hStarted hPacket hLength hList =>
      obtain rfl := Option.some.inj (hPacket.symm.trans hBuilt)
      obtain ⟨⟨senderssrc, info⟩, hHeader⟩ := Option.ne_none_iff_exists'.mp hStarted
      obtain ⟨blocks, hHead⟩ := Contents.head?_packets hHeader
      have hWritable := Contents.writable_packets hSound
      have hContents := Contents.ofPackets_packets hSound hStarted
      refine ⟨hLength.symm, _, RTCPCompoundPacket.rtcppacklist_bytes ?_ hWritable ?_ ?_,
        fun packet hMem => RTCPPacket.isKnown_of_writable (hWritable packet hMem), ?_,
        hContents⟩
      · intro hNil
        rw [hNil] at hHead
        cases hHead
      · intro packet hMem
        exact (List.sublist_flatten_of_mem (List.mem_map_of_mem hMem)).length_le.trans hShort
      · intro packet hFirst
        rw [hHead] at hFirst
        exact Option.some.inj hFirst ▸ Contents.firstReport_packettype ..
      · rw [hContents]

/-- The farewell of a receiver. Its second report is refused. -/
def farewell : List Call :=
  [.initBuild false 600, .startReceiverReport 7, .addSDESSource 7,
    .addSDESNormalItem .cname ⟨[109], by decide⟩, .startReceiverReport 8,
    .addBYEPacket [7] ⟨[111, 117, 116], by decide⟩, .endBuild]

def farewellData : Buffer :=
  [128, 201, 0, 1, 0, 0, 0, 7,
    129, 202, 0, 2, 0, 0, 0, 7, 1, 1, 109, 0,
    129, 203, 0, 2, 0, 0, 0, 7, 3, 111, 117, 116]

def farewellBuilder : RTCPCompoundPacketBuilder :=
  (Transition.run (RTCPCompoundPacketBuilder.step .lp64) .new farewell).getD .new

theorem ofPackets_of_farewell : farewellData.length = farewellBuilder.compoundpacketlength ∧
    ∃ packets, RTCPCompoundPacket.rtcppacklist farewellData = some packets ∧
      (∀ packet ∈ packets, packet.isKnown = true) ∧
      packets = (Contents.ofPackets packets).packets ∧
      Contents.ofPackets packets =
        .ofCalls (Transition.labels (RTCPCompoundPacketBuilder.step .lp64)
          (RTCPCompoundPacketBuilder.accepted .lp64) .new farewell) := by
  have hRun : Transition.run (RTCPCompoundPacketBuilder.step .lp64) .new farewell =
      some farewellBuilder := rfl
  exact ofPackets_of_run hRun (by decide +kernel) (by decide)

end AudioSync.Rtcp
