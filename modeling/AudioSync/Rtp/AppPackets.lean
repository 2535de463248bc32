import AudioSync.Rtcp.BuilderSizes
import AudioSync.Rtp.CompoundPacket

/-! The builder of `RTPSession::SendRTCPAPPPacket` keeps the sizes of what it collects. It stands
for the builder with the buffers: they accept the same and fail alike. -/
namespace AudioSync.Rtp

open AudioSync.Rtcp (RTCPError Text headerType htonl normalItem)

/-- The error of the builder that is passed on. -/
def RtcpError.builderError : RtcpError → Option RTCPError
  | .maxPacketSizeTooSmall => some .maxPacketSizeTooSmall
  | .illegalSubType => some .illegalSubtype
  | .illegalAppDataLength => some .illegalAppDataLength
  | .appDataLenTooBig => some .appDataLenTooBig
  | .notEnoughBytesLeft => some .notEnoughBytesLeft
  | .noCurrentSource => some .noCurrentSource
  | _ => none

namespace RTCPCompoundPacketBuilder

/-- What is kept of a source. -/
def sizes (source : Rtcp.SDESSource) : SDESSource := ⟨source.ssrc, source.items.map List.length⟩

/-- A builder that has started a receiver report, and the one with the buffers. -/
structure StandsFor (pb : RTCPCompoundPacketBuilder) (pb' : Rtcp.RTCPCompoundPacketBuilder) :
    Prop where
  building : pb'.arebuilding = true
  maximum : pb'.maximumpacketsize = pb.maximumpacketsize
  byepackets : pb'.byepackets = []
  byesize : pb'.byesize = 0
  isRR : pb'.report.isSR = false
  reportblocks : pb'.report.reportblocks = []
  header : pb.headerlength = 4 ∧ pb'.report.headerdata.length = 4
  sources : pb.sdessources = pb'.sdessources.map sizes
  itemsize : ∀ source ∈ pb'.sdessources, source.totalitemsize = (sizes source).items.sum
  apps : pb'.apppackets = pb.apppackets.map APPPacketBytes.data
  appsize : pb'.appsize = pb.appsize
  apptypes : ∀ packet ∈ pb'.apppackets, headerType packet = Rtcp.RTP_RTCPTYPE_APP

/-- Both calls succeed with builders that stand for each other, or fail alike. -/
def SameResult : Except RtcpError RTCPCompoundPacketBuilder →
    Except RTCPError Rtcp.RTCPCompoundPacketBuilder → Prop
  | .ok pb, .ok pb' => pb.StandsFor pb'
  | .error e, .error e' => e.builderError = some e'
  | _, _ => False

variable {pb : RTCPCompoundPacketBuilder} {pb' : Rtcp.RTCPCompoundPacketBuilder}

theorem SameResult.bind {result : Except RtcpError RTCPCompoundPacketBuilder}
    {result' : Except RTCPError Rtcp.RTCPCompoundPacketBuilder}
    {call : RTCPCompoundPacketBuilder → Except RtcpError RTCPCompoundPacketBuilder}
    {call' : Rtcp.RTCPCompoundPacketBuilder → Except RTCPError Rtcp.RTCPCompoundPacketBuilder}
    (h : SameResult result result')
    (hCall : ∀ pb pb', StandsFor pb pb' → SameResult (call pb) (call' pb')) :
    SameResult (result.bind call) (result'.bind call') := by
  cases result with
  | ok pb =>
      cases result' with
      | ok pb' => exact hCall pb pb' h
      | error e' => exact h.elim
  | error e =>
      cases result' with
      | ok pb' => exact h.elim
      | error e' => exact h

/-- Both make the same check. -/
theorem SameResult.of_check {fails fails' : Prop} [Decidable fails] [Decidable fails']
    {e : RtcpError} {e' : RTCPError} {result : Except RtcpError RTCPCompoundPacketBuilder}
    {result' : Except RTCPError Rtcp.RTCPCompoundPacketBuilder} (hSame : fails' ↔ fails)
    (hError : e.builderError = some e') (hNext : ¬ fails → SameResult result result') :
    SameResult (if fails then .error e else result) (if fails' then .error e' else result') := by
  by_cases hFails : fails
  · rw [if_pos hFails, if_pos (hSame.mpr hFails)]
    exact hError
  · rw [if_neg hFails, if_neg (fun hFails' => hFails (hSame.mp hFails'))]
    exact hNext hFails

/-- The size of a source is the same in both. -/
theorem neededBytes_sizes {source : Rtcp.SDESSource}
    (hTotal : source.totalitemsize = (sizes source).items.sum) :
    (sizes source).neededBytes = source.neededBytes := by
  rw [Rtcp.SDESSource.neededBytes, Rtcp.SDESSource.bytesWithItems, hTotal, SDESSource.neededBytes,
    Rtcp.alignment]
  split_ifs <;> omega

theorem sum_neededBytes_sizes {sources : List Rtcp.SDESSource}
    (hTotal : ∀ source ∈ sources, source.totalitemsize = (sizes source).items.sum) :
    ((sources.map sizes).map SDESSource.neededBytes).sum =
      (sources.map Rtcp.SDESSource.neededBytes).sum := by
  rw [List.map_map]
  exact congrArg List.sum
    (List.map_congr_left fun source hMem => neededBytes_sizes (hTotal source hMem))

theorem sdesBytes_sizes {sources : List Rtcp.SDESSource}
    (hTotal : ∀ source ∈ sources, source.totalitemsize = (sizes source).items.sum) :
    sdesBytes (sources.map sizes) = Rtcp.SDES.neededBytes sources := by
  rw [sdesBytes, sum_neededBytes_sizes hTotal, List.length_map, Rtcp.SDES.neededBytes,
    Rtcp.packetCount_eq]
  split_ifs with hNone
  · rw [hNone]
    rfl
  · rfl

/-- The bytes of an APP packet are the same in both. -/
theorem bytes_appPacket (subtype : Nat) (ssrc : BitVec 32)
    (name : { name : List Byte // name.length = 4 }) (appdata : List Byte) :
    (Rtcp.appPacket subtype ssrc (fun i => name.1.get (i.cast name.2.symm)) appdata).bytes =
      appPacketData subtype ssrc name appdata := by
  obtain ⟨name, hName⟩ := name
  have hOfFn : List.ofFn (fun i : Fin 4 => name.get (i.cast hName.symm)) = name := by
    apply List.ext_getElem (by rw [List.length_ofFn, hName])
    intro i _ _
    rw [List.getElem_ofFn]
    rfl
  have hWords : (4 + (htonl ssrc ++ (name ++ appdata)).length) / 4 - 1 =
      appdata.length / 4 + 2 := by
    rw [List.length_append, List.length_append, Rtcp.htonl_length, hName]
    omega
  simp only [Rtcp.appPacket, Rtcp.RTCPPacket.bytes, Rtcp.packetBytes, Rtcp.commonHeader, hOfFn,
    hWords]
  simp [appPacketData, htonl, ByteOrder.bigEndian, Rtcp.RTP_RTCPTYPE_APP, RTP_RTCPTYPE_APP]

/-- The packets of the sources are no APP packets. -/
theorem filter_app_write (fuel : Nat) (sources : List Rtcp.SDESSource) :
    (Rtcp.SDES.write fuel sources).filter
      (fun packet => headerType packet = Rtcp.RTP_RTCPTYPE_APP) = [] := by
  induction fuel generalizing sources with
  | zero => rfl
  | succ fuel ih =>
      have hType : Rtcp.RTP_RTCPTYPE_SDES ≠ Rtcp.RTP_RTCPTYPE_APP := by decide
      rw [Rtcp.SDES.write, List.filter_cons_of_neg]
      · split_ifs
        · rfl
        · exact ih _
      · exact fun hApp => hType (of_decide_eq_true hApp)

namespace StandsFor

theorem reportBytes (h : pb.StandsFor pb') : pb'.report.neededBytes = pb.reportBytes := by
  rw [Rtcp.Report.neededBytes, h.reportblocks, List.length_nil, if_pos rfl, h.header.2,
    RTCPCompoundPacketBuilder.reportBytes, h.header.1]

theorem sdesBytes (h : pb.StandsFor pb') :
    Rtcp.SDES.neededBytes pb'.sdessources =
      RTCPCompoundPacketBuilder.sdesBytes pb.sdessources := by
  rw [h.sources, sdesBytes_sizes h.itemsize]

/-- The whole packet has the same size. -/
theorem compoundPacketLength (h : pb.StandsFor pb') :
    pb'.neededBytes = pb.compoundPacketLength := by
  rw [Rtcp.RTCPCompoundPacketBuilder.neededBytes, h.appsize, h.byesize, h.reportBytes,
    h.sdesBytes, RTCPCompoundPacketBuilder.compoundPacketLength, Nat.add_zero]

/-- `AddSDESSource`. -/
theorem addSDESSource (h : pb.StandsFor pb') (ssrc : BitVec 32) :
    SameResult (pb.addSDESSource ssrc) (pb'.addSDESSource ssrc) := by
  have hNone : pb.sdessources = [] ↔ pb'.sdessources = [] := by rw [h.sources, List.map_eq_nil_iff]
  have hExtra : Rtcp.SDES.neededBytesWithExtraSource pb'.sdessources =
      if pb.sdessources = [] then 0
      else (pb.sdessources.map SDESSource.neededBytes).sum + 8 +
        (pb.sdessources.length + 1 + 30) / 31 * 4 := by
    simp only [hNone]
    rw [Rtcp.SDES.neededBytesWithExtraSource, h.sources, sum_neededBytes_sizes h.itemsize,
      List.length_map, Rtcp.packetCount_eq]
    rfl
  unfold RTCPCompoundPacketBuilder.addSDESSource Rtcp.RTCPCompoundPacketBuilder.addSDESSource
  rw [if_neg (not_not.mpr h.building)]
  refine .of_check ?_ rfl fun _ => ?_
  · rw [h.maximum, h.byesize, h.appsize, h.reportBytes, hExtra, Nat.zero_add]
  · refine { h with sources := ?_, itemsize := ?_ }
    · show pb.sdessources ++ _ = (pb'.sdessources ++ _).map sizes
      rw [List.map_append, h.sources]
      rfl
    · intro source hMem
      rcases List.mem_append.mp hMem with hOld | hNew
      · exact h.itemsize source hOld
      · rw [List.mem_singleton.mp hNew]
        rfl

/-- `AddSDESNormalItem`. -/
theorem addSDESNormalItem (h : pb.StandsFor pb') {itemlength : BitVec 8} {item : Rtcp.SDESItem}
    (hLength : item.data.length = itemlength.toNat) :
    SameResult (pb.addSDESNormalItem itemlength) (pb'.addSDESItem (.ok item)) := by
  have hLast : pb.sdessources.getLast? = pb'.sdessources.getLast?.map sizes := by
    rw [h.sources, List.getLast?_map]
  unfold RTCPCompoundPacketBuilder.addSDESNormalItem Rtcp.RTCPCompoundPacketBuilder.addSDESItem
  rw [if_neg (not_not.mpr h.building), hLast]
  cases hSource : pb'.sdessources.getLast? with
  | none =>
      rw [if_pos (List.getLast?_eq_none_iff.mp hSource)]
      rfl
  | some source =>
      have hSome : pb'.sdessources ≠ [] := fun hNone => by simp [hNone] at hSource
      have hAdded : Rtcp.SDES.addItem pb'.sdessources item.bytes =
          pb'.sdessources.dropLast ++ [source.addItem item.bytes] := by
        rw [Rtcp.SDES.addItem, hSource]
      have hItem : (sizes source).items ++ [2 + itemlength.toNat] =
          (sizes (source.addItem item.bytes)).items := by
        simp [sizes, Rtcp.SDESSource.addItem, Rtcp.SDESItem.bytes, ← hLength, Nat.add_comm 2]
      have hSources : pb.sdessources.dropLast ++
          [{ sizes source with items := (sizes source).items ++ [2 + itemlength.toNat] }] =
          (Rtcp.SDES.addItem pb'.sdessources item.bytes).map sizes := by
        rw [hAdded, hItem, List.map_append, h.sources, List.map_dropLast]
        rfl
      have hTotal : ∀ added ∈ Rtcp.SDES.addItem pb'.sdessources item.bytes,
          added.totalitemsize = (sizes added).items.sum := by
        intro added hMem
        rw [hAdded] at hMem
        rcases List.mem_append.mp hMem with hOld | hNew
        · exact h.itemsize added (List.mem_of_mem_dropLast hOld)
        · rw [List.mem_singleton.mp hNew, Rtcp.SDESSource.addItem,
            h.itemsize source (List.mem_of_getLast? hSource)]
          simp [sizes]
      dsimp only [Option.map_some]
      rw [if_neg hSome, hSources]
      refine .of_check ?_ rfl fun _ => { h with sources := rfl, itemsize := hTotal }
      rw [← Rtcp.SDES.neededBytes_extraItem hSome, sdesBytes_sizes hTotal, h.maximum, h.byesize,
        h.appsize, h.reportBytes]
      omega

/-- `AddAPPPacket`. -/
theorem addAPPPacket (h : pb.StandsFor pb') (subtype : Nat) (ssrc : BitVec 32)
    (name : { name : List Byte // name.length = 4 }) (appdata : List Byte) :
    SameResult (pb.addAPPPacket subtype ssrc name appdata)
      (pb'.addAPPPacket subtype ssrc (fun i => name.1.get (i.cast name.2.symm)) appdata) := by
  have hRoom : pb'.maximumpacketsize < pb'.appsize + pb'.byesize +
        Rtcp.SDES.neededBytes pb'.sdessources + pb'.report.neededBytes +
        (4 + 4 * 2 + appdata.length) ↔
      pb.maximumpacketsize < pb.appsize + RTCPCompoundPacketBuilder.sdesBytes pb.sdessources +
        pb.reportBytes + (12 + appdata.length) := by
    rw [h.maximum, h.appsize, h.byesize, h.sdesBytes, h.reportBytes, Nat.add_zero]
  unfold RTCPCompoundPacketBuilder.addAPPPacket Rtcp.RTCPCompoundPacketBuilder.addAPPPacket
  rw [if_neg (not_not.mpr h.building)]
  refine .of_check Iff.rfl rfl fun hSubtype => ?_
  by_cases hWords : appdata.length % 4 ≠ 0
  · rw [dif_pos hWords, if_pos hWords]
    rfl
  · rw [dif_neg hWords, if_neg hWords]
    by_cases hBig : 65535 < appdata.length / 4 + 2
    · rw [dif_pos hBig, if_pos hBig]
      rfl
    · rw [dif_neg hBig, if_neg hBig]
      refine .of_check hRoom rfl fun _ => ?_
      have hData := bytes_appPacket subtype ssrc name appdata
      refine { h with apps := ?_, appsize := ?_, apptypes := ?_ }
      · show pb'.apppackets ++ _ = (pb.apppackets ++ _).map APPPacketBytes.data
        rw [h.apps, hData, List.map_append]
        rfl
      · have hPacket : (appPacketData subtype ssrc name appdata).length = 12 + appdata.length :=
          appPacketData_length subtype ssrc name.2
        simp only [h.appsize, RTCPCompoundPacketBuilder.appsize, List.map_append, List.sum_append,
          List.map_cons, List.map_nil, List.sum_singleton, hPacket]
      · intro packet hMem
        rcases List.mem_append.mp hMem with hOld | hNew
        · exact h.apptypes packet hOld
        · rw [List.mem_singleton.mp hNew]
          rfl

/-- `EndBuild` writes the APP packets that were collected, in a packet of that size. -/
theorem endBuild (h : pb.StandsFor pb') :
    ∃ built, pb'.endBuild = .ok built ∧ built.compoundpacketlength = pb.compoundPacketLength ∧
      built.rtcppacklist.filter (fun packet => headerType packet = Rtcp.RTP_RTCPTYPE_APP) =
        pb.apppackets.map APPPacketBytes.data := by
  have hStarted : pb'.report.headerdata.length ≠ 0 := by
    rw [h.header.2]
    decide
  refine ⟨_, by rw [Rtcp.RTCPCompoundPacketBuilder.endBuild, if_neg (not_not.mpr h.building),
    if_neg hStarted], h.compoundPacketLength, ?_⟩
  have hReport : (pb'.report.write 1 true []).filter
      (fun packet => headerType packet = Rtcp.RTP_RTCPTYPE_APP) = [] := by
    rw [Rtcp.Report.write, h.isRR]
    rfl
  have hSources : (if pb'.sdessources = [] then []
      else Rtcp.SDES.write (pb'.sdessources.length + 1) pb'.sdessources).filter
        (fun packet => headerType packet = Rtcp.RTP_RTCPTYPE_APP) = [] := by
    split_ifs
    · rfl
    · exact filter_app_write _ _
  have hApps : pb'.apppackets.filter
      (fun packet => headerType packet = Rtcp.RTP_RTCPTYPE_APP) = pb'.apppackets :=
    List.filter_eq_self.mpr fun packet hMem => decide_eq_true (h.apptypes packet hMem)
  show pb'.packetsOfBuffers.filter _ = _
  rw [Rtcp.RTCPCompoundPacketBuilder.packetsOfBuffers, h.reportblocks, h.byepackets,
    List.append_nil, List.filter_append, List.filter_append, List.length_nil, hReport, hSources,
    hApps, h.apps]
  rfl

end StandsFor

/-- `InitBuild` and `StartReceiverReport` of a new builder. -/
theorem sameResult_start {abi : Abi} {maxpacketsize : Nat} (hSize : maxpacketsize < 2 ^ abi.bits)
    (ssrc : BitVec 32) :
    SameResult ((initBuild maxpacketsize).bind startReceiverReport)
      ((Rtcp.RTCPCompoundPacketBuilder.new.initBuild false maxpacketsize).bind fun pb =>
        pb.startReport abi false (htonl ssrc)) := by
  have hNew : Rtcp.RTCPCompoundPacketBuilder.new.initBuild false maxpacketsize =
      if maxpacketsize < RTP_MINPACKETSIZE then .error .maxPacketSizeTooSmall
      else .ok ⟨maxpacketsize, false, true, ⟨false, [], []⟩, [], [], 0, [], 0, none, 0, []⟩ := rfl
  rw [hNew, initBuild]
  by_cases hSmall : maxpacketsize < RTP_MINPACKETSIZE
  · rw [if_pos hSmall, if_pos hSmall]
    rfl
  · have hMin : 600 ≤ maxpacketsize := not_lt.mp hSmall
    have hLeft : ¬ abi.size ((maxpacketsize : Int) - (0 : Nat)) < 4 + (htonl ssrc).length := by
      rw [Nat.cast_zero, sub_zero, Abi.size_natCast, Nat.mod_eq_of_lt hSize, Rtcp.htonl_length]
      omega
    have hStart : startReceiverReport ⟨maxpacketsize, 0, [], []⟩ =
        .ok ⟨maxpacketsize, 4, [], []⟩ := if_neg (by simp [appsize, sdesBytes]; omega)
    have hStart' : Rtcp.RTCPCompoundPacketBuilder.startReport abi
        ⟨maxpacketsize, false, true, ⟨false, [], []⟩, [], [], 0, [], 0, none, 0, []⟩ false
          (htonl ssrc) =
        .ok ⟨maxpacketsize, false, true, ⟨false, htonl ssrc, []⟩, [], [], 0, [], 0, none, 0,
          []⟩ := by
      rw [Rtcp.RTCPCompoundPacketBuilder.startReport, if_neg (not_not.mpr rfl),
        if_neg (not_not.mpr List.length_nil)]
      exact if_neg hLeft
    rw [if_neg hSmall, if_neg hSmall, Except.bind, Except.bind, hStart, hStart']
    exact ⟨rfl, rfl, rfl, rfl, rfl, rfl, ⟨rfl, Rtcp.htonl_length ssrc⟩, rfl, by rintro _ ⟨⟩, rfl,
      rfl, by rintro _ ⟨⟩⟩

end RTCPCompoundPacketBuilder

/-- The calls that `RTPSession::SendRTCPAPPPacket` makes of a new builder. -/
def RTPSession.buildRTCPAPPPacket (abi : Abi) (session : RTPSession) (owncname : Text)
    (subtype : Nat) (name : { name : List Byte // name.length = 4 }) (appdata : List Byte) :
    Except RTCPError Rtcp.RTCPCompoundPacketBuilder :=
  [.initBuild false session.packetbuilder.maxpacksize,
    .startReceiverReport session.packetbuilder.ssrc,
    .addSDESSource session.packetbuilder.ssrc, .addSDESNormalItem .cname owncname,
    .addAPPPacket subtype session.packetbuilder.ssrc (fun i => name.1.get (i.cast name.2.symm))
      appdata,
    .endBuild].foldlM (Rtcp.RTCPCompoundPacketBuilder.apply abi) .new

section Build

open RTCPCompoundPacketBuilder

variable {abi : Abi} {session : RTPSession} {owncname : Text} {subtype : Nat}
variable {name : { name : List Byte // name.length = 4 }} {appdata : List Byte}

/-- The builder before `EndBuild`, or the error of the call that failed. -/
theorem sameResult_collect (hSize : session.packetbuilder.maxpacksize < 2 ^ abi.bits) :
    SameResult
      (initBuild session.packetbuilder.maxpacksize >>= startReceiverReport >>=
        (·.addSDESSource session.packetbuilder.ssrc) >>=
        (·.addSDESNormalItem (BitVec.ofNat 8 owncname.data.length)) >>=
        (·.addAPPPacket subtype session.packetbuilder.ssrc name appdata))
      (Rtcp.RTCPCompoundPacketBuilder.new.initBuild false session.packetbuilder.maxpacksize >>=
        (·.startReport abi false (htonl session.packetbuilder.ssrc)) >>=
        (·.addSDESSource session.packetbuilder.ssrc) >>=
        (·.addSDESItem (normalItem .cname owncname)) >>=
        (·.addAPPPacket subtype session.packetbuilder.ssrc
          (fun i => name.1.get (i.cast name.2.symm)) appdata)) := by
  have hLength : owncname.data.length = (BitVec.ofNat 8 owncname.data.length).toNat := by
    rw [BitVec.toNat_ofNat, Nat.mod_eq_of_lt owncname.short]
  exact (((sameResult_start hSize session.packetbuilder.ssrc).bind
    fun _ _ h => h.addSDESSource session.packetbuilder.ssrc).bind
    fun _ _ h => h.addSDESNormalItem hLength).bind
    fun _ _ h => h.addAPPPacket subtype session.packetbuilder.ssrc name appdata

/-- What is sent of a builder. -/
def Transmitter.sendBuilt (transmitter : Transmitter) (pb : RTCPCompoundPacketBuilder) :
    Except RtcpError (List APPPacketBytes) :=
  match transmitter.sendRTCPData pb.compoundPacketLength with
  | some e => .error e
  | none => .ok pb.apppackets

/-- Builders that stand for each other send the same. -/
theorem sendBuilt_endBuild {result : Except RtcpError RTCPCompoundPacketBuilder}
    {result' : Except RTCPError Rtcp.RTCPCompoundPacketBuilder} (h : SameResult result result')
    (transmitter : Transmitter) :
    match result' >>= (·.endBuild) with
    | .error e => ∃ reported, RtcpError.builderError reported = some e ∧
        result >>= transmitter.sendBuilt = .error reported
    | .ok built =>
        (result >>= transmitter.sendBuilt).map (List.map APPPacketBytes.data) =
          match transmitter.sendRTCPData built.compoundpacketlength with
          | some e => .error e
          | none => .ok (built.rtcppacklist.filter fun packet =>
              headerType packet = Rtcp.RTP_RTCPTYPE_APP) := by
  cases result with
  | error e =>
      cases result' with
      | ok pb' => exact h.elim
      | error e' => exact ⟨e, h, rfl⟩
  | ok pb =>
      cases result' with
      | error e' => exact h.elim
      | ok pb' =>
          have hStands : pb.StandsFor pb' := h
          obtain ⟨built, hBuilt, hLength, hApps⟩ := hStands.endBuild
          show match pb'.endBuild with
            | .error e => _
            | .ok built => _
          rw [hBuilt]
          dsimp only
          rw [hLength, hApps]
          show (transmitter.sendBuilt pb).map _ = _
          rw [Transmitter.sendBuilt]
          cases transmitter.sendRTCPData pb.compoundPacketLength <;> rfl

/-- `RTPSession::SendRTCPAPPPacket` reports the error of its builder, and otherwise sends what the
builder has built. -/
theorem sendRTCPAPPPacket_build (hCreated : session.created = true)
    (hSize : session.packetbuilder.maxpacksize < 2 ^ abi.bits) :
    match session.buildRTCPAPPPacket abi owncname subtype name appdata with
    | .error e => ∃ reported, RtcpError.builderError reported = some e ∧
        session.sendRTCPAPPPacket owncname.data subtype name appdata = .error reported
    | .ok built =>
        (session.sendRTCPAPPPacket owncname.data subtype name appdata).map
            (List.map APPPacketBytes.data) =
          match session.rtptrans.sendRTCPData built.compoundpacketlength with
          | some e => .error e
          | none => .ok (built.rtcppacklist.filter fun packet =>
              headerType packet = Rtcp.RTP_RTCPTYPE_APP) := by
  have hSend : session.sendRTCPAPPPacket owncname.data subtype name appdata =
      initBuild session.packetbuilder.maxpacksize >>= startReceiverReport >>=
        (·.addSDESSource session.packetbuilder.ssrc) >>=
        (·.addSDESNormalItem (BitVec.ofNat 8 owncname.data.length)) >>=
        (·.addAPPPacket subtype session.packetbuilder.ssrc name appdata) >>=
        session.rtptrans.sendBuilt := by
    unfold RTPSession.sendRTCPAPPPacket
    rw [if_neg (by simp [hCreated])]
    simp only [bind_assoc]
    rfl
  have hBuild : session.buildRTCPAPPPacket abi owncname subtype name appdata =
      Rtcp.RTCPCompoundPacketBuilder.new.initBuild false session.packetbuilder.maxpacksize >>=
        (·.startReport abi false (htonl session.packetbuilder.ssrc)) >>=
        (·.addSDESSource session.packetbuilder.ssrc) >>=
        (·.addSDESItem (normalItem .cname owncname)) >>=
        (·.addAPPPacket subtype session.packetbuilder.ssrc
          (fun i => name.1.get (i.cast name.2.symm)) appdata) >>=
        (·.endBuild) := by
    unfold RTPSession.buildRTCPAPPPacket
    simp only [List.foldlM_cons, List.foldlM_nil, bind_assoc, bind_pure]
    rfl
  rw [hSend, hBuild]
  exact sendBuilt_endBuild (sameResult_collect hSize) session.rtptrans

end Build

end AudioSync.Rtp
