import AudioSync.Rtcp.Builder

/-! The size of a compound packet that is built, and the maximum that the builder was given. -/
namespace AudioSync.Rtcp

namespace Report

variable {report : Report}

theorem neededBytes_started {isSR : Bool} {headerdata : Buffer} (hNone : report.reportblocks = []) :
    neededBytes { report with isSR := isSR, headerdata := headerdata } =
      if headerdata.length = 0 then 0 else 4 + headerdata.length := by
  rw [neededBytes, hNone]
  rfl

theorem neededBytes_extraReportBlock (block : Buffer) :
    neededBytes { report with reportblocks := report.reportblocks ++ [block] } =
      report.neededBytesWithExtraReportBlock := by
  have hLength : (report.reportblocks ++ [block]).length = report.reportblocks.length + 1 := by
    rw [List.length_append, List.length_singleton]
  rw [neededBytes, hLength, if_neg (Nat.succ_ne_zero _)]
  rfl

end Report

namespace SDES

variable {sources : List SDESSource}

theorem neededBytes_first (ssrc : BitVec 32) : neededBytes (addSSRC [] ssrc) = 12 := by
  simp [neededBytes, addSSRC, SDESSource.neededBytes, SDESSource.bytesWithItems, alignment,
    packetCount]

theorem neededBytes_extraSource (hSome : sources ≠ []) (ssrc : BitVec 32) :
    neededBytes (addSSRC sources ssrc) = neededBytesWithExtraSource sources := by
  have hSource : SDESSource.neededBytes ⟨ssrc, [], 0⟩ = 8 := rfl
  rw [neededBytes, addSSRC, if_neg (by simp), neededBytesWithExtraSource, if_neg hSome,
    List.map_append, List.sum_append, List.length_append, List.length_singleton, List.map_singleton,
    List.sum_singleton, hSource]

theorem neededBytes_extraItem (hSome : sources ≠ []) (item : SDESItem) :
    neededBytes (addItem sources item.bytes) =
      neededBytesWithExtraItem sources item.data.length := by
  obtain ⟨earlier, last, rfl⟩ := (List.eq_nil_or_concat' sources).resolve_left hSome
  have hItem : (last.addItem item.bytes).neededBytes =
      last.neededBytesWithExtraItem item.data.length := by
    have hSize : last.totalitemsize + item.bytes.length =
        last.totalitemsize + 2 + item.data.length := by
      rw [SDESItem.bytes, List.length_cons, List.length_cons]
      omega
    rw [SDESSource.neededBytes, SDESSource.addItem, hSize, SDESSource.neededBytesWithExtraItem]
  rw [addItem, neededBytesWithExtraItem, List.getLast?_concat]
  dsimp only
  rw [neededBytes, if_neg (by simp), List.dropLast_concat, List.map_append, List.sum_append,
    List.length_append, List.length_append, List.map_singleton, List.sum_singleton, hItem]
  rfl

end SDES

namespace RTCPCompoundPacketBuilder

variable {pb next : RTCPCompoundPacketBuilder} {call : Call} {abi : Abi}

/-- What is collected, and what was built, is not larger than it may be. -/
def Fits (pb : RTCPCompoundPacketBuilder) : Prop :=
  pb.neededBytes ≤ pb.maximumpacketsize ∧ pb.compoundpacketlength ≤ pb.maximumpacketsize

/-- A first source is added only where there is room for the header of its packet, its SSRC and
an empty list of items: `NeededBytesWithExtraSource` leaves these out. -/
def RoomForSource (pb : RTCPCompoundPacketBuilder) : Call → Prop
  | .addSDESSource _ => pb.arebuilding = true → pb.sdessources = [] →
      pb.neededBytes + 12 ≤ pb.maximumpacketsize
  | _ => True

instance (pb : RTCPCompoundPacketBuilder) (call : Call) : Decidable (RoomForSource pb call) := by
  cases call <;> unfold RoomForSource <;> infer_instance

/-- What is true of the sizes whatever was called. The extra bytes are those of a first source
and those of a report that was started behind it. -/
structure Sized (pb : RTCPCompoundPacketBuilder) : Prop where
  unstarted : pb.report.headerdata.length = 0 → pb.report.reportblocks = []
  idle : pb.arebuilding = false → pb.neededBytes = 0
  unbuilt : pb.compoundpacket = none → pb.compoundpacketlength = 0
  needed : pb.neededBytes ≤
    pb.maximumpacketsize + 12 + if pb.report.headerdata.length = 0 then 0 else 28
  built : pb.compoundpacketlength ≤ pb.maximumpacketsize + 40

theorem sized_new : Sized new where
  unstarted := fun _ => rfl
  idle := fun _ => rfl
  unbuilt := fun _ => rfl
  needed := by decide
  built := by decide

/-- What a call that succeeds does: the sizes stay in order, and the maximum is kept exactly when
there was room for the source. -/
def Grows (pb : RTCPCompoundPacketBuilder) (call : Call) (next : RTCPCompoundPacketBuilder) :
    Prop :=
  Sized next ∧ (Fits pb → (Fits next ↔ RoomForSource pb call))

/-- A call that has checked the size which is then needed. -/
theorem grows_of_checked (hSized : Sized pb) (hRoom : RoomForSource pb call)
    (hBuilding : next.arebuilding = true) (hMax : next.maximumpacketsize = pb.maximumpacketsize)
    (hPacket : next.compoundpacket = pb.compoundpacket)
    (hLength : next.compoundpacketlength = pb.compoundpacketlength)
    (hBlocks : next.report.headerdata.length = 0 → next.report.reportblocks = [])
    (hChecked : next.neededBytes ≤ next.maximumpacketsize) : Grows pb call next := by
  refine ⟨⟨hBlocks, ?_, ?_, ?_, ?_⟩, fun hFits => iff_of_true ⟨hChecked, ?_⟩ hRoom⟩
  · intro hIdle
    rw [hBuilding] at hIdle
    cases hIdle
  · rw [hPacket, hLength]
    exact hSized.unbuilt
  · omega
  · rw [hLength, hMax]
    exact hSized.built
  · rw [hLength, hMax]
    exact hFits.2

theorem grows_initBuild {external : Bool} {maxpacketsize : Nat} (hSized : Sized pb)
    (hOk : pb.initBuild external maxpacketsize = .ok next) :
    Grows pb (.initBuild external maxpacketsize) next := by
  obtain ⟨hIdle, hUnbuilt, -, rfl⟩ := initBuild_eq_ok hOk
  have hEmpty := hSized.idle hIdle
  have hLength := hSized.unbuilt hUnbuilt
  rw [neededBytes] at hEmpty
  have hNeeded : 0 + 0 + pb.report.neededBytes + SDES.neededBytes pb.sdessources = 0 := by omega
  refine ⟨⟨hSized.unstarted, fun h => absurd h.symm Bool.false_ne_true, hSized.unbuilt, ?_, ?_⟩,
    fun _ => iff_of_true ⟨?_, ?_⟩ trivial⟩
  · exact hNeeded.le.trans (Nat.zero_le _)
  · exact hLength.le.trans (Nat.zero_le _)
  · exact hNeeded.le.trans (Nat.zero_le _)
  · exact hLength.le.trans (Nat.zero_le _)

/-- Where more is needed already than there may be, the bytes that are left have wrapped around,
and the report is started all the same. -/
theorem grows_startReport {isSR : Bool} {headerdata : Buffer} (hSized : Sized pb)
    (hRoom : RoomForSource pb call) (hSome : headerdata.length ≠ 0)
    (hHeader : headerdata.length ≤ 24)
    (hOk : startReport abi pb isSR headerdata = .ok next) : Grows pb call next := by
  obtain ⟨hBuilding, hStarted, hLeft, rfl⟩ := startReport_eq_ok hOk
  have hNone := hSized.unstarted hStarted
  have hOver := hSized.needed
  rw [if_pos hStarted] at hOver
  have hBefore : pb.report.neededBytes = 0 := by
    rw [Report.neededBytes, hNone, if_pos List.length_nil, if_pos hStarted]
  have hAfter : Report.neededBytes { pb.report with isSR := isSR, headerdata := headerdata } =
      4 + headerdata.length := by
    rw [Report.neededBytes_started hNone, if_neg hSome]
  have hAll : pb.neededBytes =
      pb.appsize + pb.byesize + pb.report.neededBytes + SDES.neededBytes pb.sdessources := rfl
  have hSum : neededBytes { pb with report := { pb.report with isSR, headerdata } } =
      pb.appsize + pb.byesize + (4 + headerdata.length) + SDES.neededBytes pb.sdessources :=
    congrArg (pb.appsize + pb.byesize + · + SDES.neededBytes pb.sdessources) hAfter
  refine ⟨⟨fun _ => hNone, ?_, hSized.unbuilt, ?_, hSized.built⟩, fun hFits => ?_⟩
  · intro hIdle
    exact absurd (hIdle.symm.trans hBuilding) Bool.false_ne_true
  · rw [hSum, if_neg hSome]
    dsimp only
    omega
  · refine iff_of_true ⟨?_, hFits.2⟩ hRoom
    have hFit := hFits.1
    have hRest : (pb.maximumpacketsize : Int) -
        (pb.byesize + pb.appsize + SDES.neededBytes pb.sdessources : Nat) =
          (pb.maximumpacketsize - (pb.byesize + pb.appsize +
            SDES.neededBytes pb.sdessources) : Nat) := by omega
    rw [hRest] at hLeft
    have hSize := abi.size_le (pb.maximumpacketsize - (pb.byesize + pb.appsize +
      SDES.neededBytes pb.sdessources))
    rw [hSum]
    dsimp only
    omega

theorem grows_addReportBlock {block : ReportBlock} (hSized : Sized pb)
    (hRoom : RoomForSource pb call) (hOk : pb.addReportBlock block = .ok next) :
    Grows pb call next := by
  obtain ⟨hBuilding, hStarted, hChecked, rfl⟩ := addReportBlock_eq_ok hOk
  refine grows_of_checked hSized hRoom hBuilding rfl rfl rfl (fun h => absurd h hStarted) ?_
  rw [neededBytes, Report.neededBytes_extraReportBlock]
  dsimp only
  omega

theorem grows_addSDESSource {ssrc : BitVec 32} (hSized : Sized pb)
    (hOk : pb.addSDESSource ssrc = .ok next) : Grows pb (.addSDESSource ssrc) next := by
  obtain ⟨hBuilding, hChecked, rfl⟩ := addSDESSource_eq_ok hOk
  by_cases hFirst : pb.sdessources = []
  · have hNone : SDES.neededBytes pb.sdessources = 0 := by rw [hFirst]; rfl
    have hExtra : SDES.neededBytesWithExtraSource pb.sdessources = 0 := by rw [hFirst]; rfl
    have hAll : pb.neededBytes =
        pb.appsize + pb.byesize + pb.report.neededBytes + SDES.neededBytes pb.sdessources := rfl
    have hSum : neededBytes { pb with sdessources := SDES.addSSRC pb.sdessources ssrc } =
        pb.neededBytes + 12 := by
      rw [neededBytes, hFirst, SDES.neededBytes_first]
      dsimp only
      omega
    have hOver := hSized.needed
    refine ⟨⟨hSized.unstarted, ?_, hSized.unbuilt, ?_, hSized.built⟩, fun hFits => ?_⟩
    · intro hIdle
      exact absurd (hIdle.symm.trans hBuilding) Bool.false_ne_true
    · rw [hSum]
      dsimp only
      omega
    · rw [Fits, hSum]
      exact ⟨fun h _ _ => h.1, fun h => ⟨h hBuilding hFirst, hFits.2⟩⟩
  · refine grows_of_checked hSized (fun _ h => absurd h hFirst) hBuilding rfl rfl rfl
      hSized.unstarted ?_
    rw [neededBytes, SDES.neededBytes_extraSource hFirst]
    dsimp only
    omega

theorem grows_addSDESItem {item : Except RTCPError SDESItem} (hSized : Sized pb)
    (hRoom : RoomForSource pb call) (hOk : pb.addSDESItem item = .ok next) :
    Grows pb call next := by
  obtain ⟨hBuilding, hSome, made, -, hChecked, rfl⟩ := addSDESItem_eq_ok hOk
  refine grows_of_checked hSized hRoom hBuilding rfl rfl rfl hSized.unstarted ?_
  rw [neededBytes, SDES.neededBytes_extraItem hSome]
  dsimp only
  omega

theorem grows_addBYEPacket {ssrcs : List (BitVec 32)} {reason : Text} (hSized : Sized pb)
    (hRoom : RoomForSource pb call) (hOk : pb.addBYEPacket ssrcs reason = .ok next) :
    Grows pb call next := by
  obtain ⟨hBuilding, -, hChecked, rfl⟩ := addBYEPacket_eq_ok hOk
  refine grows_of_checked hSized hRoom hBuilding rfl rfl rfl hSized.unstarted ?_
  rw [neededBytes] at hChecked ⊢
  dsimp only
  omega

theorem grows_addAPPPacket {subtype : Nat} {ssrc : BitVec 32} {name : Fin 4 → Byte}
    {appdata : List Byte} (hSized : Sized pb) (hRoom : RoomForSource pb call)
    (hOk : pb.addAPPPacket subtype ssrc name appdata = .ok next) : Grows pb call next := by
  obtain ⟨hBuilding, -, hChecked, rfl⟩ := addAPPPacket_eq_ok hOk
  refine grows_of_checked hSized hRoom hBuilding rfl rfl rfl hSized.unstarted ?_
  rw [neededBytes] at hChecked ⊢
  dsimp only
  omega

theorem grows_endBuild (hSized : Sized pb) (hRoom : RoomForSource pb call)
    (hOk : pb.endBuild = .ok next) : Grows pb call next := by
  obtain ⟨-, hStarted, rfl⟩ := endBuild_eq_ok hOk
  have hOver := hSized.needed
  rw [if_neg hStarted] at hOver
  exact ⟨⟨fun _ => rfl, fun _ => rfl, fun h => absurd h (Option.some_ne_none _), Nat.zero_le _, hOver⟩,
    fun hFits => iff_of_true ⟨Nat.zero_le _, hFits.1⟩ hRoom⟩

theorem grows_of_apply (hSized : Sized pb) (hOk : pb.apply abi call = .ok next) :
    Grows pb call next := by
  cases call with
  | initBuild external maxpacketsize => exact grows_initBuild hSized hOk
  | startSenderReport senderssrc info =>
      have hHeader : (htonl senderssrc ++ info.bytes).length = 24 := by
        rw [List.length_append, htonl_length, info.bytes_length]
      exact grows_startReport hSized trivial (by omega) hHeader.le hOk
  | startReceiverReport senderssrc =>
      have hHeader := htonl_length senderssrc
      exact grows_startReport hSized trivial (by omega) (by omega) hOk
  | addReportBlock => exact grows_addReportBlock hSized trivial hOk
  | addSDESSource ssrc => exact grows_addSDESSource hSized hOk
  | addSDESNormalItem t itemdata => exact grows_addSDESItem hSized trivial hOk
  | addSDESPrivateItem prefixdata valuedata => exact grows_addSDESItem hSized trivial hOk
  | addBYEPacket ssrcs reason => exact grows_addBYEPacket hSized trivial hOk
  | addAPPPacket subtype ssrc name appdata => exact grows_addAPPPacket hSized trivial hOk
  | endBuild => exact grows_endBuild hSized trivial hOk

/-- A call that fails found no room, or nothing to add to. -/
theorem roomForSource_of_error {e : RTCPError} (hFits : Fits pb)
    (hError : pb.apply abi call = .error e) : RoomForSource pb call := by
  cases call with
  | addSDESSource ssrc =>
      intro hBuilding hFirst
      have hNone : SDES.neededBytes pb.sdessources = 0 := by rw [hFirst]; rfl
      have hExtra : SDES.neededBytesWithExtraSource pb.sdessources = 0 := by rw [hFirst]; rfl
      have hFit := hFits.1
      rw [neededBytes] at hFit
      rw [apply, addSDESSource, if_neg (not_not.mpr hBuilding), if_neg (by omega)] at hError
      cases hError
  | _ => trivial

/-- What one call does, whether it succeeds or not. -/
theorem grows_of_step (hSized : Sized pb) (hStep : step abi pb call = some next) :
    Grows pb call next := by
  rw [step, Option.some.injEq] at hStep
  cases hOk : pb.apply abi call with
  | ok after =>
      rw [hOk] at hStep
      exact hStep ▸ grows_of_apply hSized hOk
  | error e =>
      rw [hOk] at hStep
      exact hStep ▸ ⟨hSized, fun hFits => iff_of_true hFits (roomForSource_of_error hFits hOk)⟩

/-- Whatever is called, no compound packet is larger than the maximum by more than 40 bytes; and
in a run of calls the maximum is kept to exactly when each first source was added with room for
it. -/
theorem always_fits_iff (abi : Abi) (calls : List Call) :
    Transition.Always (step abi) (fun pb =>
        pb.compoundpacketlength ≤ pb.maximumpacketsize + 40) new calls ∧
      (Transition.Always (step abi) Fits new calls ↔
        Transition.Meets (step abi) RoomForSource new calls) := by
  have hSized : Transition.Always (step abi) Sized new calls :=
    Transition.always_of_meets (fun _ _ _ hSized _ hStep => (grows_of_step hSized hStep).1)
      sized_new (Transition.meets_of_forall_mem fun _ _ _ => trivial)
  refine ⟨hSized.imp fun pb h => h.built, ?_⟩
  exact Transition.always_iff_meets Sized
    (fun _ _ _ hSized hStep => (grows_of_step hSized hStep).1)
    (fun _ _ _ hSized hFits hStep => (grows_of_step hSized hStep).2 hFits) sized_new
    ⟨Nat.le_refl _, Nat.le_refl _⟩ calls

end RTCPCompoundPacketBuilder

end AudioSync.Rtcp
