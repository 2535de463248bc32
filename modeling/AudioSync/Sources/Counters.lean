import AudioSync.Sources.SourceTable

/-! The counters of `RTPSources` against the sources in its list. -/
namespace AudioSync.Sources.RTPSources

open Rtp (RTPPacket RTPRawPacket RTPInternalSourceData ProbationType)

/-- Whether a CSRC entry validates a source that was known but not validated. -/
def misses (senderaddress : RTPAddress) (sources : RTPSources) (csrc : BitVec 32) : Nat :=
  match sources.find csrc with
  | none => 0
  | some csrcdat =>
      match csrcdat.checkCollision senderaddress true with
      | none => 0
      | some csrcdat => becomes SourceData.isActive csrcdat csrcdat.setCSRC

/-- The same for a list of entries, one after the other. -/
def missesOfList (senderaddress : RTPAddress) (sources : RTPSources) : List (BitVec 32) → Nat
  | [] => 0
  | csrc :: csrcs => sources.misses senderaddress csrc +
      missesOfList senderaddress (sources.processCSRC senderaddress csrc) csrcs

/-- The same for a packet, whose list counts when its source is valid. -/
def missesOfPacket (sources : RTPSources) (rtppack : RTPPacket) (receivetime : RTPTime)
    (senderaddress : RTPAddress) : Nat :=
  match sources.getSourceData senderaddress rtppack.ssrc true with
  | (_, none) => 0
  | (sources, some (srcdat, created)) =>
      let processed := srcdat.processRTPPacket rtppack receivetime
      if processed.validated then
        missesOfList senderaddress ((sources.countPacket srcdat processed).announce created
          processed) rtppack.csrcs
      else 0

/-- The sources that became active without being counted, since the sources were counted anew. -/
def uncounted (sources : RTPSources) (before : Nat) : Input → Nat
  | .rawPacket rawpack receivetime senderaddress =>
      before + if rawpack.isRTP then
        (RTPPacket.parseRawPacket rawpack).elim 0 fun rtppack =>
          missesOfPacket { sources with owncollision := false } rtppack receivetime senderaddress
      else 0
  | .multipleTimeouts .. => 0
  | _ => before

/-- The sources that are active and not counted, after all that has happened. -/
def uncountedOfRun (sources : RTPSources) (before : Nat) : List Input → Nat
  | [] => before
  | input :: inputs => (sources.step input).elim before fun next =>
      next.uncountedOfRun (sources.uncounted before input) inputs

/-- The counters are right but for a number of active sources. -/
structure Counted (sources : RTPSources) (missed : Nat) : Prop where
  nodup : (sources.sourcelist.map SourceData.ssrc).Nodup
  total : sources.totalcount = sources.sourcelist.length
  sender : sources.sendercount = sources.sourcelist.countP fun srcdat => srcdat.issender
  active : sources.activecount + missed = sources.sourcelist.countP SourceData.isActive

section Changes

variable {sources : RTPSources} {missed : Nat} {srcdat changed : SourceData}

/-- A source changes, and the counters with it. -/
theorem Counted.put (h : sources.Counted missed) (hFind : sources.find changed.ssrc = some srcdat)
    {sendercount activecount : Int} {missed' : Nat}
    (hSender : sendercount + srcdat.issender.toNat =
      sources.sendercount + changed.issender.toNat)
    (hActive : activecount + missed' + srcdat.isActive.toNat =
      sources.activecount + missed + changed.isActive.toNat) :
    Counted { sources.put changed with
      sendercount := sendercount, activecount := activecount } missed' where
  nodup := by
    rw [RTPSources.put, KeyedList.map_key_replace]
    exact h.nodup
  total := by
    rw [RTPSources.put, KeyedList.length_replace]
    exact h.total
  sender := by
    have hCount := KeyedList.countP_replace h.nodup hFind fun srcdat => srcdat.issender
    have hBefore := h.sender
    show sendercount = ((KeyedList.replace SourceData.ssrc changed sources.sourcelist).countP
      fun srcdat => srcdat.issender : Nat)
    omega
  active := by
    have hCount := KeyedList.countP_replace h.nodup hFind SourceData.isActive
    have hBefore := h.active
    show activecount + missed' = ((KeyedList.replace SourceData.ssrc changed
      sources.sourcelist).countP SourceData.isActive : Nat)
    omega

/-- A source that was not known is added. -/
theorem Counted.add (h : sources.Counted missed) (hNone : sources.find srcdat.ssrc = none)
    (hSender : srcdat.issender = false) {activecount : Int}
    (hActive : activecount = sources.activecount + srcdat.isActive.toNat) :
    Counted { sources.add srcdat with activecount := activecount } missed where
  nodup := KeyedList.nodup_append h.nodup hNone
  total := by
    have hBefore := h.total
    show sources.totalcount + 1 = ((sources.sourcelist ++ [srcdat]).length : Nat)
    rw [List.length_append, List.length_singleton]
    omega
  sender := by
    have hBefore := h.sender
    show sources.sendercount = ((sources.sourcelist ++ [srcdat]).countP
      fun srcdat => srcdat.issender : Nat)
    rw [List.countP_append, KeyedList.countP_cons_toNat, hSender]
    exact hBefore
  active := by
    have hBefore := h.active
    show activecount + missed = ((sources.sourcelist ++ [srcdat]).countP
      SourceData.isActive : Nat)
    rw [List.countP_append, KeyedList.countP_cons_toNat, List.countP_nil]
    omega

/-- A change that leaves the counters alone, and what they count. -/
theorem Counted.put_same (h : sources.Counted missed)
    (hFind : sources.find changed.ssrc = some srcdat) (hSender : changed.issender = srcdat.issender)
    (hActive : changed.isActive = srcdat.isActive) : (sources.put changed).Counted missed := by
  refine h.put hFind ?_ ?_
  · rw [hSender]
  · rw [hActive]

theorem find_put (hFind : sources.find changed.ssrc = some srcdat) :
    (sources.put changed).find changed.ssrc = some changed := by
  show KeyedList.find SourceData.ssrc changed.ssrc
    (KeyedList.replace SourceData.ssrc changed sources.sourcelist) = some changed
  rw [KeyedList.find_replace hFind, if_pos rfl]

theorem find_add (hNone : sources.find srcdat.ssrc = none) :
    (sources.add srcdat).find srcdat.ssrc = some srcdat := by
  show KeyedList.find SourceData.ssrc srcdat.ssrc (sources.sourcelist ++ [srcdat]) = some srcdat
  rw [KeyedList.find_append hNone, if_pos rfl]

/-- Callbacks leave the counters alone. -/
theorem Counted.notify (h : sources.Counted missed) (callbacks : List Callback) :
    (sources.notify callbacks).Counted missed := ⟨h.nodup, h.total, h.sender, h.active⟩

/-- So does the flag of a collision. -/
theorem Counted.clearFlag (h : sources.Counted missed) :
    Counted { sources with owncollision := false } missed := ⟨h.nodup, h.total, h.sender, h.active⟩

/-- The source that is processed is in the list as it is handed out. -/
theorem Counted.getSourceData (h : sources.Counted missed) (senderaddress : RTPAddress)
    (ssrc : BitVec 32) (isrtp : Bool) :
    (sources.getSourceData senderaddress ssrc isrtp).1.Counted missed ∧
      ∀ found ∈ (sources.getSourceData senderaddress ssrc isrtp).2,
        (sources.getSourceData senderaddress ssrc isrtp).1.find found.1.ssrc = some found.1 := by
  unfold RTPSources.getSourceData
  cases hFind : sources.find ssrc with
  | none =>
      refine ⟨h.add hFind rfl (add_zero _).symm, fun found hMem => ?_⟩
      obtain rfl := Option.some.inj hMem
      exact find_add hFind
  | some srcdat =>
      have hKey := KeyedList.key_of_find hFind
      dsimp only
      cases hCheck : srcdat.checkCollision senderaddress isrtp with
      | none => exact ⟨⟨h.nodup, h.total, h.sender, h.active⟩, fun other hMem => by cases hMem⟩
      | some checked =>
          obtain ⟨dat, -, rfl⟩ := Option.map_eq_some_iff.mp hCheck
          have hHere : sources.find (srcdat.withAddresses dat).ssrc = some srcdat := by
            rw [← hKey] at hFind
            exact hFind
          refine ⟨h.put_same hHere rfl rfl, fun other hMem => ?_⟩
          obtain rfl := Option.some.inj hMem
          exact find_put hHere

/-- What keeps the counters right for a source of the list keeps them right. -/
theorem Counted.withSource (h : sources.Counted missed) (senderaddress : RTPAddress)
    (ssrc : BitVec 32) (isrtp : Bool) {process : RTPSources → SourceData → Bool → RTPSources}
    (hProcess : ∀ next srcdat created, next.Counted missed →
      next.find srcdat.ssrc = some srcdat → (process next srcdat created).Counted missed) :
    (sources.withSource senderaddress ssrc isrtp process).Counted missed := by
  obtain ⟨hCounted, hFind⟩ := h.getSourceData senderaddress ssrc isrtp
  unfold RTPSources.withSource
  cases hResult : sources.getSourceData senderaddress ssrc isrtp with
  | mk next found =>
      rw [hResult] at hCounted hFind
      cases found with
      | none => exact hCounted
      | some found => exact hProcess next found.1 found.2 hCounted (hFind found rfl)

theorem toNat_becomes {flag : SourceData → Bool} {before after : SourceData}
    (hMono : flag before = true → flag after = true) :
    becomes flag before after + (flag before).toNat = (flag after).toNat := by
  unfold becomes
  cases hBefore : flag before with
  | false => cases flag after <;> rfl
  | true =>
      rw [hMono hBefore]
      rfl

end Changes

section Steps

variable {sources : RTPSources} {missed : Nat} (receivetime : RTPTime) (senderaddress : RTPAddress)

theorem Counted.updateReceiveTime (h : sources.Counted missed) (ssrc : BitVec 32) :
    (sources.updateReceiveTime ssrc receivetime senderaddress).Counted missed := by
  refine h.withSource senderaddress ssrc false fun next srcdat created hNext hFind => ?_
  have hHere : next.find (srcdat.updateMessageTime receivetime).ssrc = some srcdat := hFind
  exact (hNext.put_same hHere rfl rfl).notify _

theorem Counted.processSDESNormalItem (h : sources.Counted missed) (ssrc : BitVec 32)
    (item : Rtcp.SDESItem) :
    (sources.processSDESNormalItem ssrc item receivetime senderaddress).Counted missed := by
  refine h.withSource senderaddress ssrc false fun next srcdat created hNext hFind => ?_
  have hFrame : (srcdat.processSDESItem item receivetime).ssrc = srcdat.ssrc ∧
      (srcdat.processSDESItem item receivetime).issender = srcdat.issender ∧
      (srcdat.isActive = true → (srcdat.processSDESItem item receivetime).isActive = true) := by
    unfold SourceData.processSDESItem
    split_ifs
    · exact ⟨rfl, rfl, fun hActive => (Bool.and_eq_true_iff.mp hActive).2⟩
    all_goals exact ⟨rfl, rfl, id⟩
  obtain ⟨hKey, hSender, hActive⟩ := hFrame
  have hHere : next.find (srcdat.processSDESItem item receivetime).ssrc = some srcdat :=
    hKey ▸ hFind
  have hCount := toNat_becomes hActive
  refine (hNext.put hHere ?_ (by omega)).notify _
  rw [hSender]
  rfl

theorem Counted.processBYE (h : sources.Counted missed) (ssrc : BitVec 32) :
    (sources.processBYE receivetime senderaddress ssrc).Counted missed := by
  refine h.withSource senderaddress ssrc false fun next srcdat created hNext hFind => ?_
  have hHere : next.find (srcdat.processBYEPacket receivetime).ssrc = some srcdat := hFind
  dsimp only
  split_ifs with hOwn
  · exact hNext
  · have hLess : (srcdat.processBYEPacket receivetime).isActive = false := Bool.and_false _
    have hMono : (srcdat.processBYEPacket receivetime).isActive = true → srcdat.isActive = true :=
      fun hActive => absurd (hLess.symm.trans hActive) Bool.false_ne_true
    have hCount := toNat_becomes hMono
    exact ((hNext.put hHere rfl (by omega)).notify _).notify _

/-- What is done for each element of a list is done for the list, up to an error. -/
theorem left_foldlM {α : Type*} (keeps : RTPSources → Prop)
    {process : RTPSources → α → Except RTPSources RTPSources} {xs : List α}
    (hStep : ∀ sources, ∀ x ∈ xs, keeps sources → keeps (left (process sources x)))
    {sources : RTPSources} (h : keeps sources) : keeps (left (xs.foldlM process sources)) := by
  induction xs generalizing sources with
  | nil => exact h
  | cons x xs ih =>
      have hFirst := hStep sources x (List.mem_cons_self ..) h
      rw [List.foldlM_cons]
      cases hResult : process sources x with
      | error next =>
          rw [hResult] at hFirst
          exact hFirst
      | ok next =>
          rw [hResult] at hFirst
          exact ih (fun sources y hMem => hStep sources y (List.mem_cons_of_mem _ hMem)) hFirst

theorem foldl_keeps {α : Type*} (keeps : RTPSources → Prop) {process : RTPSources → α → RTPSources}
    (hStep : ∀ sources x, keeps sources → keeps (process sources x)) (xs : List α)
    {sources : RTPSources} (h : keeps sources) : keeps (xs.foldl process sources) := by
  induction xs generalizing sources with
  | nil => exact h
  | cons x xs ih => exact ih (hStep sources x h)

theorem Counted.processReport (h : sources.Counted missed) (senderssrc : BitVec 32)
    (blocks : List Rtcp.ReportBlock) :
    (sources.processReport senderssrc blocks receivetime senderaddress).Counted missed := by
  unfold RTPSources.processReport
  dsimp only
  split_ifs
  · exact h.updateReceiveTime receivetime senderaddress senderssrc
  · exact foldl_keeps (Counted · missed) (fun next _ hNext =>
      hNext.updateReceiveTime receivetime senderaddress senderssrc) _ h

theorem Counted.processChunk (h : sources.Counted missed) (chunk : Rtcp.SDESChunk) :
    (left (sources.processChunk receivetime senderaddress chunk)).Counted missed := by
  unfold RTPSources.processChunk
  split_ifs
  · exact h.updateReceiveTime receivetime senderaddress chunk.ssrc
  · refine left_foldlM (Counted · missed) (fun next item _ hNext => ?_) h
    unfold RTPSources.processSDESItem
    split_ifs
    · exact hNext.updateReceiveTime receivetime senderaddress chunk.ssrc
    · exact hNext
    · exact hNext.processSDESNormalItem receivetime senderaddress chunk.ssrc item

theorem Counted.processRTCPCompoundPacket (h : sources.Counted missed)
    (packets : List Rtcp.RTCPPacket) :
    (left (sources.processRTCPCompoundPacket packets receivetime senderaddress)).Counted
      missed := by
  refine left_foldlM (Counted · missed) (fun next packet _ hNext => ?_) h
  cases packet with
  | sr senderssrc info blocks =>
      exact (hNext.updateReceiveTime receivetime senderaddress senderssrc).processReport
        receivetime senderaddress senderssrc blocks
  | rr senderssrc blocks =>
      exact hNext.processReport receivetime senderaddress senderssrc blocks
  | sdes chunks =>
      exact left_foldlM (Counted · missed) (fun later chunk _ hLater =>
        hLater.processChunk receivetime senderaddress chunk) hNext
  | bye ssrcs reason =>
      exact foldl_keeps (Counted · missed) (fun later ssrc hLater =>
        hLater.processBYE receivetime senderaddress ssrc) ssrcs hNext
  | app subtype ssrc name appdata => exact hNext
  | unknown packettype => exact hNext

theorem Counted.processCSRC (h : sources.Counted missed) (csrc : BitVec 32) :
    (sources.processCSRC senderaddress csrc).Counted
      (missed + sources.misses senderaddress csrc) := by
  unfold RTPSources.processCSRC misses
  cases hFind : sources.find csrc with
  | none =>
      exact Counted.notify (h.add hFind rfl rfl) _
  | some csrcdat =>
      have hKey := KeyedList.key_of_find hFind
      dsimp only
      cases hCheck : csrcdat.checkCollision senderaddress true with
      | none => exact ⟨h.nodup, h.total, h.sender, h.active⟩
      | some checked =>
          obtain ⟨dat, -, rfl⟩ := Option.map_eq_some_iff.mp hCheck
          have hHere : sources.find (csrcdat.withAddresses dat).setCSRC.ssrc = some csrcdat := by
            rw [← hKey] at hFind
            exact hFind
          have hMono : (csrcdat.withAddresses dat).isActive = true →
              (csrcdat.withAddresses dat).setCSRC.isActive = true := fun hActive =>
            (Bool.and_eq_true_iff.mp hActive).2
          have hCount := toNat_becomes hMono
          have hBefore : (csrcdat.withAddresses dat).isActive.toNat = csrcdat.isActive.toNat := rfl
          dsimp only
          exact h.put hHere rfl (by omega)

theorem Counted.processCSRCs (csrcs : List (BitVec 32)) (h : sources.Counted missed) :
    (csrcs.foldl (RTPSources.processCSRC senderaddress) sources).Counted
      (missed + sources.missesOfList senderaddress csrcs) := by
  induction csrcs generalizing sources missed with
  | nil => exact h
  | cons csrc csrcs ih =>
      have hLater := ih (h.processCSRC senderaddress csrc)
      rw [Nat.add_assoc] at hLater
      exact hLater

theorem processRTPPacket_mono (dat : RTPInternalSourceData) (rtppack : RTPPacket) :
    (dat.issender = true → (dat.processRTPPacket rtppack).issender = true) ∧
      (dat.validated = true → (dat.processRTPPacket rtppack).validated = true) := by
  have hSender (h : dat.issender = true) : (dat.issender || ((dat.judged rtppack).validated &&
      !dat.ownssrc)) = true := by rw [h, Bool.true_or]
  have hValidated (h : dat.validated = true) : (dat.judged rtppack).validated = true := by
    rw [RTPInternalSourceData.judged, h, Bool.true_or]
  unfold RTPInternalSourceData.processRTPPacket
  dsimp only
  split_ifs
  · exact ⟨hSender, hValidated⟩
  · exact ⟨id, hValidated⟩

theorem Counted.countPacket (h : sources.Counted missed) {srcdat : SourceData}
    (hFind : sources.find srcdat.ssrc = some srcdat) (rtppack : RTPPacket) :
    (sources.countPacket srcdat (srcdat.processRTPPacket rtppack receivetime)).Counted missed := by
  obtain ⟨hSender, hValidated⟩ := processRTPPacket_mono srcdat.toRTPInternalSourceData rtppack
  have hHere : sources.find (srcdat.processRTPPacket rtppack receivetime).ssrc = some srcdat :=
    hFind
  have hActive : srcdat.isActive = true →
      (srcdat.processRTPPacket rtppack receivetime).isActive = true := by
    intro hBefore
    obtain ⟨hValid, hBye⟩ := Bool.and_eq_true_iff.mp hBefore
    exact Bool.and_eq_true_iff.mpr ⟨hValidated hValid, hBye⟩
  have hSenders : becomes (fun srcdat => srcdat.issender) srcdat
      (srcdat.processRTPPacket rtppack receivetime) + srcdat.issender.toNat =
        (srcdat.processRTPPacket rtppack receivetime).issender.toNat := toNat_becomes hSender
  have hActives := toNat_becomes hActive
  exact h.put hHere (by omega) (by omega)

theorem Counted.processRTPPacket (h : sources.Counted missed) (rtppack : RTPPacket) :
    (sources.processRTPPacket rtppack receivetime senderaddress).Counted
      (missed + sources.missesOfPacket rtppack receivetime senderaddress) := by
  obtain ⟨hCounted, hFind⟩ := h.getSourceData senderaddress rtppack.ssrc true
  unfold RTPSources.processRTPPacket RTPSources.withSource missesOfPacket
  cases hResult : sources.getSourceData senderaddress rtppack.ssrc true with
  | mk next found =>
      rw [hResult] at hCounted hFind
      cases found with
      | none => exact hCounted
      | some found =>
          have hPacket := (hCounted.countPacket receivetime (hFind found rfl) rtppack).notify
            (if found.2 then [.onNewSource (found.1.processRTPPacket rtppack receivetime).entry]
              else [])
          dsimp only
          split_ifs
          · exact hPacket.processCSRCs senderaddress rtppack.csrcs
          · exact hPacket

theorem Counted.sentRTPPacket (h : sources.Counted missed) (currenttime : RTPTime) :
    (sources.sentRTPPacket currenttime).Counted missed := by
  unfold RTPSources.sentRTPPacket
  cases hOwn : sources.owndata.bind sources.find with
  | none => exact h
  | some owndata =>
      obtain ⟨ssrc, -, hFind⟩ := Option.bind_eq_some_iff.mp hOwn
      have hFrame : (owndata.sentRTPPacket currenttime).ssrc = owndata.ssrc ∧
          (owndata.sentRTPPacket currenttime).isActive = owndata.isActive ∧
          (owndata.issender = true → (owndata.sentRTPPacket currenttime).issender = true) := by
        unfold SourceData.sentRTPPacket
        split_ifs
        · exact ⟨rfl, rfl, fun _ => rfl⟩
        · exact ⟨rfl, rfl, id⟩
      obtain ⟨hKey, hActive, hSender⟩ := hFrame
      have hHere : sources.find (owndata.sentRTPPacket currenttime).ssrc = some owndata := by
        rw [hKey, KeyedList.key_of_find hFind]
        exact hFind
      have hSenders : becomes (fun srcdat => srcdat.issender) owndata
          (owndata.sentRTPPacket currenttime) + owndata.issender.toNat =
            (owndata.sentRTPPacket currenttime).issender.toNat := toNat_becomes hSender
      refine h.put hHere (by omega) ?_
      rw [hActive]
      rfl

/-- A source that stays keeps its SSRC, and what matters for whom it is served. -/
theorem ssrc_checkSource (times : CheckTimes) (srcdat : SourceData) :
    ∀ kept ∈ checkSource times srcdat, kept.ssrc = srcdat.ssrc := by
  intro kept hKept
  rw [checkSource] at hKept
  split_ifs at hKept <;> cases hKept <;> rfl

theorem entry_checkSource (times : CheckTimes) (srcdat : SourceData) :
    ∀ kept ∈ checkSource times srcdat, kept.entry = srcdat.entry := by
  intro kept hKept
  rw [checkSource] at hKept
  split_ifs at hKept <;> cases hKept <;> rfl

theorem Counted.multipleTimeouts (h : sources.Counted missed)
    (curtime sendertimeout byetimeout generaltimeout notetimeout : RTPTime) :
    (sources.multipleTimeouts curtime sendertimeout byetimeout generaltimeout
      notetimeout).Counted 0 where
  nodup := by
    have hKeys : ((sources.multipleTimeouts curtime sendertimeout byetimeout generaltimeout
        notetimeout).sourcelist.map SourceData.ssrc).Sublist
          (sources.sourcelist.map SourceData.ssrc) := by
      exact KeyedList.map_key_filterMap_sublist (ssrc_checkSource _) _
    exact hKeys.nodup h.nodup
  total := rfl
  sender := rfl
  active := add_zero _

theorem Counted.createOwnSSRC (h : sources.Counted missed) {next : RTPSources} {ssrc : BitVec 32}
    (hCreate : sources.createOwnSSRC ssrc = some next) : next.Counted missed := by
  unfold RTPSources.createOwnSSRC at hCreate
  split_ifs at hCreate with hOwn hSome
  obtain rfl := Option.some.inj hCreate
  have hNone := Option.not_isSome_iff_eq_none.mp hSome
  have hAdded : Counted { sources.add (.own ssrc sources.probationtype) with
      activecount := sources.activecount + 1 } missed := h.add hNone rfl rfl
  exact ⟨hAdded.nodup, hAdded.total, hAdded.sender, hAdded.active⟩

theorem Counted.deleteOwnSSRC (h : sources.Counted missed) {next : RTPSources}
    (hDelete : sources.deleteOwnSSRC = some next) : next.Counted missed := by
  unfold RTPSources.deleteOwnSSRC at hDelete
  cases hOwn : sources.owndata with
  | none =>
      rw [hOwn] at hDelete
      cases hDelete
  | some ssrc =>
      rw [hOwn] at hDelete
      obtain ⟨owndata, hFind, rfl⟩ := Option.map_eq_some_iff.mp hDelete
      have hToNat (b : Bool) : (if b then 1 else 0 : Int) = b.toNat := by cases b <;> rfl
      have hTotal := KeyedList.countP_filter_ne h.nodup hFind fun _ => true
      have hSender := KeyedList.countP_filter_ne h.nodup hFind fun srcdat => srcdat.issender
      have hActive := KeyedList.countP_filter_ne h.nodup hFind SourceData.isActive
      rw [List.countP_true] at hTotal
      have hBefore := h.total
      have hSenders := h.sender
      have hActives := h.active
      refine Counted.notify ⟨(List.filter_sublist.map SourceData.ssrc).nodup h.nodup, ?_, ?_, ?_⟩ _
      · have hOne : true.toNat = 1 := rfl
        dsimp only
        omega
      · dsimp only
        rw [hToNat]
        omega
      · dsimp only
        rw [hToNat]
        omega

/-- What one step does to the counters. -/
theorem Counted.step (h : sources.Counted missed) {next : RTPSources} {input : Input}
    (hStep : sources.step input = some next) : next.Counted (sources.uncounted missed input) := by
  cases input with
  | rawPacket rawpack receivetime senderaddress =>
      obtain rfl := Option.some.inj hStep
      unfold processRawPacket uncounted
      dsimp only
      split_ifs
      · cases RTPPacket.parseRawPacket rawpack with
        | none => exact h.clearFlag
        | some rtppack => exact h.clearFlag.processRTPPacket receivetime senderaddress rtppack
      · cases Rtcp.RTCPCompoundPacket.rtcppacklist rawpack.bytes with
        | none => exact h.clearFlag
        | some packets =>
            exact h.clearFlag.processRTCPCompoundPacket receivetime senderaddress packets
  | sentRTPPacket currenttime =>
      obtain rfl := Option.some.inj hStep
      exact h.sentRTPPacket currenttime
  | multipleTimeouts curtime sendertimeout byetimeout generaltimeout notetimeout =>
      obtain rfl := Option.some.inj hStep
      exact h.multipleTimeouts curtime sendertimeout byetimeout generaltimeout notetimeout
  | changeOwnSSRC newssrc =>
      change sources.changeOwnSSRC newssrc = some next at hStep
      unfold changeOwnSSRC at hStep
      split_ifs at hStep
      obtain ⟨deleted, hDelete, hCreate⟩ := Option.bind_eq_some_iff.mp hStep
      exact (h.deleteOwnSSRC hDelete).clearFlag.createOwnSSRC hCreate

theorem Counted.run (h : sources.Counted missed) {next : RTPSources} {inputs : List Input}
    (hRun : Transition.run RTPSources.step sources inputs = some next) :
    next.Counted (sources.uncountedOfRun missed inputs) := by
  induction inputs generalizing sources missed with
  | nil =>
      obtain rfl := Option.some.inj hRun
      exact h
  | cons input inputs ih =>
      obtain ⟨middle, hFirst, hLater⟩ := Transition.run_cons_eq_some.mp hRun
      rw [uncountedOfRun, hFirst]
      exact ih (h.step hFirst) hLater

end Steps

/-- A receiver report, and then an RTP packet that names its sender as a contributing source. -/
def mixerInputs : List Input :=
  [.rawPacket ⟨false, fun i => ([128, 201, 0, 1, 0, 0, 0, 7] : List Byte).getD i 0, 8⟩
      ⟨10, 0⟩ ⟨1, 5005⟩,
    .rawPacket ⟨true, fun i => ([129, 0, 0, 1, 0, 0, 0, 0, 0, 0, 0, 9, 0, 0, 0, 7] :
      List Byte).getD i 0, 16⟩ ⟨11, 0⟩ ⟨1, 5004⟩]

def mixerSources : RTPSources :=
  (Transition.run step (create .noProbation 1) mixerInputs).getD (create .noProbation 1)

end AudioSync.Sources.RTPSources
