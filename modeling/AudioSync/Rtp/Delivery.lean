import AudioSync.Rtp.PacketQueue
import AudioSync.Rtp.Sending

/-! From one session to another over a network that loses, repeats and reorders datagrams: which
packets are numbered rightly, and what `GetNextPacket` hands out. -/
namespace AudioSync.Rtp

open Transition ReorderBuffer

namespace RTPInternalSourceData

/-- The packet that arrives is given its own number. -/
def OwnNumber (sent : Nat → RTPPacket) (dat : RTPInternalSourceData) : Event → Prop
  | .receive number => (dat.judge (sent number)).2.extseqnr.toNat = number
  | _ => True

/-- The packet that arrives is not too far from the others. -/
def InStep (dat : RTPInternalSourceData) : Event → Prop
  | .receive number => dat.stats.InStep dat.applyprobation number
  | _ => True

instance (dat : RTPInternalSourceData) : (event : Event) → Decidable (dat.InStep event)
  | .receive _ => inferInstanceAs (Decidable (RTPSourceStats.InStep _ _ _))
  | .validate => .isTrue trivial
  | .getNextPacket => .isTrue trivial

/-- The numbers go on rightly from here. -/
structure Regular (dat : RTPInternalSourceData) : Prop where
  stats : dat.stats.Regular
  room : dat.stats.HasRoom

theorem regular_new (probationtype : ProbationType) : (new probationtype).Regular :=
  ⟨RTPSourceStats.regular_new, fun hSent => nomatch hSent⟩

section Numbers

variable {datagram : Nat → RTPRawPacket} {sent : Nat → RTPPacket}
variable {dat next : RTPInternalSourceData} {event : Event}

theorem processRTPPacket_stats (dat : RTPInternalSourceData) (rtppack : RTPPacket) :
    (dat.processRTPPacket rtppack).stats = (dat.judge rtppack).1 := by
  unfold processRTPPacket
  dsimp only
  split_ifs <;> rfl

theorem getNextPacket_stats {pack : QueuedPacket} (hNext : dat.getNextPacket = some (pack, next)) :
    next.stats = dat.stats := by
  unfold getNextPacket at hNext
  split_ifs at hNext
  cases hList : dat.packetlist with
  | nil => simp [hList] at hNext
  | cons p packetlist =>
      rw [hList] at hNext
      cases hNext
      rfl

/-- In a regular state it is one and the same to be in step and to get the own number, and the
next state is regular then. -/
theorem Regular.step (h : dat.Regular)
    (hBrings : ∀ number, event = .receive number → Brings datagram sent number)
    (hStep : step datagram dat event = some next) :
    (dat.OwnNumber sent event ↔ dat.InStep event) ∧ (dat.InStep event → next.Regular) := by
  cases event with
  | receive number =>
      obtain ⟨hParsed, hNumbered, hFew⟩ := hBrings number rfl
      cases hStep
      have hJudge : dat.judge (sent number) =
          dat.stats.processPacket (BitVec.ofNat 16 number) dat.applyprobation := by
        rw [judge, hNumbered]
      have hStats : (dat.processRawPacket (datagram number)).stats =
          (dat.stats.processPacket (BitVec.ofNat 16 number) dat.applyprobation).1 := by
        rw [processRawPacket, hParsed, Option.elim_some, processRTPPacket_stats, hJudge]
      refine ⟨?_, fun hInStep => ⟨?_, ?_⟩⟩
      · rw [OwnNumber, hJudge]
        exact RTPSourceStats.processPacket_eq_iff h.stats h.room
      · rw [hStats]
        exact h.stats.processPacket
      · rw [hStats]
        exact RTPSourceStats.HasRoom.processPacket h.stats h.room hFew hInStep
  | validate =>
      cases hStep
      exact ⟨Iff.rfl, fun _ => ⟨h.stats, h.room⟩⟩
  | getNextPacket =>
      cases hStep
      refine ⟨Iff.rfl, fun _ => ?_⟩
      cases hTaken : dat.getNextPacket with
      | none => exact h
      | some taken =>
          have hSame : taken.2.stats = dat.stats := getNextPacket_stats hTaken
          refine ⟨?_, ?_⟩
          · show taken.2.stats.Regular
            rw [hSame]
            exact h.stats
          · show taken.2.stats.HasRoom
            rw [hSame]
            exact h.room

/-- Events whose packets are those that were sent. -/
theorem meets_brings {events : List Event}
    (hBrings : ∀ number, .receive number ∈ events → Brings datagram sent number)
    (dat : RTPInternalSourceData) :
    Meets (step datagram) (fun _ event =>
      ∀ number, event = .receive number → Brings datagram sent number) dat events := by
  refine meets_of_forall_mem fun event hMem _ number hEvent => ?_
  exact hBrings number (hEvent ▸ hMem)

/-- In every run the packets get their own numbers exactly when each of them arrives in step with
those before. -/
theorem numbers_iff_inStep {events : List Event} (probationtype : ProbationType)
    (hBrings : ∀ number, .receive number ∈ events → Brings datagram sent number) :
    Meets (step datagram) (OwnNumber sent) (new probationtype) events ↔
      Meets (step datagram) InStep (new probationtype) events := by
  have hEvents := meets_brings hBrings (new probationtype)
  constructor
  · intro hMeets
    refine meets_of_inv (p := Regular) ?_ (regular_new probationtype) (hEvents.and hMeets)
    rintro dat event next hRegular ⟨hEvent, hOwn⟩ hStep
    obtain ⟨hIff, hNext⟩ := hRegular.step hEvent hStep
    exact ⟨hIff.mp hOwn, hNext (hIff.mp hOwn)⟩
  · intro hMeets
    refine meets_of_inv (p := Regular) ?_ (regular_new probationtype) (hEvents.and hMeets)
    rintro dat event next hRegular ⟨hEvent, hInStep⟩ hStep
    obtain ⟨hIff, hNext⟩ := hRegular.step hEvent hStep
    exact ⟨hIff.mpr hInStep, hNext hInStep⟩

/-- After the wraparound the first two packets come in the wrong order. -/
def overWraparound : List Event := [.validate, .receive 65535, .receive 65537, .receive 65536]

/-- A packet that comes late over the wraparound. -/
def lateOverWraparound : List Event := [.validate, .receive 65535, .receive 65536, .receive 65534]

theorem numbers_iff_inStep_overWraparound :
    Meets (step countingDatagram) (OwnNumber fun number =>
        wrappingSession.packetOf countingRequests (number - 65534))
      (new .probationStore) overWraparound ∧
    ¬ Meets (step countingDatagram) (OwnNumber fun number =>
        wrappingSession.packetOf countingRequests (number - 65534))
      (new .probationStore) lateOverWraparound := by
  have hFirst : wrappingSession.packetbuilder.seqnr.toNat = 65534 := rfl
  have hBrings {number : Nat} (hLow : 65534 ≤ number) (hHigh : number < 65535 * 65536) :
      Brings countingDatagram
        (fun number => wrappingSession.packetOf countingRequests (number - 65534)) number :=
    brings_of_carries wrappingSession_ready (by decide) countingRequests_type
      countingRequests_fits carries_countingDatagram hLow hHigh
  have hOver : ∀ number, Event.receive number ∈ overWraparound → Brings countingDatagram
      (fun number => wrappingSession.packetOf countingRequests (number - 65534)) number := by
    intro number hMem
    simp only [overWraparound, List.mem_cons, Event.receive.injEq, reduceCtorEq,
      List.not_mem_nil, or_false, false_or] at hMem
    exact hBrings (by omega) (by omega)
  have hLate : ∀ number, Event.receive number ∈ lateOverWraparound → Brings countingDatagram
      (fun number => wrappingSession.packetOf countingRequests (number - 65534)) number := by
    intro number hMem
    simp only [lateOverWraparound, List.mem_cons, Event.receive.injEq, reduceCtorEq,
      List.not_mem_nil, or_false, false_or] at hMem
    exact hBrings (by omega) (by omega)
  rw [numbers_iff_inStep .probationStore hOver, numbers_iff_inStep .probationStore hLate]
  decide +kernel

end Numbers

section Handing

variable {datagram : Nat → RTPRawPacket} {sent : Nat → RTPPacket}
variable {dat next : RTPInternalSourceData} {event : Event}

/-- Every packet in the list is the one that was sent with its number. -/
def Holds (sent : Nat → RTPPacket) (dat : RTPInternalSourceData) : Prop :=
  ∀ pack ∈ dat.packetlist, pack.packet = sent pack.number

theorem mem_place {pack p : QueuedPacket} (hMem : p ∈ (dat.place pack).packetlist) :
    p = pack ∨ p ∈ dat.packetlist := by
  have hList : (dat.place pack).packetlist =
      if dat.packetlist = [] then [pack]
      else insertList QueuedPacket.number pack dat.makeRoom := rfl
  rw [hList] at hMem
  split_ifs at hMem
  · exact Or.inl (List.mem_singleton.mp hMem)
  · refine (mem_insertList hMem).imp_right fun hOld => ?_
    unfold makeRoom at hOld
    split_ifs at hOld
    · exact List.mem_of_mem_tail hOld
    · exact hOld

theorem Holds.processRTPPacket (h : dat.Holds sent) {number : Nat}
    (hOwn : (dat.judge (sent number)).2.extseqnr.toNat = number) :
    (dat.processRTPPacket (sent number)).Holds sent := by
  unfold RTPInternalSourceData.processRTPPacket
  dsimp only
  split_ifs
  · intro p hMem
    rcases mem_place hMem with rfl | hOld
    · rw [QueuedPacket.number, hOwn]
    · exact h p hOld
  · exact h

/-- A step hands out the packet that was sent with the number it takes from the buffer. -/
theorem Holds.step (h : dat.Holds sent)
    (hBrings : ∀ number, event = .receive number → Brings datagram sent number)
    (hOwn : dat.OwnNumber sent event)
    (hStep : RTPInternalSourceData.step datagram dat event = some next) :
    (dat.delivered event).toList = (taken (dat.label datagram event).toList).map sent ∧
      next.Holds sent := by
  cases event with
  | receive number =>
      cases hStep
      have hParsed := (hBrings number rfl).parsed
      rw [label, processRawPacket, hParsed, Option.bind_some, Option.elim_some]
      refine ⟨?_, h.processRTPPacket hOwn⟩
      unfold queueing
      dsimp only
      split_ifs
      · cases dat.packetlist <;> rfl
      · rfl
      · rfl
  | validate =>
      cases hStep
      exact ⟨rfl, h⟩
  | getNextPacket =>
      cases hStep
      rw [delivered, label]
      unfold RTPInternalSourceData.getNextPacket
      split_ifs with hValid
      · exact ⟨rfl, h⟩
      · cases hList : dat.packetlist with
        | nil => exact ⟨rfl, h⟩
        | cons p packetlist =>
            have hFirst := h p (by rw [hList]; exact List.mem_cons_self ..)
            refine ⟨congrArg (fun packet => [packet]) hFirst, fun pack hMem => ?_⟩
            exact h pack (by rw [hList]; exact List.mem_cons_of_mem p hMem)

theorem Holds.run {events : List Event} (h : dat.Holds sent)
    (hBrings : ∀ number, .receive number ∈ events → Brings datagram sent number)
    (hOwn : Meets (RTPInternalSourceData.step datagram) (OwnNumber sent) dat events)
    (hRun : Transition.run (RTPInternalSourceData.step datagram) dat events = some next) :
    labels (RTPInternalSourceData.step datagram) delivered dat events =
        (taken (labels (RTPInternalSourceData.step datagram) (label datagram) dat events)).map
          sent ∧
      next.Holds sent := by
  induction events generalizing dat with
  | nil =>
      cases hRun
      exact ⟨rfl, h⟩
  | cons event events ih =>
      obtain ⟨middle, hFirst, hRest⟩ := run_cons_eq_some.mp hRun
      obtain ⟨hOwnFirst, hOwnRest⟩ := hOwn middle hFirst
      have hEvent : ∀ number, event = .receive number → Brings datagram sent number := by
        rintro number rfl
        exact hBrings number (List.mem_cons_self ..)
      obtain ⟨hHanded, hMiddle⟩ := h.step hEvent hOwnFirst hFirst
      obtain ⟨hLater, hNext⟩ := ih hMiddle
        (fun number hMem => hBrings number (List.mem_cons_of_mem event hMem)) hOwnRest hRest
      refine ⟨?_, hNext⟩
      rw [labels, labels, hFirst, Option.map_some, Option.map_some, Option.getD_some,
        Option.getD_some, taken_append, List.map_append, hHanded, hLater]

end Handing

section Arrivals

variable {datagram : Nat → RTPRawPacket} {sent : Nat → RTPPacket}
variable {dat next : RTPInternalSourceData} {event : Event}

/-- The numbers of the datagrams that the network delivers, in this order. -/
def received (events : List Event) : List Nat :=
  events.filterMap fun event =>
    match event with
    | .receive number => some number
    | _ => none

/-- The session's probation keeps every packet. -/
theorem keeps_judge (hStore : dat.probationtype = .probationStore) (rtppack : RTPPacket) :
    dat.keeps (dat.judge rtppack).2 = true := by
  rw [keeps, hStore]
  rcases RTPSourceStats.processPacket_cases dat.stats rtppack.sequenceNumber dat.applyprobation with
    ⟨-, counted, -, -, -, hResult⟩ | ⟨-, before, -, hResult⟩ | ⟨-, next, -, -, hResult⟩ <;>
    rw [judge, hResult] <;> rfl

theorem arrived_queueing (hStore : dat.probationtype = .probationStore) (rtppack : RTPPacket) :
    arrived (dat.queueing rtppack).toList = [(dat.judge rtppack).2.extseqnr.toNat] := by
  unfold queueing
  dsimp only
  rw [if_pos (keeps_judge hStore rtppack)]
  split_ifs with hFull
  · cases hList : dat.packetlist with
    | nil =>
        rw [hList] at hFull
        exact absurd hFull.2 (by decide)
    | cons p packetlist => rfl
  · rfl

theorem probationtype_step (hStep : step datagram dat event = some next) :
    next.probationtype = dat.probationtype := by
  cases event with
  | receive number =>
      cases hStep
      rw [processRawPacket]
      cases RTPPacket.parseRawPacket (datagram number) with
      | none => rfl
      | some rtppack =>
          rw [Option.elim_some]
          unfold RTPInternalSourceData.processRTPPacket
          dsimp only
          split_ifs <;> rfl
  | validate =>
      cases hStep
      rfl
  | getNextPacket =>
      cases hStep
      unfold RTPInternalSourceData.getNextPacket
      split_ifs
      · rfl
      · cases dat.packetlist <;> rfl

/-- Whatever the network delivers arrives in the buffer. -/
theorem arrived_labels {events : List Event} (hStore : dat.probationtype = .probationStore)
    (hBrings : ∀ number, .receive number ∈ events → Brings datagram sent number)
    (hOwn : Meets (step datagram) (OwnNumber sent) dat events)
    (hRun : run (step datagram) dat events = some next) :
    arrived (labels (step datagram) (label datagram) dat events) = received events := by
  induction events generalizing dat with
  | nil => rfl
  | cons event events ih =>
      obtain ⟨middle, hFirst, hRest⟩ := run_cons_eq_some.mp hRun
      obtain ⟨hOwnFirst, hOwnRest⟩ := hOwn middle hFirst
      have hLater := ih ((probationtype_step hFirst).trans hStore)
        (fun number hMem => hBrings number (List.mem_cons_of_mem event hMem)) hOwnRest hRest
      rw [labels, hFirst, Option.map_some, Option.getD_some, arrived_append, hLater]
      cases event with
      | receive number =>
          have hParsed := (hBrings number (List.mem_cons_self ..)).parsed
          have hNumber : (dat.judge (sent number)).2.extseqnr.toNat = number := hOwnFirst
          rw [label, hParsed, Option.bind_some, arrived_queueing hStore, hNumber]
          rfl
      | validate => rfl
      | getNextPacket =>
          rw [label]
          cases dat.getNextPacket <;> rfl

end Arrivals

end RTPInternalSourceData

open RTPInternalSourceData

section Session

variable {session : RTPSession} {maxpacksize : Nat} {requests : Nat → PacketRequest}
variable {datagram : Nat → RTPRawPacket}

/-- Packets that one session sends and another one polls. What is handed out is what was sent,
byte for byte, under the number it was sent with; all that the network delivers is handed out,
or still there, unless a source on probation had too many packets; and where nothing arrives
after it or a later packet was handed out, the packets are handed out once and in order. -/
theorem delivered_of_sent (hReady : session.Ready maxpacksize)
    (hMax : maxpacksize ≤ RTPUDPV4TRANS_MAXPACKSIZE)
    (hType : ∀ i, RTPPacket.ValidPayloadType (requests i).payloadType)
    (hFits : ∀ i, (requests i).packetLength ≤ maxpacksize)
    (hCarries : Carries session requests datagram) {events : List Event}
    (hSent : ∀ number, .receive number ∈ events →
      session.packetbuilder.seqnr.toNat ≤ number ∧ number < 65535 * 65536)
    (hInStep : Meets (step datagram) InStep (new .probationStore) events)
    {dat : RTPInternalSourceData}
    (hRun : run (step datagram) (new .probationStore) events = some dat) :
    let buffer := labels (step datagram) (label datagram) (new .probationStore) events
    labels (step datagram) delivered (new .probationStore) events =
        (taken buffer).map (fun number =>
          session.packetOf requests (number - session.packetbuilder.seqnr.toNat)) ∧
      (∀ number, (∃ pack ∈ dat.packetlist, pack.number = number) ∨ number ∈ taken buffer ∨
        number ∈ replaced buffer ↔ number ∈ received events) ∧
      (InTime [] buffer → (taken buffer).Pairwise (· < ·)) := by
  have hBrings : ∀ number, .receive number ∈ events → Brings datagram
      (fun number => session.packetOf requests (number - session.packetbuilder.seqnr.toNat))
      number := by
    intro number hMem
    obtain ⟨hFirst, hFew⟩ := hSent number hMem
    exact brings_of_carries hReady hMax hType hFits hCarries hFirst hFew
  have hOwn := (numbers_iff_inStep .probationStore hBrings).mpr hInStep
  obtain ⟨held, hBuffer, hBuffers⟩ := buffers_of_run hRun
  have hEmpty : (new .probationStore).Holds
      (fun number => session.packetOf requests (number - session.packetbuilder.seqnr.toNat)) :=
    fun pack hMem => nomatch hMem
  refine ⟨(hEmpty.run hBrings hOwn hRun).1, fun number => ?_, fun hInTime => ?_⟩
  · have hMem := mem_run_iff hBuffer number
    rw [arrived_labels rfl hBrings hOwn hRun, ← hBuffers.keys, mem_keys] at hMem
    rw [hMem]
    exact ⟨fun h => h.resolve_left (Finset.notMem_empty number), Or.inr⟩
  · exact taken_increasing hBuffer hInTime List.Pairwise.nil (fun i hi => nomatch hi)

/-- The fourth packet comes after the fifth, and twice. -/
def disorder : List Event :=
  [.receive 65534, .receive 65535, .receive 65536, .receive 65538, .receive 65537, .receive 65537,
    .getNextPacket, .getNextPacket, .getNextPacket, .getNextPacket, .getNextPacket, .getNextPacket]

theorem delivered_of_sent_disorder :
    labels (step countingDatagram) delivered (new .probationStore) disorder =
      [65534, 65535, 65536, 65537, 65538].map fun number =>
        wrappingSession.packetOf countingRequests (number - 65534) := by
  have hRuns : (run (step countingDatagram) (new .probationStore) disorder).isSome := by
    decide +kernel
  obtain ⟨dat, hRun⟩ := Option.isSome_iff_exists.mp hRuns
  have hSent : ∀ number, Event.receive number ∈ disorder →
      wrappingSession.packetbuilder.seqnr.toNat ≤ number ∧ number < 65535 * 65536 := by
    intro number hMem
    have hFirst : wrappingSession.packetbuilder.seqnr.toNat = 65534 := rfl
    simp only [disorder, List.mem_cons, Event.receive.injEq, reduceCtorEq, List.not_mem_nil,
      or_false] at hMem
    omega
  have hInStep : Meets (step countingDatagram) InStep (new .probationStore) disorder := by
    decide +kernel
  have hTaken : taken (labels (step countingDatagram) (label countingDatagram)
      (new .probationStore) disorder) = [65534, 65535, 65536, 65537, 65538] := by
    decide +kernel
  have hDelivered := delivered_of_sent wrappingSession_ready (by decide) countingRequests_type
    countingRequests_fits carries_countingDatagram hSent hInStep hRun
  rw [hDelivered.1, hTaken]
  rfl

end Session

end AudioSync.Rtp
