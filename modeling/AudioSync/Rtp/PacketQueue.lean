import AudioSync.Rtp.SourceStats
import AudioSync.Rtp.WireFormat
import AudioSync.Lib.ReorderBuffer

/-! `RTPInternalSourceData`: the packets of a source from the datagrams to `GetNextPacket`, and
what its probation is for. -/
namespace AudioSync.Rtp

open Transition ReorderBuffer

/-- `RTPSources::ProbationType`. -/
inductive ProbationType where
  | noProbation
  | probationDiscard
  | probationStore
  deriving DecidableEq, Repr

/-- `RTPINTERNALSOURCEDATA_MAXPROBATIONPACKETS`. -/
def MAXPROBATIONPACKETS : Nat := 32

/-- A packet in the list of its source, with its extended sequence number. -/
structure QueuedPacket where
  packet : RTPPacket
  extseqnr : BitVec 32

/-- What the packets are sorted by. -/
def QueuedPacket.number (pack : QueuedPacket) : Nat := pack.extseqnr.toNat

structure RTPInternalSourceData where
  stats : RTPSourceStats
  validated : Bool
  ownssrc : Bool
  issender : Bool
  probationtype : ProbationType
  packetlist : List QueuedPacket

namespace RTPInternalSourceData

/-- The constructor. -/
def new (probationtype : ProbationType) : RTPInternalSourceData :=
  ⟨RTPSourceStats.new, false, false, false, probationtype, []⟩

def applyprobation (dat : RTPInternalSourceData) : Bool :=
  !dat.validated && decide (dat.probationtype ≠ .noProbation)

/-- What `RTPSourceStats::ProcessPacket` makes of a packet. -/
def judge (dat : RTPInternalSourceData) (rtppack : RTPPacket) :
    RTPSourceStats × RTPSourceStats.Verdict :=
  dat.stats.processPacket rtppack.sequenceNumber dat.applyprobation

/-- The packets that leave the list of a source on probation, when it has as many as it may. -/
def makeRoom (dat : RTPInternalSourceData) : List QueuedPacket :=
  if dat.validated = false ∧ dat.packetlist.length = MAXPROBATIONPACKETS then
    dat.packetlist.tail
  else dat.packetlist

/-- The second half of `ProcessRTPPacket`, which puts the packet in its place. -/
def place (dat : RTPInternalSourceData) (pack : QueuedPacket) : RTPInternalSourceData :=
  { dat with
    issender := dat.issender || (dat.validated && !dat.ownssrc)
    packetlist :=
      if dat.packetlist = [] then [pack]
      else insertList QueuedPacket.number pack dat.makeRoom }

/-- Whether a packet with this verdict is put into the list. -/
def keeps (dat : RTPInternalSourceData) (verdict : RTPSourceStats.Verdict) : Bool :=
  match dat.probationtype with
  | .probationStore => verdict.onprobation || verdict.accept
  | _ => verdict.accept

/-- The source with the statistics after a packet; one that is accepted validates it. -/
def judged (dat : RTPInternalSourceData) (rtppack : RTPPacket) : RTPInternalSourceData :=
  { dat with
    stats := (dat.judge rtppack).1
    validated := dat.validated || (dat.judge rtppack).2.accept }

/-- `RTPInternalSourceData::ProcessRTPPacket`. -/
def processRTPPacket (dat : RTPInternalSourceData) (rtppack : RTPPacket) :
    RTPInternalSourceData :=
  let verdict := (dat.judge rtppack).2
  if dat.keeps verdict then (dat.judged rtppack).place ⟨rtppack, verdict.extseqnr⟩
  else dat.judged rtppack

/-- What `RTPSources::ProcessRawPacket` does with a datagram of this source. -/
def processRawPacket (dat : RTPInternalSourceData) (rawpack : RTPRawPacket) :
    RTPInternalSourceData :=
  (RTPPacket.parseRawPacket rawpack).elim dat dat.processRTPPacket

/-- `RTPSourceData::GetNextPacket`. -/
def getNextPacket (dat : RTPInternalSourceData) : Option (QueuedPacket × RTPInternalSourceData) :=
  if dat.validated = false then none
  else match dat.packetlist with
    | [] => none
    | p :: packetlist => some (p, { dat with packetlist := packetlist })

/-- What happens to a source. `validate` is a CNAME, or a packet that names it as a contributing
source. -/
inductive Event where
  | receive (number : Nat)
  | validate
  | getNextPacket
  deriving DecidableEq, Repr

/-- The network delivers the datagrams in any order, some of them often, others not at all. -/
def step (datagram : Nat → RTPRawPacket) (dat : RTPInternalSourceData) :
    Event → Option RTPInternalSourceData
  | .receive number => some (dat.processRawPacket (datagram number))
  | .validate => some { dat with validated := true }
  | .getNextPacket => some ((dat.getNextPacket.map Prod.snd).getD dat)

/-- The packet that a step hands out. -/
def delivered (dat : RTPInternalSourceData) : Event → Option RTPPacket
  | .getNextPacket => dat.getNextPacket.map fun next => next.1.packet
  | _ => none

/-- What a packet does to the list as a buffer. -/
def queueing (dat : RTPInternalSourceData) (rtppack : RTPPacket) : Option (ReorderBuffer.Event Nat) :=
  let verdict := (dat.judge rtppack).2
  if dat.keeps verdict then
    if (dat.judged rtppack).validated = false ∧ dat.packetlist.length = MAXPROBATIONPACKETS then
      dat.packetlist.head?.map fun p => .replace p.number verdict.extseqnr.toNat
    else some (.arrive verdict.extseqnr.toNat)
  else none

/-- What a step does to the list as a buffer. -/
def label (datagram : Nat → RTPRawPacket) (dat : RTPInternalSourceData) :
    Event → Option (ReorderBuffer.Event Nat)
  | .receive number => (RTPPacket.parseRawPacket (datagram number)).bind dat.queueing
  | .validate => none
  | .getNextPacket => dat.getNextPacket.map fun next => .take next.1.number

/-- The list as the contents of a buffer. -/
structure Buffers (dat : RTPInternalSourceData) (held : Finset Nat) : Prop where
  increasing : Increasing QueuedPacket.number dat.packetlist
  keys : keys QueuedPacket.number dat.packetlist = held

section Refinement

variable {dat : RTPInternalSourceData} {held : Finset Nat} {pack : QueuedPacket}

theorem Buffers.arrive (h : dat.Buffers held) (hRoom : dat.makeRoom = dat.packetlist) :
    (dat.place pack).Buffers (insert pack.number held) := by
  have hList : (dat.place pack).packetlist =
      insertList QueuedPacket.number pack dat.packetlist := by
    unfold place
    rw [hRoom]
    split_ifs with hEmpty
    · rw [hEmpty]
      rfl
    · rfl
  refine ⟨?_, ?_⟩
  · rw [hList]
    exact insertList_increasing h.increasing
  · rw [hList, keys_insertList, h.keys]

theorem Buffers.replace (h : dat.Buffers held) (pack : QueuedPacket) {p : QueuedPacket}
    {rest : List QueuedPacket}
    (hList : dat.packetlist = p :: rest) (hFull : dat.makeRoom = rest) :
    ReorderBuffer.step held (.replace p.number pack.number) =
        some (insert pack.number (held.erase p.number)) ∧
      (dat.place pack).Buffers (insert pack.number (held.erase p.number)) := by
  obtain ⟨hIncreasing, rfl⟩ := h
  rw [hList] at hIncreasing
  have hPlaced : (dat.place pack).packetlist = insertList QueuedPacket.number pack rest := by
    unfold place
    rw [hFull, if_neg (by simp [hList])]
  refine ⟨?_, ?_, ?_⟩
  · rw [hList]
    exact if_pos (least_head hIncreasing)
  · rw [hPlaced]
    exact insertList_increasing (List.pairwise_cons.mp hIncreasing).2
  · rw [hPlaced, keys_insertList, keys_tail hIncreasing, hList]

/-- A packet that is kept takes its place in the buffer. -/
theorem Buffers.processRTPPacket (h : dat.Buffers held) (rtppack : RTPPacket) :
    ∃ next, run ReorderBuffer.step held (dat.queueing rtppack).toList = some next ∧
      (dat.processRTPPacket rtppack).Buffers next := by
  have hJudged : (dat.judged rtppack).Buffers held := ⟨h.increasing, h.keys⟩
  unfold RTPInternalSourceData.processRTPPacket queueing
  dsimp only
  split_ifs with hKeeps hFull
  · cases hList : dat.packetlist with
    | nil =>
        rw [hList] at hFull
        exact absurd hFull.2 (by decide)
    | cons p rest =>
        have hTail : (dat.judged rtppack).makeRoom = dat.packetlist.tail := if_pos hFull
        have hRoom : (dat.judged rtppack).makeRoom = rest := by rw [hTail, hList, List.tail_cons]
        obtain ⟨hStep, hNext⟩ :=
          hJudged.replace ⟨rtppack, (dat.judge rtppack).2.extseqnr⟩ hList hRoom
        refine ⟨_, ?_, hNext⟩
        rw [List.head?_cons, Option.map_some, Option.toList_some, run]
        exact (congrArg (fun s => Option.bind s _) hStep).trans rfl
  · have hRoom : (dat.judged rtppack).makeRoom = (dat.judged rtppack).packetlist := if_neg hFull
    exact ⟨_, rfl, hJudged.arrive hRoom⟩
  · exact ⟨held, rfl, hJudged⟩

/-- Handing out a packet takes the least number. -/
theorem Buffers.getNextPacket (h : dat.Buffers held) {pack : QueuedPacket}
    {next : RTPInternalSourceData} (hNext : dat.getNextPacket = some (pack, next)) :
    ReorderBuffer.step held (.take pack.number) = some (held.erase pack.number) ∧
      next.Buffers (held.erase pack.number) := by
  obtain ⟨hIncreasing, rfl⟩ := h
  unfold RTPInternalSourceData.getNextPacket at hNext
  split_ifs at hNext with hValid
  cases hList : dat.packetlist with
  | nil => simp [hList] at hNext
  | cons p packetlist =>
      rw [hList] at hNext hIncreasing
      cases hNext
      refine ⟨?_, (List.pairwise_cons.mp hIncreasing).2, ?_⟩
      · exact if_pos (least_head hIncreasing)
      · exact keys_tail hIncreasing

/-- The list of a source is a buffer in every run. -/
theorem buffers_of_run {datagram : Nat → RTPRawPacket} {probationtype : ProbationType}
    {events : List Event} {dat : RTPInternalSourceData}
    (hRun : run (step datagram) (new probationtype) events = some dat) :
    ∃ held, run ReorderBuffer.step ∅
        (labels (step datagram) (label datagram) (new probationtype) events) = some held ∧
      dat.Buffers held := by
  refine run_labels (fun dat held => dat.Buffers held) ?_ ⟨List.Pairwise.nil, rfl⟩ hRun
  intro dat event next held hBuffers hStep
  cases event with
  | receive number =>
      cases hStep
      rw [label, processRawPacket]
      cases RTPPacket.parseRawPacket (datagram number) with
      | none => exact ⟨held, rfl, hBuffers⟩
      | some rtppack => exact hBuffers.processRTPPacket rtppack
  | validate =>
      cases hStep
      exact ⟨held, rfl, hBuffers.increasing, hBuffers.keys⟩
  | getNextPacket =>
      cases hStep
      rw [label]
      cases hTaken : dat.getNextPacket with
      | none => exact ⟨held, rfl, hBuffers⟩
      | some taken =>
          obtain ⟨hTake, hNext⟩ := hBuffers.getNextPacket hTaken
          refine ⟨_, ?_, hNext⟩
          rw [Option.map_some, Option.toList_some, run]
          exact (congrArg (fun s => Option.bind s _) hTake).trans rfl

end Refinement

end RTPInternalSourceData

end AudioSync.Rtp
