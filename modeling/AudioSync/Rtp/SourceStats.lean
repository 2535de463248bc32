import Mathlib.Data.BitVec

/-! `RTPSourceStats`: how jrtplib extends the 16 bit sequence numbers of a source to 32 bits. The
jitter and the times of the last messages are left out. -/
namespace AudioSync.Rtp

/-- `RTP_PROBATIONCOUNT`. -/
def RTP_PROBATIONCOUNT : Nat := 2

/-- The packet counts are those that reports are made of; `numcycles` is shifted left 16 bits. -/
structure RTPSourceStats where
  sentdata : Bool
  packetsreceived : BitVec 32
  numcycles : BitVec 32
  baseseqnr : BitVec 32
  exthighseqnr : BitVec 32
  prevexthighseqnr : BitVec 32
  numnewpackets : BitVec 32
  savedextseqnr : BitVec 32
  prevseqnr : BitVec 16
  probation : Nat
  deriving DecidableEq, Repr

namespace RTPSourceStats

/-- The constructor. -/
def new : RTPSourceStats := ⟨false, 0, 0, 0, 0, 0, 0, 0, 0, 0⟩

/-- What `ProcessPacket` tells of a packet, and the number it gives to it. -/
structure Verdict where
  accept : Bool
  onprobation : Bool
  extseqnr : BitVec 32
  deriving DecidableEq, Repr

/-- One packet more. -/
def count (stats : RTPSourceStats) : RTPSourceStats :=
  { stats with
    packetsreceived := stats.packetsreceived + 1
    numnewpackets := stats.numnewpackets + 1 }

/-- `ACCEPTPACKETCODE`. -/
def acceptPacket (stats : RTPSourceStats) (seqnr : BitVec 16) : RTPSourceStats × Verdict :=
  let baseseqnr : BitVec 32 := if seqnr = 0 then 0x0000FFFF else seqnr.setWidth 32 - 1
  ({ stats.count with
      sentdata := true
      baseseqnr := baseseqnr
      numcycles := if seqnr = 0 then 0x00010000 else stats.numcycles
      exthighseqnr := baseseqnr + 1
      prevexthighseqnr := baseseqnr
      savedextseqnr := baseseqnr },
    ⟨true, false, baseseqnr + 1⟩)

/-- The packet that was expected brings the end of the probation nearer. -/
def passProbation (stats : RTPSourceStats) (seqnr : BitVec 16) : RTPSourceStats :=
  { stats with prevseqnr := seqnr, probation := stats.probation - 1 }

/-- The probation begins with this packet. -/
def startProbation (stats : RTPSourceStats) (seqnr : BitVec 16) : RTPSourceStats × Verdict :=
  ({ stats with probation := RTP_PROBATIONCOUNT, prevseqnr := seqnr },
    ⟨false, true, seqnr.setWidth 32⟩)

/-- A packet before any has been accepted, of a source that has to prove itself. -/
def applyProbation (stats : RTPSourceStats) (seqnr : BitVec 16) : RTPSourceStats × Verdict :=
  if stats.probation ≠ 0 then
    if stats.prevseqnr + 1 = seqnr then
      if (stats.passProbation seqnr).probation = 0 then
        (stats.passProbation seqnr).acceptPacket seqnr
      else (stats.passProbation seqnr, ⟨false, true, seqnr.setWidth 32⟩)
    else stats.startProbation seqnr
  else stats.startProbation seqnr

/-- The extended number of a packet, once there is a highest one: the cycle is the next one when
the way ahead to the packet is the shorter one. -/
def extend (stats : RTPSourceStats) (seqnr : BitVec 16) : RTPSourceStats × BitVec 32 :=
  let maxseq16 : BitVec 16 := stats.exthighseqnr.setWidth 16
  if maxseq16 ≤ seqnr then
    let extseqnr := stats.numcycles + seqnr.setWidth 32
    ({ stats with exthighseqnr := extseqnr }, extseqnr)
  else
    let dif1 := seqnr - maxseq16
    let dif2 := maxseq16 - seqnr
    if dif1 < dif2 then
      let numcycles := stats.numcycles + 0x00010000
      let extseqnr := numcycles + seqnr.setWidth 32
      ({ stats with numcycles := numcycles, exthighseqnr := extseqnr }, extseqnr)
    else (stats, stats.numcycles + seqnr.setWidth 32)

/-- `RTPSourceStats::ProcessPacket`. -/
def processPacket (stats : RTPSourceStats) (seqnr : BitVec 16) (applyprobation : Bool) :
    RTPSourceStats × Verdict :=
  if stats.sentdata then
    ((stats.count.extend seqnr).1, ⟨true, false, (stats.count.extend seqnr).2⟩)
  else if applyprobation then stats.applyProbation seqnr
  else stats.acceptPacket seqnr

/-- Where a packet's number lies when it is extended rightly, next to the highest one: in the
same cycle and not too far behind, or in the next cycle and not too far ahead. -/
def InWindow (high number : Nat) : Prop :=
  number / 65536 = high / 65536 ∧ high ≤ number + 32768 ∨
    number / 65536 = high / 65536 + 1 ∧ number < high + 32768

instance (high number : Nat) : Decidable (InWindow high number) :=
  inferInstanceAs (Decidable (_ ∨ _))

/-- The cycle is that of the highest number. -/
def WellNumbered (stats : RTPSourceStats) : Prop :=
  stats.numcycles.toNat = stats.exthighseqnr.toNat / 65536 * 65536

section Extend

variable {stats : RTPSourceStats} {number : Nat}

/-- The cycle with a number of 16 bits in it. -/
theorem toNat_cycle_add {cycle : BitVec 32} (seqnr : BitVec 16) {count : Nat}
    (hCycle : cycle.toNat = count * 65536) :
    (cycle + seqnr.setWidth 32).toNat = count * 65536 + seqnr.toNat := by
  have hSeqnr := seqnr.isLt
  have hBound := cycle.isLt
  rw [BitVec.toNat_add, BitVec.toNat_setWidth, hCycle]
  omega

theorem extend_wellNumbered (hStats : stats.WellNumbered) (seqnr : BitVec 16) :
    (stats.extend seqnr).1.WellNumbered := by
  have hSeqnr := seqnr.isLt
  unfold extend
  dsimp only
  split_ifs with hAbove hAhead
  · show stats.numcycles.toNat = _
    rw [toNat_cycle_add seqnr hStats, hStats]
    omega
  · obtain ⟨count, hCount⟩ : ∃ count, (stats.numcycles + 0x00010000).toNat = count * 65536 := by
      refine ⟨(stats.numcycles + 0x00010000).toNat / 65536, ?_⟩
      rw [BitVec.toNat_add, hStats]
      simp
      omega
    show (stats.numcycles + 0x00010000).toNat = _
    rw [toNat_cycle_add seqnr hCount, hCount]
    omega
  · exact hStats

/-- A number behind the highest one is in the next cycle when it is more than half a cycle
behind. -/
theorem extend_cases (hStats : stats.WellNumbered)
    (hRoom : stats.exthighseqnr.toNat / 65536 < 65535) (seqnr : BitVec 16) :
    let high := stats.exthighseqnr.toNat
    let extended := stats.extend seqnr
    if seqnr.toNat + 32768 < high % 65536 then
      extended.2.toNat = (high / 65536 + 1) * 65536 + seqnr.toNat ∧
        extended.1.exthighseqnr = extended.2
    else extended.2.toNat = high / 65536 * 65536 + seqnr.toNat ∧
      extended.1.exthighseqnr.toNat = max high extended.2.toNat := by
  have hSeqnr := seqnr.isLt
  have hMax : (stats.exthighseqnr.setWidth 16).toNat = stats.exthighseqnr.toNat % 65536 :=
    BitVec.toNat_setWidth ..
  have hSame := toNat_cycle_add seqnr hStats
  have hNext : (stats.numcycles + 0x00010000).toNat =
      (stats.exthighseqnr.toNat / 65536 + 1) * 65536 := by
    rw [BitVec.toNat_add, hStats]
    simp
    omega
  have hAhead : seqnr - stats.exthighseqnr.setWidth 16 < stats.exthighseqnr.setWidth 16 - seqnr ∧
      ¬ stats.exthighseqnr.setWidth 16 ≤ seqnr ↔
        seqnr.toNat + 32768 < stats.exthighseqnr.toNat % 65536 := by
    rw [BitVec.lt_def, BitVec.le_def, BitVec.toNat_sub, BitVec.toNat_sub, hMax]
    omega
  dsimp only
  unfold extend
  dsimp only
  by_cases hAbove : stats.exthighseqnr.setWidth 16 ≤ seqnr
  · have hNear : ¬ seqnr.toNat + 32768 < stats.exthighseqnr.toNat % 65536 :=
      fun h => (hAhead.mpr h).2 hAbove
    rw [BitVec.le_def, hMax] at hAbove
    rw [if_neg hNear, if_pos (by rwa [BitVec.le_def, hMax])]
    refine ⟨hSame, ?_⟩
    rw [hSame]
    omega
  · rw [if_neg hAbove]
    by_cases hFar : seqnr - stats.exthighseqnr.setWidth 16 < stats.exthighseqnr.setWidth 16 - seqnr
    · rw [if_pos (hAhead.mp ⟨hFar, hAbove⟩), if_pos hFar]
      exact ⟨toNat_cycle_add seqnr hNext, rfl⟩
    · rw [if_neg (fun h => hFar (hAhead.mpr h).1), if_neg hFar]
      refine ⟨hSame, ?_⟩
      rw [BitVec.le_def, hMax] at hAbove
      show stats.exthighseqnr.toNat = max _ _
      rw [hSame]
      omega

/-- Exactly the numbers near the highest one are extended rightly. -/
theorem extend_eq_iff (hStats : stats.WellNumbered)
    (hRoom : stats.exthighseqnr.toNat / 65536 < 65535) :
    (stats.extend (BitVec.ofNat 16 number)).2.toNat = number ↔
      InWindow stats.exthighseqnr.toNat number := by
  have hCases := extend_cases hStats hRoom (BitVec.ofNat 16 number)
  have hSeqnr : (BitVec.ofNat 16 number).toNat = number % 65536 := BitVec.toNat_ofNat ..
  dsimp only at hCases
  rw [hSeqnr] at hCases
  unfold InWindow
  split_ifs at hCases with hFar <;> rw [hCases.1] <;> omega

/-- Then the highest number is the maximum. -/
theorem extend_high (hStats : stats.WellNumbered)
    (hRoom : stats.exthighseqnr.toNat / 65536 < 65535)
    (hWindow : InWindow stats.exthighseqnr.toNat number) :
    (stats.extend (BitVec.ofNat 16 number)).1.exthighseqnr.toNat =
      max stats.exthighseqnr.toNat number := by
  have hExact := (extend_eq_iff hStats hRoom).mpr hWindow
  have hCases := extend_cases hStats hRoom (BitVec.ofNat 16 number)
  dsimp only at hCases
  split_ifs at hCases with hFar
  · rw [hCases.2, hExact]
    rw [hExact] at hCases
    omega
  · rw [hCases.2, hExact]

end Extend

section ProcessPacket

variable {stats : RTPSourceStats} {seqnr : BitVec 16} {applyprobation : Bool}

/-- A packet extends the numbers, or is the first that is accepted, or is on probation. -/
theorem processPacket_cases (stats : RTPSourceStats) (seqnr : BitVec 16) (applyprobation : Bool) :
    (stats.sentdata = true ∧ ∃ counted : RTPSourceStats,
        counted.sentdata = true ∧ counted.numcycles = stats.numcycles ∧
        counted.exthighseqnr = stats.exthighseqnr ∧
        stats.processPacket seqnr applyprobation =
          ((counted.extend seqnr).1, ⟨true, false, (counted.extend seqnr).2⟩)) ∨
      (stats.sentdata = false ∧ ∃ before : RTPSourceStats, before.numcycles = stats.numcycles ∧
        stats.processPacket seqnr applyprobation = before.acceptPacket seqnr) ∨
      (stats.sentdata = false ∧ ∃ next : RTPSourceStats, next.sentdata = false ∧
        next.numcycles = stats.numcycles ∧ stats.processPacket seqnr applyprobation =
          (next, ⟨false, true, seqnr.setWidth 32⟩)) := by
  unfold processPacket
  cases hSent : stats.sentdata with
  | true =>
      rw [if_pos rfl]
      exact Or.inl ⟨rfl, stats.count, hSent, rfl, rfl, rfl⟩
  | false =>
      rw [if_neg Bool.false_ne_true]
      refine Or.inr ?_
      cases applyprobation with
      | false => exact Or.inl ⟨rfl, stats, rfl, rfl⟩
      | true =>
          rw [if_pos rfl, applyProbation]
          split_ifs
          · exact Or.inl ⟨rfl, stats.passProbation seqnr, rfl, rfl⟩
          · exact Or.inr ⟨rfl, stats.passProbation seqnr, hSent, rfl, rfl⟩
          · exact Or.inr ⟨rfl, (stats.startProbation seqnr).1, hSent, rfl, rfl⟩
          · exact Or.inr ⟨rfl, (stats.startProbation seqnr).1, hSent, rfl, rfl⟩

theorem acceptPacket_number (stats : RTPSourceStats) (seqnr : BitVec 16) :
    (stats.acceptPacket seqnr).2.extseqnr.toNat = if seqnr = 0 then 65536 else seqnr.toNat := by
  have hSeqnr := seqnr.isLt
  unfold acceptPacket
  dsimp only
  split_ifs with hZero
  · decide
  · rw [BitVec.sub_add_cancel, BitVec.toNat_setWidth]
    omega

/-- The numbers are counted from the first cycle, and the cycle is that of the highest one. -/
structure Regular (stats : RTPSourceStats) : Prop where
  fresh : stats.sentdata = false → stats.numcycles = 0
  wellNumbered : stats.sentdata = true → stats.WellNumbered

theorem regular_new : new.Regular := ⟨fun _ => rfl, fun h => (nomatch h)⟩

theorem acceptPacket_wellNumbered (hFresh : stats.numcycles = 0) :
    (stats.acceptPacket seqnr).1.WellNumbered := by
  have hSeqnr := seqnr.isLt
  have hNumber := acceptPacket_number stats seqnr
  have hHigh : (stats.acceptPacket seqnr).1.exthighseqnr =
      (stats.acceptPacket seqnr).2.extseqnr := rfl
  have hCycle : (stats.acceptPacket seqnr).1.numcycles =
      if seqnr = 0 then 0x00010000 else stats.numcycles := rfl
  rw [WellNumbered, hHigh, hNumber, hCycle, hFresh]
  split_ifs
  · decide
  · simp
    omega

theorem extend_sentdata (stats : RTPSourceStats) (seqnr : BitVec 16) :
    (stats.extend seqnr).1.sentdata = stats.sentdata := by
  simp only [extend, apply_ite Prod.fst, apply_ite sentdata, ite_self]

theorem Regular.processPacket (h : stats.Regular) :
    (stats.processPacket seqnr applyprobation).1.Regular := by
  rcases processPacket_cases stats seqnr applyprobation with
    ⟨hSent, counted, hCounted, hCycles, hHigh, hResult⟩ | ⟨hSent, before, hCycles, hResult⟩ |
      ⟨hSent, next, hNext, hCycles, hResult⟩
  · have hWell : counted.WellNumbered := by
      rw [WellNumbered, hCycles, hHigh]
      exact h.wellNumbered hSent
    rw [hResult]
    refine ⟨fun hNot => ?_, fun _ => extend_wellNumbered hWell seqnr⟩
    rw [extend_sentdata, hCounted] at hNot
    cases hNot
  · rw [hResult]
    exact ⟨fun hNot => (nomatch hNot),
      fun _ => acceptPacket_wellNumbered (hCycles.trans (h.fresh hSent))⟩
  · rw [hResult]
    refine ⟨fun _ => hCycles.trans (h.fresh hSent), fun hYes => ?_⟩
    rw [hNext] at hYes
    cases hYes

/-- Where the number of a packet lies when it is given to the packet. The first packet that is
accepted is taken for one of the first cycle, or of the beginning of the second. -/
def InStep (stats : RTPSourceStats) (applyprobation : Bool) (number : Nat) : Prop :=
  if stats.sentdata then InWindow stats.exthighseqnr.toNat number
  else if (stats.processPacket (BitVec.ofNat 16 number) applyprobation).2.accept then
    0 < number ∧ number ≤ 65536
  else number < 65536

instance (stats : RTPSourceStats) (applyprobation : Bool) (number : Nat) :
    Decidable (stats.InStep applyprobation number) := by
  unfold InStep
  infer_instance

/-- There is room for another cycle. -/
def HasRoom (stats : RTPSourceStats) : Prop :=
  stats.sentdata = true → stats.exthighseqnr.toNat < 65535 * 65536

/-- Exactly the packets in step are given their own numbers. -/
theorem processPacket_eq_iff {number : Nat} (h : stats.Regular) (hRoom : stats.HasRoom) :
    (stats.processPacket (BitVec.ofNat 16 number) applyprobation).2.extseqnr.toNat = number ↔
      stats.InStep applyprobation number := by
  have hSeqnr : (BitVec.ofNat 16 number).toNat = number % 65536 := BitVec.toNat_ofNat ..
  unfold InStep
  rcases processPacket_cases stats (BitVec.ofNat 16 number) applyprobation with
    ⟨hSent, counted, hCounted, hCycles, hHigh, hResult⟩ | ⟨hSent, before, hCycles, hResult⟩ |
      ⟨hSent, next, hNext, hCycles, hResult⟩
  · have hWell : counted.WellNumbered := by
      rw [WellNumbered, hCycles, hHigh]
      exact h.wellNumbered hSent
    have hBelow := hRoom hSent
    have hExtend : (counted.extend (BitVec.ofNat 16 number)).2.toNat = number ↔
        InWindow counted.exthighseqnr.toNat number :=
      extend_eq_iff hWell (by rw [hHigh]; omega)
    rw [hHigh] at hExtend
    rw [hResult, if_pos hSent]
    exact hExtend
  · have hNumber := acceptPacket_number before (BitVec.ofNat 16 number)
    have hZero : BitVec.ofNat 16 number = 0 ↔ number % 65536 = 0 := by
      rw [← BitVec.toNat_inj, hSeqnr]
      rfl
    have hAccept : (before.acceptPacket (BitVec.ofNat 16 number)).2.accept = true := rfl
    rw [hResult, if_neg (by simp [hSent]), hNumber, if_pos hAccept, hSeqnr]
    split_ifs with h0 <;> rw [hZero] at h0 <;> omega
  · rw [hResult, if_neg (by simp [hSent]), if_neg (by simp), BitVec.toNat_setWidth, hSeqnr]
    omega

/-- A packet with its own number is no reason to run out of cycles. -/
theorem HasRoom.processPacket {number : Nat} (h : stats.Regular) (hRoom : stats.HasRoom)
    (hFew : number < 65535 * 65536) (hInStep : stats.InStep applyprobation number) :
    (stats.processPacket (BitVec.ofNat 16 number) applyprobation).1.HasRoom := by
  intro hSentNext
  rcases processPacket_cases stats (BitVec.ofNat 16 number) applyprobation with
    ⟨hSent, counted, hCounted, hCycles, hHigh, hResult⟩ | ⟨hSent, before, hCycles, hResult⟩ |
      ⟨hSent, next, hNext, hCycles, hResult⟩
  · have hWell : counted.WellNumbered := by
      rw [WellNumbered, hCycles, hHigh]
      exact h.wellNumbered hSent
    have hBelow := hRoom hSent
    have hWindow : InWindow counted.exthighseqnr.toNat number := by
      rw [hHigh]
      unfold InStep at hInStep
      rwa [if_pos hSent] at hInStep
    rw [hResult, extend_high hWell (by rw [hHigh]; omega) hWindow, hHigh]
    omega
  · have hNumber := acceptPacket_number before (BitVec.ofNat 16 number)
    have hSeqnr := (BitVec.ofNat 16 number).isLt
    have hHigh : (before.acceptPacket (BitVec.ofNat 16 number)).1.exthighseqnr =
        (before.acceptPacket (BitVec.ofNat 16 number)).2.extseqnr := rfl
    rw [hResult, hHigh, hNumber]
    split_ifs <;> omega
  · rw [hResult, hNext] at hSentNext
    cases hSentNext

end ProcessPacket

end RTPSourceStats

end AudioSync.Rtp
