import AudioSync.Player.CatchUp

/-! A late start: the loop that throws away what is overdue, as a sequence of partial reads.
Whether a request is too large is found out with a `size_t` product. -/
namespace AudioSync.Player

open MachineInt

/-- The frames one pass of the loop asks for, with frames of so many bytes. -/
def lateRequest (abi : Abi) (frameSize : Nat) (drop : Int) : Nat :=
  if MAX_BUFFER_SIZE < abi.size (abi.size drop * frameSize) then MAX_BUFFER_SIZE / frameSize
  else abi.size drop

/-- The passes of the loop on a FIFO with so many frames: what is asked for, and what comes. -/
def lateReads (abi : Abi) (frameSize : Nat) (drop : Int) (fill : Nat) : List (Nat × Nat) :=
  let requestFrames := lateRequest abi frameSize drop
  let frameCount := min requestFrames fill
  if frameCount = 0 then [(requestFrames, 0)]
  else if 0 < drop - frameCount then
    (requestFrames, frameCount) :: lateReads abi frameSize (drop - frameCount) (fill - frameCount)
  else [(requestFrames, frameCount)]
termination_by fill
decreasing_by omega

/-- The frames that come, over all passes. -/
def lateCount (abi : Abi) (frameSize : Nat) (drop : Int) (fill : Nat) : Nat :=
  ((lateReads abi frameSize drop fill).map Prod.snd).sum

theorem State.lateRequest_eq (abi : Abi) (drop : Int) (player : State) :
    (if player.tooLarge abi (abi.size drop) = true then player.maxFrames abi else abi.size drop) =
      lateRequest abi (player.frameSize abi) drop := by
  simp only [State.tooLarge, decide_eq_true_eq]
  rfl

/-- The loop of the callback makes these reads. -/
theorem State.dropLate_reads (abi : Abi) (address : Nat) (drop : Int) (player : State) :
    player.fifo.readAll
          ((lateReads abi (player.frameSize abi) drop player.fifo.fill).map Prod.fst) =
        ((player.dropLate abi address drop).1.fifo, (player.dropLate abi address drop).2) ∧
      (player.dropLate abi address drop).2.length =
        lateCount abi (player.frameSize abi) drop player.fifo.fill := by
  fun_induction dropLate abi address drop player with
  | case1 drop player requestFrames read hNone =>
      have hRequest : requestFrames = lateRequest abi (player.frameSize abi) drop :=
        player.lateRequest_eq abi drop
      have hCount : min requestFrames player.fifo.fill = 0 := by
        rw [← BoundedQueue.read_length]
        exact hNone
      rw [lateCount, lateReads, ← hRequest]
      simp only [hCount, if_pos]
      refine ⟨?_, hNone⟩
      show ((player.fifo.read requestFrames).1, (player.fifo.read requestFrames).2 ++ []) = _
      rw [List.append_nil]
      rfl
  | case2 drop player requestFrames read hSome counted hMore later ih =>
      obtain ⟨hReads, hLength⟩ := ih
      have hRequest : requestFrames = lateRequest abi (player.frameSize abi) drop :=
        player.lateRequest_eq abi drop
      have hCount : min requestFrames player.fifo.fill = read.2.length :=
        (BoundedQueue.read_length _ _).symm
      have hFill : counted.fifo.fill = player.fifo.fill - read.2.length := by
        show (player.fifo.read requestFrames).1.fill = _
        rw [BoundedQueue.read_fill]
        omega
      rw [lateCount, lateReads, ← hRequest]
      simp only [hCount, if_neg hSome, if_pos hMore, List.map_cons, List.sum_cons]
      rw [hFill] at hReads hLength
      constructor
      · exact congrArg (fun done : BoundedQueue Frame × List Frame => (done.1, read.2 ++ done.2))
          hReads
      · rw [List.length_append, hLength]
        rfl
  | case3 drop player requestFrames read hSome counted hDone =>
      have hRequest : requestFrames = lateRequest abi (player.frameSize abi) drop :=
        player.lateRequest_eq abi drop
      have hCount : min requestFrames player.fifo.fill = read.2.length :=
        (BoundedQueue.read_length _ _).symm
      rw [lateCount, lateReads, ← hRequest]
      simp only [hCount, if_neg hSome, if_neg hDone]
      refine ⟨?_, rfl⟩
      show ((player.fifo.read requestFrames).1, (player.fifo.read requestFrames).2 ++ []) = _
      rw [List.append_nil]
      rfl

/-- From `drop` overdue frames and `fill` frames in the FIFO, the loop without machine
arithmetic comes to a pass with so many of each left. -/
inductive LatePass (maxFrames : Nat) : Nat → Nat → Nat → Nat → Prop where
  | here (drop fill : Nat) : LatePass maxFrames drop fill drop fill
  | later {drop fill drop' fill' : Nat}
      (hSome : 0 < min (min drop maxFrames) fill) (hMore : min (min drop maxFrames) fill < drop)
      (hLater : LatePass maxFrames (drop - min (min drop maxFrames) fill)
        (fill - min (min drop maxFrames) fill) drop' fill') :
      LatePass maxFrames drop fill drop' fill'

section Passes

variable {abi : Abi} {frameSize : Nat}

/-- The `size_t` request of a pass is not too large, and as good as the true one. -/
def RequestRight (abi : Abi) (frameSize drop fill : Nat) : Prop :=
  lateRequest abi frameSize drop ≤ MAX_BUFFER_SIZE / frameSize ∧
    min (lateRequest abi frameSize drop) fill = min (min drop (MAX_BUFFER_SIZE / frameSize)) fill

/-- All passes ask for the right number of frames. A frame must fit into `MAX_BUFFER_SIZE`
bytes if one has to be dropped. -/
structure SkipsRight (abi : Abi) (frameSize drop fill : Nat) : Prop where
  fits : 0 < min drop fill → 0 < MAX_BUFFER_SIZE / frameSize
  passes : ∀ drop' fill', LatePass (MAX_BUFFER_SIZE / frameSize) drop fill drop' fill' →
    RequestRight abi frameSize drop' fill'

/-- A pass never asks for more frames than are left to drop. -/
theorem lateRequest_le (abi : Abi) (frameSize drop : Nat) :
    lateRequest abi frameSize drop ≤ drop := by
  have hSize := abi.size_le drop
  unfold lateRequest
  split_ifs with hLarge
  · have hProduct : abi.size (abi.size drop * frameSize) ≤ abi.size drop * frameSize := by
      rw [Abi.size_mul]
      exact Nat.mod_le _ _
    exact (Nat.div_le_of_le_mul (by rw [Nat.mul_comm]; omega)).trans hSize
  · exact hSize

/-- When it asks for less than it should, the rest is a multiple of the range of `size_t`. -/
theorem lateRequest_rest {drop : Nat}
    (hLess : lateRequest abi frameSize drop < min drop (MAX_BUFFER_SIZE / frameSize)) :
    abi.size ((drop - lateRequest abi frameSize drop : Nat)) = 0 := by
  have hRequest : lateRequest abi frameSize drop = abi.size drop := by
    unfold lateRequest at hLess ⊢
    split_ifs at hLess ⊢ with hLarge
    · omega
    · rfl
  rw [hRequest, Abi.size_natCast, Abi.size_natCast]
  exact Nat.sub_mod_eq_zero_of_mod_eq (Nat.mod_mod _ _).symm

theorem lateReads_zero (frameSize : Nat) {drop : Int} (hZero : abi.size drop = 0) (fill : Nat) :
    lateReads abi frameSize drop fill = [(0, 0)] := by
  have hRequest : lateRequest abi frameSize drop = 0 := by
    unfold lateRequest
    rw [hZero]
    cases abi <;> simp [Abi.size, toUnsigned]
  rw [lateReads]
  simp [hRequest]

/-- One pass, and the passes behind it. -/
theorem lateReads_eq (drop fill : Nat) :
    lateReads abi frameSize drop fill =
      let requestFrames := lateRequest abi frameSize drop
      let frameCount := min requestFrames fill
      if frameCount = 0 ∨ frameCount = drop then [(requestFrames, frameCount)]
      else (requestFrames, frameCount) ::
        lateReads abi frameSize (drop - frameCount : Nat) (fill - frameCount) := by
  have hRequest := lateRequest_le abi frameSize drop
  rw [lateReads]
  dsimp only
  generalize hCount : min (lateRequest abi frameSize drop) fill = count
  by_cases hNone : count = 0
  · rw [if_pos hNone, if_pos (Or.inl hNone), hNone]
  · rw [if_neg hNone]
    have hRest : ((drop - count : Nat) : Int) = (drop : Int) - count := by omega
    by_cases hAll : count = drop
    · rw [if_neg (by omega), if_pos (Or.inr hAll)]
    · rw [if_pos (by omega), if_neg (by tauto), hRest]

/-- The loop never removes more than it has to, nor more than is there. -/
theorem lateCount_le (abi : Abi) (frameSize drop fill : Nat) :
    lateCount abi frameSize drop fill ≤ min drop fill := by
  induction fill using Nat.strong_induction_on generalizing drop with
  | _ fill ih =>
      have hRequest := lateRequest_le abi frameSize drop
      rw [lateCount, lateReads_eq]
      dsimp only
      generalize hCount : min (lateRequest abi frameSize drop) fill = count
      split_ifs with hLast
      · rw [List.map_cons, List.map_nil, List.sum_singleton]
        omega
      · have hLater := ih (fill - count) (by omega) (drop - count)
        rw [lateCount] at hLater
        rw [List.map_cons, List.sum_cons]
        omega

/-- The passes of the loop without machine arithmetic: the first, and the ones behind it. -/
theorem SkipsRight.of_passes {drop fill : Nat}
    (hFits : 0 < min drop fill → 0 < MAX_BUFFER_SIZE / frameSize)
    (hFirst : RequestRight abi frameSize drop fill)
    (hLater : 0 < min (lateRequest abi frameSize drop) fill →
      min (lateRequest abi frameSize drop) fill < drop →
      SkipsRight abi frameSize (drop - min (lateRequest abi frameSize drop) fill)
        (fill - min (lateRequest abi frameSize drop) fill)) :
    SkipsRight abi frameSize drop fill where
  fits := hFits
  passes := by
    intro drop' fill' hPass
    cases hPass with
    | here => exact hFirst
    | later hSome hMore hPass =>
        rw [← hFirst.2] at hSome hMore hPass
        exact (hLater hSome hMore).passes drop' fill' hPass

theorem SkipsRight.later {drop fill : Nat} (hRight : SkipsRight abi frameSize drop fill)
    (hSome : 0 < min (lateRequest abi frameSize drop) fill)
    (hMore : min (lateRequest abi frameSize drop) fill < drop) :
    SkipsRight abi frameSize (drop - min (lateRequest abi frameSize drop) fill)
      (fill - min (lateRequest abi frameSize drop) fill) := by
  have hFirst := (hRight.passes drop fill (.here drop fill)).2
  rw [hFirst] at hSome hMore ⊢
  refine ⟨fun _ => hRight.fits (by omega), fun drop' fill' hPass => ?_⟩
  exact hRight.passes drop' fill' (.later hSome hMore hPass)

theorem LatePass.drop_le {maxFrames drop fill drop' fill' : Nat}
    (hPass : LatePass maxFrames drop fill drop' fill') : drop' ≤ drop := by
  induction hPass with
  | here => exact Nat.le_refl _
  | later hSome hMore hPass ih => exact ih.trans (Nat.sub_le _ _)

/-- All passes are right when all that is overdue has a size. -/
theorem skipsRight_of_lt {drop : Nat} (fill : Nat) (hFits : 0 < MAX_BUFFER_SIZE / frameSize)
    (hSize : drop * frameSize < 2 ^ abi.bits) : SkipsRight abi frameSize drop fill := by
  refine ⟨fun _ => hFits, fun drop' fill' hPass => ?_⟩
  have hPos : 0 < frameSize := by
    by_contra hZero
    rw [Nat.eq_zero_of_not_pos hZero, Nat.div_zero] at hFits
    exact absurd hFits (lt_irrefl 0)
  have hLess : drop' * frameSize < 2 ^ abi.bits :=
    (Nat.mul_le_mul_right frameSize hPass.drop_le).trans_lt hSize
  have hDrop : abi.size (drop' : Int) = drop' :=
    Abi.size_of_lt ((Nat.le_mul_of_pos_right drop' hPos).trans_lt hLess)
  have hProduct : abi.size ((drop' : Int) * frameSize) = drop' * frameSize := by
    rw [← Nat.cast_mul]
    exact Abi.size_of_lt hLess
  have hLarge : MAX_BUFFER_SIZE < drop' * frameSize ↔ MAX_BUFFER_SIZE / frameSize < drop' :=
    (Nat.div_lt_iff_lt_mul hPos).symm
  have hRequest : lateRequest abi frameSize drop' = min drop' (MAX_BUFFER_SIZE / frameSize) := by
    rw [lateRequest, hDrop, hProduct]
    split_ifs <;> omega
  exact ⟨by omega, by rw [hRequest]⟩

/-- What comes of right passes. -/
theorem lateCount_of_skipsRight {drop fill : Nat} (hRight : SkipsRight abi frameSize drop fill) :
    lateCount abi frameSize drop fill = min drop fill ∧
      ∀ read ∈ lateReads abi frameSize drop fill, read.1 ≤ MAX_BUFFER_SIZE / frameSize := by
  induction fill using Nat.strong_induction_on generalizing drop with
  | _ fill ih =>
      obtain ⟨hSmall, hFirst⟩ := hRight.passes drop fill (.here drop fill)
      have hLater := hRight.later
      have hFits := hRight.fits
      have hRequest := lateRequest_le abi frameSize drop
      rw [lateCount, lateReads_eq]
      dsimp only
      generalize hCount : min (lateRequest abi frameSize drop) fill = count at hFirst hLater ⊢
      split_ifs with hLast
      · rw [List.map_cons, List.map_nil, List.sum_singleton, List.forall_mem_singleton]
        exact ⟨by omega, hSmall⟩
      · obtain ⟨hRest, hReads⟩ := ih (fill - count) (by omega) (hLater (by omega) (by omega))
        rw [lateCount] at hRest
        rw [List.map_cons, List.sum_cons, hRest, List.forall_mem_cons]
        exact ⟨by omega, hSmall, hReads⟩

/-- A pass that asks for less than it should is followed by one that asks for nothing. -/
theorem requestRight_of_lateCount {drop fill : Nat}
    (hCount : lateCount abi frameSize drop fill = min drop fill)
    (hSmall : lateRequest abi frameSize drop ≤ MAX_BUFFER_SIZE / frameSize) :
    RequestRight abi frameSize drop fill := by
  refine ⟨hSmall, ?_⟩
  have hRequest := lateRequest_le abi frameSize drop
  by_contra hOther
  have hLess : lateRequest abi frameSize drop < min drop (MAX_BUFFER_SIZE / frameSize) := by omega
  have hAll : min (lateRequest abi frameSize drop) fill = lateRequest abi frameSize drop := by omega
  have hRest := lateReads_zero frameSize (lateRequest_rest hLess)
    (fill - lateRequest abi frameSize drop)
  rw [lateCount, lateReads_eq] at hCount
  dsimp only at hCount
  rw [hAll, hRest] at hCount
  split_ifs at hCount with hLast
  · rw [List.map_cons, List.map_nil, List.sum_singleton] at hCount
    omega
  · simp only [List.map_cons, List.map_nil, List.sum_cons, List.sum_nil] at hCount
    omega

theorem skipsRight_of_lateCount {drop fill : Nat}
    (hCount : lateCount abi frameSize drop fill = min drop fill)
    (hReads : ∀ read ∈ lateReads abi frameSize drop fill, read.1 ≤ MAX_BUFFER_SIZE / frameSize) :
    SkipsRight abi frameSize drop fill := by
  induction fill using Nat.strong_induction_on generalizing drop with
  | _ fill ih =>
      have hSmall : lateRequest abi frameSize drop ≤ MAX_BUFFER_SIZE / frameSize := by
        rw [lateReads_eq] at hReads
        dsimp only at hReads
        split_ifs at hReads with hLast
        · exact hReads _ List.mem_cons_self
        · exact hReads _ List.mem_cons_self
      have hFirst := requestRight_of_lateCount hCount hSmall
      have hBound := lateCount_le abi frameSize
        (drop - min (lateRequest abi frameSize drop) fill)
        (fill - min (lateRequest abi frameSize drop) fill)
      have hRequest := lateRequest_le abi frameSize drop
      rw [lateCount, lateReads_eq] at hCount
      rw [lateReads_eq] at hReads
      dsimp only at hCount hReads
      apply SkipsRight.of_passes _ hFirst
      · intro hSome hMore
        have hNotLast : ¬ (min (lateRequest abi frameSize drop) fill = 0 ∨
            min (lateRequest abi frameSize drop) fill = drop) := by omega
        rw [if_neg hNotLast] at hCount hReads
        rw [List.map_cons, List.sum_cons] at hCount
        rw [List.forall_mem_cons] at hReads
        refine ih _ (by omega) ?_ hReads.2
        rw [lateCount]
        omega
      · intro hSome
        by_contra hZero
        have hNone : min (lateRequest abi frameSize drop) fill = 0 := by omega
        rw [if_pos (Or.inl hNone), List.map_cons, List.map_nil, List.sum_singleton] at hCount
        omega

end Passes

namespace State

/-- How long ago the synchronised time was. -/
def lateness (clock : Clock) (player : State) : Int := -player.startDiff clock

/-- The frames that should have been played by now. -/
def dueFrames (clock : Clock) (player : State) : Nat :=
  (player.lateness clock * player.currentSamplesPerSec / SECOND_MICRO).toNat

/-- The start of playback removes what is due from the FIFO, or as much as there is, counts
it, and never asks for more than `MAX_BUFFER_SIZE` bytes. -/
structure SkipsOverdue (abi : Abi) (clock : Clock) (player : State) : Prop where
  removed : (player.skipped abi clock).length = min (player.dueFrames clock) player.fifo.fill
  left : (player.decided abi clock).fifo.contents =
    player.fifo.contents.drop (min (player.dueFrames clock) player.fifo.fill)
  counted : (player.decided abi clock).currentQueuedFrames =
    player.currentQueuedFrames + (min (player.dueFrames clock) player.fifo.fill : Nat)
  requests : ∀ read ∈
    lateReads abi (player.frameSize abi) (player.overdueFrames clock) player.fifo.fill,
      read.1 ≤ MAX_BUFFER_SIZE / player.frameSize abi

/-- Machine arithmetic does no harm: the product is as good as the true one, and all passes
ask for the right number of frames. With a negative product there is one pass. -/
def CountsOverdue (abi : Abi) (clock : Clock) (player : State) : Prop :=
  let drop := player.overdueFrames clock
  if 0 ≤ drop then
    min drop.toNat player.fifo.fill = min (player.dueFrames clock) player.fifo.fill ∧
      SkipsRight abi (player.frameSize abi) drop.toNat player.fifo.fill
  else
    lateRequest abi (player.frameSize abi) drop ≤ MAX_BUFFER_SIZE / player.frameSize abi ∧
      min (lateRequest abi (player.frameSize abi) drop) player.fifo.fill =
        min (player.dueFrames clock) player.fifo.fill

section Start

variable {abi : Abi} {clock : Clock} {player : State}

/-- A start that is late by more than the accuracy of the clock. -/
structure StartsLate (clock : Clock) (player : State) : Prop where
  decides : player.Decides
  accuracy : 0 ≤ (player.decideStart clock).accuracy
  late : (player.decideStart clock).accuracy < player.lateness clock

theorem int64_le {x : Int} (hNonneg : 0 ≤ x) : int64 x ≤ x := by
  have hMod : x % (2 ^ 64 : Nat) ≤ x := by
    obtain ⟨n, rfl⟩ := Int.eq_ofNat_of_zero_le hNonneg
    exact_mod_cast Nat.mod_le n (2 ^ 64)
  unfold int64 toSigned Int.bmod
  dsimp only
  split_ifs
  · exact hMod
  · have hWidth : (0 : Int) ≤ (2 ^ 64 : Nat) := Int.natCast_nonneg _
    omega

theorem tdiv_second_le {x y : Int} (hLe : x ≤ y) (hNonneg : 0 ≤ y) :
    x.tdiv SECOND_MICRO ≤ y / SECOND_MICRO := by
  simp only [SECOND_MICRO]
  rcases lt_or_ge x 0 with hNeg | hPos
  · have hOpposite : 0 ≤ (-x).tdiv 1000000 := Int.tdiv_nonneg (by omega) (by decide)
    rw [Int.neg_tdiv] at hOpposite
    omega
  · rw [Int.tdiv_eq_ediv_of_nonneg hPos]
    omega

/-- Overflow only makes the product smaller. -/
theorem overdueFrames_le (hLate : player.StartsLate clock) :
    player.overdueFrames clock ≤ player.dueFrames clock := by
  have hLateness : 0 ≤ player.lateness clock := (hLate.accuracy.trans_lt hLate.late).le
  have hProduct : 0 ≤ player.lateness clock * player.currentSamplesPerSec :=
    mul_nonneg hLateness (Int.natCast_nonneg _)
  have hWrapped := int64_le hProduct
  have hDue : (player.dueFrames clock : Int) =
      player.lateness clock * player.currentSamplesPerSec / SECOND_MICRO :=
    Int.toNat_of_nonneg (Int.ediv_nonneg hProduct (by decide))
  rw [hDue]
  show (int64 (player.lateness clock * player.currentSamplesPerSec)).tdiv SECOND_MICRO ≤ _
  exact tdiv_second_le hWrapped hProduct

/-- The loop that is run. -/
theorem startPlayback_late (abi : Abi) (hLate : player.StartsLate clock) (address : Nat) :
    player.startPlayback abi clock address =
      (player.decideStart clock).dropLate abi address (player.overdueFrames clock) := by
  have hDecides : (!player.currentIsPlaying && player.currentSyncSystemTimeUs ≠ 0) = true := by
    rw [hLate.decides.1, Bool.not_false, Bool.true_and]
    exact decide_eq_true hLate.decides.2
  have hOverdue : player.startDiff clock < -(player.decideStart clock).accuracy := by
    have hLateness := hLate.late
    rw [lateness] at hLateness
    omega
  unfold startPlayback
  rw [if_pos hDecides]
  exact if_pos hOverdue

/-- What the start decision leaves, in terms of the passes of the loop. -/
theorem decided_late (abi : Abi) (hLate : player.StartsLate clock) :
    (player.skipped abi clock).length =
        lateCount abi (player.frameSize abi) (player.overdueFrames clock) player.fifo.fill ∧
      (player.decided abi clock).fifo.contents =
        player.fifo.contents.drop (player.skipped abi clock).length ∧
      (player.decided abi clock).currentQueuedFrames =
        player.currentQueuedFrames + (player.skipped abi clock).length := by
  have hNext : player.nextBuffer.StartsLate clock := ⟨hLate.decides, hLate.accuracy, hLate.late⟩
  have hLoop := startPlayback_late abi hNext (2 * player.nextBuffer.bufPtr abi)
  have hAccounts : Accounts True player (player.skipped abi clock) (player.decided abi clock) :=
    accounts_decided abi clock player
  refine ⟨?_, ?_, hAccounts.queued trivial⟩
  · rw [skipped, hLoop]
    exact (dropLate_reads abi _ _ (player.nextBuffer.decideStart clock)).2
  · rw [← hAccounts.frames, List.drop_left]

/-- A negative number of frames is one pass. -/
theorem lateReads_neg {frameSize : Nat} {drop : Int} (hNeg : drop < 0) (fill : Nat) :
    lateReads abi frameSize drop fill =
      [(lateRequest abi frameSize drop, min (lateRequest abi frameSize drop) fill)] := by
  rw [lateReads]
  split_ifs with hNone hMore
  · rw [hNone]
  · omega
  · rfl

theorem skipsOverdue_iff_lateCount (hLate : player.StartsLate clock) :
    player.SkipsOverdue abi clock ↔
      lateCount abi (player.frameSize abi) (player.overdueFrames clock) player.fifo.fill =
          min (player.dueFrames clock) player.fifo.fill ∧
        ∀ read ∈
          lateReads abi (player.frameSize abi) (player.overdueFrames clock) player.fifo.fill,
            read.1 ≤ MAX_BUFFER_SIZE / player.frameSize abi := by
  obtain ⟨hLength, hLeft, hQueued⟩ := decided_late abi hLate
  constructor
  · intro hSkips
    exact ⟨hLength.symm.trans hSkips.removed, hSkips.requests⟩
  · rintro ⟨hCount, hReads⟩
    rw [hCount] at hLength
    rw [hLength] at hLeft hQueued
    exact ⟨hLength, hLeft, hQueued, hReads⟩

/-- A late start skips exactly what is overdue when machine arithmetic does no harm. -/
theorem skipsOverdue_iff (hLate : player.StartsLate clock) :
    player.SkipsOverdue abi clock ↔ player.CountsOverdue abi clock := by
  rw [skipsOverdue_iff_lateCount hLate, CountsOverdue]
  have hLess := overdueFrames_le hLate
  generalize player.overdueFrames clock = drop at hLess ⊢
  split_ifs with hNonneg
  · obtain ⟨frames, rfl⟩ := Int.eq_ofNat_of_zero_le hNonneg
    have hBound := lateCount_le abi (player.frameSize abi) frames player.fifo.fill
    rw [Int.toNat_natCast]
    constructor
    · rintro ⟨hCount, hReads⟩
      have hSame : min frames player.fifo.fill = min (player.dueFrames clock) player.fifo.fill := by
        omega
      exact ⟨hSame, skipsRight_of_lateCount (hCount.trans hSame.symm) hReads⟩
    · rintro ⟨hSame, hRight⟩
      obtain ⟨hCount, hReads⟩ := lateCount_of_skipsRight hRight
      exact ⟨hCount.trans hSame, hReads⟩
  · rw [lateCount, lateReads_neg (by omega), List.map_cons, List.map_nil, List.sum_singleton,
      List.forall_mem_singleton]
    exact and_comm

end Start

section WrongClock

/-- A stereo stream of 48 kHz whose start was due, with one frame in the FIFO. -/
def dueStart : State :=
  { State.boot 48000 480 with
    currentSamplesPerSec := 48000
    currentNumChannels := 2
    currentSyncSystemTimeUs := 1
    fifo := ⟨48000 * 300, [[1, 2, 3, 4]], by decide⟩
    samplesPerSec_pos := by decide }

/-- The same start with 2500 frames in the FIFO. -/
def filledStart : State :=
  { dueStart with fifo := ⟨48000 * 300, List.replicate 2500 [1, 2, 3, 4],
      List.length_replicate.trans_le (by decide)⟩ }

/-- A start that is late by 50 ms skips 2400 frames, which is more than one pass can. -/
theorem skipsOverdue_filledStart :
    filledStart.dueFrames ⟨50001, 10000⟩ = 2400 ∧
      filledStart.SkipsOverdue .ilp32 ⟨50001, 10000⟩ := by
  have hLate : filledStart.StartsLate ⟨50001, 10000⟩ := ⟨by decide, by decide, by decide⟩
  have hDrop : filledStart.overdueFrames ⟨50001, 10000⟩ = 2400 := by decide
  have hDue : filledStart.dueFrames ⟨50001, 10000⟩ = 2400 := by decide
  refine ⟨hDue, (skipsOverdue_iff hLate).mpr ?_⟩
  unfold CountsOverdue
  rw [hDrop, hDue]
  exact ⟨rfl, skipsRight_of_lt _ (by decide) (by decide)⟩

/-- A clock that is wrong by six hours and a quarter: 2^30 frames of 4 bytes pass for none, and
the FIFO is asked for all of them. -/
theorem not_skipsOverdue_dueStart :
    dueStart.overdueFrames ⟨22369621335, 10000⟩ = 2 ^ 30 ∧
      ¬ dueStart.SkipsOverdue .ilp32 ⟨22369621335, 10000⟩ := by
  have hDrop : dueStart.overdueFrames ⟨22369621335, 10000⟩ = 2 ^ 30 := by decide
  have hRequest : lateRequest .ilp32 4 (2 ^ 30) = 2 ^ 30 := by decide
  refine ⟨hDrop, fun hSkips => ?_⟩
  have hReads := hSkips.requests
  have hSize : dueStart.frameSize .ilp32 = 4 := rfl
  have hFill : dueStart.fifo.fill = 1 := rfl
  rw [hDrop, hSize, hFill, lateReads, hRequest] at hReads
  exact absurd (hReads (2 ^ 30, 1) List.mem_cons_self) (by decide)

end WrongClock

end State

end AudioSync.Player
