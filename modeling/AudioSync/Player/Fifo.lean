import AudioSync.Basic
import AudioSync.Lib.BoundedQueue
import AudioSync.Lib.Ring

/-! `audio_utils_fifo`, a ring with two 32 bit indices, and the bounded queue that
it implements. -/
namespace AudioSync.Player

open Ring

/-- `roundup`: a power of two that is not smaller, if there is one in 32 bits. -/
def roundup (v : Nat) : Nat :=
  let v := if v = 0 then 1 else v
  let lz := 31 - v.log2
  let rounded := 0x80000000 >>> lz
  if rounded < v ∧ 0 < lz then rounded <<< 1 else rounded

/-- `audio_utils_fifo`. The buffer is addressed by frames; the indices also count
the `mFudgeFactor` frames that a turn is short of a power of two. -/
structure AudioUtilsFifo (α : Type) where
  mFrameCount : Nat
  mFrameCountP2 : Nat
  mFudgeFactor : Nat
  mBuffer : Nat → α
  mFront : BitVec 32
  mRear : BitVec 32

namespace AudioUtilsFifo

variable {α : Type}

def init (frameCount : Nat) (buffer : Nat → α) : AudioUtilsFifo α :=
  ⟨frameCount, roundup frameCount, roundup frameCount - frameCount, buffer, 0, 0⟩

/-- `mFrameCountP2 - 1`, which takes the slot out of an index. -/
def mask (fifo : AudioUtilsFifo α) : BitVec 32 := BitVec.ofNat 32 (fifo.mFrameCountP2 - 1)

/-- `audio_utils_fifo_sum`; `none` is a failed assertion, here and below. -/
def sum (fifo : AudioUtilsFifo α) (index increment : BitVec 32) : Option (BitVec 32) :=
  if fifo.mFudgeFactor ≠ 0 then
    if (index &&& fifo.mask).toNat < fifo.mFrameCount ∧
        increment.toNat ≤ fifo.mFrameCountP2 then
      let increment :=
        if fifo.mFrameCount ≤ ((index &&& fifo.mask) + increment).toNat then
          increment + BitVec.ofNat 32 fifo.mFudgeFactor
        else increment
      let index := index + increment
      if (index &&& fifo.mask).toNat < fifo.mFrameCount then some index else none
    else none
  else some (index + increment)

/-- `audio_utils_fifo_diff`: the frames between two indices. -/
def diff (fifo : AudioUtilsFifo α) (rear front : BitVec 32) : Option Nat :=
  let genDiff := (rear &&& ~~~fifo.mask) - (front &&& ~~~fifo.mask)
  let diff :=
    if fifo.mFudgeFactor ≠ 0 ∧ genDiff ≠ 0 then
      if genDiff = BitVec.ofNat 32 fifo.mFrameCountP2 then
        some (rear - front - BitVec.ofNat 32 fifo.mFudgeFactor)
      else none
    else some (rear - front)
  diff.bind fun diff =>
    if 0 ≤ diff.toInt ∧ diff.toInt ≤ (BitVec.ofNat 32 fifo.mFrameCount).toInt then
      some diff.toNat
    else none

/-- `audio_utils_fifo_write`, with the number of frames it took. -/
def write (fifo : AudioUtilsFifo α) (buffer : List α) : Option (AudioUtilsFifo α × Nat) :=
  (fifo.diff fifo.mRear fifo.mFront).bind fun filled =>
    let availToWrite := min (fifo.mFrameCount - filled) buffer.length
    let rear := (fifo.mRear &&& fifo.mask).toNat
    let part1 := min (fifo.mFrameCount - rear) availToWrite
    if 0 < part1 then
      let part2 := availToWrite - part1
      let cells := blit fifo.mBuffer rear (buffer.take part1)
      (fifo.sum fifo.mRear (BitVec.ofNat 32 availToWrite)).map fun mRear =>
        ({ fifo with
            mBuffer := blit cells 0 ((buffer.drop part1).take part2)
            mRear := mRear }, availToWrite)
    else some (fifo, availToWrite)

/-- `audio_utils_fifo_read`, with the frames it copied. -/
def read (fifo : AudioUtilsFifo α) (count : Nat) : Option (AudioUtilsFifo α × List α) :=
  (fifo.diff fifo.mRear fifo.mFront).bind fun filled =>
    let availToRead := min filled count
    let front := (fifo.mFront &&& fifo.mask).toNat
    let part1 := min (fifo.mFrameCount - front) availToRead
    if 0 < part1 then
      let part2 := availToRead - part1
      (fifo.sum fifo.mFront (BitVec.ofNat 32 availToRead)).map fun mFront =>
        ({ fifo with mFront := mFront },
          (List.range part1).map (fun i => fifo.mBuffer (front + i)) ++
            (List.range part2).map fifo.mBuffer)
    else some (fifo, [])

end AudioUtilsFifo

section Roundup

/-- Up to 2^31 the result is a power of two that is large enough. -/
theorem roundup_eq_two_pow {v : Nat} (hPos : 0 < v) (hLt : v < 2 ^ 31) :
    ∃ e ≤ 31, roundup v = 2 ^ e ∧ v ≤ 2 ^ e := by
  have hLog : v.log2 < 31 := (Nat.log2_lt hPos.ne').mpr hLt
  have hLow : 2 ^ v.log2 ≤ v := Nat.log2_self_le hPos.ne'
  have hHigh : v < 2 ^ (v.log2 + 1) := Nat.lt_log2_self
  have hShift : 0x80000000 >>> (31 - v.log2) = 2 ^ v.log2 := by
    rw [Nat.shiftRight_eq_div_pow, show 0x80000000 = 2 ^ 31 from rfl,
      Nat.pow_div (by omega) (by decide), Nat.sub_sub_self hLog.le]
  simp only [roundup, if_neg hPos.ne', hShift]
  by_cases hExact : 2 ^ v.log2 < v
  · refine ⟨v.log2 + 1, hLog, ?_, hHigh.le⟩
    rw [if_pos ⟨hExact, by omega⟩, Nat.shiftLeft_eq, pow_one, pow_succ]
  · refine ⟨v.log2, hLog.le, ?_, by omega⟩
    rw [if_neg fun h => hExact h.1]

end Roundup

namespace AudioUtilsFifo

variable {α : Type} {fifo : AudioUtilsFifo α}

/-- What `init` fixes once and for all. -/
structure Shaped (fifo : AudioUtilsFifo α) : Prop where
  count_pos : 0 < fifo.mFrameCount
  count_lt : fifo.mFrameCount < 2 ^ 31
  turn : ∃ e ≤ 31, fifo.mFrameCountP2 = 2 ^ e
  count_le : fifo.mFrameCount ≤ fifo.mFrameCountP2
  fudge : fifo.mFudgeFactor = fifo.mFrameCountP2 - fifo.mFrameCount

theorem shaped_init {frameCount : Nat} (buffer : Nat → α) (hPos : 0 < frameCount)
    (hLt : frameCount < 2 ^ 31) : (init frameCount buffer).Shaped := by
  obtain ⟨e, hBound, hRoundup, hLarge⟩ := roundup_eq_two_pow hPos hLt
  exact ⟨hPos, hLt, ⟨e, hBound, hRoundup⟩, hLarge.trans_eq hRoundup.symm, rfl⟩

/-- The index of frame number `n` since `init`: every turn around the buffer advances
it by `mFrameCountP2`. -/
def index (fifo : AudioUtilsFifo α) (n : Nat) : BitVec 32 :=
  BitVec.ofNat 32 (n / fifo.mFrameCount * fifo.mFrameCountP2 + n % fifo.mFrameCount)

section Index

theorem toNat_ofNat_of_lt {n : Nat} (hLt : n < 2 ^ 32) : (BitVec.ofNat 32 n).toNat = n := by
  rw [BitVec.toNat_ofNat, Nat.mod_eq_of_lt hLt]

theorem Shaped.turn_le (h : fifo.Shaped) : fifo.mFrameCountP2 ≤ 2 ^ 31 := by
  obtain ⟨e, hBound, hTurn⟩ := h.turn
  rw [hTurn]
  exact Nat.pow_le_pow_right (by decide) hBound

theorem ofNat_add_sub (base d : Nat) :
    BitVec.ofNat 32 (base + d) - BitVec.ofNat 32 base = BitVec.ofNat 32 d := by
  rw [BitVec.ofNat_add, BitVec.add_comm, BitVec.add_sub_cancel]

/-- The mask takes the slot out of an index. -/
theorem Shaped.index_and_mask (h : fifo.Shaped) (n : Nat) :
    fifo.index n &&& fifo.mask = BitVec.ofNat 32 (n % fifo.mFrameCount) := by
  obtain ⟨e, hBound, hTurn⟩ := h.turn
  have hSlot := Nat.mod_lt n h.count_pos
  have hCount := h.count_le
  have hWidth : 2 ^ e ∣ 2 ^ 32 := Nat.pow_dvd_pow 2 (by omega)
  have hPos : 0 < 2 ^ e := Nat.two_pow_pos e
  have hSmall : 2 ^ e ≤ 2 ^ 31 := Nat.pow_le_pow_right (by decide) hBound
  have hLt : n % fifo.mFrameCount < 2 ^ e := by omega
  apply BitVec.eq_of_toNat_eq
  rw [index, mask, BitVec.toNat_and, BitVec.toNat_ofNat, BitVec.toNat_ofNat, BitVec.toNat_ofNat,
    hTurn, Nat.mod_eq_of_lt (by omega : 2 ^ e - 1 < 2 ^ 32), Nat.and_two_pow_sub_one_eq_mod,
    Nat.mod_mod_of_dvd _ hWidth, Nat.mul_add_mod_self_right, Nat.mod_eq_of_lt hLt,
    Nat.mod_eq_of_lt (by omega : n % fifo.mFrameCount < 2 ^ 32)]

theorem Shaped.toNat_index_and_mask (h : fifo.Shaped) (n : Nat) :
    (fifo.index n &&& fifo.mask).toNat = n % fifo.mFrameCount := by
  have hSlot := Nat.mod_lt n h.count_pos
  have hCount := h.count_lt
  rw [h.index_and_mask, toNat_ofNat_of_lt (by omega)]

/-- What the mask leaves over counts the turns. -/
theorem Shaped.index_and_not_mask (h : fifo.Shaped) (n : Nat) :
    fifo.index n &&& ~~~fifo.mask =
      BitVec.ofNat 32 (n / fifo.mFrameCount * fifo.mFrameCountP2) := by
  have hSplit : fifo.index n &&& ~~~fifo.mask = fifo.index n - (fifo.index n &&& fifo.mask) := by
    rw [eq_comm, BitVec.sub_eq_iff_eq_add, BitVec.add_eq_or_of_and_eq_zero]
    · ext i hi
      grind
    · ext i hi
      grind
  rw [hSplit, h.index_and_mask, index, BitVec.ofNat_add, BitVec.add_sub_cancel]

/-- Frame numbers a full turn or less apart have indices that differ by this. -/
theorem Shaped.index_add (h : fifo.Shaped) (n : Nat) {k : Nat} (hTurn : k ≤ fifo.mFrameCount) :
    fifo.index (n + k) =
      if n % fifo.mFrameCount + k < fifo.mFrameCount then fifo.index n + BitVec.ofNat 32 k
      else fifo.index n + (BitVec.ofNat 32 k + BitVec.ofNat 32 fifo.mFudgeFactor) := by
  have hCount := h.count_le
  have hFudge := h.fudge
  rw [index, index, add_mod_of_le h.count_pos hTurn, add_div_of_le h.count_pos hTurn,
    ← BitVec.ofNat_add, ← BitVec.ofNat_add, ← BitVec.ofNat_add]
  split_ifs
  · rw [Nat.add_assoc]
  · rw [Nat.succ_mul]
    exact congrArg _ (by omega)

theorem toInt_ofNat {n : Nat} (hLt : n < 2 ^ 31) : (BitVec.ofNat 32 n).toInt = n := by
  have hNat : (BitVec.ofNat 32 n).toNat = n := toNat_ofNat_of_lt (by omega)
  rw [BitVec.toInt_eq_toNat_of_lt (by omega), hNat]

/-- The assertions of `sum` hold, and it moves an index by a number of frames. -/
theorem Shaped.sum_index (h : fifo.Shaped) (n : Nat) {k : Nat} (hTurn : k ≤ fifo.mFrameCount) :
    fifo.sum (fifo.index n) (BitVec.ofNat 32 k) = some (fifo.index (n + k)) := by
  have hSlot := Nat.mod_lt n h.count_pos
  have hSlot' := Nat.mod_lt (n + k) h.count_pos
  have hLt := h.count_lt
  have hCount := h.count_le
  have hIncrement : (BitVec.ofNat 32 k).toNat = k := toNat_ofNat_of_lt (by omega)
  have hWraps : ((fifo.index n &&& fifo.mask) + BitVec.ofNat 32 k).toNat =
      n % fifo.mFrameCount + k := by
    rw [h.index_and_mask, ← BitVec.ofNat_add, toNat_ofNat_of_lt (by omega)]
  unfold sum
  by_cases hFudge : fifo.mFudgeFactor = 0
  · have hAdd := h.index_add n hTurn
    rw [hFudge, BitVec.add_zero, ite_self] at hAdd
    rw [if_neg (by simpa using hFudge), hAdd]
  · have hNext : fifo.index n + (if fifo.mFrameCount ≤ n % fifo.mFrameCount + k then
        BitVec.ofNat 32 k + BitVec.ofNat 32 fifo.mFudgeFactor else BitVec.ofNat 32 k) =
        fifo.index (n + k) := by
      rw [h.index_add n hTurn]
      split_ifs <;> first | rfl | omega
    simp only [if_pos hFudge, h.toNat_index_and_mask, hIncrement, hWraps, hNext]
    rw [if_pos ⟨hSlot, by omega⟩, if_pos hSlot']

/-- The assertions of `diff` hold, and it counts the frames between two indices. -/
theorem Shaped.diff_index (h : fifo.Shaped) {front rear : Nat} (hOrder : front ≤ rear)
    (hFull : rear ≤ front + fifo.mFrameCount) :
    fifo.diff (fifo.index rear) (fifo.index front) = some (rear - front) := by
  obtain ⟨d, rfl⟩ := Nat.exists_eq_add_of_le hOrder
  have hTurn : d ≤ fifo.mFrameCount := by omega
  have hLt := h.count_lt
  have hCount := h.count_le
  have hLarge := h.turn_le
  have hPos := h.count_pos
  have hGen : (fifo.index (front + d) &&& ~~~fifo.mask) - (fifo.index front &&& ~~~fifo.mask) =
      if front % fifo.mFrameCount + d < fifo.mFrameCount then 0
      else BitVec.ofNat 32 fifo.mFrameCountP2 := by
    rw [h.index_and_not_mask, h.index_and_not_mask, add_div_of_le hPos hTurn]
    split_ifs
    · exact BitVec.sub_self _
    · rw [Nat.succ_mul, ofNat_add_sub]
  have hTurnNe : BitVec.ofNat 32 fifo.mFrameCountP2 ≠ 0 := by
    intro hZero
    have hNat := congrArg BitVec.toNat hZero
    rw [toNat_ofNat_of_lt (by omega)] at hNat
    change fifo.mFrameCountP2 = 0 at hNat
    omega
  have hRange : 0 ≤ (BitVec.ofNat 32 d).toInt ∧
      (BitVec.ofNat 32 d).toInt ≤ (BitVec.ofNat 32 fifo.mFrameCount).toInt := by
    rw [toInt_ofNat (by omega), toInt_ofNat hLt]
    omega
  have hNat : (BitVec.ofNat 32 d).toNat = d := toNat_ofNat_of_lt (by omega)
  have hDone : (some (BitVec.ofNat 32 d)).bind (fun diff : BitVec 32 =>
      if 0 ≤ diff.toInt ∧ diff.toInt ≤ (BitVec.ofNat 32 fifo.mFrameCount).toInt then
        some diff.toNat
      else none) = some (front + d - front) := by
    rw [Option.bind_some, if_pos hRange, hNat, Nat.add_sub_cancel_left]
  unfold diff
  rw [hGen, ← hDone, h.index_add front hTurn]
  refine congrArg (Option.bind · _) ?_
  by_cases hWraps : front % fifo.mFrameCount + d < fifo.mFrameCount
  · simp only [if_pos hWraps, ne_eq, not_true_eq_false, and_false, if_false]
    rw [BitVec.add_comm, BitVec.add_sub_cancel]
  · simp only [if_neg hWraps, ne_eq, hTurnNe, not_false_eq_true, and_true, if_true]
    by_cases hFudge : fifo.mFudgeFactor = 0
    · rw [if_neg (by simpa using hFudge), hFudge, BitVec.add_zero, BitVec.add_comm,
        BitVec.add_sub_cancel]
    · rw [if_pos hFudge, BitVec.add_comm, BitVec.add_sub_cancel, BitVec.add_sub_cancel]

end Index

/-- The frames numbered from `front` to `rear` are what the queue holds. -/
structure Refines (fifo : AudioUtilsFifo α) (queue : BoundedQueue α) (front rear : Nat) : Prop
    where
  shaped : fifo.Shaped
  capacity : queue.capacity = fifo.mFrameCount
  mFront : fifo.mFront = fifo.index front
  mRear : fifo.mRear = fifo.index rear
  order : front ≤ rear
  contents : queue.contents = window fifo.mFrameCount fifo.mBuffer front (rear - front)

section Refines

variable {queue : BoundedQueue α} {front rear : Nat}

theorem refines_init {frameCount : Nat} (buffer : Nat → α) (hPos : 0 < frameCount)
    (hLt : frameCount < 2 ^ 31) :
    (init frameCount buffer).Refines (BoundedQueue.empty frameCount) 0 0 where
  shaped := shaped_init buffer hPos hLt
  capacity := rfl
  mFront := by simp [index, init]
  mRear := by simp [index, init]
  order := Nat.le_refl 0
  contents := rfl

theorem Refines.length_contents (h : fifo.Refines queue front rear) :
    queue.contents.length = rear - front := by
  rw [h.contents, window_length]

theorem Refines.rear_le (h : fifo.Refines queue front rear) :
    rear ≤ front + fifo.mFrameCount := by
  have hFits := queue.fits
  rw [h.length_contents, h.capacity] at hFits
  omega

theorem Refines.diff (h : fifo.Refines queue front rear) :
    fifo.diff fifo.mRear fifo.mFront = some (rear - front) := by
  rw [h.mRear, h.mFront]
  exact h.shaped.diff_index h.order h.rear_le

theorem Refines.free (h : fifo.Refines queue front rear) :
    queue.free = fifo.mFrameCount - (rear - front) := by
  rw [BoundedQueue.free, h.capacity, h.length_contents]

/-- A write takes what the queue takes. -/
theorem Refines.write (h : fifo.Refines queue front rear) (offered : List α) :
    ∃ next, fifo.write offered = some (next, (queue.write offered).2) ∧
      next.Refines (queue.write offered).1 front (rear + (queue.write offered).2) := by
  have hPos := h.shaped.count_pos
  have hSlot := Nat.mod_lt rear hPos
  have hFull := h.rear_le
  have hOrder := h.order
  have hAvail : (queue.write offered).2 = min (fifo.mFrameCount - (rear - front)) offered.length := by
    rw [← h.free]
    rfl
  have hContents : (queue.write offered).1.contents =
      queue.contents ++ offered.take (queue.write offered).2 := by
    rw [BoundedQueue.write_contents, hAvail, ← h.free, ← List.take_eq_take_min]
  generalize (queue.write offered).2 = avail at hAvail hContents ⊢
  have hMask : (fifo.mRear &&& fifo.mask).toNat = rear % fifo.mFrameCount := by
    rw [h.mRear, h.shaped.toNat_index_and_mask]
  simp only [AudioUtilsFifo.write, h.diff, Option.bind_some, ← hAvail, hMask]
  by_cases hSome : 0 < min (fifo.mFrameCount - rear % fifo.mFrameCount) avail
  · have hStore : blit (blit fifo.mBuffer (rear % fifo.mFrameCount)
          (offered.take (min (fifo.mFrameCount - rear % fifo.mFrameCount) avail))) 0
          ((offered.drop (min (fifo.mFrameCount - rear % fifo.mFrameCount) avail)).take
            (avail - min (fifo.mFrameCount - rear % fifo.mFrameCount) avail)) =
        store fifo.mFrameCount fifo.mBuffer rear (offered.take avail) := by
      have hLength : (offered.take avail).length = avail := by
        rw [List.length_take]
        omega
      rw [store, hLength, List.take_take, List.drop_take, Nat.min_eq_left (Nat.min_le_right _ _)]
    rw [if_pos hSome, h.mRear, h.shaped.sum_index rear (by omega), Option.map_some, hStore]
    refine ⟨_, rfl, ⟨h.shaped.count_pos, h.shaped.count_lt, h.shaped.turn, h.shaped.count_le,
      h.shaped.fudge⟩, h.capacity, h.mFront, rfl, by omega, ?_⟩
    have hLength : (offered.take avail).length = avail := by
      rw [List.length_take]
      omega
    have hWindow : window fifo.mFrameCount
        (store fifo.mFrameCount fifo.mBuffer rear (offered.take avail)) front
          (rear + (offered.take avail).length - front) =
        window fifo.mFrameCount fifo.mBuffer front (rear - front) ++ offered.take avail :=
      window_store hPos hOrder (by rw [hLength]; omega)
    rw [hLength] at hWindow
    rw [hContents, h.contents]
    exact hWindow.symm
  · have hZero : avail = 0 := by omega
    subst hZero
    rw [if_neg hSome]
    refine ⟨fifo, rfl, h.shaped, h.capacity, h.mFront, h.mRear, h.order, ?_⟩
    rw [hContents, List.take_zero, List.append_nil]
    exact h.contents

/-- A read returns what the queue returns. -/
theorem Refines.read (h : fifo.Refines queue front rear) (count : Nat) :
    ∃ next, fifo.read count = some (next, (queue.read count).2) ∧
      next.Refines (queue.read count).1 (front + min (rear - front) count) rear := by
  have hPos := h.shaped.count_pos
  have hSlot := Nat.mod_lt front hPos
  have hFull := h.rear_le
  have hOrder := h.order
  have hFrames : (queue.read count).2 =
      fetch fifo.mFrameCount fifo.mBuffer front (min (rear - front) count) := by
    rw [fetch_eq_window hPos (by omega)]
    change queue.contents.take count = _
    rw [h.contents, window_take, Nat.min_comm]
  have hContents : (queue.read count).1.contents = window fifo.mFrameCount fifo.mBuffer
      (front + min (rear - front) count) (rear - (front + min (rear - front) count)) := by
    change queue.contents.drop count = _
    rw [h.contents, window_drop]
    rcases Nat.le_total count (rear - front) with hLess | hMore
    · rw [Nat.min_eq_right hLess, Nat.sub_sub]
    · have hNone : rear - (front + (rear - front)) = 0 := by omega
      rw [Nat.sub_eq_zero_of_le hMore, Nat.min_eq_left hMore, hNone, window_zero, window_zero]
  have hMask : (fifo.mFront &&& fifo.mask).toNat = front % fifo.mFrameCount := by
    rw [h.mFront, h.shaped.toNat_index_and_mask]
  simp only [AudioUtilsFifo.read, h.diff, Option.bind_some, hMask]
  by_cases hSome : 0 < min (fifo.mFrameCount - front % fifo.mFrameCount) (min (rear - front) count)
  · rw [if_pos hSome, h.mFront, h.shaped.sum_index front (by omega), Option.map_some, hFrames]
    exact ⟨_, rfl, ⟨h.shaped.count_pos, h.shaped.count_lt, h.shaped.turn, h.shaped.count_le,
      h.shaped.fudge⟩, h.capacity, rfl, h.mRear, by omega, hContents⟩
  · have hZero : min (rear - front) count = 0 := by omega
    have hNil : fetch fifo.mFrameCount fifo.mBuffer front 0 = [] := by simp [fetch]
    rw [hZero] at hFrames hContents
    rw [if_neg hSome, hFrames, hNil, hZero]
    exact ⟨fifo, rfl, h.shaped, h.capacity, h.mFront, h.mRear, h.order, hContents⟩

end Refines

end AudioUtilsFifo

/-- A call of one side of the FIFO. -/
inductive FifoCall (α : Type) where
  | write (offered : List α)
  | read (count : Nat)

/-- What the call returned: how many frames were taken, or the frames themselves. -/
inductive FifoAnswer (α : Type) where
  | written (count : Nat)
  | frames (copied : List α)

section Answers

variable {α : Type}

/-- The answers to a sequence of calls; `none` is a failed assertion. -/
def AudioUtilsFifo.answers (fifo : AudioUtilsFifo α) :
    List (FifoCall α) → Option (List (FifoAnswer α))
  | [] => some []
  | .write offered :: rest => (fifo.write offered).bind fun done =>
      (done.1.answers rest).map (.written done.2 :: ·)
  | .read count :: rest => (fifo.read count).bind fun done =>
      (done.1.answers rest).map (.frames done.2 :: ·)

/-- The answers of a queue. -/
def queueAnswers (queue : BoundedQueue α) : List (FifoCall α) → List (FifoAnswer α)
  | [] => []
  | .write offered :: rest =>
      .written (queue.write offered).2 :: queueAnswers (queue.write offered).1 rest
  | .read count :: rest =>
      .frames (queue.read count).2 :: queueAnswers (queue.read count).1 rest

theorem AudioUtilsFifo.Refines.answers {fifo : AudioUtilsFifo α} {queue : BoundedQueue α}
    {front rear : Nat} (h : fifo.Refines queue front rear) (calls : List (FifoCall α)) :
    fifo.answers calls = some (queueAnswers queue calls) := by
  induction calls generalizing fifo queue front rear with
  | nil => rfl
  | cons call rest ih =>
      cases call with
      | write offered =>
          obtain ⟨next, hWrite, hNext⟩ := h.write offered
          simp only [AudioUtilsFifo.answers, hWrite, Option.bind_some, ih hNext, Option.map_some,
            queueAnswers]
      | read count =>
          obtain ⟨next, hRead, hNext⟩ := h.read count
          simp only [AudioUtilsFifo.answers, hRead, Option.bind_some, ih hNext, Option.map_some,
            queueAnswers]

/-- In any sequence of calls, however often the indices wrap around, a FIFO that has
been initialised answers like a queue of its capacity. -/
theorem answers_init {frameCount : Nat} (buffer : Nat → α) (hPos : 0 < frameCount)
    (hLt : frameCount < 2 ^ 31) (calls : List (FifoCall α)) :
    (AudioUtilsFifo.init frameCount buffer).answers calls =
      some (queueAnswers (BoundedQueue.empty frameCount) calls) :=
  (AudioUtilsFifo.refines_init buffer hPos hLt).answers calls

end Answers

end AudioSync.Player
