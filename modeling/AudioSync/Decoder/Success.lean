import AudioSync.Decoder.EnqueueBuffer

/-! What `AMEDIA_OK` says about the data. The codec answers every attempt as it likes;
the caller sees the status only. -/
namespace AudioSync.Decoder

open MachineInt

/-- The codec's answers to the attempts of one call, without the contents of its memory:
the capacity of the buffer it lends, if it has one, and the status of queueing it. -/
structure Answers where
  capacity : Nat → Option Nat
  status : Nat → MediaStatus

/-- The codec that gives these answers, with some memory behind its buffers. -/
def Answers.codec (answers : Answers) (memory : Nat → Pointer) : Codec where
  dequeueInputBuffer attempt := (answers.capacity attempt).map fun size => ⟨size, memory attempt⟩
  queueInputBuffer := answers.status

/-- The call gets as far as this attempt, with so many bytes still to queue. -/
inductive Answers.Reaches (answers : Answers) (size : Nat) : Nat → Nat → Prop where
  | start : Reaches answers size 0 size
  | cut {attempt rest capacity : Nat} (prior : Reaches answers size attempt rest)
      (lent : answers.capacity attempt = some capacity) (small : capacity < rest)
      (accepted : answers.status attempt = AMEDIA_OK) :
      Reaches answers size (attempt + 1) (rest - capacity)

/-- Every attempt finds a buffer (no bytes need none), and no data that has been cut is
accepted up to its end. The end of the stream is one attempt. -/
def Answers.Supplies (answers : Answers) (inSize : Int) : Prop :=
  if inSize < 0 then answers.capacity 0 ≠ none
  else ∀ attempt rest, answers.Reaches inSize.toNat attempt rest →
    (answers.capacity attempt = none → rest = 0) ∧
      ∀ capacity, answers.capacity attempt = some capacity → 0 < attempt → rest ≤ capacity →
        answers.status attempt ≠ AMEDIA_OK

/-- The codec has received exactly the payload, or one buffer that ends the stream. -/
def Enqueued.Complete (r : Enqueued) (inBuffer : Pointer) (inSize : Int) : Prop :=
  if inSize < 0 then r.queued.map QueuedBuffer.flags = [BUFFER_FLAG_END_OF_STREAM]
  else r.bytes = inBuffer.bytes inSize.toNat

/-- Success means delivered: whenever the call returns `AMEDIA_OK`, nothing is missing. -/
def SuccessDelivers (codec : Codec) (timestamp : Int) (inBuffer : Pointer) (inSize : Int) : Prop :=
  ∀ fuel r, enqueueBuffer codec timestamp fuel 0 inBuffer inSize = some r →
    r.status = AMEDIA_OK → r.Complete inBuffer inSize

section Attempts

variable {answers : Answers} {memory : Nat → Pointer} {timestamp : Int}
variable {fuel attempt size rest capacity : Nat} {inBuffer : Pointer}

/-- Without a buffer the call returns at once, with `AMEDIA_OK`. -/
theorem enqueueBuffer_of_none (hNone : answers.capacity attempt = none) (inSize : Int) :
    enqueueBuffer (answers.codec memory) timestamp (fuel + 1) attempt inBuffer inSize =
      some ⟨AMEDIA_OK, []⟩ := by
  simp [enqueueBuffer, Answers.codec, hNone]

/-- The end of the stream is one buffer. -/
theorem enqueueBuffer_end (hLent : answers.capacity attempt = some capacity) {inSize : Int}
    (hEnd : inSize < 0) :
    enqueueBuffer (answers.codec memory) timestamp (fuel + 1) attempt inBuffer inSize =
      some (queueBuffer (answers.codec memory) attempt
        ⟨[], toUnsigned 64 timestamp, BUFFER_FLAG_END_OF_STREAM⟩) := by
  simp [enqueueBuffer, Answers.codec, hLent, hEnd]

/-- The last piece fits. -/
theorem enqueueBuffer_last (hLent : answers.capacity attempt = some capacity)
    (hFits : rest ≤ capacity) :
    enqueueBuffer (answers.codec memory) timestamp (fuel + 1) attempt inBuffer rest =
      some (queueBuffer (answers.codec memory) attempt
        ⟨inBuffer.bytes rest, toUnsigned 64 timestamp, 0⟩) := by
  have hNonneg : ¬ (rest : Int) < 0 := by omega
  have hSmall : ¬ (capacity : Int) < rest := by omega
  simp [enqueueBuffer, Answers.codec, hLent, hNonneg, hSmall]

/-- A piece that is refused ends the call. -/
theorem enqueueBuffer_refused (hLent : answers.capacity attempt = some capacity)
    (hLarge : capacity < rest) (hRefused : answers.status attempt ≠ AMEDIA_OK) :
    enqueueBuffer (answers.codec memory) timestamp (fuel + 1) attempt inBuffer rest =
      some ⟨answers.status attempt, []⟩ := by
  have hNonneg : ¬ (rest : Int) < 0 := by omega
  have hCut : (capacity : Int) < rest := by omega
  simp [enqueueBuffer, Answers.codec, queueBuffer, hLent, hNonneg, hCut, hRefused]

/-- After a piece that is accepted, the call goes on with what lies behind the buffer. -/
theorem enqueueBuffer_cut (hLent : answers.capacity attempt = some capacity)
    (hLarge : capacity < rest) (hAccepted : answers.status attempt = AMEDIA_OK) :
    enqueueBuffer (answers.codec memory) timestamp (fuel + 1) attempt inBuffer rest =
      (enqueueBuffer (answers.codec memory) timestamp fuel (attempt + 1)
        ((memory attempt).add capacity) (rest - capacity : Nat)).map
        fun later => ⟨later.status,
          ⟨inBuffer.bytes capacity, toUnsigned 64 timestamp, 0⟩ :: later.queued⟩ := by
  have hNonneg : ¬ (rest : Int) < 0 := by omega
  have hCut : (capacity : Int) < rest := by omega
  have hRest : (rest : Int) - capacity = (rest - capacity : Nat) := by omega
  simp [enqueueBuffer, Answers.codec, queueBuffer, hLent, hNonneg, hCut, hAccepted, hRest]

end Attempts

section Success

variable {answers : Answers} {memory : Nat → Pointer} {timestamp : Int}
variable {attempt size rest : Nat} {inBuffer : Pointer}

/-- A payload that has been cut never ends in success. -/
theorem status_of_reaches (hSupplies : answers.Supplies size) (fuel : Nat)
    (hReaches : answers.Reaches size attempt rest) (hCut : 0 < attempt) {piece : Pointer}
    {r : Enqueued} (hReturns : enqueueBuffer (answers.codec memory) timestamp fuel attempt
      piece rest = some r) : r.status ≠ AMEDIA_OK := by
  have hMeets : ∀ attempt rest, answers.Reaches size attempt rest →
      (answers.capacity attempt = none → rest = 0) ∧
        ∀ capacity, answers.capacity attempt = some capacity → 0 < attempt → rest ≤ capacity →
          answers.status attempt ≠ AMEDIA_OK := by
    rw [Answers.Supplies, if_neg (by omega)] at hSupplies
    exact hSupplies
  induction fuel generalizing attempt rest piece r with
  | zero => cases hReturns
  | succ fuel ih =>
      obtain ⟨hLacks, hLast⟩ := hMeets attempt rest hReaches
      cases hLent : answers.capacity attempt with
      | none =>
          -- Something is left after a cut.
          have hPos : 0 < rest := by
            cases hReaches with
            | start => omega
            | cut prior lent small accepted => omega
          have hZero := hLacks hLent
          omega
      | some capacity =>
          rcases Nat.lt_or_ge capacity rest with hLarge | hFits
          · by_cases hAccepted : answers.status attempt = AMEDIA_OK
            · rw [enqueueBuffer_cut hLent hLarge hAccepted] at hReturns
              obtain ⟨later, hLater, rfl⟩ := Option.map_eq_some_iff.mp hReturns
              show later.status ≠ AMEDIA_OK
              exact ih (.cut hReaches hLent hLarge hAccepted) (Nat.succ_pos attempt) hLater
            · rw [enqueueBuffer_refused hLent hLarge hAccepted] at hReturns
              cases hReturns
              exact hAccepted
          · rw [enqueueBuffer_last hLent hFits] at hReturns
            cases hReturns
            exact hLast capacity hLent hCut hFits

/-- What the call does at an attempt is what it returns, behind the pieces queued so far.
From the first cut on, it reads behind the codec's buffers. -/
theorem returns_of_reaches (filler : Byte) (inBuffer : Pointer) (timestamp : Int)
    (hReaches : answers.Reaches size attempt rest) :
    ∃ (front : List QueuedBuffer) (piece : Pointer),
      (front.flatMap QueuedBuffer.data).length + rest = size ∧
      (0 < attempt → 0 < rest ∧ piece = fun _ => filler) ∧
      ∀ fuel r, enqueueBuffer (answers.codec fun _ _ => filler) timestamp fuel attempt piece rest =
          some r →
        enqueueBuffer (answers.codec fun _ _ => filler) timestamp (attempt + fuel) 0 inBuffer size =
          some ⟨r.status, front ++ r.queued⟩ := by
  induction hReaches with
  | start =>
      refine ⟨[], inBuffer, by simp, fun hPos => absurd hPos (lt_irrefl 0),
        fun fuel r hReturns => ?_⟩
      rw [Nat.zero_add]
      exact hReturns
  | @cut attempt rest capacity prior lent small accepted ih =>
      obtain ⟨front, piece, hLength, -, hReturns⟩ := ih
      refine ⟨front ++ [⟨piece.bytes capacity, toUnsigned 64 timestamp, 0⟩], fun _ => filler, ?_,
        fun _ => ⟨by omega, rfl⟩, fun fuel r hLater => ?_⟩
      · simp only [List.flatMap_append, List.length_append, List.flatMap_cons, List.flatMap_nil,
          Pointer.bytes_length, List.length_nil] at hLength ⊢
        omega
      · have hCut := hReturns (fuel + 1) _ (by
          rw [enqueueBuffer_cut lent small accepted]
          exact congrArg (Option.map _) hLater)
        rw [← Nat.add_assoc, Nat.add_right_comm] at hCut
        rw [hCut, List.append_assoc]
        rfl

/-- The last byte of a payload that has been cut comes from behind the codec's buffers. -/
theorem not_complete_of_cut {front : List QueuedBuffer} {piece : Pointer} {status : MediaStatus}
    {time : Nat} (hLength : (front.flatMap QueuedBuffer.data).length + rest = size)
    (hRest : 0 < rest) (hPiece : piece = fun _ => inBuffer (size - 1) + 1) :
    ¬ (Enqueued.mk status (front ++ [⟨piece.bytes rest, time, 0⟩])).Complete inBuffer size := by
  intro hComplete
  rw [Enqueued.Complete, if_neg (by omega), Enqueued.bytes, List.flatMap_append] at hComplete
  generalize front.flatMap QueuedBuffer.data = bytes at hLength hComplete
  have hLast := congrArg (·[size - 1]?) hComplete
  rw [List.getElem?_append_right (by omega), List.getElem?_eq_getElem (by simp; omega),
    List.getElem?_eq_getElem (by simp; omega)] at hLast
  simp [hPiece, Pointer.bytes] at hLast

/-- The payload arrives when it needs no cut, and the call does not claim success otherwise. -/
theorem complete_of_supplies {size : Nat} (hSupplies : answers.Supplies size) :
    SuccessDelivers (answers.codec memory) timestamp inBuffer size := by
  intro fuel r hReturns hStatus
  rw [Enqueued.Complete, if_neg (by omega)]
  cases fuel with
  | zero => cases hReturns
  | succ fuel =>
      cases hLent : answers.capacity 0 with
      | none =>
          rw [Answers.Supplies, if_neg (by omega)] at hSupplies
          have hZero : size = 0 := (hSupplies 0 _ .start).1 hLent
          rw [enqueueBuffer_of_none hLent] at hReturns
          cases hReturns
          rw [hZero]
          rfl
      | some capacity =>
          rcases Nat.lt_or_ge capacity size with hLarge | hFits
          · by_cases hAccepted : answers.status 0 = AMEDIA_OK
            · have hCut : answers.Reaches size 1 (size - capacity) :=
                .cut .start hLent hLarge hAccepted
              rw [enqueueBuffer_cut hLent hLarge hAccepted] at hReturns
              obtain ⟨later, hLater, rfl⟩ := Option.map_eq_some_iff.mp hReturns
              have hOk : later.status = AMEDIA_OK := hStatus
              exact absurd hOk (status_of_reaches hSupplies fuel hCut Nat.one_pos hLater)
            · rw [enqueueBuffer_refused hLent hLarge hAccepted] at hReturns
              cases hReturns
              exact absurd hStatus hAccepted
          · rw [enqueueBuffer_last hLent hFits] at hReturns
            cases hReturns
            have hAccepted : answers.status 0 = AMEDIA_OK := hStatus
            simp [queueBuffer, Answers.codec, hAccepted, Enqueued.bytes]

theorem supplies_of_complete {size : Nat}
    (hDelivers : ∀ memory, SuccessDelivers (answers.codec memory) timestamp inBuffer size) :
    answers.Supplies size := by
  rw [Answers.Supplies, if_neg (by omega)]
  intro attempt rest hReaches
  obtain ⟨front, piece, hLength, hCut, hReturns⟩ :=
    returns_of_reaches (inBuffer (size - 1) + 1) inBuffer timestamp hReaches
  rw [Int.toNat_natCast] at hLength hReturns
  constructor
  · intro hNone
    have hReturned := hReturns 1 _ (enqueueBuffer_of_none hNone rest)
    have hComplete := hDelivers _ _ _ hReturned rfl
    rw [Enqueued.Complete, if_neg (by omega)] at hComplete
    have hBytes := congrArg List.length hComplete
    simp only [Enqueued.bytes, List.append_nil, Pointer.bytes_length, Int.toNat_natCast] at hBytes
    omega
  · intro capacity hLent hPos hFits hAccepted
    have hReturned := hReturns 1 _ (enqueueBuffer_last hLent hFits)
    have hComplete := hDelivers _ _ _ hReturned hAccepted
    obtain ⟨hRest, hPiece⟩ := hCut hPos
    have hQueued : (answers.codec fun _ _ => inBuffer (size - 1) + 1).queueInputBuffer attempt =
        AMEDIA_OK := hAccepted
    simp only [queueBuffer, hQueued, if_pos] at hComplete
    exact not_complete_of_cut hLength hRest hPiece hComplete

/-- The end of the stream is delivered exactly if the one attempt finds a buffer. -/
theorem successDelivers_end_iff {inSize : Int} (hEnd : inSize < 0) :
    SuccessDelivers (answers.codec memory) timestamp inBuffer inSize ↔
      answers.capacity 0 ≠ none := by
  constructor
  · intro hDelivers hNone
    have hComplete := hDelivers 1 _ (enqueueBuffer_of_none hNone inSize) rfl
    rw [Enqueued.Complete, if_pos hEnd] at hComplete
    cases hComplete
  · intro hLent fuel r hReturns hStatus
    obtain ⟨capacity, hCapacity⟩ := Option.ne_none_iff_exists'.mp hLent
    rw [Enqueued.Complete, if_pos hEnd]
    cases fuel with
    | zero => cases hReturns
    | succ fuel =>
        rw [enqueueBuffer_end hCapacity hEnd] at hReturns
        cases hReturns
        have hAccepted : (answers.codec memory).queueInputBuffer 0 = AMEDIA_OK := hStatus
        simp [queueBuffer, hAccepted]

/-- Success means delivered, whatever lies behind the codec's buffers, exactly for codecs that
supply the call. -/
theorem successDelivers_iff_supplies (answers : Answers) (timestamp : Int) (inBuffer : Pointer)
    (inSize : Int) :
    (∀ memory, SuccessDelivers (answers.codec memory) timestamp inBuffer inSize) ↔
      answers.Supplies inSize := by
  by_cases hEnd : inSize < 0
  · rw [Answers.Supplies, if_pos hEnd]
    exact ⟨fun hDelivers => (successDelivers_end_iff hEnd).mp (hDelivers fun _ _ => 0),
      fun hLent memory => (successDelivers_end_iff hEnd).mpr hLent⟩
  · obtain ⟨size, rfl⟩ := Int.eq_ofNat_of_zero_le (not_lt.mp hEnd)
    exact ⟨supplies_of_complete, fun hSupplies memory => complete_of_supplies hSupplies⟩

/-- A codec without a free buffer: the end of the stream is lost, and the call succeeds. -/
theorem not_successDelivers_starved :
    enqueueBuffer (Answers.codec ⟨fun _ => none, fun _ => AMEDIA_OK⟩ fun _ _ => 0) 20 1 0
        (fun _ => 0) (-1) = some ⟨AMEDIA_OK, []⟩ ∧
      ¬ ∀ memory, SuccessDelivers (Answers.codec ⟨fun _ => none, fun _ => AMEDIA_OK⟩ memory) 20
        (fun _ => 0) (-1) := by
  refine ⟨rfl, fun hDelivers => ?_⟩
  have hComplete := hDelivers (fun _ _ => 0) 1 ⟨AMEDIA_OK, []⟩ rfl rfl
  rw [Enqueued.Complete, if_pos (by decide)] at hComplete
  cases hComplete

end Success

end AudioSync.Decoder
