import AudioSync.Basic

/-! Feeding compressed data to the codec. `decoder_enqueueBuffer` takes input
buffers from the codec until the data is used up; the codec decides at each
attempt whether it has a buffer, how large it is and whether it is accepted. -/
namespace AudioSync.Decoder

open MachineInt

/-- `media_status_t`; every value but `AMEDIA_OK` is an error. -/
abbrev MediaStatus := Int

def AMEDIA_OK : MediaStatus := 0

/-- `AMEDIACODEC_BUFFER_FLAG_END_OF_STREAM`. -/
def BUFFER_FLAG_END_OF_STREAM : Nat := 4

/-- An input buffer lent by the codec. The memory goes on behind its end. -/
structure InputBuffer where
  capacity : Nat
  memory : Pointer

/-- The codec's answers to the successive attempts of one call: a buffer or a
negative index, and the status of queueing that buffer. -/
structure Codec where
  dequeueInputBuffer : Nat → Option InputBuffer
  queueInputBuffer : Nat → MediaStatus

/-- What `AMediaCodec_queueInputBuffer` hands over. -/
structure QueuedBuffer where
  data : List Byte
  time : Nat
  flags : Nat
  deriving DecidableEq

/-- The returned status and the buffers the codec accepted, in order. -/
structure Enqueued where
  status : MediaStatus
  queued : List QueuedBuffer

namespace Enqueued

/-- The bytes the codec received, over all accepted buffers. -/
def bytes (r : Enqueued) : List Byte := r.queued.flatMap QueuedBuffer.data

end Enqueued

/-- Queue one buffer and return the codec's status. -/
def queueBuffer (codec : Codec) (attempt : Nat) (buffer : QueuedBuffer) : Enqueued :=
  let status := codec.queueInputBuffer attempt
  ⟨status, if status = AMEDIA_OK then [buffer] else []⟩

/-- `decoder_enqueueBuffer`. A codec may lend empty buffers for ever, so the
recursion is bounded by `fuel`; `none` is a call that has not returned yet. -/
def enqueueBuffer (codec : Codec) (timestamp : Int) :
    Nat → Nat → Pointer → Int → Option Enqueued
  | 0, _, _, _ => none
  | fuel + 1, attempt, inBuffer, inSize =>
      match codec.dequeueInputBuffer attempt with
      | none => some ⟨AMEDIA_OK, []⟩
      | some buffer =>
          let time := toUnsigned 64 timestamp
          if inSize < 0 then
            some (queueBuffer codec attempt ⟨[], time, BUFFER_FLAG_END_OF_STREAM⟩)
          else if (buffer.capacity : Int) < inSize then
            let first := queueBuffer codec attempt ⟨inBuffer.bytes buffer.capacity, time, 0⟩
            if first.status ≠ AMEDIA_OK then
              some first
            else
              -- The source hands on `buffer + capacity`: an address in the
              -- codec's memory, not the rest of `inBuffer`.
              let rest := (buffer.memory.memcpy inBuffer buffer.capacity).add buffer.capacity
              (enqueueBuffer codec timestamp fuel (attempt + 1) rest
                (inSize - buffer.capacity)).map
                fun later => ⟨later.status, first.queued ++ later.queued⟩
          else
            some (queueBuffer codec attempt ⟨inBuffer.bytes inSize.toNat, time, 0⟩)

section ObligingCodec

/-- A codec that lends a buffer at every attempt and accepts all of them. Each
attempt has its own capacity, and its own memory behind the buffer. -/
def obligingCodec (capacity : Nat → Nat) (memory : Nat → Pointer) : Codec where
  dequeueInputBuffer attempt := some ⟨capacity attempt, memory attempt⟩
  queueInputBuffer _ := AMEDIA_OK

variable {capacity : Nat → Nat} {memory : Nat → Pointer} {timestamp : Int}

/-- Data that fits the lent buffer is queued in one piece. -/
theorem enqueueBuffer_of_le {fuel attempt size : Nat} {inBuffer : Pointer}
    (hFits : size ≤ capacity attempt) :
    enqueueBuffer (obligingCodec capacity memory) timestamp (fuel + 1) attempt inBuffer size =
      some ⟨AMEDIA_OK, [⟨inBuffer.bytes size, toUnsigned 64 timestamp, 0⟩]⟩ := by
  have hNonneg : ¬ (size : Int) < 0 := by omega
  have hSmall : ¬ (capacity attempt : Int) < size := by omega
  simp [enqueueBuffer, obligingCodec, queueBuffer, hNonneg, hSmall]

/-- Data that does not fit is cut after `capacity` bytes, and the rest is read
from behind the codec's buffer. -/
theorem enqueueBuffer_of_lt {fuel attempt size : Nat} {inBuffer : Pointer}
    (hLarge : capacity attempt < size) :
    enqueueBuffer (obligingCodec capacity memory) timestamp (fuel + 1) attempt inBuffer size =
      (enqueueBuffer (obligingCodec capacity memory) timestamp fuel (attempt + 1)
        ((memory attempt).add (capacity attempt)) (size - capacity attempt : Nat)).map
        fun later => ⟨later.status,
          ⟨inBuffer.bytes (capacity attempt), toUnsigned 64 timestamp, 0⟩ :: later.queued⟩ := by
  have hNonneg : ¬ (size : Int) < 0 := by omega
  have hCut : (capacity attempt : Int) < size := by omega
  have hRest : (size : Int) - capacity attempt = (size - capacity attempt : Nat) := by omega
  simp [enqueueBuffer, obligingCodec, queueBuffer, hNonneg, hCut, hRest]

/-- Every call returns success. The codec has then received as many bytes as the
data has, each piece with the given time. -/
theorem enqueueBuffer_returns (hPos : ∀ attempt, 0 < capacity attempt)
    (attempt size : Nat) (inBuffer : Pointer) :
    ∃ fuel r, enqueueBuffer (obligingCodec capacity memory) timestamp fuel attempt
        inBuffer size = some r ∧
      r.status = AMEDIA_OK ∧ r.bytes.length = size ∧
      ∀ piece ∈ r.queued, piece.time = toUnsigned 64 timestamp := by
  induction size using Nat.strong_induction_on generalizing attempt inBuffer with
  | _ size ih =>
      rcases Nat.lt_or_ge (capacity attempt) size with hLarge | hFits
      · have hCapacity := hPos attempt
        obtain ⟨fuel, later, hLater, hStatus, hLength, hTimes⟩ :=
          ih (size - capacity attempt) (by omega) (attempt + 1)
            ((memory attempt).add (capacity attempt))
        refine ⟨fuel + 1, ⟨later.status, ⟨inBuffer.bytes (capacity attempt),
          toUnsigned 64 timestamp, 0⟩ :: later.queued⟩, ?_, hStatus, ?_, by simpa using hTimes⟩
        · rw [enqueueBuffer_of_lt hLarge, hLater, Option.map_some]
        simp only [Enqueued.bytes, List.flatMap_cons, List.length_append, Pointer.bytes_length]
          at hLength ⊢
        omega
      · exact ⟨1, _, enqueueBuffer_of_le hFits, rfl, by simp [Enqueued.bytes], by simp⟩

/-- The first byte the codec receives is the first byte of the data. -/
theorem enqueueBuffer_first_byte (hPos : ∀ attempt, 0 < capacity attempt)
    {fuel attempt size : Nat} {inBuffer : Pointer} {r : Enqueued} (hSize : 0 < size)
    (hReturns : enqueueBuffer (obligingCodec capacity memory) timestamp fuel attempt
      inBuffer size = some r) :
    r.bytes[0]? = some (inBuffer 0) := by
  cases fuel with
  | zero => simp [enqueueBuffer] at hReturns
  | succ fuel =>
      have hCapacity := hPos attempt
      rcases Nat.lt_or_ge (capacity attempt) size with hLarge | hFits
      · rw [enqueueBuffer_of_lt hLarge] at hReturns
        obtain ⟨later, -, rfl⟩ := Option.map_eq_some_iff.mp hReturns
        simp [Enqueued.bytes, hCapacity]
      · rw [enqueueBuffer_of_le hFits, Option.some.injEq] at hReturns
        subst r
        simp [Enqueued.bytes, hSize]

/-- What follows the first cut is read from behind the codec's own buffer. -/
theorem enqueueBuffer_byte_after_cut (hPos : ∀ attempt, 0 < capacity attempt)
    {fuel size : Nat} {inBuffer : Pointer} {r : Enqueued} (hLarge : capacity 0 < size)
    (hReturns : enqueueBuffer (obligingCodec capacity memory) timestamp fuel 0
      inBuffer size = some r) :
    r.bytes[capacity 0]? = some (memory 0 (capacity 0)) := by
  cases fuel with
  | zero => simp [enqueueBuffer] at hReturns
  | succ fuel =>
      rw [enqueueBuffer_of_lt hLarge] at hReturns
      obtain ⟨later, hLater, rfl⟩ := Option.map_eq_some_iff.mp hReturns
      have hFirst := enqueueBuffer_first_byte hPos (by omega) hLater
      rw [Enqueued.bytes, List.flatMap_cons, List.getElem?_append_right (by simp)]
      simpa [Enqueued.bytes, Pointer.add] using hFirst

end ObligingCodec

/-- The call returns, the codec received exactly the bytes `inBuffer[0..size)`,
and every piece carries the given timestamp. -/
def Delivers (codec : Codec) (timestamp : Int) (inBuffer : Pointer) (size : Nat) : Prop :=
  ∃ fuel r, enqueueBuffer codec timestamp fuel 0 inBuffer size = some r ∧
    r.bytes = inBuffer.bytes size ∧ ∀ piece ∈ r.queued, piece.time = toUnsigned 64 timestamp

/-- Whatever the codec's memory holds behind its buffers, the data arrives
unchanged: this is so exactly for data that needs no cut. -/
theorem delivers_iff_fits_first_buffer (capacity : Nat → Nat)
    (hPos : ∀ attempt, 0 < capacity attempt)
    (timestamp : Int) (inBuffer : Pointer) (size : Nat) :
    (∀ memory, Delivers (obligingCodec capacity memory) timestamp inBuffer size) ↔
      size ≤ capacity 0 := by
  constructor
  · intro hDelivers
    by_contra hLarge
    -- A memory whose byte behind the first buffer differs from the data's.
    obtain ⟨fuel, r, hReturns, hBytes, -⟩ :=
      hDelivers fun _ _ => inBuffer (capacity 0) + 1
    have hAfter := enqueueBuffer_byte_after_cut hPos (by omega) hReturns
    rw [hBytes, List.getElem?_eq_getElem (by simpa using hLarge), Pointer.bytes_getElem,
      Option.some.injEq] at hAfter
    exact absurd hAfter (by simp)
  · intro hFits memory
    exact ⟨1, _, enqueueBuffer_of_le hFits, by simp [Enqueued.bytes], by simp⟩

theorem delivers_three_bytes :
    Delivers (obligingCodec (fun attempt => attempt + 4) fun _ _ => 0) 20
      (fun i => BitVec.ofNat 8 i) 3 :=
  (delivers_iff_fits_first_buffer (fun attempt => attempt + 4) (fun _ => Nat.succ_pos _) 20
    (fun i => BitVec.ofNat 8 i) 3).mpr (by decide) fun _ _ => 0

/-- Two bytes for a codec with one-byte buffers: the second byte sent is the one
behind the first buffer. -/
theorem not_delivers_second_byte :
    ¬ Delivers (obligingCodec (fun _ => 1) (fun _ _ => 0)) 0 (fun _ => 7) 2 := by
  rintro ⟨fuel, r, hReturns, hBytes, -⟩
  have hAfter := enqueueBuffer_byte_after_cut (fun _ => Nat.one_pos) (by decide) hReturns
  rw [hBytes] at hAfter
  exact absurd hAfter (by decide)

end AudioSync.Decoder
