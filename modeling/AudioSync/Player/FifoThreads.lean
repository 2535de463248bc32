import AudioSync.Lib.SharedQueue
import AudioSync.Player.Fifo

/-! `audio_utils_fifo` between two threads: the one that enqueues decoded frames and the callback
that plays them. Each side loads the index of the other, copies frame by frame, and stores its own
index at last; the two are interleaved at every one of these accesses. -/
namespace AudioSync.Player.FifoThreads

open Ring Transition

variable {α : Type}

/-- Where the writer is in `audio_utils_fifo_write`. -/
inductive Writer (α : Type)
  | idle
  /-- `atomic_load_explicit(&fifo->mFront, ..)` -/
  | loadFront (buffer : List α)
  /-- `memcpy`, up to frame `i` so far, and then the store to `mRear` -/
  | copy (buffer : List α) (rear part1 availToWrite i : Nat)

/-- Where the reader is in `audio_utils_fifo_read`. -/
inductive Reader (α : Type)
  | idle
  /-- `atomic_load_explicit(&fifo->mRear, ..)` -/
  | loadRear (count : Nat)
  /-- `memcpy`, with the frames that have been copied, and then the store to `mFront` -/
  | copy (front part1 availToRead : Nat) (copied : List α)

/-- The FIFO and its two threads. -/
structure State (α : Type) where
  fifo : AudioUtilsFifo α
  writer : Writer α
  reader : Reader α

/-- What happens next: a call begins, or a thread makes one step. -/
inductive Event (α : Type)
  | write (buffer : List α)
  | writer
  | read (count : Nat)
  | reader

/-- The slot of frame `i` of a block: the first `part1` frames up to the end of the buffer, and
the others from its beginning. -/
def slot (index part1 i : Nat) : Nat := if i < part1 then index + i else i - part1

/-- How many frames are copied in the first `memcpy`. -/
def firstPart (fifo : AudioUtilsFifo α) (index : BitVec 32) (avail : Nat) : Nat :=
  min (fifo.mFrameCount - (index &&& fifo.mask).toNat) avail

/-- The next step of `audio_utils_fifo_write`; `none` without a call or where an assertion
fails. -/
def writerStep (s : State α) : Option (State α) :=
  match s.writer with
  | .idle => none
  | .loadFront buffer =>
      (s.fifo.diff s.fifo.mRear s.fifo.mFront).map fun filled =>
        let availToWrite := min (s.fifo.mFrameCount - filled) buffer.length
        let part1 := firstPart s.fifo s.fifo.mRear availToWrite
        { s with
          writer := if 0 < part1 then
              .copy buffer (s.fifo.mRear &&& s.fifo.mask).toNat part1 availToWrite 0
            else .idle }
  | .copy buffer rear part1 availToWrite i =>
      if i < availToWrite then
        buffer[i]?.map fun frame =>
          { s with
            fifo := { s.fifo with
              mBuffer := Function.update s.fifo.mBuffer (slot rear part1 i) frame }
            writer := .copy buffer rear part1 availToWrite (i + 1) }
      else
        (s.fifo.sum s.fifo.mRear (BitVec.ofNat 32 availToWrite)).map fun mRear =>
          { s with fifo := { s.fifo with mRear := mRear }, writer := .idle }

/-- The next step of `audio_utils_fifo_read`; `none` without a call or where an assertion
fails. -/
def readerStep (s : State α) : Option (State α) :=
  match s.reader with
  | .idle => none
  | .loadRear count =>
      (s.fifo.diff s.fifo.mRear s.fifo.mFront).map fun filled =>
        let availToRead := min filled count
        let part1 := firstPart s.fifo s.fifo.mFront availToRead
        { s with
          reader := if 0 < part1 then
              .copy (s.fifo.mFront &&& s.fifo.mask).toNat part1 availToRead []
            else .idle }
  | .copy front part1 availToRead copied =>
      if copied.length < availToRead then
        some { s with
          reader := .copy front part1 availToRead
            (copied ++ [s.fifo.mBuffer (slot front part1 copied.length)]) }
      else
        (s.fifo.sum s.fifo.mFront (BitVec.ofNat 32 availToRead)).map fun mFront =>
          { s with fifo := { s.fifo with mFront := mFront }, reader := .idle }

/-- One step of the system. A thread begins a call when its last one has returned. -/
def step (s : State α) : Event α → Option (State α)
  | .write buffer =>
      match s.writer with
      | .idle => some { s with writer := .loadFront buffer }
      | _ => none
  | .writer => writerStep s
  | .read count =>
      match s.reader with
      | .idle => some { s with reader := .loadRear count }
      | _ => none
  | .reader => readerStep s

/-- `audio_utils_fifo_init`, before any call. -/
def init (frameCount : Nat) (buffer : Nat → α) : State α :=
  ⟨AudioUtilsFifo.init frameCount buffer, .idle, .idle⟩

/-- What the callers see of a step: the frames that a write took, and those that a read
returned. -/
def label (s : State α) : Event α → Option (SharedQueue.Event α)
  | .write buffer => some (.offer buffer)
  | .writer =>
      match s.writer with
      | .idle => none
      | .loadFront buffer =>
          (s.fifo.diff s.fifo.mRear s.fifo.mFront).bind fun filled =>
            let availToWrite := min (s.fifo.mFrameCount - filled) buffer.length
            if 0 < firstPart s.fifo s.fifo.mRear availToWrite then none
            else some (.accept (buffer.take availToWrite))
      | .copy buffer _ _ availToWrite i =>
          if i < availToWrite then none else some (.accept (buffer.take availToWrite))
  | .read count => some (.ask count)
  | .reader =>
      match s.reader with
      | .idle => none
      | .loadRear count =>
          (s.fifo.diff s.fifo.mRear s.fifo.mFront).bind fun filled =>
            let availToRead := min filled count
            -- The caller is told `availToRead`, and its buffer is left as it is.
            if 0 < firstPart s.fifo s.fifo.mFront availToRead then none else some (.give [])
      | .copy _ _ availToRead copied =>
          if copied.length < availToRead then none else some (.give copied)

section Invariant

variable {s t : State α} {queue : SharedQueue α} {front rear room fill : Nat}

/-- What the writer's variables say; `room` is what the queue held when the call began. -/
def WriterAt (fifo : AudioUtilsFifo α) (front rear room : Nat) (queue : SharedQueue α) :
    Writer α → Prop
  | .idle => queue.offered = none
  | .loadFront buffer => queue.offered = some (buffer, room)
  | .copy buffer slot part1 availToWrite i =>
      queue.offered = some (buffer, room) ∧ slot = rear % fifo.mFrameCount ∧
        part1 = min (fifo.mFrameCount - slot) availToWrite ∧ i ≤ availToWrite ∧
        availToWrite ≤ buffer.length ∧ min (fifo.mFrameCount - room) buffer.length ≤ availToWrite ∧
        rear + availToWrite ≤ front + fifo.mFrameCount ∧
        window fifo.mFrameCount fifo.mBuffer rear i = buffer.take i

/-- What the reader's variables say; `fill` is what the queue held when the call began. -/
def ReaderAt (fifo : AudioUtilsFifo α) (front rear fill : Nat) (queue : SharedQueue α) :
    Reader α → Prop
  | .idle => queue.asked = none
  | .loadRear count => queue.asked = some (count, fill)
  | .copy slot part1 availToRead copied =>
      (∃ count, queue.asked = some (count, fill) ∧ availToRead ≤ count ∧
          min fill count ≤ availToRead) ∧ slot = front % fifo.mFrameCount ∧
        part1 = min (fifo.mFrameCount - slot) availToRead ∧ front + availToRead ≤ rear ∧
        copied.length ≤ availToRead ∧
        copied = window fifo.mFrameCount fifo.mBuffer front copied.length

/-- The frames from number `front` on are in the queue; the writer fills slots behind them, and
the reader copies the first ones. -/
structure Refines (s : State α) (queue : SharedQueue α) (front rear room fill : Nat) : Prop where
  shaped : s.fifo.Shaped
  mFront : s.fifo.mFront = s.fifo.index front
  mRear : s.fifo.mRear = s.fifo.index rear
  order : front ≤ rear
  full : rear ≤ front + s.fifo.mFrameCount
  contents : queue.contents = window s.fifo.mFrameCount s.fifo.mBuffer front (rear - front)
  fair : queue.Fair
  writer : WriterAt s.fifo front rear room queue s.writer
  reader : ReaderAt s.fifo front rear fill queue s.reader

theorem refines_init {frameCount : Nat} (buffer : Nat → α) (hPos : 0 < frameCount)
    (hLt : frameCount < 2 ^ 31) : Refines (init frameCount buffer) SharedQueue.empty 0 0 0 0 where
  shaped := AudioUtilsFifo.shaped_init buffer hPos hLt
  mFront := by simp [init, AudioUtilsFifo.init, AudioUtilsFifo.index]
  mRear := by simp [init, AudioUtilsFifo.init, AudioUtilsFifo.index]
  order := Nat.le_refl 0
  full := Nat.zero_le _
  contents := rfl
  fair := SharedQueue.fair_empty
  writer := rfl
  reader := rfl

theorem Refines.length_contents (h : Refines s queue front rear room fill) :
    queue.contents.length = rear - front := by
  rw [h.contents, window_length]

/-- The assertions of `audio_utils_fifo_diff` hold whenever it is called. -/
theorem Refines.diff (h : Refines s queue front rear room fill) :
    s.fifo.diff s.fifo.mRear s.fifo.mFront = some (rear - front) := by
  rw [h.mRear, h.mFront]
  exact h.shaped.diff_index h.order h.full

/-- The two parts of a block lie in the slots of consecutive frames. -/
theorem slot_eq {size index avail i : Nat} (hSize : 0 < size) (hAvail : avail ≤ size)
    (hLt : i < avail) :
    slot (index % size) (min (size - index % size) avail) i = (index + i) % size := by
  have hSlot := Nat.mod_lt index hSize
  rw [Ring.add_mod_of_le hSize (by omega), slot]
  split_ifs <;> omega

end Invariant

section Steps

variable [DecidableEq α] {s t : State α} {queue : SharedQueue α} {front rear room fill : Nat}

/-- A thread can go on, and its caller sees of the step what a queue of this capacity allows. -/
def GoesOn (frameCount : Nat) (queue : SharedQueue α) (seen : Option (SharedQueue.Event α))
    (next : Option (State α)) (room fill : Nat) : Prop :=
  ∃ t queue' front rear, next = some t ∧
    run (SharedQueue.step frameCount) queue seen.toList = some queue' ∧
    t.fifo.mFrameCount = frameCount ∧ Refines t queue' front rear room fill

/-- The writer's answer, when it has taken `availToWrite` frames. -/
theorem step_accept {frameCount availToWrite : Nat} {buffer : List α}
    (hOffered : queue.offered = some (buffer, room)) (hAvail : availToWrite ≤ buffer.length)
    (hRoom : min (frameCount - room) buffer.length ≤ availToWrite) :
    SharedQueue.step frameCount queue (.accept (buffer.take availToWrite)) =
      some { queue with
        contents := queue.contents ++ buffer.take availToWrite, offered := none } := by
  rw [SharedQueue.step, hOffered]
  refine if_pos ⟨List.take_prefix _ _, ?_⟩
  rw [List.length_take, Nat.min_eq_left hAvail]
  exact hRoom

/-- `audio_utils_fifo_write` up to its first copy: there is still the room that there was. -/
theorem Refines.loadFront (h : Refines s queue front rear room fill) {buffer : List α}
    (hAt : s.writer = .loadFront buffer) :
    GoesOn s.fifo.mFrameCount queue (label s .writer) (writerStep s) room fill := by
  have hOffered := h.writer
  rw [hAt] at hOffered
  have hPos := h.shaped.count_pos
  have hSlot := Nat.mod_lt rear hPos
  have hOrder := h.order
  have hFull := h.full
  have hLength := h.fair.room _ _ hOffered
  rw [h.length_contents] at hLength
  have hMask : (s.fifo.mRear &&& s.fifo.mask).toNat = rear % s.fifo.mFrameCount := by
    rw [h.mRear, h.shaped.toNat_index_and_mask]
  have hPart : ∀ avail, firstPart s.fifo s.fifo.mRear avail =
      min (s.fifo.mFrameCount - rear % s.fifo.mFrameCount) avail := fun avail => by
    rw [firstPart, hMask]
  rw [writerStep, label, hAt]
  simp only [h.diff, Option.map_some, Option.bind_some, hPart, hMask]
  generalize hAvail : min (s.fifo.mFrameCount - (rear - front)) buffer.length = avail
  have hBlock : avail ≤ buffer.length := by omega
  have hRoom : min (s.fifo.mFrameCount - room) buffer.length ≤ avail := by omega
  have hTurn : rear + avail ≤ front + s.fifo.mFrameCount := by omega
  by_cases hSome : 0 < min (s.fifo.mFrameCount - rear % s.fifo.mFrameCount) avail
  · simp only [if_pos hSome]
    exact ⟨_, queue, front, rear, rfl, rfl, rfl, h.shaped, h.mFront, h.mRear, h.order, h.full,
      h.contents, h.fair, ⟨hOffered, rfl, rfl, Nat.zero_le _, hBlock, hRoom, hTurn, rfl⟩,
      h.reader⟩
  · simp only [if_neg hSome]
    obtain rfl : avail = 0 := by omega
    have hStep := step_accept hOffered (Nat.zero_le _) hRoom
    refine ⟨_, _, front, rear, rfl, ?_, rfl, h.shaped, h.mFront, h.mRear, h.order, h.full, ?_,
      h.fair.step hStep, rfl, h.reader⟩
    · rw [Option.toList_some, run, hStep]
      rfl
    · rw [List.take_zero, List.append_nil]
      exact h.contents

/-- A step of `memcpy`: the slot lies behind what the reader looks at. -/
theorem Refines.copyIn (h : Refines s queue front rear room fill) {buffer : List α}
    {slot part1 availToWrite i : Nat} (hAt : s.writer = .copy buffer slot part1 availToWrite i)
    (hLt : i < availToWrite) :
    GoesOn s.fifo.mFrameCount queue (label s .writer) (writerStep s) room fill := by
  have hWriter := h.writer
  rw [hAt] at hWriter
  obtain ⟨hOffered, rfl, rfl, -, hBlock, hRoom, hTurn, hCopied⟩ := hWriter
  have hPos := h.shaped.count_pos
  have hOrder := h.order
  have hFull := h.full
  have hIndex : i < buffer.length := by omega
  have hSlot : FifoThreads.slot (rear % s.fifo.mFrameCount) _ i = (rear + i) % s.fifo.mFrameCount :=
    slot_eq hPos (show availToWrite ≤ s.fifo.mFrameCount by omega) hLt
  have hOneTurn : rear + i < rear + s.fifo.mFrameCount := by omega
  have hAfter : window s.fifo.mFrameCount
      (Function.update s.fifo.mBuffer ((rear + i) % s.fifo.mFrameCount) buffer[i]) rear (i + 1) =
        buffer.take (i + 1) := by
    rw [window_succ, window_update (Nat.le_refl _) hOneTurn, Function.update_self, hCopied,
      List.take_add_one, List.getElem?_eq_getElem hIndex]
    rfl
  -- What is read from the frames before `rear` does not change.
  have hBefore : ∀ n, front + n ≤ rear →
      window s.fifo.mFrameCount
        (Function.update s.fifo.mBuffer ((rear + i) % s.fifo.mFrameCount) buffer[i]) front n =
          window s.fifo.mFrameCount s.fifo.mBuffer front n := fun n hThere =>
    window_update (by omega) (by omega)
  rw [writerStep, label, hAt]
  simp only [if_pos hLt, List.getElem?_eq_getElem hIndex, Option.map_some, hSlot]
  refine ⟨_, queue, front, rear, rfl, rfl, rfl, ⟨h.shaped.count_pos, h.shaped.count_lt,
    h.shaped.turn, h.shaped.count_le, h.shaped.fudge⟩, h.mFront, h.mRear, h.order, h.full, ?_,
    h.fair, ⟨hOffered, rfl, rfl, hLt, hBlock, hRoom, hTurn, ?_⟩, ?_⟩
  · rw [h.contents, hBefore _ (by omega)]
  · exact hAfter
  · have hReader := h.reader
    revert hReader
    cases s.reader with
    | idle => exact id
    | loadRear count => exact id
    | copy slot part1 availToRead copied =>
        rintro ⟨hAsked, rfl, rfl, hThere, hLe, hCopied⟩
        refine ⟨hAsked, rfl, rfl, hThere, hLe, ?_⟩
        rw [hBefore _ (by omega)]
        exact hCopied

/-- `atomic_store_explicit(&fifo->mRear, ..)`: the frames are in the queue. -/
theorem Refines.storeRear (h : Refines s queue front rear room fill) {buffer : List α}
    {slot part1 availToWrite i : Nat} (hAt : s.writer = .copy buffer slot part1 availToWrite i)
    (hDone : ¬i < availToWrite) :
    GoesOn s.fifo.mFrameCount queue (label s .writer) (writerStep s) room fill := by
  have hWriter := h.writer
  rw [hAt] at hWriter
  obtain ⟨hOffered, rfl, rfl, hLe, hBlock, hRoom, hTurn, hCopied⟩ := hWriter
  obtain rfl : i = availToWrite := by omega
  have hOrder := h.order
  have hSum := h.shaped.sum_index rear (show i ≤ s.fifo.mFrameCount by omega)
  have hStep := step_accept hOffered hBlock hRoom
  rw [writerStep, label, hAt]
  simp only [if_neg hDone, h.mRear, hSum, Option.map_some]
  refine ⟨_, _, front, rear + i, rfl, ?_, rfl, ⟨h.shaped.count_pos, h.shaped.count_lt,
    h.shaped.turn, h.shaped.count_le, h.shaped.fudge⟩, h.mFront, rfl, by omega, hTurn, ?_,
    h.fair.step hStep, rfl, ?_⟩
  · rw [Option.toList_some, run, hStep]
    rfl
  · have hSplit : rear + i - front = rear - front + i := by omega
    rw [hSplit, window_add, Nat.add_sub_cancel' hOrder, hCopied, h.contents]
  · have hReader := h.reader
    revert hReader
    cases s.reader with
    | idle => exact id
    | loadRear count => exact id
    | copy slot part1 availToRead copied =>
        rintro ⟨hAsked, rfl, rfl, hThere, hLe, hCopied⟩
        exact ⟨hAsked, rfl, rfl, by omega, hLe, hCopied⟩

/-- The writer can always go on with its call, and ends it as the queue allows. -/
theorem Refines.writerStep (h : Refines s queue front rear room fill) (hCall : s.writer ≠ .idle) :
    GoesOn s.fifo.mFrameCount queue (label s .writer) (FifoThreads.writerStep s) room fill := by
  cases hAt : s.writer with
  | idle => exact absurd hAt hCall
  | loadFront buffer => exact h.loadFront hAt
  | copy buffer slot part1 availToWrite i =>
      by_cases hLt : i < availToWrite
      · exact h.copyIn hAt hLt
      · exact h.storeRear hAt hLt

/-- The reader's answer. -/
theorem step_give {frameCount count : Nat} {block : List α}
    (hAsked : queue.asked = some (count, fill))
    (hGives : SharedQueue.Gives count fill queue.contents block) :
    SharedQueue.step frameCount queue (.give block) =
      some { queue with contents := queue.contents.drop block.length, asked := none } := by
  rw [SharedQueue.step, hAsked]
  exact if_pos hGives

/-- `audio_utils_fifo_read` up to its first copy: the frames that there were are still there. -/
theorem Refines.loadRear (h : Refines s queue front rear room fill) {count : Nat}
    (hAt : s.reader = .loadRear count) :
    GoesOn s.fifo.mFrameCount queue (label s .reader) (readerStep s) room fill := by
  have hAsked := h.reader
  rw [hAt] at hAsked
  have hPos := h.shaped.count_pos
  have hSlot := Nat.mod_lt front hPos
  have hOrder := h.order
  have hLength := h.fair.fill _ _ hAsked
  rw [h.length_contents] at hLength
  have hMask : (s.fifo.mFront &&& s.fifo.mask).toNat = front % s.fifo.mFrameCount := by
    rw [h.mFront, h.shaped.toNat_index_and_mask]
  have hPart : ∀ avail, firstPart s.fifo s.fifo.mFront avail =
      min (s.fifo.mFrameCount - front % s.fifo.mFrameCount) avail := fun avail => by
    rw [firstPart, hMask]
  rw [readerStep, label, hAt]
  simp only [h.diff, Option.map_some, Option.bind_some, hPart, hMask]
  generalize hAvail : min (rear - front) count = avail
  have hCount : avail ≤ count := by omega
  have hFill : min fill count ≤ avail := by omega
  have hThere : front + avail ≤ rear := by omega
  by_cases hSome : 0 < min (s.fifo.mFrameCount - front % s.fifo.mFrameCount) avail
  · simp only [if_pos hSome]
    exact ⟨_, queue, front, rear, rfl, rfl, rfl, h.shaped, h.mFront, h.mRear, h.order, h.full,
      h.contents, h.fair, h.writer,
      ⟨⟨count, hAsked, hCount, hFill⟩, rfl, rfl, hThere, Nat.zero_le _, rfl⟩⟩
  · simp only [if_neg hSome]
    obtain rfl : avail = 0 := by omega
    have hStep : SharedQueue.step s.fifo.mFrameCount queue (.give []) =
        some { queue with contents := queue.contents, asked := none } :=
      step_give hAsked ⟨List.nil_prefix, Nat.zero_le _, hFill⟩
    refine ⟨_, { queue with contents := queue.contents, asked := none }, front, rear, rfl, ?_, rfl,
      h.shaped, h.mFront, h.mRear, h.order, h.full, h.contents, h.fair.step hStep, h.writer, rfl⟩
    rw [Option.toList_some, run, hStep]
    rfl

/-- A step of `memcpy`: the writer keeps away from the slot. -/
theorem Refines.copyOut (h : Refines s queue front rear room fill) {slot part1 availToRead : Nat}
    {copied : List α} (hAt : s.reader = .copy slot part1 availToRead copied)
    (hLt : copied.length < availToRead) :
    GoesOn s.fifo.mFrameCount queue (label s .reader) (readerStep s) room fill := by
  have hReader := h.reader
  rw [hAt] at hReader
  obtain ⟨hAsked, rfl, rfl, hThere, -, hCopied⟩ := hReader
  have hPos := h.shaped.count_pos
  have hFull := h.full
  have hSlot : FifoThreads.slot (front % s.fifo.mFrameCount) _ copied.length =
      (front + copied.length) % s.fifo.mFrameCount :=
    slot_eq hPos (show availToRead ≤ s.fifo.mFrameCount by omega) hLt
  rw [readerStep, label, hAt]
  simp only [if_pos hLt, hSlot]
  refine ⟨_, queue, front, rear, rfl, rfl, rfl, h.shaped, h.mFront, h.mRear, h.order, h.full,
    h.contents, h.fair, h.writer, hAsked, rfl, rfl, hThere, ?_, ?_⟩
  · rw [List.length_append]
    exact hLt
  · rw [List.length_append, List.length_singleton, window_succ, ← hCopied]

/-- `atomic_store_explicit(&fifo->mFront, ..)`: the frames have left the queue. -/
theorem Refines.storeFront (h : Refines s queue front rear room fill)
    {slot part1 availToRead : Nat} {copied : List α}
    (hAt : s.reader = .copy slot part1 availToRead copied)
    (hDone : ¬copied.length < availToRead) :
    GoesOn s.fifo.mFrameCount queue (label s .reader) (readerStep s) room fill := by
  have hReader := h.reader
  rw [hAt] at hReader
  obtain ⟨⟨count, hAsked, hCount, hFill⟩, rfl, rfl, hThere, hLe, hCopied⟩ := hReader
  obtain rfl : copied.length = availToRead := by omega
  have hFull := h.full
  have hSum := h.shaped.sum_index front (show copied.length ≤ s.fifo.mFrameCount by omega)
  have hTurn : rear ≤ front + copied.length + s.fifo.mFrameCount := by omega
  have hFirst : copied = queue.contents.take copied.length := by
    rw [h.contents, window_take, Nat.min_eq_left (by omega)]
    exact hCopied
  have hStep : SharedQueue.step s.fifo.mFrameCount queue (.give copied) = _ :=
    step_give hAsked ⟨hFirst ▸ List.take_prefix _ _, hCount, hFill⟩
  rw [readerStep, label, hAt]
  simp only [if_neg hDone, h.mFront, hSum, Option.map_some]
  refine ⟨_, _, front + copied.length, rear, rfl, ?_, rfl, ⟨h.shaped.count_pos, h.shaped.count_lt,
    h.shaped.turn, h.shaped.count_le, h.shaped.fudge⟩, rfl, h.mRear, hThere, hTurn, ?_,
    h.fair.step hStep, ?_, rfl⟩
  · rw [Option.toList_some, run, hStep]
    rfl
  · rw [h.contents, window_drop, Nat.sub_sub]
  · have hWriter := h.writer
    revert hWriter
    cases s.writer with
    | idle => exact id
    | loadFront buffer => exact id
    | copy buffer slot part1 availToWrite i =>
        rintro ⟨hOffered, rfl, rfl, hLe, hBlock, hRoom, hTurn, hCopied⟩
        have hMore : rear + availToWrite ≤ front + copied.length + s.fifo.mFrameCount := by
          have hOld : rear + availToWrite ≤ front + s.fifo.mFrameCount := hTurn
          omega
        exact ⟨hOffered, rfl, rfl, hLe, hBlock, hRoom, hMore, hCopied⟩

/-- The reader can always go on with its call, and ends it as the queue allows. -/
theorem Refines.readerStep (h : Refines s queue front rear room fill) (hCall : s.reader ≠ .idle) :
    GoesOn s.fifo.mFrameCount queue (label s .reader) (FifoThreads.readerStep s) room fill := by
  cases hAt : s.reader with
  | idle => exact absurd hAt hCall
  | loadRear count => exact h.loadRear hAt
  | copy slot part1 availToRead copied =>
      by_cases hLt : copied.length < availToRead
      · exact h.copyOut hAt hLt
      · exact h.storeFront hAt hLt

/-- A call of the writer begins. -/
theorem Refines.write (h : Refines s queue front rear room fill) (hIdle : s.writer = .idle)
    (buffer : List α) :
    GoesOn s.fifo.mFrameCount queue (some (.offer buffer))
      (some { s with writer := .loadFront buffer }) queue.contents.length fill := by
  have hOffered := h.writer
  rw [hIdle] at hOffered
  have hStep : SharedQueue.step s.fifo.mFrameCount queue (.offer buffer) =
      some { queue with offered := some (buffer, queue.contents.length) } := by
    rw [SharedQueue.step, hOffered]
  refine ⟨_, { queue with offered := some (buffer, queue.contents.length) }, front, rear, rfl, ?_,
    rfl, h.shaped, h.mFront, h.mRear, h.order, h.full, h.contents, h.fair.step hStep, rfl, h.reader⟩
  rw [Option.toList_some, run, hStep]
  rfl

/-- A call of the reader begins. -/
theorem Refines.read (h : Refines s queue front rear room fill) (hIdle : s.reader = .idle)
    (count : Nat) :
    GoesOn s.fifo.mFrameCount queue (some (.ask count))
      (some { s with reader := .loadRear count }) room queue.contents.length := by
  have hAsked := h.reader
  rw [hIdle] at hAsked
  have hStep : SharedQueue.step s.fifo.mFrameCount queue (.ask count) =
      some { queue with asked := some (count, queue.contents.length) } := by
    rw [SharedQueue.step, hAsked]
  refine ⟨_, { queue with asked := some (count, queue.contents.length) }, front, rear, rfl, ?_,
    rfl, h.shaped, h.mFront, h.mRear, h.order, h.full, h.contents, h.fair.step hStep, h.writer, rfl⟩
  rw [Option.toList_some, run, hStep]
  rfl

end Steps

/-- Two writes and two reads at a FIFO of three frames that overlap, and a write around its end. -/
def threeFrames : List (Event Nat) :=
  [.write [1, 2], .writer, .read 2, .reader, .writer, .writer, .read 2, .writer, .reader,
    .write [3, 4], .writer, .reader, .writer, .reader, .writer, .reader, .write [4, 5], .writer,
    .writer, .writer, .writer]

example : labels step label (init 3 fun _ => 0) threeFrames =
    [.offer [1, 2], .ask 2, .give [], .ask 2, .accept [1, 2], .offer [3, 4], .accept [3],
      .give [1, 2], .offer [4, 5], .accept [4, 5]] := by decide +kernel

section Runs

variable [DecidableEq α] {frameCount : Nat} {s t : State α} {queue : SharedQueue α}

/-- Some numbers of frames show that a state refines the queue. -/
def Implements (frameCount : Nat) (s : State α) (queue : SharedQueue α) : Prop :=
  s.fifo.mFrameCount = frameCount ∧ ∃ front rear room fill, Refines s queue front rear room fill

theorem GoesOn.implements {seen : Option (SharedQueue.Event α)} {room fill : Nat}
    (h : GoesOn frameCount queue seen (some t) room fill) :
    ∃ queue', run (SharedQueue.step frameCount) queue seen.toList = some queue' ∧
      Implements frameCount t queue' := by
  obtain ⟨u, queue', front, rear, hSame, hRun, hCount, hRefines⟩ := h
  cases hSame
  exact ⟨queue', hRun, hCount, front, rear, room, fill, hRefines⟩

/-- Every step of either thread is a step of the queue, or none. -/
theorem Implements.step (h : Implements frameCount s queue) {event : Event α}
    (hStep : FifoThreads.step s event = some t) :
    ∃ queue', run (SharedQueue.step frameCount) queue (label s event).toList = some queue' ∧
      Implements frameCount t queue' := by
  obtain ⟨rfl, front, rear, room, fill, hRefines⟩ := h
  cases event with
  | write buffer =>
      rw [FifoThreads.step] at hStep
      split at hStep
      · next hIdle =>
          cases hStep
          exact (hRefines.write hIdle buffer).implements
      · cases hStep
  | writer =>
      have hCall : s.writer ≠ .idle := by
        intro hIdle
        rw [FifoThreads.step, writerStep, hIdle] at hStep
        cases hStep
      have hNext := hRefines.writerStep hCall
      rw [show writerStep s = some t from hStep] at hNext
      exact hNext.implements
  | read count =>
      rw [FifoThreads.step] at hStep
      split at hStep
      · next hIdle =>
          cases hStep
          exact (hRefines.read hIdle count).implements
      · cases hStep
  | reader =>
      have hCall : s.reader ≠ .idle := by
        intro hIdle
        rw [FifoThreads.step, readerStep, hIdle] at hStep
        cases hStep
      have hNext := hRefines.readerStep hCall
      rw [show readerStep s = some t from hStep] at hNext
      exact hNext.implements

theorem implements_of_run (buffer : Nat → α) (hPos : 0 < frameCount) (hLt : frameCount < 2 ^ 31)
    {events : List (Event α)} (hRun : run step (init frameCount buffer) events = some t) :
    ∃ queue, run (SharedQueue.step frameCount) SharedQueue.empty
        (labels step label (init frameCount buffer) events) = some queue ∧
      Implements frameCount t queue :=
  run_labels (Implements frameCount) (fun _ _ _ _ hImplements hStep =>
    hImplements.step hStep) ⟨rfl, 0, 0, 0, 0, refines_init buffer hPos hLt⟩ hRun

/-- In every order of the accesses of the two threads their callers see a queue that holds
`frameCount` frames and no more: the reader copies what the writer put in, in the same order, each
frame whole and once; and however the indices wrap around, no assertion of the FIFO fails. -/
theorem frames_of_run (buffer : Nat → α) (hPos : 0 < frameCount)
    (hLt : frameCount < 2 ^ 31) {events : List (Event α)}
    (hRun : run step (init frameCount buffer) events = some t) :
    (∃ queue, run (SharedQueue.step frameCount) SharedQueue.empty
        (labels step label (init frameCount buffer) events) = some queue ∧
      SharedQueue.given (labels step label (init frameCount buffer) events) ++ queue.contents =
        SharedQueue.accepted (labels step label (init frameCount buffer) events) ∧
      queue.contents.length ≤ frameCount) ∧
    (t.writer ≠ .idle → (writerStep t).isSome) ∧ (t.reader ≠ .idle → (readerStep t).isSome) := by
  obtain ⟨queue, hQueue, rfl, front, rear, room, fill, hRefines⟩ :=
    implements_of_run buffer hPos hLt hRun
  refine ⟨⟨queue, hQueue, SharedQueue.given_append_contents hQueue, ?_⟩, fun hCall => ?_,
    fun hCall => ?_⟩
  · have hFull := hRefines.full
    rw [hRefines.length_contents]
    omega
  · obtain ⟨u, -, -, -, hStep, -⟩ := hRefines.writerStep hCall
    exact Option.isSome_iff_exists.mpr ⟨u, hStep⟩
  · obtain ⟨u, -, -, -, hStep, -⟩ := hRefines.readerStep hCall
    exact Option.isSome_iff_exists.mpr ⟨u, hStep⟩

theorem frames_of_run_wraps :
    ∃ t : State Nat, run step (init 3 fun _ => 0) threeFrames = some t ∧
      (∃ queue, run (SharedQueue.step 3) SharedQueue.empty
          (labels step label (init 3 fun _ => 0) threeFrames) = some queue ∧
        SharedQueue.given (labels step label (init 3 fun _ => 0) threeFrames) ++ queue.contents =
          SharedQueue.accepted (labels step label (init 3 fun _ => 0) threeFrames) ∧
        queue.contents.length ≤ 3) ∧
      (t.writer ≠ .idle → (writerStep t).isSome) ∧ (t.reader ≠ .idle → (readerStep t).isSome) := by
  obtain ⟨t, hRun⟩ := Option.isSome_iff_exists.mp
    (show (run step (init 3 fun _ => 0) threeFrames).isSome by decide +kernel)
  exact ⟨t, hRun, frames_of_run _ (by decide) (by decide) hRun⟩

end Runs

end AudioSync.Player.FifoThreads
