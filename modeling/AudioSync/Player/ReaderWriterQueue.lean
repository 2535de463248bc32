import AudioSync.Basic
import AudioSync.Lib.Ring
import AudioSync.Lib.SharedQueue

/-! `moodycamel::ReaderWriterQueue`, which takes the marks from the thread that enqueues frames
to the callback: a circle of ring buffers. The producer and the consumer are interleaved at
every access to memory that the other one uses; the fences of the source keep the accesses in
program order. What a thread alone writes it reads together with its access before. -/
namespace AudioSync.Player.ReaderWriterQueue

open Ring

/-- `Block`. Slots that hold no element yet are `none`. The addresses of blocks are numbers;
`next` is set before a block is linked, and a null pointer is never looked at. -/
structure Block (α : Type) where
  front : Nat
  localTail : Nat
  tail : Nat
  localFront : Nat
  next : Nat
  data : Nat → Option α
  sizeMask : Nat

/-- `make_block` -/
def makeBlock {α : Type} (capacity : Nat) : Block α :=
  ⟨0, 0, 0, 0, 0, fun _ => none, capacity - 1⟩

/-- The position behind `i` in a block, `(i + 1) & sizeMask`. -/
def Block.succ {α : Type} (block : Block α) (i : Nat) : Nat := (i + 1) &&& block.sizeMask

/-- `new (data + i * sizeof(T)) T(element)` -/
def Block.construct {α : Type} (block : Block α) (i : Nat) (element : α) : Block α :=
  { block with data := Function.update block.data i (some element) }

/-- What `inner_enqueue` does to a new block before anyone else knows of it. -/
def newBlock {α : Type} (capacity next : Nat) (element : α) : Block α :=
  { (makeBlock capacity).construct 0 element with tail := 1, localTail := 1, next := next }

/-- `try_enqueue` may not allocate, `enqueue` may. -/
inductive AllocationMode
  | canAlloc
  | cannotAlloc
deriving DecidableEq

/-- What the consumer calls. -/
inductive Call
  | tryDequeue
  | peek
  | pop
deriving DecidableEq

/-- Where the producer is in `inner_enqueue`, named by what it does next, with the variables
that it still needs. -/
inductive Producer (α : Type)
  | idle
  /-- `nextBlockTail != (tailBlock_->localFront = tailBlock_->front.load())` -/
  | loadFront (mode : AllocationMode) (tailBlock blockTail : Nat) (element : α)
  /-- `new (location) T(element)` in the tail block -/
  | construct (tailBlock blockTail : Nat) (element : α)
  /-- `tailBlock_->tail = nextBlockTail` -/
  | storeTail (tailBlock nextBlockTail : Nat) (element : α)
  /-- `tailBlock_->next.load() != frontBlock` -/
  | loadFrontBlock (mode : AllocationMode) (tailBlock : Nat) (element : α)
  /-- `tailBlockNext->localFront = tailBlockNext->front.load()`, and the assertion -/
  | loadNextFront (tailBlock : Nat) (element : α)
  /-- `new (location) T(element)` in the next block -/
  | constructNext (tailBlockNext nextBlockTail : Nat) (element : α)
  /-- `tailBlockNext->tail = (nextBlockTail + 1) & tailBlockNext->sizeMask` -/
  | storeNextTail (tailBlockNext nextBlockTail : Nat) (element : α)
  /-- `make_block(newBlockSize)` and what is done to the new block alone -/
  | allocate (mode : AllocationMode) (tailBlock : Nat) (element : α)
  /-- `tailBlock_->next = newBlock` -/
  | linkBlock (tailBlock newBlock : Nat) (element : α)
  /-- `tailBlock = tailBlockNext` or `tailBlock = newBlock` -/
  | storeTailBlock (tailBlockNext : Nat) (element : α)

/-- Where the consumer is in `try_dequeue`, `peek` or `pop`. -/
inductive Consumer (α : Type)
  | idle
  /-- `blockFront != (frontBlock_->localTail = frontBlock_->tail.load())` -/
  | loadTail (call : Call) (frontBlock blockFront : Nat)
  /-- `frontBlock_ != tailBlock.load()` -/
  | loadTailBlock (call : Call) (frontBlock : Nat)
  /-- `blockTail = frontBlock_->localTail = frontBlock_->tail.load()` once more -/
  | reloadTail (call : Call)
  /-- `nextBlock = frontBlock_->next` -/
  | loadNext (call : Call) (frontBlock : Nat)
  /-- `nextBlock->localTail = nextBlock->tail.load()`, and the assertion -/
  | loadNextTail (call : Call) (nextBlock nextBlockFront : Nat)
  /-- `frontBlock = frontBlock_ = nextBlock` -/
  | storeFrontBlock (call : Call) (nextBlock nextBlockFront : Nat)
  /-- `result = std::move(*element)`, or the element that the pointer leads to -/
  | take (call : Call) (frontBlock blockFront : Nat)
  /-- `frontBlock_->front = blockFront` -/
  | storeFront (frontBlock blockFront : Nat) (element : α)

/-- The queue and its two threads. `allocated` is the number of blocks so far. -/
structure State (α : Type) where
  blocks : Nat → Block α
  allocated : Nat
  frontBlock : Nat
  tailBlock : Nat
  largestBlockSize : Nat
  producer : Producer α
  consumer : Consumer α

/-- What happens next: a call begins, or a thread makes one step. `memory` says whether
`malloc` would find a block now. -/
inductive Event (α : Type)
  | enqueue (mode : AllocationMode) (element : α)
  | producer (memory : Bool)
  | call (call : Call)
  | consumer

section Program

variable {α : Type}

/-- The smallest power of two that is not below `x`: all bits below the highest one of `x - 1`
are set, by shifts that a `size_t` of 64 bits has room for. -/
def ceilToPow2 (x : Nat) : Nat :=
  ([1, 2, 4, 8, 16, 32].foldl (fun x shift => x ||| x >>> shift) (x - 1)) + 1

/-- One round of the constructor's loop: block `i` closes the circle, behind the one before. -/
def linkInitial (size : Nat) (blocks : Nat → Block α) (i : Nat) : Nat → Block α :=
  let blocks := if i = 0 then blocks
    else Function.update blocks (i - 1) { blocks (i - 1) with next := i }
  Function.update blocks i { makeBlock size with next := 0 }

/-- A queue with `count` blocks of one size. -/
def initial (size count : Nat) : State α where
  blocks := (List.range count).foldl (linkInitial size) fun _ => makeBlock size
  allocated := count
  frontBlock := 0
  tailBlock := 0
  largestBlockSize := size
  producer := .idle
  consumer := .idle

/-- The constructor. -/
def make (maxBlockSize maxSize : Nat) : State α :=
  let largestBlockSize := ceilToPow2 (maxSize + 1)
  if maxBlockSize * 2 < largestBlockSize then
    initial maxBlockSize ((maxSize + maxBlockSize * 2 - 3) / (maxBlockSize - 1))
  else initial largestBlockSize 1

/-- One store to a block. -/
def State.write (s : State α) (address : Nat) (store : Block α → Block α) : State α :=
  { s with blocks := Function.update s.blocks address (store (s.blocks address)) }

/-- A new block with its first element, which knows the block after it and is not known. -/
def State.addBlock (s : State α) (newBlockSize next : Nat) (element : α) : State α :=
  { s with
    blocks := Function.update s.blocks s.allocated (newBlock newBlockSize next element)
    allocated := s.allocated + 1
    largestBlockSize := newBlockSize }

/-- Where the producer is now. -/
def State.withProducer (s : State α) (p : Producer α) : State α := { s with producer := p }

/-- Where the consumer is now. -/
def State.withConsumer (s : State α) (c : Consumer α) : State α := { s with consumer := c }

/-- `inner_enqueue` up to its first look at what the consumer writes. -/
def beginEnqueue (s : State α) (mode : AllocationMode) (element : α) : Producer α :=
  let tailBlock := s.blocks s.tailBlock
  if tailBlock.succ tailBlock.tail ≠ tailBlock.localFront then
    .construct s.tailBlock tailBlock.tail element
  else .loadFront mode s.tailBlock tailBlock.tail element

/-- The next step of `inner_enqueue`; `none` where no call is under way or an assertion
fails. -/
def producerStep (maxBlockSize : Nat) (memory : Bool) (s : State α) : Option (State α) :=
  match s.producer with
  | .idle => none
  | .loadFront mode tailBlock blockTail element =>
      let front := (s.blocks tailBlock).front
      some <| (s.write tailBlock fun block => { block with localFront := front }).withProducer <|
        if (s.blocks tailBlock).succ blockTail ≠ front then .construct tailBlock blockTail element
        else .loadFrontBlock mode tailBlock element
  | .construct tailBlock blockTail element =>
      some <| (s.write tailBlock fun block => block.construct blockTail element).withProducer <|
        .storeTail tailBlock ((s.blocks tailBlock).succ blockTail) element
  | .storeTail tailBlock nextBlockTail _ =>
      some <| (s.write tailBlock fun block => { block with tail := nextBlockTail }).withProducer .idle
  | .loadFrontBlock mode tailBlock element =>
      some <| s.withProducer <|
        if (s.blocks tailBlock).next ≠ s.frontBlock then .loadNextFront tailBlock element
        else .allocate mode tailBlock element
  | .loadNextFront tailBlock element =>
      let tailBlockNext := (s.blocks tailBlock).next
      let front := (s.blocks tailBlockNext).front
      let tail := (s.blocks tailBlockNext).tail
      if front = tail then
        some <| (s.write tailBlockNext fun block => { block with localFront := front }).withProducer <|
          .constructNext tailBlockNext tail element
      else none
  | .constructNext tailBlockNext nextBlockTail element =>
      some <|
        (s.write tailBlockNext fun block => block.construct nextBlockTail element).withProducer <|
          .storeNextTail tailBlockNext nextBlockTail element
  | .storeNextTail tailBlockNext nextBlockTail element =>
      let tail := (s.blocks tailBlockNext).succ nextBlockTail
      some <| (s.write tailBlockNext fun block => { block with tail := tail }).withProducer <|
        .storeTailBlock tailBlockNext element
  | .allocate mode tailBlock element =>
      if mode = .canAlloc ∧ memory = true then
        let newBlockSize := if maxBlockSize ≤ s.largestBlockSize then s.largestBlockSize
          else s.largestBlockSize * 2
        some <| (s.addBlock newBlockSize (s.blocks tailBlock).next element).withProducer <|
          .linkBlock tailBlock s.allocated element
      else some (s.withProducer .idle)
  | .linkBlock tailBlock newBlock element =>
      some <| (s.write tailBlock fun block => { block with next := newBlock }).withProducer <|
        .storeTailBlock newBlock element
  | .storeTailBlock tailBlockNext _ =>
      some { s with tailBlock := tailBlockNext, producer := .idle }

/-- `try_dequeue`, `peek` or `pop` up to its first look at what the producer writes. -/
def beginCall (s : State α) (call : Call) : Consumer α :=
  let frontBlock := s.blocks s.frontBlock
  if frontBlock.front ≠ frontBlock.localTail then .take call s.frontBlock frontBlock.front
  else .loadTail call s.frontBlock frontBlock.front

/-- The next step of a consumer's call; `none` where there is no call, an assertion fails or
a slot without an element is read. -/
def consumerStep (s : State α) : Option (State α) :=
  match s.consumer with
  | .idle => none
  | .loadTail call frontBlock blockFront =>
      let tail := (s.blocks frontBlock).tail
      some <| (s.write frontBlock fun block => { block with localTail := tail }).withConsumer <|
        if blockFront ≠ tail then .take call frontBlock blockFront
        else .loadTailBlock call frontBlock
  | .loadTailBlock call frontBlock =>
      some <| s.withConsumer <| if frontBlock ≠ s.tailBlock then .reloadTail call else .idle
  | .reloadTail call =>
      let frontBlock := s.frontBlock
      let tail := (s.blocks frontBlock).tail
      let front := (s.blocks frontBlock).front
      some <| (s.write frontBlock fun block => { block with localTail := tail }).withConsumer <|
        if front ≠ tail then .take call frontBlock front else .loadNext call frontBlock
  | .loadNext call frontBlock =>
      let nextBlock := (s.blocks frontBlock).next
      some <| s.withConsumer <| .loadNextTail call nextBlock (s.blocks nextBlock).front
  | .loadNextTail call nextBlock nextBlockFront =>
      let tail := (s.blocks nextBlock).tail
      if nextBlockFront ≠ tail then
        -- `peek` compares without keeping the tail, and leaves `frontBlock` where it is.
        if call = .peek then some <| s.withConsumer <| .take call nextBlock nextBlockFront
        else
          some <| (s.write nextBlock fun block => { block with localTail := tail }).withConsumer <|
            .storeFrontBlock call nextBlock nextBlockFront
      else none
  | .storeFrontBlock call nextBlock nextBlockFront =>
      some { s with frontBlock := nextBlock, consumer := .take call nextBlock nextBlockFront }
  | .take call frontBlock blockFront =>
      ((s.blocks frontBlock).data blockFront).map fun element =>
        s.withConsumer <| if call = .peek then .idle
          else .storeFront frontBlock ((s.blocks frontBlock).succ blockFront) element
  | .storeFront frontBlock blockFront _ =>
      some <| (s.write frontBlock fun block => { block with front := blockFront }).withConsumer .idle

/-- The loop of `size_approx`, for at most so many blocks. The difference of the indices is
taken modulo the size of the block, a power of two. -/
def sizeApproxLoop (s : State α) (frontBlock : Nat) : Nat → Nat → Nat
  | 0, _ => 0
  | blocks + 1, address =>
      let block := s.blocks address
      let count := (block.tail + (block.sizeMask + 1) - block.front) &&& block.sizeMask
      if block.next = frontBlock then count
      else count + sizeApproxLoop s frontBlock blocks block.next

/-- `size_approx`, when nothing changes while it looks. -/
def sizeApprox (s : State α) : Nat := sizeApproxLoop s s.frontBlock s.allocated s.frontBlock

/-- One step of the system. A thread begins a call when its last one has returned. -/
def step (maxBlockSize : Nat) (s : State α) : Event α → Option (State α)
  | .enqueue mode element =>
      match s.producer with
      | .idle => some (s.withProducer (beginEnqueue s mode element))
      | _ => none
  | .producer memory => producerStep maxBlockSize memory s
  | .call call =>
      match s.consumer with
      | .idle => some (s.withConsumer (beginCall s call))
      | _ => none
  | .consumer => consumerStep s

/-- What the callers see of a step. `false` from an `enqueue` takes no element, and `nullptr`
or `false` gives none; what `pop` removes counts as given. -/
def label (s : State α) : Event α → Option (SharedQueue.Event α)
  | .enqueue _ element => some (.offer [element])
  | .producer memory =>
      match s.producer with
      | .storeTail _ _ element => some (.accept [element])
      | .storeTailBlock _ element => some (.accept [element])
      | .allocate mode _ _ =>
          if mode = .canAlloc ∧ memory = true then none else some (.accept [])
      | _ => none
  | .call _ => some (.ask 1)
  | .consumer =>
      match s.consumer with
      | .loadTailBlock call frontBlock =>
          if frontBlock ≠ s.tailBlock then none
          else if call = .peek then some (.show []) else some (.give [])
      | .take call frontBlock blockFront =>
          if call = .peek then
            some (.show ((s.blocks frontBlock).data blockFront).toList)
          else none
      | .storeFront _ _ element => some (.give [element])
      | _ => none

end Program

/-- A power of two that is at least 2. -/
def PowerOfTwo (n : Nat) : Prop := ∃ k, 0 < k ∧ n = 2 ^ k

namespace Block

variable {α : Type} {block : Block α}

/-- How far it is from one position to another, going forward. -/
def distance (block : Block α) (i j : Nat) : Nat :=
  if i ≤ j then j - i else j + (block.sizeMask + 1) - i

/-- The number of elements in a block. -/
def fill (block : Block α) : Nat := block.distance block.front block.tail

/-- The slots that hold the elements of a block. -/
def items (block : Block α) : List (Option α) :=
  window (block.sizeMask + 1) block.data block.front block.fill

/-- A block between two steps. The consumer's copy of the tail lags behind it, and so does the
producer's copy of the front. -/
structure Ok (block : Block α) : Prop where
  size : PowerOfTwo (block.sizeMask + 1)
  front : block.front ≤ block.sizeMask
  tail : block.tail ≤ block.sizeMask
  localTail : block.localTail ≤ block.sizeMask
  localFront : block.localFront ≤ block.sizeMask
  behind : block.distance block.front block.localTail ≤ block.fill
  ahead : block.fill ≤ block.distance block.localFront block.tail

theorem Ok.sizeMask_pos (h : block.Ok) : 0 < block.sizeMask := by
  obtain ⟨k, hPos, hSize⟩ := h.size
  have hTwo : 2 ^ 1 ≤ 2 ^ k := Nat.pow_le_pow_right (by decide) hPos
  omega

theorem Ok.succ_eq (h : block.Ok) {i : Nat} (hLe : i ≤ block.sizeMask) :
    block.succ i = if i = block.sizeMask then 0 else i + 1 := by
  obtain ⟨k, hPos, hSize⟩ := h.size
  have hMask : block.sizeMask = 2 ^ k - 1 := by omega
  rw [succ, hMask, Nat.and_two_pow_sub_one_eq_mod, ← hMask, ← hSize]
  split_ifs with hLast
  · rw [hLast, Nat.mod_self]
  · exact Nat.mod_eq_of_lt (by omega)

theorem Ok.succ_le (h : block.Ok) {i : Nat} (hLe : i ≤ block.sizeMask) :
    block.succ i ≤ block.sizeMask := by
  rw [h.succ_eq hLe]
  split_ifs <;> omega

/-- There is room for an element unless the position behind it is the front. -/
theorem Ok.succ_ne_iff (h : block.Ok) {i j : Nat} (hFrom : j ≤ block.sizeMask)
    (hTo : i ≤ block.sizeMask) :
    block.succ i ≠ j ↔ block.distance j i < block.sizeMask := by
  rw [h.succ_eq hTo, distance]
  split_ifs <;> omega

theorem Ok.fill_le (h : block.Ok) : block.fill ≤ block.sizeMask := by
  have hFront := h.front
  have hTail := h.tail
  rw [fill, distance]
  split_ifs <;> omega

theorem Ok.fill_pos_iff (h : block.Ok) : 0 < block.fill ↔ block.front ≠ block.tail := by
  have hFront := h.front
  have hTail := h.tail
  rw [fill, distance]
  split_ifs <;> omega

theorem Ok.sub_and_sizeMask (h : block.Ok) :
    (block.tail + (block.sizeMask + 1) - block.front) &&& block.sizeMask = block.fill := by
  have hFront := h.front
  have hTail := h.tail
  obtain ⟨k, hPos, hSize⟩ := h.size
  have hMask : block.sizeMask = 2 ^ k - 1 := by omega
  rw [hMask, Nat.and_two_pow_sub_one_eq_mod, ← hMask, ← hSize, fill, distance]
  split_ifs
  · rw [show block.tail + (block.sizeMask + 1) - block.front =
      block.tail - block.front + (block.sizeMask + 1) by omega, Nat.add_mod_right]
    exact Nat.mod_eq_of_lt (by omega)
  · exact Nat.mod_eq_of_lt (by omega)

/-- What the consumer's copy of the tail shows is there. -/
theorem Ok.fill_pos_of_localTail (h : block.Ok) (hSome : block.front ≠ block.localTail) :
    0 < block.fill := by
  have hFront := h.front
  have hBehind := h.behind
  rw [distance] at hBehind
  split_ifs at hBehind <;> omega

/-- The tail is where the next element comes. -/
theorem Ok.front_add_fill (h : block.Ok) :
    (block.front + block.fill) % (block.sizeMask + 1) = block.tail := by
  have hFront := h.front
  have hTail := h.tail
  rw [fill, distance]
  split_ifs
  · rw [Nat.add_sub_cancel' (by assumption), Nat.mod_eq_of_lt (by omega)]
  · rw [show block.front + (block.tail + (block.sizeMask + 1) - block.front) =
      block.tail + (block.sizeMask + 1) by omega, Nat.add_mod_right, Nat.mod_eq_of_lt (by omega)]

@[simp]
theorem items_length (block : Block α) : block.items.length = block.fill := by
  simp [items]

/-- The first element is in the front slot. -/
theorem Ok.items_head? (h : block.Ok) (hSome : block.front ≠ block.tail) :
    block.items.head? = some (block.data block.front) := by
  obtain ⟨n, hFill⟩ := Nat.exists_eq_succ_of_ne_zero (h.fill_pos_iff.mpr hSome).ne'
  have hFront := h.front
  rw [items, hFill, window_succ_eq_cons, List.head?_cons, Nat.mod_eq_of_lt (Nat.lt_succ_of_le hFront)]

section Stores

/-- The copies that the threads keep are renewed. -/
theorem Ok.loadFront (h : block.Ok) : { block with localFront := block.front }.Ok where
  size := h.size
  front := h.front
  tail := h.tail
  localTail := h.localTail
  localFront := h.front
  behind := h.behind
  ahead := Nat.le_refl _

theorem Ok.loadTail (h : block.Ok) : { block with localTail := block.tail }.Ok where
  size := h.size
  front := h.front
  tail := h.tail
  localTail := h.tail
  localFront := h.localFront
  behind := Nat.le_refl _
  ahead := h.ahead

theorem Ok.construct (h : block.Ok) (i : Nat) (element : α) : (block.construct i element).Ok :=
  ⟨h.size, h.front, h.tail, h.localTail, h.localFront, h.behind, h.ahead⟩

/-- The slot behind the last element is none of the element's slots. -/
theorem Ok.front_add_ne_tail (h : block.Ok) {i : Nat} (hLt : i < block.fill) :
    (block.front + i) % (block.sizeMask + 1) ≠ block.tail := by
  have hTail := h.front_add_fill
  have hFill := h.fill_le
  have hFront := h.front
  rw [Ring.add_mod_of_le (Nat.succ_pos _) (by omega), Nat.mod_eq_of_lt (by omega)] at hTail ⊢
  split_ifs at hTail ⊢ <;> omega

theorem Ok.items_construct (h : block.Ok) (element : α) :
    (block.construct block.tail element).items = block.items :=
  window_congr fun _ hLt => Function.update_of_ne (h.front_add_ne_tail hLt) _ _

/-- The producer stores a tail after it has constructed the element. -/
theorem Ok.storeTail (h : block.Ok)
    (hRoom : block.distance block.localFront block.tail < block.sizeMask) :
    { block with tail := block.succ block.tail }.Ok ∧
      { block with tail := block.succ block.tail }.fill = block.fill + 1 := by
  have hFront := h.front
  have hTail := h.tail
  have hLocalFront := h.localFront
  have hLocalTail := h.localTail
  have hBehind := h.behind
  have hAhead := h.ahead
  have hSucc := h.succ_eq hTail
  simp only [fill, distance] at hBehind hAhead hRoom
  have hFill : { block with tail := block.succ block.tail }.fill = block.fill + 1 := by
    simp only [fill, distance, hSucc]
    split_ifs at hAhead hRoom ⊢ <;> omega
  refine ⟨⟨h.size, hFront, h.succ_le hTail, hLocalTail, hLocalFront, ?_, ?_⟩, hFill⟩
  · rw [hFill]
    exact h.behind.trans (Nat.le_succ _)
  · simp only [hFill]
    simp only [fill, distance, hSucc]
    split_ifs at hAhead hRoom ⊢ <;> omega

theorem Ok.items_storeTail (h : block.Ok) {element : α}
    (hRoom : block.distance block.localFront block.tail < block.sizeMask)
    (hData : block.data block.tail = some element) :
    { block with tail := block.succ block.tail }.items = block.items ++ [some element] := by
  rw [items, (h.storeTail hRoom).2, window_succ, h.front_add_fill]
  exact congrArg (block.items ++ [·]) hData

/-- The consumer stores a front after it has taken the element. -/
theorem Ok.storeFront (h : block.Ok) (hSome : block.front ≠ block.localTail) :
    { block with front := block.succ block.front }.Ok ∧
      { block with front := block.succ block.front }.fill + 1 = block.fill := by
  have hFront := h.front
  have hTail := h.tail
  have hLocalFront := h.localFront
  have hLocalTail := h.localTail
  have hBehind := h.behind
  have hAhead := h.ahead
  have hSucc := h.succ_eq hFront
  simp only [fill, distance] at hBehind hAhead
  have hFill : { block with front := block.succ block.front }.fill + 1 = block.fill := by
    simp only [fill, distance, hSucc]
    split_ifs at hBehind ⊢ <;> omega
  refine ⟨⟨h.size, h.succ_le hFront, hTail, hLocalTail, hLocalFront, ?_, ?_⟩, hFill⟩
  · simp only [fill, distance, hSucc]
    split_ifs at hBehind ⊢ <;> omega
  · exact (Nat.le_of_lt (Nat.lt_of_succ_le (Nat.le_of_eq hFill))).trans h.ahead

theorem Ok.items_eq_cons (h : block.Ok) (hSome : block.front ≠ block.localTail) :
    block.items = block.data block.front ::
      { block with front := block.succ block.front }.items := by
  obtain ⟨hOk, hFill⟩ := h.storeFront hSome
  have hFront := h.front
  have hSucc : block.succ block.front = (block.front + 1) % (block.sizeMask + 1) := by
    rw [h.succ_eq hFront]
    split_ifs with hLast
    · rw [hLast, Nat.mod_self]
    · exact (Nat.mod_eq_of_lt (by omega)).symm
  rw [items, ← hFill, window_succ_eq_cons, Nat.mod_eq_of_lt (Nat.lt_succ_of_le hFront)]
  refine congrArg (block.data block.front :: ·) ?_
  rw [items]
  simp only [hSucc, window_mod]

/-- A new block with its first element. -/
theorem ok_newBlock {size : Nat} (hSize : PowerOfTwo size) (next : Nat) (element : α) :
    (newBlock size next element).Ok ∧ (newBlock size next element).items = [some element] := by
  obtain ⟨k, hPos, rfl⟩ := hSize
  have hTwo : 2 ^ 1 ≤ 2 ^ k := Nat.pow_le_pow_right (by decide) hPos
  have hMask : (newBlock (2 ^ k) next element).sizeMask = 2 ^ k - 1 := rfl
  have hTail : (newBlock (2 ^ k) next element).tail = 1 := rfl
  have hLocalTail : (newBlock (2 ^ k) next element).localTail = 1 := rfl
  constructor
  · exact ⟨⟨k, hPos, by omega⟩, Nat.zero_le _, by omega, by omega, Nat.zero_le _, Nat.le_refl _,
      Nat.le_refl _⟩
  · show window _ (Function.update _ 0 (some element)) 0 1 = [some element]
    rw [window_succ_eq_cons, window_zero, Nat.zero_mod, Function.update_self]

end Stores

end Block

end AudioSync.Player.ReaderWriterQueue
