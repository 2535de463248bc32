import AudioSync.Player.ReaderWriterQueue

/-! The threads at a `ReaderWriterQueue`: whatever the order of their steps, the calls answer as
those of a queue do. The blocks from the front block to the tail block hold the elements; the
consumer leaves a block when it is empty, the producer when it is full. -/
namespace AudioSync.Player.ReaderWriterQueue

open Ring Transition

variable {α : Type} {maxSize unit room fill : Nat} {s t : State α} {others spare : List Nat}

/-- The elements in the front block and the blocks after it. -/
def State.items (s : State α) (others : List Nat) : List (Option α) :=
  (s.frontBlock :: others).flatMap fun b => (s.blocks b).items

/-- The blocks of a circle hold nothing. -/
def State.Unused (s : State α) (spare : List Nat) : Prop :=
  ∀ b ∈ spare, (s.blocks b).fill = 0

/-- Only the consumer's block may have room again once the producer has found it full. -/
def State.Full (s : State α) (others : List Nat) : Prop :=
  others ≠ [] → (s.blocks s.tailBlock).fill = (s.blocks s.tailBlock).sizeMask

/-- The producer knows of room for an element. -/
def Block.Room (block : Block α) : Prop :=
  block.distance block.localFront block.tail < block.sizeMask

/-- The circle of blocks: the front block, the `others` up to the tail block, and the `spare`
ones behind it. There are enough blocks that hold at least `unit` elements. -/
structure Layout (maxSize unit : Nat) (s : State α) (others spare : List Nat) : Prop where
  last : others.getLastD s.frontBlock = s.tailBlock
  nodup : (s.frontBlock :: others ++ spare).Nodup
  allocated : ∀ b ∈ s.frontBlock :: others ++ spare, b < s.allocated
  ok : ∀ b ∈ s.frontBlock :: others ++ spare, (s.blocks b).Ok
  linked : (s.frontBlock :: others ++ (spare ++ [s.frontBlock])).IsChain fun b c =>
    (s.blocks b).next = c
  busy : ∀ b ∈ others, 0 < (s.blocks b).fill
  full : ∀ b ∈ others.dropLast, (s.blocks b).fill = (s.blocks b).sizeMask
  largest : PowerOfTwo s.largestBlockSize
  unit_lt : unit < s.largestBlockSize
  unit_le : ∀ b ∈ s.frontBlock :: others ++ spare, unit ≤ (s.blocks b).sizeMask
  enough : maxSize ≤ unit * max 1 (others ++ spare).length

/-- What the producer's variables say about the queue; `room` is what the queue held when the
call began. -/
def ProducerAt (maxSize unit : Nat) (s : State α) (others spare : List Nat) (room : Nat) :
    Producer α → Prop
  | .idle => s.Unused spare
  | .loadFront _ tailBlock blockTail _ =>
      s.Unused spare ∧ tailBlock = s.tailBlock ∧ blockTail = (s.blocks tailBlock).tail
  | .construct tailBlock blockTail _ =>
      s.Unused spare ∧ tailBlock = s.tailBlock ∧ blockTail = (s.blocks tailBlock).tail ∧
        (s.blocks tailBlock).Room
  | .storeTail tailBlock nextBlockTail element =>
      s.Unused spare ∧ tailBlock = s.tailBlock ∧
        nextBlockTail = (s.blocks tailBlock).succ (s.blocks tailBlock).tail ∧
        (s.blocks tailBlock).Room ∧
        (s.blocks tailBlock).data (s.blocks tailBlock).tail = some element
  | .loadFrontBlock _ tailBlock _ =>
      s.Unused spare ∧ tailBlock = s.tailBlock ∧ s.Full others ∧
        (s.blocks tailBlock).sizeMask ≤ room
  | .loadNextFront tailBlock _ =>
      s.Unused spare ∧ tailBlock = s.tailBlock ∧ s.Full others ∧ spare ≠ []
  | .constructNext tailBlockNext nextBlockTail _ =>
      s.Unused spare ∧ spare.head? = some tailBlockNext ∧ s.Full others ∧
        nextBlockTail = (s.blocks tailBlockNext).tail ∧ (s.blocks tailBlockNext).Room
  | .storeNextTail tailBlockNext nextBlockTail element =>
      s.Unused spare ∧ spare.head? = some tailBlockNext ∧ s.Full others ∧
        nextBlockTail = (s.blocks tailBlockNext).tail ∧ (s.blocks tailBlockNext).Room ∧
        (s.blocks tailBlockNext).data nextBlockTail = some element
  | .allocate _ tailBlock _ =>
      s.Unused spare ∧ tailBlock = s.tailBlock ∧ s.Full others ∧ maxSize ≤ room
  | .linkBlock tailBlock newBlock element =>
      s.Unused spare ∧ tailBlock = s.tailBlock ∧ s.Full others ∧
        newBlock ∉ s.frontBlock :: others ++ spare ∧ newBlock < s.allocated ∧
        (s.blocks newBlock).Ok ∧ unit ≤ (s.blocks newBlock).sizeMask ∧
        (s.blocks newBlock).items = [some element] ∧
        (s.blocks newBlock).next = (s.blocks tailBlock).next
  | .storeTailBlock tailBlockNext element =>
      spare.head? = some tailBlockNext ∧ s.Unused spare.tail ∧ s.Full others ∧
        (s.blocks tailBlockNext).items = [some element]

/-- What the consumer's variables say about the queue; `fill` is what the queue held when the
call began. -/
def ConsumerAt (s : State α) (others : List Nat) (fill : Nat) : Consumer α → Prop
  | .idle => True
  | .loadTail _ frontBlock blockFront =>
      frontBlock = s.frontBlock ∧ blockFront = (s.blocks frontBlock).front
  | .loadTailBlock _ frontBlock => frontBlock = s.frontBlock ∧ (others = [] → fill = 0)
  | .reloadTail _ => others ≠ []
  | .loadNext _ frontBlock =>
      frontBlock = s.frontBlock ∧ others ≠ [] ∧ (s.blocks frontBlock).fill = 0
  | .loadNextTail _ nextBlock nextBlockFront =>
      others.head? = some nextBlock ∧ (s.blocks s.frontBlock).fill = 0 ∧
        nextBlockFront = (s.blocks nextBlock).front
  | .storeFrontBlock call nextBlock nextBlockFront =>
      others.head? = some nextBlock ∧ (s.blocks s.frontBlock).fill = 0 ∧
        nextBlockFront = (s.blocks nextBlock).front ∧
        (s.blocks nextBlock).front ≠ (s.blocks nextBlock).localTail ∧ call ≠ .peek
  | .take call frontBlock blockFront =>
      blockFront = (s.blocks frontBlock).front ∧
        (frontBlock = s.frontBlock ∧
            (s.blocks frontBlock).front ≠ (s.blocks frontBlock).localTail ∨
          call = .peek ∧ others.head? = some frontBlock ∧ (s.blocks s.frontBlock).fill = 0)
  | .storeFront frontBlock blockFront element =>
      frontBlock = s.frontBlock ∧
        blockFront = (s.blocks frontBlock).succ (s.blocks frontBlock).front ∧
        (s.blocks frontBlock).front ≠ (s.blocks frontBlock).localTail ∧
        (s.blocks frontBlock).data (s.blocks frontBlock).front = some element

/-- The element that a call of the producer adds. -/
def Producer.element : Producer α → Option α
  | .idle => none
  | .loadFront _ _ _ element | .construct _ _ element | .storeTail _ _ element
  | .loadFrontBlock _ _ element | .loadNextFront _ element | .constructNext _ _ element
  | .storeNextTail _ _ element | .allocate _ _ element | .linkBlock _ _ element
  | .storeTailBlock _ element => some element

/-- The state of the threads and the state of the queue that their callers see. -/
structure Refines (maxSize unit : Nat) (s : State α) (queue : SharedQueue α)
    (others spare : List Nat) (room fill : Nat) : Prop where
  layout : Layout maxSize unit s others spare
  contents : queue.contents.map some = s.items others
  offered : queue.offered = s.producer.element.map fun element => ([element], room)
  asked : queue.asked = match s.consumer with
    | .idle => none
    | _ => some (1, fill)
  fair : queue.Fair
  producer : ProducerAt maxSize unit s others spare room s.producer
  consumer : ConsumerAt s others fill s.consumer

section Stores

@[simp]
theorem withProducer_blocks (s : State α) (p : Producer α) :
    (s.withProducer p).blocks = s.blocks := rfl

@[simp]
theorem withConsumer_blocks (s : State α) (c : Consumer α) :
    (s.withConsumer c).blocks = s.blocks := rfl

@[simp]
theorem withProducer_frontBlock (s : State α) (p : Producer α) :
    (s.withProducer p).frontBlock = s.frontBlock := rfl

@[simp]
theorem withConsumer_frontBlock (s : State α) (c : Consumer α) :
    (s.withConsumer c).frontBlock = s.frontBlock := rfl

@[simp]
theorem withProducer_tailBlock (s : State α) (p : Producer α) :
    (s.withProducer p).tailBlock = s.tailBlock := rfl

@[simp]
theorem withConsumer_tailBlock (s : State α) (c : Consumer α) :
    (s.withConsumer c).tailBlock = s.tailBlock := rfl

@[simp]
theorem withProducer_allocated (s : State α) (p : Producer α) :
    (s.withProducer p).allocated = s.allocated := rfl

@[simp]
theorem withConsumer_allocated (s : State α) (c : Consumer α) :
    (s.withConsumer c).allocated = s.allocated := rfl

@[simp]
theorem write_frontBlock (s : State α) (b : Nat) (store : Block α → Block α) :
    (s.write b store).frontBlock = s.frontBlock := rfl

@[simp]
theorem write_tailBlock (s : State α) (b : Nat) (store : Block α → Block α) :
    (s.write b store).tailBlock = s.tailBlock := rfl

@[simp]
theorem write_blocks_self (s : State α) (b : Nat) (store : Block α → Block α) :
    (s.write b store).blocks b = store (s.blocks b) := Function.update_self ..

theorem write_blocks_of_ne (s : State α) {b c : Nat} (store : Block α → Block α) (hNe : c ≠ b) :
    (s.write b store).blocks c = s.blocks c := Function.update_of_ne hNe ..

theorem addBlock_blocks_self (s : State α) (size next : Nat) (element : α) :
    (s.addBlock size next element).blocks s.allocated = newBlock size next element :=
  Function.update_self ..

theorem addBlock_blocks_of_ne (s : State α) (size next : Nat) (element : α) {b : Nat}
    (hNe : b ≠ s.allocated) : (s.addBlock size next element).blocks b = s.blocks b :=
  Function.update_of_ne hNe ..

/-- What a store keeps of the block that it changes holds of every block after it. -/
theorem write_keeps {p : Block α → Prop} {address b : Nat} {store : Block α → Block α}
    (hKept : b = address → p (s.blocks address) → p (store (s.blocks address)))
    (hBefore : p (s.blocks b)) : p ((s.write address store).blocks b) := by
  by_cases hSame : b = address
  · subst hSame
    rw [write_blocks_self]
    exact hKept rfl hBefore
  · rwa [write_blocks_of_ne s store hSame]

/-- A store that puts nothing into an unused block. -/
theorem unused_write {address : Nat} {store : Block α → Block α} {p : Producer α}
    (h : s.Unused spare) (hKept : address ∈ spare → (store (s.blocks address)).fill = 0) :
    ((s.write address store).withProducer p).Unused spare := fun b hMem =>
  write_keeps (p := fun block => block.fill = 0) (fun hSame _ => hKept (hSame ▸ hMem)) (h b hMem)

/-- A store to a block that is not the tail block. -/
theorem full_write {address : Nat} {store : Block α → Block α} {p : Producer α}
    (h : s.Full others) (hNe : s.tailBlock ≠ address) :
    ((s.write address store).withProducer p).Full others := by
  intro hOthers
  rw [withProducer_blocks, withProducer_tailBlock, write_tailBlock, write_blocks_of_ne s _ hNe]
  exact h hOthers

end Stores

/-- A chain depends on what all its elements but the last one are related to. -/
theorem isChain_concat_imp {β : Type*} {r r' : β → β → Prop} {l : List β} {a : β}
    (hImp : ∀ b ∈ l, ∀ c, r b c → r' b c) (hChain : (l ++ [a]).IsChain r) :
    (l ++ [a]).IsChain r' := by
  induction l with
  | nil => exact List.isChain_singleton a
  | cons b l ih =>
      rw [List.cons_append, List.isChain_cons] at hChain ⊢
      exact ⟨fun c hHead => hImp b (List.mem_cons_self ..) c (hChain.1 c hHead),
        ih (fun d hMem => hImp d (List.mem_cons_of_mem b hMem)) hChain.2⟩

section Layout

theorem Layout.mem_tailBlock (h : Layout maxSize unit s others spare) :
    s.tailBlock ∈ s.frontBlock :: others := by
  rw [← h.last, List.getLastD_eq_getLast?]
  cases hLast : others.getLast? with
  | none => exact List.mem_cons_self ..
  | some b => exact List.mem_cons_of_mem _ (List.mem_of_getLast? hLast)

theorem Layout.tailBlock_mem (h : Layout maxSize unit s others spare) :
    s.tailBlock ∈ s.frontBlock :: others ++ spare :=
  List.mem_append_left _ h.mem_tailBlock

theorem Layout.ok_front (h : Layout maxSize unit s others spare) : (s.blocks s.frontBlock).Ok :=
  h.ok _ (List.mem_cons_self ..)

theorem Layout.ok_tail (h : Layout maxSize unit s others spare) : (s.blocks s.tailBlock).Ok :=
  h.ok _ h.tailBlock_mem

theorem Layout.notMem_others (h : Layout maxSize unit s others spare) :
    s.frontBlock ∉ others := fun hMem =>
  (List.nodup_cons.mp h.nodup).1 (List.mem_append_left _ hMem)

theorem Layout.disjoint (h : Layout maxSize unit s others spare) {b : Nat}
    (hUsed : b ∈ s.frontBlock :: others) : b ∉ spare := fun hSpare =>
  (List.nodup_append.mp h.nodup).2.2 b hUsed b hSpare rfl

theorem Layout.tailBlock_ne_spare (h : Layout maxSize unit s others spare) {b : Nat}
    (hSpare : b ∈ spare) : s.tailBlock ≠ b := by
  rintro rfl
  exact h.disjoint h.mem_tailBlock hSpare

/-- The front block is the tail block when there is no other. -/
theorem Layout.tailBlock_eq_iff (h : Layout maxSize unit s others spare) :
    s.frontBlock = s.tailBlock ↔ others = [] := by
  constructor
  · intro hSame
    by_contra hOthers
    refine h.notMem_others ?_
    rw [hSame, ← h.last, List.getLastD_eq_getLast?, List.getLast?_eq_some_getLast hOthers]
    exact List.getLast_mem hOthers
  · rintro rfl
    exact h.last

theorem Layout.unused_write (h : Layout maxSize unit s others spare) (hUnused : s.Unused spare)
    {store : Block α → Block α} {p : Producer α} :
    ((s.write s.tailBlock store).withProducer p).Unused spare :=
  ReaderWriterQueue.unused_write hUnused fun hMem => absurd hMem (h.disjoint h.mem_tailBlock)

theorem Layout.getLast? (h : Layout maxSize unit s others spare) :
    (s.frontBlock :: others).getLast? = some s.tailBlock := by
  rw [List.getLast?_cons, ← h.last, List.getLastD_eq_getLast?]

theorem Layout.tailBlock_notMem_dropLast (h : Layout maxSize unit s others spare) :
    s.tailBlock ∉ others.dropLast := by
  intro hMem
  have hSome : others ≠ [] := by
    rintro rfl
    cases hMem
  have hLast : others.getLast? = some s.tailBlock := by
    rw [← h.last, List.getLastD_eq_getLast?, List.getLast?_eq_some_getLast hSome]
    rfl
  obtain ⟨before, rfl⟩ := List.getLast?_eq_some_iff.mp hLast
  rw [List.dropLast_concat] at hMem
  have hOnce := (List.nodup_cons.mp (List.nodup_append.mp h.nodup).1).2
  exact (List.nodup_append.mp hOnce).2.2 _ hMem _ (List.mem_singleton_self _) rfl

/-- Behind the tail block comes a spare one, or the circle closes. -/
theorem Layout.next_tailBlock (h : Layout maxSize unit s others spare) :
    (s.blocks s.tailBlock).next = spare.headD s.frontBlock := by
  have hHead : (spare ++ [s.frontBlock]).head? = some (spare.headD s.frontBlock) := by
    cases spare <;> rfl
  exact (List.isChain_append.mp h.linked).2.2 _ h.getLast? _ hHead

theorem Layout.spare_eq_nil (h : Layout maxSize unit s others spare)
    (hNext : (s.blocks s.tailBlock).next = s.frontBlock) : spare = [] := by
  rw [h.next_tailBlock] at hNext
  cases spare with
  | nil => rfl
  | cons b rest =>
      exact absurd (List.mem_cons_self ..) (hNext ▸ h.disjoint (List.mem_cons_self ..))

theorem Layout.next_frontBlock {b : Nat} (h : Layout maxSize unit s others spare)
    (hOthers : others.head? = some b) : (s.blocks s.frontBlock).next = b := by
  obtain ⟨rest, rfl⟩ := List.head?_eq_some_iff.mp hOthers
  exact (List.isChain_cons_cons.mp h.linked).1

/-- The layout does not say where the threads are. -/
theorem Layout.withProducer (h : Layout maxSize unit s others spare) (p : Producer α) :
    Layout maxSize unit (s.withProducer p) others spare :=
  ⟨h.last, h.nodup, h.allocated, h.ok, h.linked, h.busy, h.full, h.largest, h.unit_lt, h.unit_le,
    h.enough⟩

theorem Layout.withConsumer (h : Layout maxSize unit s others spare) (c : Consumer α) :
    Layout maxSize unit (s.withConsumer c) others spare :=
  ⟨h.last, h.nodup, h.allocated, h.ok, h.linked, h.busy, h.full, h.largest, h.unit_lt, h.unit_le,
    h.enough⟩

/-- A store to one block that keeps its place in the circle. -/
theorem Layout.write (h : Layout maxSize unit s others spare) {address : Nat}
    {store : Block α → Block α} (hNext : (store (s.blocks address)).next = (s.blocks address).next)
    (hMask : (store (s.blocks address)).sizeMask = (s.blocks address).sizeMask)
    (hOk : (s.blocks address).Ok → (store (s.blocks address)).Ok)
    (hBusy : address ∈ others → 0 < (s.blocks address).fill → 0 < (store (s.blocks address)).fill)
    (hFull : address ∈ others.dropLast →
      (store (s.blocks address)).fill = (s.blocks address).fill) :
    Layout maxSize unit (s.write address store) others spare := by
  have hLinks : ∀ b, ((s.write address store).blocks b).next = (s.blocks b).next := fun b =>
    write_keeps (p := fun block => block.next = (s.blocks b).next) (fun hSame _ => by
      rw [hSame]
      exact hNext) rfl
  refine ⟨h.last, h.nodup, h.allocated, fun b hMem => ?_, ?_, fun b hMem => ?_, fun b hMem => ?_,
    h.largest, h.unit_lt, fun b hMem => ?_, h.enough⟩
  · exact write_keeps (p := Block.Ok) (fun _ => hOk) (h.ok b hMem)
  · simp only [hLinks]
    exact h.linked
  · exact write_keeps (p := fun block => 0 < block.fill) (fun hSame => hBusy (hSame ▸ hMem))
      (h.busy b hMem)
  · exact write_keeps (p := fun block => block.fill = block.sizeMask)
      (fun hSame hBefore => (hFull (hSame ▸ hMem)).trans (hBefore.trans hMask.symm)) (h.full b hMem)
  · exact write_keeps (p := fun block => unit ≤ block.sizeMask)
      (fun _ hBefore => hBefore.trans_eq hMask.symm) (h.unit_le b hMem)

/-- A full tail block is full like the blocks before it. -/
theorem Layout.full_others (h : Layout maxSize unit s others spare) (hFull : s.Full others) :
    ∀ b ∈ others, (s.blocks b).fill = (s.blocks b).sizeMask := by
  intro b hMem
  have hSome := List.ne_nil_of_mem hMem
  rcases List.mem_append.mp (List.dropLast_append_getLast hSome ▸ hMem) with hBefore | hLast
  · exact h.full b hBefore
  · have hTail : others.getLast hSome = s.tailBlock := by
      rw [← h.last, List.getLastD_eq_getLast?, List.getLast?_eq_some_getLast hSome]
      rfl
    rw [List.mem_singleton.mp hLast, hTail]
    exact hFull hSome

/-- The producer goes on to a spare block that it has put an element into. -/
theorem Layout.storeTailBlock {b : Nat} (h : Layout maxSize unit s others (b :: spare))
    (hFull : s.Full others) (hBusy : 0 < (s.blocks b).fill) :
    Layout maxSize unit { s with tailBlock := b } (others ++ [b]) spare where
  last := by simp
  nodup := by simpa using h.nodup
  allocated := by simpa using h.allocated
  ok := by simpa using h.ok
  linked := by simpa using h.linked
  busy := by
    intro c hMem
    rcases List.mem_append.mp hMem with hOther | hLast
    · exact h.busy c hOther
    · rw [List.mem_singleton.mp hLast]
      exact hBusy
  full := by
    rw [List.dropLast_concat]
    exact h.full_others hFull
  largest := h.largest
  unit_lt := h.unit_lt
  unit_le := by simpa using h.unit_le
  enough := by simpa using h.enough

/-- The consumer goes on to the next block and leaves an empty one behind. -/
theorem Layout.storeFrontBlock {b : Nat} (h : Layout maxSize unit s (b :: others) spare) :
    Layout maxSize unit { s with frontBlock := b } others (spare ++ [s.frontBlock]) where
  last := by
    rw [← h.last]
    exact (List.getLastD_cons ..).symm
  nodup := by
    have hRotated := List.nodup_rotate (n := 1) |>.mpr h.nodup
    simpa using hRotated
  allocated := by
    intro c hMem
    refine h.allocated c ?_
    simp only [List.cons_append, List.mem_cons, List.mem_append, List.not_mem_nil] at hMem ⊢
    tauto
  ok := by
    intro c hMem
    refine h.ok c ?_
    simp only [List.cons_append, List.mem_cons, List.mem_append, List.not_mem_nil] at hMem ⊢
    tauto
  linked := by
    obtain ⟨hNext, hRest⟩ := List.isChain_cons_cons.mp h.linked
    rw [← List.append_assoc (b :: others), ← List.append_assoc (b :: others),
      List.append_assoc (b :: others)]
    refine List.isChain_append.mpr ⟨hRest, List.isChain_singleton _, ?_⟩
    intro x hLast y hHead
    rw [← List.append_assoc, List.getLast?_concat] at hLast
    cases hLast
    cases hHead
    exact hNext
  busy := fun c hMem => h.busy c (List.mem_cons_of_mem _ hMem)
  full := by
    intro c hMem
    refine h.full c ?_
    cases others with
    | nil => cases hMem
    | cons d rest => exact List.mem_cons_of_mem _ hMem
  largest := h.largest
  unit_lt := h.unit_lt
  unit_le := by
    intro c hMem
    refine h.unit_le c ?_
    simp only [List.cons_append, List.mem_cons, List.mem_append, List.not_mem_nil] at hMem ⊢
    tauto
  enough := by simpa [Nat.add_assoc, Nat.add_comm, Nat.add_left_comm] using h.enough

/-- A new block, which nothing leads to yet. -/
theorem Layout.addBlock (h : Layout maxSize unit s others spare) {size : Nat} (next : Nat)
    (element : α) (hSize : PowerOfTwo size) (hUnit : unit < size) :
    Layout maxSize unit (s.addBlock size next element) others spare := by
  have hOld : ∀ b ∈ s.frontBlock :: others ++ spare,
      (s.addBlock size next element).blocks b = s.blocks b := fun b hMem =>
    addBlock_blocks_of_ne s size next element (Nat.ne_of_lt (h.allocated b hMem))
  have hOthers : ∀ b ∈ others, b ∈ s.frontBlock :: others ++ spare := by
    intro b hMem
    exact List.mem_append_left _ (List.mem_cons_of_mem _ hMem)
  refine ⟨h.last, h.nodup, fun b hMem => Nat.lt_succ_of_lt (h.allocated b hMem), fun b hMem => ?_,
    ?_, fun b hMem => ?_, fun b hMem => ?_, hSize, hUnit, fun b hMem => ?_, h.enough⟩
  · rw [hOld b hMem]
    exact h.ok b hMem
  · have hLinked := h.linked
    rw [← List.append_assoc] at hLinked ⊢
    refine isChain_concat_imp (fun b hMem c hNext => ?_) hLinked
    rw [hOld b hMem]
    exact hNext
  · rw [hOld b (hOthers b hMem)]
    exact h.busy b hMem
  · rw [hOld b (hOthers b (List.mem_of_mem_dropLast hMem))]
    exact h.full b hMem
  · rw [hOld b hMem]
    exact h.unit_le b hMem

/-- The new block comes behind the tail block. -/
theorem Layout.linkBlock (h : Layout maxSize unit s others spare) {new : Nat}
    (hNew : new ∉ s.frontBlock :: others ++ spare) (hAllocated : new < s.allocated)
    (hOk : (s.blocks new).Ok) (hUnit : unit ≤ (s.blocks new).sizeMask)
    (hNext : (s.blocks new).next = (s.blocks s.tailBlock).next) :
    Layout maxSize unit (s.write s.tailBlock fun block => { block with next := new }) others
      (new :: spare) := by
  have hRing : ∀ b ∈ s.frontBlock :: others ++ new :: spare,
      b = new ∨ b ∈ s.frontBlock :: others ++ spare := by
    intro b hMem
    simp only [List.cons_append, List.mem_cons, List.mem_append] at hMem ⊢
    tauto
  have hEach : ∀ (p : Block α → Prop) (b : Nat),
      (∀ block, p block → p { block with next := new }) → p (s.blocks b) →
        p ((s.write s.tailBlock fun block => { block with next := new }).blocks b) :=
    fun p b hKept hBefore => write_keeps (p := p) (fun _ => hKept _) hBefore
  have hNe : ∀ b, b ≠ s.tailBlock →
      ((s.write s.tailBlock fun block => { block with next := new }).blocks b).next =
        (s.blocks b).next := fun b hOther => by rw [write_blocks_of_ne s _ hOther]
  refine ⟨h.last, ?_, fun b hMem => ?_, fun b hMem => ?_, ?_, fun b hMem => ?_, fun b hMem => ?_,
    h.largest, h.unit_lt, fun b hMem => ?_, ?_⟩
  · rw [List.perm_middle.nodup_iff]
    exact List.nodup_cons.mpr ⟨hNew, h.nodup⟩
  · rcases hRing b hMem with rfl | hOld
    · exact hAllocated
    · exact h.allocated b hOld
  · refine hEach Block.Ok b (fun block hBlock => ⟨hBlock.size, hBlock.front, hBlock.tail,
      hBlock.localTail, hBlock.localFront, hBlock.behind, hBlock.ahead⟩) ?_
    rcases hRing b hMem with rfl | hOld
    · exact hOk
    · exact h.ok b hOld
  · obtain ⟨before, hUsed⟩ := List.getLast?_eq_some_iff.mp h.getLast?
    have hLinked := h.linked
    have hNodup := h.nodup
    rw [hUsed] at hLinked hNodup
    rw [write_frontBlock, hUsed]
    obtain ⟨hFront, hSpare, hJoin⟩ := List.isChain_append.mp hLinked
    obtain ⟨hOnce, -, hApart⟩ := List.nodup_append.mp hNodup
    have hTail : (s.blocks s.tailBlock).next ∈ (spare ++ [s.frontBlock]).head? := by
      rw [h.next_tailBlock]
      cases spare <;> rfl
    refine List.isChain_append.mpr ⟨isChain_concat_imp (fun b hMem c hNext => ?_) hFront,
      List.isChain_cons.mpr ⟨fun c hHead => ?_,
        isChain_concat_imp (fun b hMem c hNext => ?_) hSpare⟩, fun b hLast c hHead => ?_⟩
    · have hOther : b ≠ s.tailBlock := by
        rintro rfl
        exact (List.nodup_append.mp hOnce).2.2 _ hMem _ (List.mem_singleton_self _) rfl
      exact (hNe b hOther).trans hNext
    · have hOther : new ≠ s.tailBlock := by
        rintro rfl
        exact hNew h.tailBlock_mem
      rw [hNe new hOther, hNext]
      exact Option.some.inj (hTail.symm.trans hHead)
    · have hOther : b ≠ s.tailBlock := by
        rintro rfl
        exact hApart _ (List.mem_append_right _ (List.mem_singleton_self _)) _ hMem rfl
      exact (hNe b hOther).trans hNext
    · rw [List.getLast?_concat] at hLast
      cases hLast
      cases hHead
      rw [write_blocks_self]
  · exact hEach (fun block => 0 < block.fill) b (fun _ hBusy => hBusy) (h.busy b hMem)
  · exact hEach (fun block => block.fill = block.sizeMask) b (fun _ hFull => hFull) (h.full b hMem)
  · refine hEach (fun block => unit ≤ block.sizeMask) b (fun _ hLe => hLe) ?_
    rcases hRing b hMem with rfl | hOld
    · exact hUnit
    · exact h.unit_le b hOld
  · refine h.enough.trans (Nat.mul_le_mul_left _ ?_)
    simp only [List.length_append, List.length_cons]
    omega

end Layout

section Interference

variable {s' : State α} {others' spare' : List Nat}

/-- What the steps of the producer leave to the consumer. -/
structure Grows (s s' : State α) (others others' : List Nat) : Prop where
  frontBlock : s'.frontBlock = s.frontBlock
  longer : others <+: others'
  front : ∀ b ∈ s.frontBlock :: others, (s'.blocks b).front = (s.blocks b).front
  localTail : ∀ b ∈ s.frontBlock :: others, (s'.blocks b).localTail = (s.blocks b).localTail
  sizeMask : ∀ b ∈ s.frontBlock :: others, (s'.blocks b).sizeMask = (s.blocks b).sizeMask
  data : ∀ b ∈ s.frontBlock :: others, (s.blocks b).front ≠ (s.blocks b).tail →
    (s'.blocks b).data (s.blocks b).front = (s.blocks b).data (s.blocks b).front
  left : others ≠ [] → (s'.blocks s.frontBlock).fill = (s.blocks s.frontBlock).fill

/-- The consumer does not notice what the producer does. -/
theorem ConsumerAt.grows {c : Consumer α} (h : ConsumerAt s others fill c)
    (hGrows : Grows s s' others others')
    (hOk : (s.blocks s.frontBlock).Ok) : ConsumerAt s' others' fill c := by
  have hFront := hGrows.front s.frontBlock (List.mem_cons_self ..)
  have hLocalTail := hGrows.localTail s.frontBlock (List.mem_cons_self ..)
  have hMask := hGrows.sizeMask s.frontBlock (List.mem_cons_self ..)
  have hSome : others ≠ [] → others' ≠ [] := fun hOthers hNil => by
    have hPrefix := hGrows.longer
    rw [hNil, List.prefix_nil] at hPrefix
    exact hOthers hPrefix
  have hHead : ∀ b, others.head? = some b → others'.head? = some b ∧ b ∈ s.frontBlock :: others := by
    intro b hHead
    obtain ⟨rest, rfl⟩ := List.head?_eq_some_iff.mp hHead
    obtain ⟨more, hMore⟩ := hGrows.longer
    rw [← hMore]
    exact ⟨rfl, List.mem_cons_of_mem _ (List.mem_cons_self ..)⟩
  have hLeft : ∀ b, others.head? = some b → (s.blocks s.frontBlock).fill = 0 →
      (s'.blocks s'.frontBlock).fill = 0 := by
    intro b hHead hEmpty
    rw [hGrows.frontBlock, hGrows.left (by rintro rfl; cases hHead), hEmpty]
  cases c with
  | idle => trivial
  | loadTail call frontBlock blockFront =>
      obtain ⟨rfl, rfl⟩ := h
      exact ⟨hGrows.frontBlock.symm, hFront.symm⟩
  | loadTailBlock call frontBlock =>
      obtain ⟨rfl, hEmpty⟩ := h
      refine ⟨hGrows.frontBlock.symm, fun hNil => hEmpty ?_⟩
      by_contra hOthers
      exact hSome hOthers hNil
  | reloadTail call => exact hSome h
  | loadNext call frontBlock =>
      obtain ⟨rfl, hOthers, hEmpty⟩ := h
      exact ⟨hGrows.frontBlock.symm, hSome hOthers, by rw [hGrows.left hOthers, hEmpty]⟩
  | loadNextTail call nextBlock nextBlockFront =>
      obtain ⟨hNext, hEmpty, rfl⟩ := h
      obtain ⟨hNext', hMem⟩ := hHead nextBlock hNext
      exact ⟨hNext', hLeft nextBlock hNext hEmpty, (hGrows.front nextBlock hMem).symm⟩
  | storeFrontBlock call nextBlock nextBlockFront =>
      obtain ⟨hNext, hEmpty, rfl, hBusy, hCall⟩ := h
      obtain ⟨hNext', hMem⟩ := hHead nextBlock hNext
      refine ⟨hNext', hLeft nextBlock hNext hEmpty, (hGrows.front nextBlock hMem).symm, ?_, hCall⟩
      rwa [hGrows.front nextBlock hMem, hGrows.localTail nextBlock hMem]
  | take call frontBlock blockFront =>
      obtain ⟨rfl, ⟨rfl, hBusy⟩ | ⟨hCall, hNext, hEmpty⟩⟩ := h
      · exact ⟨hFront.symm, .inl ⟨hGrows.frontBlock.symm, by rwa [hFront, hLocalTail]⟩⟩
      · obtain ⟨hNext', hMem⟩ := hHead frontBlock hNext
        exact ⟨(hGrows.front frontBlock hMem).symm,
          .inr ⟨hCall, hNext', hLeft frontBlock hNext hEmpty⟩⟩
  | storeFront frontBlock blockFront element =>
      obtain ⟨rfl, rfl, hBusy, hData⟩ := h
      have hTail : (s.blocks s.frontBlock).front ≠ (s.blocks s.frontBlock).tail :=
        hOk.fill_pos_iff.mp (hOk.fill_pos_of_localTail hBusy)
      refine ⟨hGrows.frontBlock.symm, ?_, by rwa [hFront, hLocalTail], ?_⟩
      · rw [Block.succ, Block.succ, hFront, hMask]
      · rw [hFront, hGrows.data _ (List.mem_cons_self ..) hTail, hData]

/-- What the steps of the consumer leave to the producer. -/
structure Drains (s s' : State α) (others others' spare spare' : List Nat) : Prop where
  tailBlock : s'.tailBlock = s.tailBlock
  allocated : s'.allocated = s.allocated
  tail : ∀ b, (s'.blocks b).tail = (s.blocks b).tail
  localFront : ∀ b, (s'.blocks b).localFront = (s.blocks b).localFront
  sizeMask : ∀ b, (s'.blocks b).sizeMask = (s.blocks b).sizeMask
  data : ∀ b, (s'.blocks b).data = (s.blocks b).data
  next : ∀ b, (s'.blocks b).next = (s.blocks b).next
  away : ∀ b, b ∉ s.frontBlock :: others → s'.blocks b = s.blocks b
  used : s'.frontBlock :: others' <:+ s.frontBlock :: others
  unused : ∃ left, spare' = spare ++ left ∧ left ⊆ s.frontBlock :: others ∧ s'.Unused left
  full : others' ≠ [] → (s'.blocks s.tailBlock).fill = (s.blocks s.tailBlock).fill

/-- The producer does not notice what the consumer does. -/
theorem ProducerAt.drains {p : Producer α} (h : ProducerAt maxSize unit s others spare room p)
    (hDrains : Drains s s' others others' spare spare')
    (hLayout : Layout maxSize unit s others spare) :
    ProducerAt maxSize unit s' others' spare' room p := by
  obtain ⟨left, rfl, hLeft, hEmpty⟩ := hDrains.unused
  have hUnchanged : ∀ b ∈ spare, s'.blocks b = s.blocks b := fun b hMem =>
    hDrains.away b fun hUsed => hLayout.disjoint hUsed hMem
  have hUnused : ∀ unused ⊆ spare, s.Unused unused → s'.Unused (unused ++ left) := by
    intro unused hSub hBefore b hMem
    rcases List.mem_append.mp hMem with hSpare | hNew
    · rw [hUnchanged b (hSub hSpare)]
      exact hBefore b hSpare
    · exact hEmpty b hNew
  have hFull : s.Full others → s'.Full others' := by
    intro hBefore hSome
    have hOthers : others ≠ [] := by
      rintro rfl
      have hLength := hDrains.used.length_le
      simp only [List.length_cons, List.length_nil] at hLength
      exact hSome (List.length_eq_zero_iff.mp (by omega))
    rw [hDrains.tailBlock, hDrains.full hSome, hDrains.sizeMask, hBefore hOthers]
  have hSucc : ∀ b i, (s'.blocks b).succ i = (s.blocks b).succ i := fun b i => by
    rw [Block.succ, Block.succ, hDrains.sizeMask]
  have hRoom : ∀ b, (s.blocks b).Room → (s'.blocks b).Room := fun b hBefore => by
    rwa [Block.Room, Block.distance, hDrains.tail, hDrains.localFront, hDrains.sizeMask]
  have hHead : ∀ b, spare.head? = some b → (spare ++ left).head? = some b ∧ b ∈ spare := by
    intro b hHead
    obtain ⟨rest, rfl⟩ := List.head?_eq_some_iff.mp hHead
    exact ⟨rfl, List.mem_cons_self ..⟩
  cases p with
  | idle => exact hUnused spare (List.Subset.refl _) h
  | loadFront mode tailBlock blockTail element =>
      obtain ⟨hSpare, rfl, rfl⟩ := h
      exact ⟨hUnused spare (List.Subset.refl _) hSpare, hDrains.tailBlock.symm,
        (hDrains.tail _).symm⟩
  | construct tailBlock blockTail element =>
      obtain ⟨hSpare, rfl, rfl, hSome⟩ := h
      exact ⟨hUnused spare (List.Subset.refl _) hSpare, hDrains.tailBlock.symm,
        (hDrains.tail _).symm, hRoom _ hSome⟩
  | storeTail tailBlock nextBlockTail element =>
      obtain ⟨hSpare, rfl, rfl, hSome, hData⟩ := h
      refine ⟨hUnused spare (List.Subset.refl _) hSpare, hDrains.tailBlock.symm, ?_,
        hRoom _ hSome, ?_⟩
      · rw [hSucc, hDrains.tail]
      · rw [hDrains.data, hDrains.tail, hData]
  | loadFrontBlock mode tailBlock element =>
      obtain ⟨hSpare, rfl, hBefore, hLe⟩ := h
      exact ⟨hUnused spare (List.Subset.refl _) hSpare, hDrains.tailBlock.symm, hFull hBefore,
        (hDrains.sizeMask _).trans_le hLe⟩
  | loadNextFront tailBlock element =>
      obtain ⟨hSpare, rfl, hBefore, hSome⟩ := h
      exact ⟨hUnused spare (List.Subset.refl _) hSpare, hDrains.tailBlock.symm, hFull hBefore,
        List.append_ne_nil_of_left_ne_nil hSome _⟩
  | constructNext tailBlockNext nextBlockTail element =>
      obtain ⟨hSpare, hNext, hBefore, rfl, hSome⟩ := h
      exact ⟨hUnused spare (List.Subset.refl _) hSpare, (hHead _ hNext).1, hFull hBefore,
        (hDrains.tail _).symm, hRoom _ hSome⟩
  | storeNextTail tailBlockNext nextBlockTail element =>
      obtain ⟨hSpare, hNext, hBefore, rfl, hSome, hData⟩ := h
      exact ⟨hUnused spare (List.Subset.refl _) hSpare, (hHead _ hNext).1, hFull hBefore,
        (hDrains.tail _).symm, hRoom _ hSome, by rw [hDrains.data, hData]⟩
  | allocate mode tailBlock element =>
      obtain ⟨hSpare, rfl, hBefore, hLe⟩ := h
      exact ⟨hUnused spare (List.Subset.refl _) hSpare, hDrains.tailBlock.symm, hFull hBefore, hLe⟩
  | linkBlock tailBlock newBlock element =>
      obtain ⟨hSpare, rfl, hBefore, hNew, hAllocated, hOk, hUnit, hItems, hNext⟩ := h
      have hSame : s'.blocks newBlock = s.blocks newBlock :=
        hDrains.away newBlock fun hUsed => hNew (List.mem_append_left _ hUsed)
      refine ⟨hUnused spare (List.Subset.refl _) hSpare, hDrains.tailBlock.symm, hFull hBefore,
        fun hMem => hNew ?_, ?_, ?_, ?_, ?_, ?_⟩
      · rcases List.mem_append.mp hMem with hUsed | hSpare
        · exact List.mem_append_left _ (hDrains.used.mem hUsed)
        · rcases List.mem_append.mp hSpare with hOld | hMore
          · exact List.mem_append_right _ hOld
          · exact List.mem_append_left _ (hLeft hMore)
      · rwa [hDrains.allocated]
      · rwa [hSame]
      · rwa [hSame]
      · rwa [hSame]
      · rw [hDrains.next, hDrains.next, hNext]
  | storeTailBlock tailBlockNext element =>
      obtain ⟨hNext, hSpare, hBefore, hItems⟩ := h
      obtain ⟨hNext', hMem⟩ := hHead tailBlockNext hNext
      have hSome : spare ≠ [] := List.ne_nil_of_mem hMem
      refine ⟨hNext', ?_, hFull hBefore, ?_⟩
      · rw [List.tail_append_of_ne_nil hSome]
        exact hUnused spare.tail (List.tail_subset _) hSpare
      · rw [hUnchanged tailBlockNext hMem, hItems]

/-- A store that leaves what the consumer looks at. -/
theorem Layout.grows (h : Layout maxSize unit s others spare) {address : Nat}
    {store : Block α → Block α} {p : Producer α}
    (hFront : (store (s.blocks address)).front = (s.blocks address).front)
    (hLocalTail : (store (s.blocks address)).localTail = (s.blocks address).localTail)
    (hMask : (store (s.blocks address)).sizeMask = (s.blocks address).sizeMask)
    (hData : address ∈ s.frontBlock :: others →
      (s.blocks address).front ≠ (s.blocks address).tail →
        (store (s.blocks address)).data (s.blocks address).front =
          (s.blocks address).data (s.blocks address).front)
    (hLeft : address ≠ s.tailBlock → address ∈ s.frontBlock :: others →
      (store (s.blocks address)).fill = (s.blocks address).fill) :
    Grows s ((s.write address store).withProducer p) others others := by
  refine ⟨rfl, List.prefix_refl _, fun b _ => ?_, fun b _ => ?_, fun b _ => ?_,
    fun b hMem hSome => ?_, fun hOthers => ?_⟩
  · exact write_keeps (p := fun block => block.front = (s.blocks b).front)
      (fun hSame _ => hSame ▸ hFront) rfl
  · exact write_keeps (p := fun block => block.localTail = (s.blocks b).localTail)
      (fun hSame _ => hSame ▸ hLocalTail) rfl
  · exact write_keeps (p := fun block => block.sizeMask = (s.blocks b).sizeMask)
      (fun hSame _ => hSame ▸ hMask) rfl
  · refine write_keeps
      (p := fun block => block.data (s.blocks b).front = (s.blocks b).data (s.blocks b).front)
      (fun hSame _ => ?_) rfl
    subst hSame
    exact hData hMem hSome
  · refine write_keeps (p := fun block => block.fill = (s.blocks s.frontBlock).fill)
      (fun hSame _ => ?_) rfl
    subst hSame
    exact hLeft (fun hTail => hOthers (h.tailBlock_eq_iff.mp hTail)) (List.mem_cons_self ..)

/-- A step that only the consumer knows of. -/
theorem Drains.refl {c : Consumer α} :
    Drains s (s.withConsumer c) others others spare spare :=
  ⟨rfl, rfl, fun _ => rfl, fun _ => rfl, fun _ => rfl, fun _ => rfl, fun _ => rfl, fun _ _ => rfl,
    List.suffix_refl _,
    ⟨[], (List.append_nil _).symm, List.nil_subset _, fun _ hNil => absurd hNil List.not_mem_nil⟩,
    fun _ => rfl⟩

/-- A store to a block in use that leaves what the producer looks at. -/
theorem Layout.drains (h : Layout maxSize unit s others spare) {address : Nat}
    {store : Block α → Block α} {c : Consumer α} (hMem : address ∈ s.frontBlock :: others)
    (hTail : (store (s.blocks address)).tail = (s.blocks address).tail)
    (hLocalFront : (store (s.blocks address)).localFront = (s.blocks address).localFront)
    (hMask : (store (s.blocks address)).sizeMask = (s.blocks address).sizeMask)
    (hData : (store (s.blocks address)).data = (s.blocks address).data)
    (hNext : (store (s.blocks address)).next = (s.blocks address).next)
    (hFill : address ∈ others → (store (s.blocks address)).fill = (s.blocks address).fill) :
    Drains s ((s.write address store).withConsumer c) others others spare spare := by
  refine ⟨rfl, rfl, fun b => ?_, fun b => ?_, fun b => ?_, fun b => ?_, fun b => ?_,
    fun b hAway => ?_, List.suffix_refl _, ⟨[], (List.append_nil _).symm, List.nil_subset _, ?_⟩,
    fun hOthers => ?_⟩
  · exact write_keeps (p := fun block => block.tail = (s.blocks b).tail)
      (fun hSame _ => hSame ▸ hTail) rfl
  · exact write_keeps (p := fun block => block.localFront = (s.blocks b).localFront)
      (fun hSame _ => hSame ▸ hLocalFront) rfl
  · exact write_keeps (p := fun block => block.sizeMask = (s.blocks b).sizeMask)
      (fun hSame _ => hSame ▸ hMask) rfl
  · exact write_keeps (p := fun block => block.data = (s.blocks b).data)
      (fun hSame _ => hSame ▸ hData) rfl
  · exact write_keeps (p := fun block => block.next = (s.blocks b).next)
      (fun hSame _ => hSame ▸ hNext) rfl
  · exact write_blocks_of_ne s store (by rintro rfl; exact hAway hMem)
  · exact fun b hNil => absurd hNil List.not_mem_nil
  · refine write_keeps (p := fun block => block.fill = (s.blocks s.tailBlock).fill)
      (fun hSame _ => ?_) rfl
    subst hSame
    refine hFill ((List.mem_cons.mp h.mem_tailBlock).resolve_left fun hFront => ?_)
    exact hOthers (h.tailBlock_eq_iff.mp hFront.symm)

end Interference

section Items

theorem items_congr (hFrontBlock : t.frontBlock = s.frontBlock)
    (hSame : ∀ b ∈ s.frontBlock :: others, (t.blocks b).items = (s.blocks b).items) :
    t.items others = s.items others := by
  rw [State.items, State.items, hFrontBlock]
  exact List.flatMap_congr hSame

/-- Putting an element into the last one of a list of parts puts it behind them all. -/
theorem flatMap_concat {β γ : Type*} {l : List β} {last : β} {parts parts' : β → List γ} {x : γ}
    (hLast : l.getLast? = some last) (hNodup : l.Nodup) (hPart : parts' last = parts last ++ [x])
    (hSame : ∀ b, b ≠ last → parts' b = parts b) : l.flatMap parts' = l.flatMap parts ++ [x] := by
  obtain ⟨before, rfl⟩ := List.getLast?_eq_some_iff.mp hLast
  have hBefore : before.flatMap parts' = before.flatMap parts := by
    refine List.flatMap_congr fun b hMem => hSame b ?_
    rintro rfl
    exact (List.nodup_append.mp hNodup).2.2 _ hMem _ (List.mem_singleton_self _) rfl
  rw [List.flatMap_append, List.flatMap_append, hBefore, List.flatMap_singleton,
    List.flatMap_singleton, hPart, List.append_assoc]

theorem Layout.items_write (h : Layout maxSize unit s others spare)
    {store : Block α → Block α} {p : Producer α} {element : α}
    (hPart : (store (s.blocks s.tailBlock)).items =
      (s.blocks s.tailBlock).items ++ [some element]) :
    ((s.write s.tailBlock store).withProducer p).items others =
      s.items others ++ [some element] := by
  refine flatMap_concat h.getLast? (List.nodup_append.mp h.nodup).1 ?_ fun b hNe => ?_
  · rw [withProducer_blocks, write_blocks_self, hPart]
  · rw [withProducer_blocks, write_blocks_of_ne s store hNe]

theorem Layout.fill_le_length (h : Layout maxSize unit s others spare) :
    (s.blocks s.tailBlock).fill ≤ (s.items others).length := by
  rw [State.items, List.length_flatMap, ← Block.items_length]
  exact List.le_sum_of_mem (List.mem_map_of_mem h.mem_tailBlock)

/-- All blocks but the front block are full when the producer finds no spare one. -/
theorem Layout.maxSize_le_length (h : Layout maxSize unit s others [])
    (hFull : s.Full others) (hOthers : others ≠ []) : maxSize ≤ (s.items others).length := by
  have hEach : ∀ x ∈ others.map fun b => (s.blocks b).items.length, unit ≤ x := by
    intro x hMem
    obtain ⟨b, hOther, rfl⟩ := List.mem_map.mp hMem
    have hUnit : unit ≤ (s.blocks b).sizeMask :=
      h.unit_le b (List.mem_append_left _ (List.mem_cons_of_mem _ hOther))
    rw [Block.items_length, h.full_others hFull b hOther]
    exact hUnit
  have hSum := List.card_nsmul_le_sum _ unit hEach
  have hSome : 1 ≤ others.length := List.length_pos_iff.mpr hOthers
  calc maxSize ≤ unit * max 1 (others ++ []).length := h.enough
    _ = others.length * unit := by
        rw [List.append_nil, Nat.max_eq_right hSome, Nat.mul_comm]
    _ ≤ (others.map fun b => (s.blocks b).items.length).sum := by
        simpa using hSum
    _ ≤ (s.items others).length := by
        rw [State.items, List.length_flatMap, List.map_cons, List.sum_cons]
        exact Nat.le_add_left _ _

end Items

section Bounds

variable {queue : SharedQueue α}

/-- The queue never holds more than it did when the producer's call began. -/
theorem Refines.length_le_room (h : Refines maxSize unit s queue others spare room fill)
    {element : α} (hElement : s.producer.element = some element) :
    (s.items others).length ≤ room := by
  have hOffered := h.offered
  rw [hElement] at hOffered
  rw [← h.contents, List.length_map]
  exact h.fair.room _ _ hOffered

theorem Refines.asked_of_ne (h : Refines maxSize unit s queue others spare room fill)
    (hCall : s.consumer ≠ .idle) : queue.asked = some (1, fill) := by
  rw [h.asked]
  split
  · exact absurd (by assumption) hCall
  · rfl

/-- And never less than it did when the consumer's call began. -/
theorem Refines.fill_le_length (h : Refines maxSize unit s queue others spare room fill)
    (hCall : s.consumer ≠ .idle) : fill ≤ (s.items others).length := by
  rw [← h.contents, List.length_map]
  exact h.fair.fill 1 fill (h.asked_of_ne hCall)

/-- The slot that is read holds the first element of the queue. -/
theorem Refines.data_eq (h : Refines maxSize unit s queue others spare room fill) {call : Call}
    {frontBlock blockFront : Nat} (hAt : s.consumer = .take call frontBlock blockFront) :
    ∃ element rest, queue.contents = element :: rest ∧
      (s.blocks frontBlock).data blockFront = some element := by
  have hPlace := h.consumer
  rw [hAt] at hPlace
  -- The slots of the queue begin with those of the block that is read.
  have hHead : (s.items others).head? = some ((s.blocks frontBlock).data blockFront) := by
    obtain ⟨rfl, ⟨rfl, hSome⟩ | ⟨-, hNext, hEmpty⟩⟩ := hPlace
    · have hOk := h.layout.ok_front
      have hBusy := hOk.fill_pos_iff.mp (hOk.fill_pos_of_localTail hSome)
      rw [State.items, List.flatMap_cons]
      rw [List.head?_append, hOk.items_head? hBusy, Option.some_or]
    · obtain ⟨rest, rfl⟩ := List.head?_eq_some_iff.mp hNext
      have hOther : frontBlock ∈ frontBlock :: rest := List.mem_cons_self ..
      have hOk := h.layout.ok frontBlock (List.mem_append_left _ (List.mem_cons_of_mem _ hOther))
      have hBusy := hOk.fill_pos_iff.mp (h.layout.busy frontBlock hOther)
      have hNil : (s.blocks s.frontBlock).items = [] := by
        rw [← List.length_eq_zero_iff, Block.items_length, hEmpty]
      rw [State.items, List.flatMap_cons, hNil, List.nil_append, List.flatMap_cons]
      rw [List.head?_append, hOk.items_head? hBusy, Option.some_or]
  rw [← h.contents] at hHead
  cases hContents : queue.contents with
  | nil => rw [hContents] at hHead; cases hHead
  | cons element rest =>
      rw [hContents] at hHead
      exact ⟨element, rest, rfl, (Option.some.inj hHead).symm⟩

end Bounds

end AudioSync.Player.ReaderWriterQueue
