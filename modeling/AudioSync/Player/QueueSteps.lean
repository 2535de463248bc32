import AudioSync.Player.QueueThreads

/-! The steps of the two threads, one by one. Each of them can be made where its thread has come
to, and the callers see of it what the queue allows. -/
namespace AudioSync.Player.ReaderWriterQueue

open Transition

variable {α : Type} {maxSize unit room fill : Nat} {s t : State α} {others spare : List Nat}

section Producer

variable [DecidableEq α] {queue : SharedQueue α}

/-- A step that the callers see as `seen` leads to a state that refines the queue again. -/
def Matched (maxSize unit : Nat) (queue : SharedQueue α) (seen : Option (SharedQueue.Event α))
    (t : State α) (room fill : Nat) : Prop :=
  ∃ queue' others spare, run (SharedQueue.step maxSize) queue seen.toList = some queue' ∧
    Refines maxSize unit t queue' others spare room fill

/-- A thread can go on, and its caller sees of the step what the queue allows. -/
def GoesOn (maxSize unit : Nat) (queue : SharedQueue α) (seen : Option (SharedQueue.Event α))
    (next : Option (State α)) (room fill : Nat) : Prop :=
  ∃ t, next = some t ∧ Matched maxSize unit queue seen t room fill

/-- A step of the producer that the callers do not see. -/
theorem Refines.hidden (h : Refines maxSize unit s queue others spare room fill) {t : State α}
    (others' spare' : List Nat) (hElement : t.producer.element = s.producer.element)
    (hConsumer : t.consumer = s.consumer)
    (hLayout : Layout maxSize unit t others' spare') (hItems : t.items others' = s.items others)
    (hAt : ProducerAt maxSize unit t others' spare' room t.producer)
    (hGrows : Grows s t others others') : Matched maxSize unit queue none t room fill := by
  refine ⟨queue, others', spare', rfl, hLayout, ?_, ?_, ?_, h.fair, hAt, ?_⟩
  · rw [hItems, h.contents]
  · rw [hElement, h.offered]
  · rw [hConsumer, h.asked]
  · rw [hConsumer]
    exact h.consumer.grows hGrows h.layout.ok_front

/-- The step with which a call of the producer puts its element into the queue. -/
theorem Refines.accepted (h : Refines maxSize unit s queue others spare room fill) {t : State α}
    (others' spare' : List Nat) {element : α} (hElement : s.producer.element = some element)
    (hProducer : t.producer = .idle) (hConsumer : t.consumer = s.consumer)
    (hLayout : Layout maxSize unit t others' spare')
    (hItems : t.items others' = s.items others ++ [some element])
    (hUnused : t.Unused spare') (hGrows : Grows s t others others') :
    Matched maxSize unit queue (some (.accept [element])) t room fill := by
  have hOffered := h.offered
  rw [hElement, Option.map_some] at hOffered
  have hStep : SharedQueue.step maxSize queue (.accept [element]) =
      some { queue with contents := queue.contents ++ [element], offered := none } := by
    rw [SharedQueue.step, hOffered]
    exact if_pos ⟨List.prefix_refl _, Nat.min_le_right _ _⟩
  refine ⟨_, others', spare', ?_, hLayout, ?_, ?_, ?_, h.fair.step hStep, ?_, ?_⟩
  · rw [Option.toList_some, run, hStep]
    rfl
  · rw [hItems, List.map_append, h.contents]
    rfl
  · rw [hProducer]
    rfl
  · rw [hConsumer, h.asked]
  · rw [hProducer]
    exact hUnused
  · rw [hConsumer]
    exact h.consumer.grows hGrows h.layout.ok_front

/-- A call of the producer that returns without having found room. -/
theorem Refines.refused (h : Refines maxSize unit s queue others spare room fill) {element : α}
    (hElement : s.producer.element = some element) (hUnused : s.Unused spare)
    (hRoom : maxSize ≤ room) :
    Matched maxSize unit queue (some (.accept [])) (s.withProducer .idle) room fill := by
  have hOffered := h.offered
  rw [hElement, Option.map_some] at hOffered
  have hStep : SharedQueue.step maxSize queue (.accept []) =
      some { queue with contents := queue.contents ++ [], offered := none } := by
    rw [SharedQueue.step, hOffered]
    refine if_pos ⟨List.nil_prefix, ?_⟩
    rw [Nat.sub_eq_zero_of_le hRoom, Nat.zero_min]
    exact Nat.zero_le _
  refine ⟨{ queue with contents := queue.contents ++ [], offered := none }, others, spare, ?_,
    h.layout.withProducer _, ?_, rfl, h.asked, h.fair.step hStep, hUnused,
    h.consumer.grows ⟨rfl, List.prefix_refl _, fun _ _ => rfl, fun _ _ => rfl, fun _ _ => rfl,
      fun _ _ _ => rfl, fun _ => rfl⟩ h.layout.ok_front⟩
  · rw [Option.toList_some, run, hStep]
    rfl
  · rw [List.append_nil]
    exact h.contents

/-- A step that the callers do not see, when it is a store that leaves the elements where they
are. -/
theorem Refines.hiddenStore (h : Refines maxSize unit s queue others spare room fill)
    {address : Nat} {store : Block α → Block α} {p : Producer α}
    (hElement : p.element = s.producer.element)
    (hNext : (store (s.blocks address)).next = (s.blocks address).next)
    (hFront : (store (s.blocks address)).front = (s.blocks address).front)
    (hLocalTail : (store (s.blocks address)).localTail = (s.blocks address).localTail)
    (hMask : (store (s.blocks address)).sizeMask = (s.blocks address).sizeMask)
    (hOk : (s.blocks address).Ok → (store (s.blocks address)).Ok)
    (hItems : address ∈ s.frontBlock :: others →
      (store (s.blocks address)).items = (s.blocks address).items)
    (hData : address ∈ s.frontBlock :: others →
      (s.blocks address).front ≠ (s.blocks address).tail →
        (store (s.blocks address)).data (s.blocks address).front =
          (s.blocks address).data (s.blocks address).front)
    (hAt : ProducerAt maxSize unit ((s.write address store).withProducer p) others spare room
      p) :
    Matched maxSize unit queue none ((s.write address store).withProducer p) room fill := by
  have hFill : address ∈ s.frontBlock :: others →
      (store (s.blocks address)).fill = (s.blocks address).fill := by
    intro hMem
    rw [← Block.items_length, hItems hMem, Block.items_length]
  refine h.hidden others spare hElement rfl ?_ (items_congr rfl fun b hMem => ?_) hAt
    (h.layout.grows hFront hLocalTail hMask hData fun _ => hFill)
  · exact (h.layout.write hNext hMask hOk
      (fun hMem hBusy => hBusy.trans_eq (hFill (List.mem_cons_of_mem _ hMem)).symm)
      fun hMem => hFill (List.mem_cons_of_mem _ (List.mem_of_mem_dropLast hMem))).withProducer _
  · exact write_keeps (p := fun block => block.items = (s.blocks b).items)
      (fun hSame _ => by subst hSame; exact hItems hMem) rfl

/-- `tailBlock_->localFront = tailBlock_->front.load()` -/
theorem Refines.loadFront (h : Refines maxSize unit s queue others spare room fill)
    {mode : AllocationMode} {tailBlock blockTail : Nat} {element : α}
    (hAt : s.producer = .loadFront mode tailBlock blockTail element) (maxBlockSize : Nat)
    (memory : Bool) :
    GoesOn maxSize unit queue (label s (.producer memory)) (producerStep maxBlockSize memory s)
      room fill := by
  have hPlace := h.producer
  rw [hAt] at hPlace
  obtain ⟨hUnused, rfl, rfl⟩ := hPlace
  have hOk := h.layout.ok_tail
  have hRoom := hOk.succ_ne_iff hOk.front hOk.tail
  rw [producerStep, label, hAt]
  refine ⟨_, rfl, h.hiddenStore ?_ rfl rfl rfl rfl Block.Ok.loadFront (fun _ => rfl)
    (fun _ _ => rfl) ?_⟩
  · rw [hAt]
    split_ifs <;> rfl
  · split_ifs with hSome
    · refine ⟨h.layout.unused_write hUnused, rfl, ?_, ?_⟩
      · rw [withProducer_blocks, write_blocks_self]
      · rw [withProducer_blocks, write_blocks_self]
        exact hRoom.mp hSome
    · have hFull : (s.blocks s.tailBlock).fill = (s.blocks s.tailBlock).sizeMask :=
        Nat.le_antisymm hOk.fill_le (Nat.le_of_not_lt fun hLt => hSome (hRoom.mpr hLt))
      refine ⟨h.layout.unused_write hUnused, rfl,
        fun _ => ?_, ?_⟩
      · rw [withProducer_tailBlock, withProducer_blocks, write_tailBlock, write_blocks_self]
        exact hFull
      · rw [withProducer_blocks, write_blocks_self]
        calc (s.blocks s.tailBlock).sizeMask = (s.blocks s.tailBlock).fill := hFull.symm
          _ ≤ (s.items others).length := h.layout.fill_le_length
          _ ≤ room := h.length_le_room (by rw [hAt]; rfl)

/-- `new (location) T(element)` in the tail block -/
theorem Refines.construct (h : Refines maxSize unit s queue others spare room fill)
    {tailBlock blockTail : Nat} {element : α}
    (hAt : s.producer = .construct tailBlock blockTail element) (maxBlockSize : Nat)
    (memory : Bool) :
    GoesOn maxSize unit queue (label s (.producer memory)) (producerStep maxBlockSize memory s)
      room fill := by
  have hPlace := h.producer
  rw [hAt] at hPlace
  obtain ⟨hUnused, rfl, rfl, hRoom⟩ := hPlace
  have hOk := h.layout.ok_tail
  rw [producerStep, label, hAt]
  refine ⟨_, rfl, h.hiddenStore ?_ rfl rfl rfl rfl (fun hOk => hOk.construct _ _)
    (fun _ => hOk.items_construct element) (fun _ hSome => Function.update_of_ne hSome _ _) ?_⟩
  · rw [hAt]
    rfl
  · refine ⟨h.layout.unused_write hUnused, rfl, ?_, ?_,
      ?_⟩
    · rw [withProducer_blocks, write_blocks_self]
      rfl
    · rw [withProducer_blocks, write_blocks_self]
      exact hRoom
    · rw [withProducer_blocks, write_blocks_self]
      exact Function.update_self ..

/-- `tailBlock_->tail = nextBlockTail`: the element is in the queue. -/
theorem Refines.storeTail (h : Refines maxSize unit s queue others spare room fill)
    {tailBlock nextBlockTail : Nat} {element : α}
    (hAt : s.producer = .storeTail tailBlock nextBlockTail element) (maxBlockSize : Nat)
    (memory : Bool) :
    GoesOn maxSize unit queue (label s (.producer memory)) (producerStep maxBlockSize memory s)
      room fill := by
  have hPlace := h.producer
  rw [hAt] at hPlace
  obtain ⟨hUnused, rfl, rfl, hRoom, hData⟩ := hPlace
  have hOk := h.layout.ok_tail
  obtain ⟨hOk', hFill⟩ := hOk.storeTail hRoom
  rw [producerStep, label, hAt]
  refine ⟨_, rfl, h.accepted others spare (by rw [hAt]; rfl) rfl rfl ?_ ?_
    (h.layout.unused_write hUnused) ?_⟩
  · refine (h.layout.write rfl rfl (fun _ => hOk') (fun _ _ => ?_) fun hMem => ?_).withProducer _
    · exact hFill ▸ Nat.succ_pos _
    · exact absurd hMem h.layout.tailBlock_notMem_dropLast
  · exact h.layout.items_write (hOk.items_storeTail hRoom hData)
  · exact h.layout.grows rfl rfl rfl (fun _ _ => rfl) fun hNe => absurd rfl hNe

/-- `tailBlock_->next.load() != frontBlock` -/
theorem Refines.loadFrontBlock (h : Refines maxSize unit s queue others spare room fill)
    {mode : AllocationMode} {tailBlock : Nat} {element : α}
    (hAt : s.producer = .loadFrontBlock mode tailBlock element) (maxBlockSize : Nat)
    (memory : Bool) :
    GoesOn maxSize unit queue (label s (.producer memory)) (producerStep maxBlockSize memory s)
      room fill := by
  have hPlace := h.producer
  rw [hAt] at hPlace
  obtain ⟨hUnused, rfl, hFull, hMask⟩ := hPlace
  rw [producerStep, label, hAt]
  refine ⟨_, rfl, h.hidden others spare ?_ rfl (h.layout.withProducer _) rfl ?_
    ⟨rfl, List.prefix_refl _, fun _ _ => rfl, fun _ _ => rfl, fun _ _ => rfl, fun _ _ _ => rfl,
      fun _ => rfl⟩⟩
  · rw [hAt, State.withProducer]
    split_ifs <;> rfl
  · rw [State.withProducer]
    split_ifs with hSome
    · refine ⟨hUnused, rfl, hFull, ?_⟩
      rintro rfl
      exact hSome h.layout.next_tailBlock
    · have hNil := h.layout.spare_eq_nil (not_not.mp hSome)
      subst hNil
      refine ⟨hUnused, rfl, hFull, ?_⟩
      by_cases hOthers : others = []
      · subst hOthers
        calc maxSize ≤ unit * max 1 ([] ++ [] : List Nat).length := h.layout.enough
          _ = unit := Nat.mul_one unit
          _ ≤ (s.blocks s.tailBlock).sizeMask := h.layout.unit_le _ h.layout.tailBlock_mem
          _ ≤ room := hMask
      · calc maxSize ≤ (s.items others).length := h.layout.maxSize_le_length hFull hOthers
          _ ≤ room := h.length_le_room (by rw [hAt]; rfl)

/-- `tailBlockNext->localFront = tailBlockNext->front.load()`: the next block is empty, as the
assertion says. -/
theorem Refines.loadNextFront (h : Refines maxSize unit s queue others spare room fill)
    {tailBlock : Nat} {element : α} (hAt : s.producer = .loadNextFront tailBlock element)
    (maxBlockSize : Nat) (memory : Bool) :
    GoesOn maxSize unit queue (label s (.producer memory)) (producerStep maxBlockSize memory s)
      room fill := by
  have hPlace := h.producer
  rw [hAt] at hPlace
  obtain ⟨hUnused, rfl, hFull, hSpare⟩ := hPlace
  obtain ⟨b, rest, rfl⟩ := List.exists_cons_of_ne_nil hSpare
  have hNext : (s.blocks s.tailBlock).next = b := h.layout.next_tailBlock
  have hOk := h.layout.ok b (List.mem_append_right _ (List.mem_cons_self ..))
  have hEmpty : (s.blocks b).front = (s.blocks b).tail := by
    by_contra hSome
    exact (hOk.fill_pos_iff.mpr hSome).ne' (hUnused b (List.mem_cons_self ..))
  rw [producerStep, label, hAt]
  simp only [hNext, if_pos hEmpty]
  refine ⟨_, rfl, h.hiddenStore (by rw [hAt]; rfl) rfl rfl rfl rfl Block.Ok.loadFront
    (fun _ => rfl) (fun _ _ => rfl) ⟨?_, rfl, ?_, ?_, ?_⟩⟩
  · exact unused_write hUnused fun hMem => hUnused b hMem
  · exact full_write hFull (h.layout.tailBlock_ne_spare (List.mem_cons_self ..))
  · rw [withProducer_blocks, write_blocks_self]
  · rw [withProducer_blocks, write_blocks_self, Block.Room, Block.distance]
    simp [hEmpty, hOk.sizeMask_pos]

/-- `new (location) T(element)` in the next block -/
theorem Refines.constructNext (h : Refines maxSize unit s queue others spare room fill)
    {tailBlockNext nextBlockTail : Nat} {element : α}
    (hAt : s.producer = .constructNext tailBlockNext nextBlockTail element) (maxBlockSize : Nat)
    (memory : Bool) :
    GoesOn maxSize unit queue (label s (.producer memory)) (producerStep maxBlockSize memory s)
      room fill := by
  have hPlace := h.producer
  rw [hAt] at hPlace
  obtain ⟨hUnused, hNext, hFull, rfl, hRoom⟩ := hPlace
  have hMem : tailBlockNext ∈ spare := List.mem_of_mem_head? hNext
  have hAway : tailBlockNext ∉ s.frontBlock :: others := fun hUsed =>
    h.layout.disjoint hUsed hMem
  rw [producerStep, label, hAt]
  refine ⟨_, rfl, h.hiddenStore (by rw [hAt]; rfl) rfl rfl rfl rfl (fun hOk => hOk.construct _ _)
    (fun hUsed => absurd hUsed hAway) (fun hUsed => absurd hUsed hAway)
    ⟨unused_write hUnused fun hMem => hUnused _ hMem, hNext,
      full_write hFull (h.layout.tailBlock_ne_spare hMem), ?_, ?_, ?_⟩⟩
  · rw [withProducer_blocks, write_blocks_self]
    rfl
  · rw [withProducer_blocks, write_blocks_self]
    exact hRoom
  · rw [withProducer_blocks, write_blocks_self]
    exact Function.update_self ..

/-- `tailBlockNext->tail = (nextBlockTail + 1) & tailBlockNext->sizeMask`: not yet in the queue,
since the consumer stays behind `tailBlock`. -/
theorem Refines.storeNextTail (h : Refines maxSize unit s queue others spare room fill)
    {tailBlockNext nextBlockTail : Nat} {element : α}
    (hAt : s.producer = .storeNextTail tailBlockNext nextBlockTail element) (maxBlockSize : Nat)
    (memory : Bool) :
    GoesOn maxSize unit queue (label s (.producer memory)) (producerStep maxBlockSize memory s)
      room fill := by
  have hPlace := h.producer
  rw [hAt] at hPlace
  obtain ⟨hUnused, hNext, hFull, rfl, hRoom, hData⟩ := hPlace
  obtain ⟨rest, rfl⟩ := List.head?_eq_some_iff.mp hNext
  have hMem : tailBlockNext ∈ tailBlockNext :: rest := List.mem_cons_self ..
  have hAway : tailBlockNext ∉ s.frontBlock :: others := fun hUsed =>
    h.layout.disjoint hUsed hMem
  have hOnce : tailBlockNext ∉ rest :=
    (List.nodup_cons.mp (List.nodup_append.mp h.layout.nodup).2.1).1
  have hOk := h.layout.ok tailBlockNext (List.mem_append_right _ hMem)
  have hEmpty : (s.blocks tailBlockNext).items = [] := by
    rw [← List.length_eq_zero_iff, Block.items_length]
    exact hUnused _ hMem
  rw [producerStep, label, hAt]
  refine ⟨_, rfl, h.hiddenStore (by rw [hAt]; rfl) rfl rfl rfl rfl
    (fun hOk => (hOk.storeTail hRoom).1) (fun hUsed => absurd hUsed hAway)
    (fun hUsed => absurd hUsed hAway)
    ⟨rfl, ?_, full_write hFull (h.layout.tailBlock_ne_spare hMem), ?_⟩⟩
  · exact unused_write (fun b hLater => hUnused b (List.mem_cons_of_mem _ hLater))
      fun hLater => absurd hLater hOnce
  · rw [withProducer_blocks, write_blocks_self, hOk.items_storeTail hRoom hData, hEmpty]
    rfl

/-- `tailBlock = tailBlockNext`: the element is in the queue. -/
theorem Refines.storeTailBlock (h : Refines maxSize unit s queue others spare room fill)
    {tailBlockNext : Nat} {element : α}
    (hAt : s.producer = .storeTailBlock tailBlockNext element) (maxBlockSize : Nat)
    (memory : Bool) :
    GoesOn maxSize unit queue (label s (.producer memory)) (producerStep maxBlockSize memory s)
      room fill := by
  have hPlace := h.producer
  rw [hAt] at hPlace
  obtain ⟨hNext, hUnused, hFull, hItems⟩ := hPlace
  obtain ⟨rest, rfl⟩ := List.head?_eq_some_iff.mp hNext
  have hBusy : 0 < (s.blocks tailBlockNext).fill := by
    rw [← Block.items_length, hItems]
    exact Nat.one_pos
  rw [producerStep, label, hAt]
  refine ⟨_, rfl, h.accepted (others ++ [tailBlockNext]) rest (by rw [hAt]; rfl) rfl rfl
    ((h.layout.storeTailBlock hFull hBusy).withProducer _) ?_ hUnused
    ⟨rfl, List.prefix_append _ _, fun _ _ => rfl, fun _ _ => rfl, fun _ _ => rfl, fun _ _ _ => rfl,
      fun _ => rfl⟩⟩
  rw [State.items, State.items, ← List.cons_append, List.flatMap_append, List.flatMap_singleton,
    hItems]

/-- `make_block`. Where there is no memory, or no block may be added, `enqueue` returns `false`:
as many elements as the constructor was asked to make room for have been there. -/
theorem Refines.allocate (h : Refines maxSize unit s queue others spare room fill)
    {mode : AllocationMode} {tailBlock : Nat} {element : α}
    (hAt : s.producer = .allocate mode tailBlock element) (maxBlockSize : Nat) (memory : Bool) :
    GoesOn maxSize unit queue (label s (.producer memory)) (producerStep maxBlockSize memory s)
      room fill := by
  have hPlace := h.producer
  rw [hAt] at hPlace
  obtain ⟨hUnused, rfl, hFull, hRoom⟩ := hPlace
  rw [producerStep, label, hAt]
  by_cases hMemory : mode = .canAlloc ∧ memory = true
  · simp only [if_pos hMemory]
    obtain ⟨k, hPos, hLargest⟩ := h.layout.largest
    have hUnit := h.layout.unit_lt
    generalize hSize : (if maxBlockSize ≤ s.largestBlockSize then s.largestBlockSize
      else s.largestBlockSize * 2) = size
    have hPower : PowerOfTwo size := by
      rw [← hSize]
      split_ifs
      · exact ⟨k, hPos, hLargest⟩
      · exact ⟨k + 1, Nat.succ_pos k, by rw [hLargest, pow_succ]⟩
    have hLt : unit < size := by
      rw [← hSize]
      split_ifs <;> omega
    obtain ⟨hOk, hItems⟩ := Block.ok_newBlock hPower (s.blocks s.tailBlock).next element
    have hNew : s.allocated ∉ s.frontBlock :: others ++ spare := fun hMem =>
      Nat.lt_irrefl _ (h.layout.allocated _ hMem)
    have hOld : ∀ b ∈ s.frontBlock :: others ++ spare,
        (s.addBlock size (s.blocks s.tailBlock).next element).blocks b = s.blocks b := by
      intro b hMem
      exact addBlock_blocks_of_ne s size _ element (by rintro rfl; exact hNew hMem)
    have hUsed : ∀ b ∈ s.frontBlock :: others,
        (s.addBlock size (s.blocks s.tailBlock).next element).blocks b = s.blocks b := fun b hMem =>
      hOld b (List.mem_append_left _ hMem)
    have hTail := hOld s.tailBlock h.layout.tailBlock_mem
    refine ⟨_, rfl, h.hidden others spare (by rw [hAt]; rfl) rfl
      ((h.layout.addBlock _ element hPower hLt).withProducer _)
      (items_congr rfl fun b hMem => congrArg Block.items (hUsed b hMem))
      ⟨fun b hMem => ?_, rfl, fun hOthers => ?_, hNew, Nat.lt_succ_self _, ?_, ?_, ?_, ?_⟩
      ⟨rfl, List.prefix_refl _, fun b hMem => congrArg Block.front (hUsed b hMem),
        fun b hMem => congrArg Block.localTail (hUsed b hMem),
        fun b hMem => congrArg Block.sizeMask (hUsed b hMem), fun b hMem _ => ?_,
        fun _ => congrArg Block.fill (hUsed _ (List.mem_cons_self ..))⟩⟩
    · rw [withProducer_blocks, hOld b (List.mem_append_right _ hMem)]
      exact hUnused b hMem
    · exact (congrArg Block.fill hTail).trans ((hFull hOthers).trans
        (congrArg Block.sizeMask hTail).symm)
    · rw [withProducer_blocks, addBlock_blocks_self]
      exact hOk
    · rw [withProducer_blocks, addBlock_blocks_self]
      exact Nat.le_sub_one_of_lt hLt
    · rw [withProducer_blocks, addBlock_blocks_self]
      exact hItems
    · rw [withProducer_blocks, addBlock_blocks_self, hTail]
      rfl
    · rw [withProducer_blocks, hUsed b hMem]
  · simp only [if_neg hMemory]
    exact ⟨_, rfl, h.refused (by rw [hAt]; rfl) hUnused hRoom⟩

/-- `tailBlock_->next = newBlock` -/
theorem Refines.linkBlock (h : Refines maxSize unit s queue others spare room fill)
    {tailBlock newBlock : Nat} {element : α}
    (hAt : s.producer = .linkBlock tailBlock newBlock element) (maxBlockSize : Nat)
    (memory : Bool) :
    GoesOn maxSize unit queue (label s (.producer memory)) (producerStep maxBlockSize memory s)
      room fill := by
  have hPlace := h.producer
  rw [hAt] at hPlace
  obtain ⟨hUnused, rfl, hFull, hNew, hAllocated, hOk, hUnit, hItems, hNext⟩ := hPlace
  have hOther : newBlock ≠ s.tailBlock := by
    rintro rfl
    exact hNew h.layout.tailBlock_mem
  rw [producerStep, label, hAt]
  refine ⟨_, rfl, h.hidden others (newBlock :: spare) (by rw [hAt]; rfl) rfl
    ((h.layout.linkBlock hNew hAllocated hOk hUnit hNext).withProducer _)
    (items_congr rfl fun b _ => ?_) ⟨rfl, h.layout.unused_write hUnused, fun hOthers => ?_, ?_⟩
    (h.layout.grows rfl rfl rfl (fun _ _ => rfl) fun _ _ => rfl)⟩
  · rw [withProducer_blocks]
    exact write_keeps (p := fun block => block.items = (s.blocks b).items)
      (fun hSame _ => by subst hSame; rfl) rfl
  · rw [withProducer_blocks, withProducer_tailBlock, write_tailBlock, write_blocks_self]
    exact hFull hOthers
  · rw [withProducer_blocks, write_blocks_of_ne s _ hOther]
    exact hItems

/-- The producer can always go on with its call, and ends it as the queue allows. -/
theorem Refines.producerStep (h : Refines maxSize unit s queue others spare room fill)
    (hCall : s.producer ≠ .idle) (maxBlockSize : Nat) (memory : Bool) :
    GoesOn maxSize unit queue (label s (.producer memory))
      (ReaderWriterQueue.producerStep maxBlockSize memory s) room fill := by
  cases hAt : s.producer with
  | idle => exact absurd hAt hCall
  | loadFront mode tailBlock blockTail element => exact h.loadFront hAt maxBlockSize memory
  | construct tailBlock blockTail element => exact h.construct hAt maxBlockSize memory
  | storeTail tailBlock nextBlockTail element => exact h.storeTail hAt maxBlockSize memory
  | loadFrontBlock mode tailBlock element => exact h.loadFrontBlock hAt maxBlockSize memory
  | loadNextFront tailBlock element => exact h.loadNextFront hAt maxBlockSize memory
  | constructNext tailBlockNext nextBlockTail element =>
      exact h.constructNext hAt maxBlockSize memory
  | storeNextTail tailBlockNext nextBlockTail element =>
      exact h.storeNextTail hAt maxBlockSize memory
  | allocate mode tailBlock element => exact h.allocate hAt maxBlockSize memory
  | linkBlock tailBlock newBlock element => exact h.linkBlock hAt maxBlockSize memory
  | storeTailBlock tailBlockNext element => exact h.storeTailBlock hAt maxBlockSize memory

/-- A call of the producer begins. -/
theorem Refines.enqueue (h : Refines maxSize unit s queue others spare room fill)
    (hIdle : s.producer = .idle) (mode : AllocationMode) (element : α) :
    Matched maxSize unit queue (some (.offer [element]))
      (s.withProducer (beginEnqueue s mode element)) queue.contents.length fill := by
  have hPlace := h.producer
  have hOffered := h.offered
  rw [hIdle] at hPlace hOffered
  have hStep : SharedQueue.step maxSize queue (.offer [element]) =
      some { queue with offered := some ([element], queue.contents.length) } := by
    rw [SharedQueue.step, hOffered]
    rfl
  have hOk := h.layout.ok_tail
  refine ⟨{ queue with offered := some ([element], queue.contents.length) }, others, spare, ?_,
    h.layout.withProducer _, h.contents, ?_, h.asked, h.fair.step hStep, ?_,
    h.consumer.grows ⟨rfl, List.prefix_refl _, fun _ _ => rfl, fun _ _ => rfl, fun _ _ => rfl,
      fun _ _ _ => rfl, fun _ => rfl⟩ h.layout.ok_front⟩
  · rw [Option.toList_some, run, hStep]
    rfl
  · rw [State.withProducer, beginEnqueue]
    split_ifs <;> rfl
  · rw [State.withProducer, beginEnqueue]
    split_ifs with hSome
    · exact ⟨hPlace, rfl, rfl, (hOk.succ_ne_iff hOk.localFront hOk.tail).mp hSome⟩
    · exact ⟨hPlace, rfl, rfl⟩

end Producer

section Consumer

variable [DecidableEq α] {queue : SharedQueue α}

/-- The consumer is in a call. -/
def Consumer.underWay : Consumer α → Bool
  | .idle => false
  | _ => true

/-- A step of the consumer that the callers do not see. -/
theorem Refines.looked (h : Refines maxSize unit s queue others spare room fill) {t : State α}
    (others' spare' : List Nat) (hBefore : s.consumer ≠ .idle) (hAfter : t.consumer.underWay = true)
    (hProducer : t.producer = s.producer) (hLayout : Layout maxSize unit t others' spare')
    (hItems : t.items others' = s.items others) (hAt : ConsumerAt t others' fill t.consumer)
    (hDrains : Drains s t others others' spare spare') :
    Matched maxSize unit queue none t room fill := by
  refine ⟨queue, others', spare', rfl, hLayout, ?_, ?_, ?_, h.fair, ?_, hAt⟩
  · rw [hItems, h.contents]
  · rw [hProducer, h.offered]
  · rw [h.asked_of_ne hBefore]
    split
    · next hIdle =>
        rw [hIdle] at hAfter
        cases hAfter
    · rfl
  · rw [hProducer]
    exact h.producer.drains hDrains h.layout

/-- Such a step, when it renews the copy of a tail. -/
theorem Refines.lookedTail (h : Refines maxSize unit s queue others spare room fill)
    {address : Nat} {c : Consumer α} (hMem : address ∈ s.frontBlock :: others)
    (hBefore : s.consumer ≠ .idle) (hAfter : c.underWay = true)
    (hAt : ConsumerAt ((s.write address fun block =>
      { block with localTail := (s.blocks address).tail }).withConsumer c) others fill c) :
    Matched maxSize unit queue none ((s.write address fun block =>
      { block with localTail := (s.blocks address).tail }).withConsumer c) room fill := by
  refine h.looked others spare hBefore hAfter rfl ?_ (items_congr rfl fun b _ => ?_) hAt
    (h.layout.drains hMem rfl rfl rfl rfl rfl fun _ => rfl)
  · exact (h.layout.write rfl rfl Block.Ok.loadTail (fun _ hBusy => hBusy)
      fun _ => rfl).withConsumer _
  · rw [withConsumer_blocks]
    exact write_keeps (p := fun block => block.items = (s.blocks b).items)
      (fun hSame _ => by subst hSame; rfl) rfl

/-- The step with which a call of the consumer answers that there is nothing. -/
theorem Refines.foundNothing (h : Refines maxSize unit s queue others spare room 0)
    (hCall : s.consumer ≠ .idle) (call : Call) :
    Matched maxSize unit queue (if call = .peek then some (.show []) else some (.give []))
      (s.withConsumer .idle) room 0 := by
  have hAsked := h.asked_of_ne hCall
  have hGives : SharedQueue.Gives 1 0 queue.contents [] :=
    ⟨List.nil_prefix, Nat.zero_le _, Nat.zero_le _⟩
  have hShow : SharedQueue.step maxSize queue (.show []) = some { queue with asked := none } := by
    rw [SharedQueue.step, hAsked]
    exact if_pos hGives
  have hGive : SharedQueue.step maxSize queue (.give []) = some { queue with asked := none } := by
    rw [SharedQueue.step, hAsked]
    exact if_pos hGives
  have hRun : run (SharedQueue.step maxSize) queue
      (if call = .peek then some (.show []) else some (.give []) :
        Option (SharedQueue.Event α)).toList = some { queue with asked := none } := by
    split_ifs
    · rw [Option.toList_some, run, hShow]
      rfl
    · rw [Option.toList_some, run, hGive]
      rfl
  exact ⟨_, others, spare, hRun, h.layout.withConsumer _, h.contents, h.offered, rfl,
    h.fair.step hShow, h.producer.drains Drains.refl h.layout, trivial⟩

/-- `blockFront != (frontBlock_->localTail = frontBlock_->tail.load())` -/
theorem Refines.loadTail (h : Refines maxSize unit s queue others spare room fill) {call : Call}
    {frontBlock blockFront : Nat} (hAt : s.consumer = .loadTail call frontBlock blockFront) :
    GoesOn maxSize unit queue (label s .consumer) (consumerStep s) room fill := by
  have hPlace := h.consumer
  have hCall : s.consumer ≠ .idle := by
    rw [hAt]
    intro hIdle
    cases hIdle
  have hFill := h.fill_le_length hCall
  rw [hAt] at hPlace
  obtain ⟨rfl, rfl⟩ := hPlace
  have hOk := h.layout.ok_front
  rw [consumerStep, label, hAt]
  refine ⟨_, rfl, h.lookedTail (List.mem_cons_self ..) hCall ?_ ?_⟩
  · split_ifs <;> rfl
  · split_ifs with hSome
    · refine ⟨?_, .inl ⟨rfl, ?_⟩⟩
      · rw [withConsumer_blocks, write_blocks_self]
      · rw [withConsumer_blocks, write_blocks_self]
        exact hSome
    · refine ⟨rfl, ?_⟩
      rintro rfl
      have hEmpty : (s.blocks s.frontBlock).fill = 0 := by
        by_contra hPos
        exact hSome (hOk.fill_pos_iff.mp (Nat.pos_of_ne_zero hPos))
      rw [State.items, List.flatMap_singleton, Block.items_length, hEmpty] at hFill
      exact Nat.le_zero.mp hFill

/-- `frontBlock_ != tailBlock.load()`: when the front block was empty and no other one is in use,
nothing was there when the call began. -/
theorem Refines.loadTailBlock (h : Refines maxSize unit s queue others spare room fill)
    {call : Call} {frontBlock : Nat} (hAt : s.consumer = .loadTailBlock call frontBlock) :
    GoesOn maxSize unit queue (label s .consumer) (consumerStep s) room fill := by
  have hPlace := h.consumer
  have hCall : s.consumer ≠ .idle := by
    rw [hAt]
    intro hIdle
    cases hIdle
  rw [hAt] at hPlace
  obtain ⟨rfl, hEmpty⟩ := hPlace
  rw [consumerStep, label, hAt]
  by_cases hOnly : others = []
  · have hTail := h.layout.tailBlock_eq_iff.mpr hOnly
    have hNone := hEmpty hOnly
    subst hNone
    simp only [ne_eq, hTail, not_true_eq_false, if_false]
    exact ⟨_, rfl, h.foundNothing hCall call⟩
  · have hTail : s.frontBlock ≠ s.tailBlock := fun hSame =>
      hOnly (h.layout.tailBlock_eq_iff.mp hSame)
    simp only [if_pos hTail]
    exact ⟨_, rfl, h.looked others spare hCall rfl rfl (h.layout.withConsumer _) rfl hOnly
      Drains.refl⟩

/-- `blockTail = frontBlock_->localTail = frontBlock_->tail.load()` once more: the front block may
have got elements before the producer went on. -/
theorem Refines.reloadTail (h : Refines maxSize unit s queue others spare room fill) {call : Call}
    (hAt : s.consumer = .reloadTail call) :
    GoesOn maxSize unit queue (label s .consumer) (consumerStep s) room fill := by
  have hOthers := h.consumer
  have hCall : s.consumer ≠ .idle := by
    rw [hAt]
    intro hIdle
    cases hIdle
  rw [hAt] at hOthers
  have hOk := h.layout.ok_front
  rw [consumerStep, label, hAt]
  refine ⟨_, rfl, h.lookedTail (List.mem_cons_self ..) hCall ?_ ?_⟩
  · split_ifs <;> rfl
  · split_ifs with hSome
    · refine ⟨?_, .inl ⟨rfl, ?_⟩⟩
      · rw [withConsumer_blocks, write_blocks_self]
      · rw [withConsumer_blocks, write_blocks_self]
        exact hSome
    · refine ⟨rfl, hOthers, ?_⟩
      rw [withConsumer_blocks, write_blocks_self]
      by_contra hPos
      exact hSome (hOk.fill_pos_iff.mp (Nat.pos_of_ne_zero hPos))

/-- `nextBlock = frontBlock_->next` -/
theorem Refines.loadNext (h : Refines maxSize unit s queue others spare room fill) {call : Call}
    {frontBlock : Nat} (hAt : s.consumer = .loadNext call frontBlock) :
    GoesOn maxSize unit queue (label s .consumer) (consumerStep s) room fill := by
  have hPlace := h.consumer
  have hCall : s.consumer ≠ .idle := by
    rw [hAt]
    intro hIdle
    cases hIdle
  rw [hAt] at hPlace
  obtain ⟨rfl, hOthers, hEmpty⟩ := hPlace
  obtain ⟨b, rest, rfl⟩ := List.exists_cons_of_ne_nil hOthers
  have hNext : (s.blocks s.frontBlock).next = b := h.layout.next_frontBlock rfl
  rw [consumerStep, label, hAt]
  exact ⟨_, rfl, h.looked (b :: rest) spare hCall rfl rfl (h.layout.withConsumer _) rfl
    ⟨congrArg some hNext.symm, hEmpty, rfl⟩ Drains.refl⟩

/-- `nextBlock->localTail = nextBlock->tail.load()`: the next block is not empty, as the assertion
says. -/
theorem Refines.loadNextTail (h : Refines maxSize unit s queue others spare room fill)
    {call : Call} {nextBlock nextBlockFront : Nat}
    (hAt : s.consumer = .loadNextTail call nextBlock nextBlockFront) :
    GoesOn maxSize unit queue (label s .consumer) (consumerStep s) room fill := by
  have hPlace := h.consumer
  have hCall : s.consumer ≠ .idle := by
    rw [hAt]
    intro hIdle
    cases hIdle
  rw [hAt] at hPlace
  obtain ⟨hNext, hEmpty, rfl⟩ := hPlace
  have hOther : nextBlock ∈ others := List.mem_of_mem_head? hNext
  have hMem : nextBlock ∈ s.frontBlock :: others := List.mem_cons_of_mem _ hOther
  have hOk := h.layout.ok nextBlock (List.mem_append_left _ hMem)
  have hSome := hOk.fill_pos_iff.mp (h.layout.busy nextBlock hOther)
  have hApart : s.frontBlock ≠ nextBlock := by
    rintro rfl
    exact h.layout.notMem_others hOther
  rw [consumerStep, label, hAt]
  simp only [if_pos hSome]
  by_cases hPeek : call = .peek
  · simp only [if_pos hPeek]
    exact ⟨_, rfl, h.looked others spare hCall rfl rfl (h.layout.withConsumer _) rfl
      ⟨rfl, .inr ⟨hPeek, hNext, hEmpty⟩⟩ Drains.refl⟩
  · simp only [if_neg hPeek]
    refine ⟨_, rfl, h.lookedTail hMem hCall rfl ⟨hNext, ?_, ?_, ?_, hPeek⟩⟩
    · rw [withConsumer_blocks, withConsumer_frontBlock, write_frontBlock,
        write_blocks_of_ne s _ hApart]
      exact hEmpty
    · rw [withConsumer_blocks, write_blocks_self]
    · rw [withConsumer_blocks, write_blocks_self]
      exact hSome

/-- `frontBlock = frontBlock_ = nextBlock` -/
theorem Refines.storeFrontBlock (h : Refines maxSize unit s queue others spare room fill)
    {call : Call} {nextBlock nextBlockFront : Nat}
    (hAt : s.consumer = .storeFrontBlock call nextBlock nextBlockFront) :
    GoesOn maxSize unit queue (label s .consumer) (consumerStep s) room fill := by
  have hPlace := h.consumer
  have hCall : s.consumer ≠ .idle := by
    rw [hAt]
    intro hIdle
    cases hIdle
  rw [hAt] at hPlace
  obtain ⟨hNext, hEmpty, rfl, hSome, hTake⟩ := hPlace
  obtain ⟨rest, rfl⟩ := List.head?_eq_some_iff.mp hNext
  have hNil : (s.blocks s.frontBlock).items = [] := by
    rw [← List.length_eq_zero_iff, Block.items_length, hEmpty]
  rw [consumerStep, label, hAt]
  refine ⟨_, rfl, h.looked rest (spare ++ [s.frontBlock]) hCall rfl rfl
    (h.layout.storeFrontBlock.withConsumer _) ?_ ⟨rfl, .inl ⟨rfl, hSome⟩⟩
    ⟨rfl, rfl, fun _ => rfl, fun _ => rfl, fun _ => rfl, fun _ => rfl, fun _ => rfl, fun _ _ => rfl,
      List.suffix_cons _ _, ⟨[s.frontBlock], rfl, ?_, ?_⟩, fun _ => rfl⟩⟩
  · rw [State.items, State.items, List.flatMap_cons (x := s.frontBlock), hNil, List.nil_append]
  · exact fun b hMem => List.mem_singleton.mp hMem ▸ List.mem_cons_self ..
  · exact fun b hMem => List.mem_singleton.mp hMem ▸ hEmpty

/-- `result = std::move(*element)`: what is read is an element. -/
theorem Refines.take (h : Refines maxSize unit s queue others spare room fill) {call : Call}
    {frontBlock blockFront : Nat} (hAt : s.consumer = .take call frontBlock blockFront) :
    GoesOn maxSize unit queue (label s .consumer) (consumerStep s) room fill := by
  have hPlace := h.consumer
  have hCall : s.consumer ≠ .idle := by
    rw [hAt]
    intro hIdle
    cases hIdle
  obtain ⟨element, rest, hContents, hData⟩ := h.data_eq hAt
  rw [hAt] at hPlace
  rw [consumerStep, label, hAt]
  simp only [hData, Option.map_some]
  by_cases hPeek : call = .peek
  · simp only [if_pos hPeek]
    have hStep : SharedQueue.step maxSize queue (.show [element]) =
        some { queue with asked := none } := by
      rw [SharedQueue.step, h.asked_of_ne hCall]
      refine if_pos ⟨?_, Nat.le_refl _, Nat.min_le_right _ _⟩
      rw [hContents]
      exact ⟨rest, rfl⟩
    refine ⟨_, rfl, { queue with asked := none }, others, spare, ?_, h.layout.withConsumer _,
      h.contents, h.offered, rfl, h.fair.step hStep, h.producer.drains Drains.refl h.layout, trivial⟩
    rw [Option.toList_some, Option.toList_some, run, hStep]
    rfl
  · simp only [if_neg hPeek]
    obtain ⟨rfl, ⟨rfl, hSome⟩ | ⟨hShow, -⟩⟩ := hPlace
    · exact ⟨_, rfl, h.looked others spare hCall rfl rfl (h.layout.withConsumer _) rfl
        ⟨rfl, rfl, hSome, hData⟩ Drains.refl⟩
    · exact absurd hShow hPeek

/-- `frontBlock_->front = blockFront`: the element has left the queue. -/
theorem Refines.storeFront (h : Refines maxSize unit s queue others spare room fill)
    {frontBlock blockFront : Nat} {element : α}
    (hAt : s.consumer = .storeFront frontBlock blockFront element) :
    GoesOn maxSize unit queue (label s .consumer) (consumerStep s) room fill := by
  have hPlace := h.consumer
  have hCall : s.consumer ≠ .idle := by
    rw [hAt]
    intro hIdle
    cases hIdle
  rw [hAt] at hPlace
  obtain ⟨rfl, rfl, hSome, hData⟩ := hPlace
  have hOk := h.layout.ok_front
  obtain ⟨hOk', -⟩ := hOk.storeFront hSome
  have hPart := hOk.items_eq_cons hSome
  rw [hData] at hPart
  have hOnly := h.layout.notMem_others
  -- The slots of the queue are that of the element and those that are left.
  have hItems : s.items others = some element ::
      ((s.write s.frontBlock fun block =>
        { block with front := (s.blocks s.frontBlock).succ (s.blocks s.frontBlock).front }).items
          others) := by
    have hRest : others.flatMap (fun b => ((s.write s.frontBlock fun block =>
        { block with
          front := (s.blocks s.frontBlock).succ (s.blocks s.frontBlock).front }).blocks b).items) =
        others.flatMap fun b => (s.blocks b).items := by
      refine List.flatMap_congr fun b hMem => ?_
      rw [write_blocks_of_ne s _ (by rintro rfl; exact hOnly hMem)]
    rw [State.items, State.items, List.flatMap_cons, List.flatMap_cons, write_frontBlock, hRest,
      write_blocks_self, hPart]
    rfl
  have hContents := h.contents
  rw [hItems] at hContents
  obtain ⟨first, rest, hQueue, hFirst, hRest⟩ := List.map_eq_cons_iff.mp hContents
  cases hFirst
  have hStep : SharedQueue.step maxSize queue (.give [element]) =
      some { queue with contents := queue.contents.drop 1, asked := none } := by
    rw [SharedQueue.step, h.asked_of_ne hCall]
    refine if_pos ⟨?_, Nat.le_refl _, Nat.min_le_right _ _⟩
    rw [hQueue]
    exact ⟨rest, rfl⟩
  rw [ReaderWriterQueue.consumerStep, label, hAt]
  refine ⟨_, rfl, { queue with contents := queue.contents.drop 1, asked := none }, others, spare,
    ?_, ?_, ?_, h.offered, rfl, h.fair.step hStep, h.producer.drains (h.layout.drains
      (List.mem_cons_self ..) rfl rfl rfl rfl rfl fun hMem => absurd hMem hOnly) h.layout, trivial⟩
  · rw [Option.toList_some, run, hStep]
    rfl
  · exact (h.layout.write rfl rfl (fun _ => hOk') (fun hMem => absurd hMem hOnly)
      fun hMem => absurd (List.mem_of_mem_dropLast hMem) hOnly).withConsumer _
  · rw [hQueue]
    exact hRest

/-- A call of the consumer begins. -/
theorem Refines.call (h : Refines maxSize unit s queue others spare room fill)
    (hIdle : s.consumer = .idle) (call : Call) :
    Matched maxSize unit queue (some (.ask 1)) (s.withConsumer (beginCall s call)) room
      queue.contents.length := by
  have hAsked := h.asked
  rw [hIdle] at hAsked
  have hStep : SharedQueue.step maxSize queue (.ask 1) =
      some { queue with asked := some (1, queue.contents.length) } := by
    rw [SharedQueue.step, hAsked]
  refine ⟨{ queue with asked := some (1, queue.contents.length) }, others, spare, ?_,
    h.layout.withConsumer _, h.contents, h.offered, ?_, h.fair.step hStep,
    h.producer.drains Drains.refl h.layout, ?_⟩
  · rw [Option.toList_some, run, hStep]
    rfl
  · rw [State.withConsumer, beginCall]
    split_ifs <;> rfl
  · rw [State.withConsumer, beginCall]
    split_ifs with hSome
    · exact ⟨rfl, .inl ⟨rfl, hSome⟩⟩
    · exact ⟨rfl, rfl⟩

/-- The consumer can always go on with its call, and ends it as the queue allows. -/
theorem Refines.consumerStep (h : Refines maxSize unit s queue others spare room fill)
    (hCall : s.consumer ≠ .idle) :
    GoesOn maxSize unit queue (label s .consumer) (ReaderWriterQueue.consumerStep s) room fill := by
  cases hAt : s.consumer with
  | idle => exact absurd hAt hCall
  | loadTail call frontBlock blockFront => exact h.loadTail hAt
  | loadTailBlock call frontBlock => exact h.loadTailBlock hAt
  | reloadTail call => exact h.reloadTail hAt
  | loadNext call frontBlock => exact h.loadNext hAt
  | loadNextTail call nextBlock nextBlockFront => exact h.loadNextTail hAt
  | storeFrontBlock call nextBlock nextBlockFront => exact h.storeFrontBlock hAt
  | take call frontBlock blockFront => exact h.take hAt
  | storeFront frontBlock blockFront element => exact h.storeFront hAt

end Consumer

end AudioSync.Player.ReaderWriterQueue
