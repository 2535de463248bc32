import AudioSync.Player.QueueSteps

/-! What the callers of a `ReaderWriterQueue` can rely on, from its constructor on. -/
namespace AudioSync.Player.ReaderWriterQueue

open Transition

variable {α : Type} {maxBlockSize maxSize : Nat}

section Constructor

/-- Setting a bit wherever one of the next `n` bits is set, for twice as many. -/
theorem testBit_or_shiftRight {x y n : Nat}
    (h : ∀ i, y.testBit i = true ↔ ∃ j < n, x.testBit (i + j) = true) (i : Nat) :
    (y ||| y >>> n).testBit i = true ↔ ∃ j < 2 * n, x.testBit (i + j) = true := by
  rw [Nat.testBit_or, Nat.testBit_shiftRight, Bool.or_eq_true, h, h]
  constructor
  · rintro (⟨j, hLt, hBit⟩ | ⟨j, hLt, hBit⟩)
    · exact ⟨j, by omega, hBit⟩
    · exact ⟨n + j, by omega, by rwa [← Nat.add_assoc, Nat.add_comm i n]⟩
  · rintro ⟨j, hLt, hBit⟩
    by_cases hNear : j < n
    · exact .inl ⟨j, hNear, hBit⟩
    · exact .inr ⟨j - n, by omega, by rwa [show n + i + (j - n) = i + j by omega]⟩

/-- `ceilToPow2` gives a power of two that is not below its argument. -/
theorem ceilToPow2_eq {x : Nat} (hOne : 1 < x) (hLt : x ≤ 2 ^ 63) :
    PowerOfTwo (ceilToPow2 x) ∧ x ≤ ceilToPow2 x := by
  have hNe : x - 1 ≠ 0 := by omega
  have hHigh : x - 1 < 2 ^ ((x - 1).log2 + 1) := Nat.lt_log2_self
  have hLog : (x - 1).log2 < 63 := (Nat.log2_lt hNe).mpr (by omega)
  have hStart : ∀ i, (x - 1).testBit i = true ↔ ∃ j < 1, (x - 1).testBit (i + j) = true := by
    intro i
    simp
  have hAll := testBit_or_shiftRight (testBit_or_shiftRight (testBit_or_shiftRight
    (testBit_or_shiftRight (testBit_or_shiftRight (testBit_or_shiftRight hStart)))))
  have hOnes : [1, 2, 4, 8, 16, 32].foldl (fun x shift => x ||| x >>> shift) (x - 1) =
      2 ^ ((x - 1).log2 + 1) - 1 := by
    apply Nat.eq_of_testBit_eq
    intro i
    rw [Bool.eq_iff_iff, Nat.testBit_two_pow_sub_one, decide_eq_true_iff]
    refine (hAll i).trans ⟨?_, fun hBelow => ?_⟩
    · rintro ⟨j, -, hBit⟩
      have hLe := Nat.ge_two_pow_of_testBit hBit
      have hLt : 2 ^ (i + j) < 2 ^ ((x - 1).log2 + 1) := by omega
      have := (Nat.pow_lt_pow_iff_right (by decide)).mp hLt
      omega
    · refine ⟨(x - 1).log2 - i, by omega, ?_⟩
      rw [Nat.add_sub_cancel' (Nat.le_of_lt_succ hBelow)]
      exact Nat.testBit_log2 hNe
  have hPos : 0 < 2 ^ ((x - 1).log2 + 1) := Nat.two_pow_pos _
  have hCeil : ceilToPow2 x = 2 ^ ((x - 1).log2 + 1) := by
    rw [ceilToPow2, hOnes]
    omega
  exact ⟨⟨_, Nat.succ_pos _, hCeil⟩, by omega⟩

/-- The constructor's loop leads from every block to the next one and from the last one to the
first. -/
theorem linkInitial_apply (size n : Nat) (start : Nat → Block α) {b : Nat} (hLt : b < n) :
    (List.range n).foldl (linkInitial size) start b =
      { makeBlock size with next := if b + 1 < n then b + 1 else 0 } := by
  induction n with
  | zero => exact absurd hLt (Nat.not_lt_zero b)
  | succ n ih =>
      rw [List.range_succ, List.foldl_concat, linkInitial]
      by_cases hLast : b = n
      · subst hLast
        rw [Function.update_self, if_neg (Nat.lt_irrefl _)]
      · have hBefore : b < n := by omega
        rw [Function.update_of_ne hLast, if_neg (by omega)]
        by_cases hNext : b = n - 1
        · subst hNext
          have hSucc : n - 1 + 1 = n := by omega
          rw [Function.update_self, ih hBefore, hSucc, if_pos (Nat.lt_succ_self n)]
        · rw [Function.update_of_ne hNext, ih hBefore, if_pos (by omega), if_pos (by omega)]

/-- The circle that the constructor links. -/
theorem chain_range (size n : Nat) (start : Nat → Block α) :
    (List.range n ++ [0]).IsChain fun b c =>
      ((List.range n).foldl (linkInitial size) start b).next = c := by
  rw [List.isChain_iff_getElem]
  intro i hLt
  simp only [List.length_append, List.length_range, List.length_singleton] at hLt
  have hBefore : i < n := by omega
  simp only [List.getElem_append, List.length_range, dif_pos hBefore, List.getElem_range,
    linkInitial_apply size n start hBefore, List.getElem_singleton]
  split_ifs <;> rfl

theorem ok_makeBlock {size : Nat} (hSize : PowerOfTwo size) (next : Nat) :
    ({ makeBlock size with next := next } : Block α).Ok ∧
      ({ makeBlock size with next := next } : Block α).fill = 0 := by
  obtain ⟨k, hPos, rfl⟩ := hSize
  have hTwo : 0 < 2 ^ k := Nat.two_pow_pos k
  have hMask : (makeBlock (α := α) (2 ^ k)).sizeMask = 2 ^ k - 1 := rfl
  exact ⟨⟨⟨k, hPos, by simp only [hMask]; omega⟩, Nat.zero_le _, Nat.zero_le _, Nat.zero_le _,
    Nat.zero_le _, Nat.le_refl _, Nat.le_refl _⟩, rfl⟩

/-- Blocks of one size, which are enough for `maxSize` elements. -/
theorem layout_initial {size count unit : Nat} (hCount : 0 < count) (hSize : PowerOfTwo size)
    (hUnit : unit < size) (hEnough : maxSize ≤ unit * max 1 (count - 1)) :
    Layout maxSize unit (initial size count : State α) [] (List.range' 1 (count - 1)) := by
  have hRing : 0 :: List.range' 1 (count - 1) = List.range count := by
    obtain ⟨m, rfl⟩ := Nat.exists_eq_succ_of_ne_zero hCount.ne'
    rw [List.range_eq_range', List.range'_succ]
    rfl
  have hBlocks : ∀ b ∈ 0 :: List.range' 1 (count - 1), (initial size count : State α).blocks b =
      { makeBlock size with next := if b + 1 < count then b + 1 else 0 } := by
    intro b hMem
    rw [hRing] at hMem
    exact linkInitial_apply size count _ (List.mem_range.mp hMem)
  refine ⟨rfl, ?_, fun b hMem => ?_, fun b hMem => ?_, ?_, fun b hMem => ?_, fun b hMem => ?_,
    hSize, hUnit, fun b hMem => ?_, ?_⟩
  · show (0 :: List.range' 1 (count - 1)).Nodup
    rw [hRing]
    exact List.nodup_range
  · have hRange : b ∈ 0 :: List.range' 1 (count - 1) := hMem
    rw [hRing] at hRange
    exact List.mem_range.mp hRange
  · rw [hBlocks b hMem]
    exact (ok_makeBlock hSize _).1
  · show (0 :: List.range' 1 (count - 1) ++ [0]).IsChain _
    rw [hRing]
    exact chain_range size count _
  · cases hMem
  · cases hMem
  · rw [hBlocks b hMem]
    exact Nat.le_sub_one_of_lt hUnit
  · rw [List.nil_append, List.length_range']
    exact hEnough

theorem refines_initial {size count unit : Nat} (hCount : 0 < count) (hSize : PowerOfTwo size)
    (hUnit : unit < size) (hEnough : maxSize ≤ unit * max 1 (count - 1)) :
    Refines maxSize unit (initial size count : State α) SharedQueue.empty []
      (List.range' 1 (count - 1)) 0 0 := by
  have hEmpty : ∀ b, b < count → ((initial size count : State α).blocks b).fill = 0 := by
    intro b hLt
    have hBlock : (initial size count : State α).blocks b = _ := linkInitial_apply size count _ hLt
    rw [hBlock]
    exact (ok_makeBlock hSize _).2
  refine ⟨layout_initial hCount hSize hUnit hEnough, ?_, rfl, rfl, SharedQueue.fair_empty,
    fun b hMem => hEmpty b ?_, trivial⟩
  · rw [State.items, List.flatMap_singleton]
    refine (List.length_eq_zero_iff.mp ?_).symm
    rw [Block.items_length]
    exact hEmpty 0 hCount
  · obtain ⟨hFrom, hTo⟩ := List.mem_range'_1.mp hMem
    omega

/-- A constructed queue refines an empty one. -/
theorem refines_make (hBlock : PowerOfTwo maxBlockSize) (hPos : 0 < maxSize)
    (hFits : maxSize < 2 ^ 63) :
    ∃ unit spare, Refines maxSize unit (make maxBlockSize maxSize : State α) SharedQueue.empty []
      spare 0 0 := by
  obtain ⟨hPower, hLarge⟩ := ceilToPow2_eq (Nat.lt_add_of_pos_left hPos) hFits
  rw [make]
  split_ifs with hSeveral
  · obtain ⟨k, hBits, hSize⟩ := hBlock
    have hTwo : 2 ^ 1 ≤ 2 ^ k := Nat.pow_le_pow_right (by decide) hBits
    obtain ⟨unit, rfl⟩ := Nat.exists_eq_add_of_le' (show 1 ≤ maxBlockSize by omega)
    have hUnit : 0 < unit := by omega
    -- One block more than the elements fill.
    have hCount : (maxSize + (unit + 1) * 2 - 3) / (unit + 1 - 1) = (maxSize - 1) / unit + 2 := by
      rw [Nat.add_sub_cancel, show maxSize + (unit + 1) * 2 - 3 = maxSize - 1 + 2 * unit by omega,
        Nat.add_mul_div_right _ _ hUnit]
    have hEnough : maxSize ≤ unit * max 1 ((maxSize - 1) / unit + 2 - 1) := by
      have hLt : maxSize - 1 < unit * ((maxSize - 1) / unit + 1) := Nat.lt_mul_div_succ _ hUnit
      rw [show (maxSize - 1) / unit + 2 - 1 = (maxSize - 1) / unit + 1 from rfl,
        Nat.max_eq_right (Nat.le_add_left 1 _)]
      omega
    rw [hCount]
    exact ⟨unit, _, refines_initial (Nat.succ_pos _) ⟨k, hBits, hSize⟩ (Nat.lt_succ_self _) hEnough⟩
  · exact ⟨maxSize, _, refines_initial Nat.one_pos hPower hLarge (Nat.le_of_eq (Nat.mul_one _).symm)⟩

end Constructor

section Size

variable {s : State α} {unit room fill : Nat} {others spare : List Nat} {queue : SharedQueue α}

/-- Around the circle from a block to the one before the front block. -/
theorem sizeApproxLoop_eq {rest : List Nat} {b blocks : Nat}
    (hLinked : (b :: rest ++ [s.frontBlock]).IsChain fun b c => (s.blocks b).next = c)
    (hOk : ∀ c ∈ b :: rest, (s.blocks c).Ok) (hFront : s.frontBlock ∉ rest)
    (hBlocks : rest.length < blocks) :
    sizeApproxLoop s s.frontBlock blocks b = ((b :: rest).map fun c => (s.blocks c).fill).sum := by
  induction rest generalizing b blocks with
  | nil =>
      obtain ⟨blocks, rfl⟩ := Nat.exists_eq_succ_of_ne_zero hBlocks.ne'
      have hNext : (s.blocks b).next = s.frontBlock := (List.isChain_cons_cons.mp hLinked).1
      rw [sizeApproxLoop, if_pos hNext, (hOk b (List.mem_cons_self ..)).sub_and_sizeMask]
      exact (List.sum_singleton ..).symm
  | cons c rest ih =>
      obtain ⟨blocks, rfl⟩ := Nat.exists_eq_succ_of_ne_zero (Nat.ne_zero_of_lt hBlocks)
      obtain ⟨hNext, hLater⟩ := List.isChain_cons_cons.mp hLinked
      have hNe : (s.blocks b).next ≠ s.frontBlock := by
        rw [hNext]
        rintro rfl
        exact hFront (List.mem_cons_self ..)
      rw [sizeApproxLoop, if_neg hNe, hNext, (hOk b (List.mem_cons_self ..)).sub_and_sizeMask,
        ih hLater (fun d hMem => hOk d (List.mem_cons_of_mem _ hMem))
          (fun hMem => hFront (List.mem_cons_of_mem _ hMem)) (Nat.lt_of_succ_lt_succ hBlocks)]
      rfl

/-- Between two calls of the producer `size_approx` counts the elements. -/
theorem Refines.sizeApprox (h : Refines maxSize unit s queue others spare room fill)
    (hIdle : s.producer = .idle) : ReaderWriterQueue.sizeApprox s = queue.contents.length := by
  have hUnused := h.producer
  rw [hIdle] at hUnused
  have hLinked := h.layout.linked
  rw [← List.append_assoc] at hLinked
  have hFront : s.frontBlock ∉ others ++ spare := (List.nodup_cons.mp h.layout.nodup).1
  have hBlocks : (others ++ spare).length < s.allocated := by
    have hSub : s.frontBlock :: others ++ spare ⊆ List.range s.allocated := fun b hMem =>
      List.mem_range.mpr (h.layout.allocated b hMem)
    have hLe := (h.layout.nodup.subperm hSub).length_le
    rwa [List.length_range, List.cons_append, List.length_cons] at hLe
  have hSpare : (spare.map fun c => (s.blocks c).fill).sum = 0 := by
    refine List.sum_eq_zero fun x hMem => ?_
    obtain ⟨c, hUnusedBlock, rfl⟩ := List.mem_map.mp hMem
    exact hUnused c hUnusedBlock
  have hLength := congrArg List.length h.contents
  rw [List.length_map, State.items, List.length_flatMap] at hLength
  simp only [Block.items_length] at hLength
  calc ReaderWriterQueue.sizeApprox s
      = ((s.frontBlock :: (others ++ spare)).map fun c => (s.blocks c).fill).sum :=
        sizeApproxLoop_eq hLinked h.layout.ok hFront hBlocks
    _ = ((s.frontBlock :: others).map fun c => (s.blocks c).fill).sum +
          (spare.map fun c => (s.blocks c).fill).sum := by
        rw [← List.cons_append, List.map_append, List.sum_append]
    _ = queue.contents.length := by rw [hSpare, Nat.add_zero, hLength]

end Size

/-- The queue begins with one block, which holds one element. A block is added for 8, in which the
consumer finds it, and 10 goes back to the first block. -/
def blockEvents : List (Event Nat) :=
  [.enqueue .canAlloc 7, .producer true, .producer true, .enqueue .canAlloc 8, .producer true,
    .call .tryDequeue, .producer true, .consumer, .producer true, .consumer, .producer true,
    .consumer, .producer true, .call .tryDequeue, .consumer, .consumer, .consumer, .consumer,
    .consumer, .consumer, .consumer, .consumer, .enqueue .canAlloc 9, .producer true,
    .producer true, .producer true, .enqueue .cannotAlloc 10, .producer true, .producer true,
    .producer true, .producer true, .producer true, .producer true, .call .pop, .consumer,
    .consumer, .consumer, .call .pop]

example : labels (step 2) label (make 2 1) blockEvents =
    [.offer [7], .accept [7], .offer [8], .ask 1, .give [7], .accept [8], .ask 1, .give [8],
      .offer [9], .accept [9], .offer [10], .accept [10], .ask 1, .give [9], .ask 1] := by
  decide +kernel

section Runs

variable [DecidableEq α] {s t : State α} {queue : SharedQueue α}

/-- Some circle of blocks shows that a state refines the queue. -/
def Implements (maxSize : Nat) (s : State α) (queue : SharedQueue α) : Prop :=
  ∃ unit others spare room fill, Refines maxSize unit s queue others spare room fill

theorem Matched.implements {unit room fill : Nat} {seen : Option (SharedQueue.Event α)}
    (h : Matched maxSize unit queue seen t room fill) :
    ∃ queue', run (SharedQueue.step maxSize) queue seen.toList = some queue' ∧
      Implements maxSize t queue' := by
  obtain ⟨queue', others, spare, hRun, hRefines⟩ := h
  exact ⟨queue', hRun, unit, others, spare, room, fill, hRefines⟩

/-- Every step of either thread is a step of the queue, or none. -/
theorem Implements.step (h : Implements maxSize s queue) {event : Event α}
    (hStep : ReaderWriterQueue.step maxBlockSize s event = some t) :
    ∃ queue', run (SharedQueue.step maxSize) queue (label s event).toList = some queue' ∧
      Implements maxSize t queue' := by
  obtain ⟨unit, others, spare, room, fill, hRefines⟩ := h
  cases event with
  | enqueue mode element =>
      rw [ReaderWriterQueue.step] at hStep
      split at hStep
      · next hIdle =>
          cases hStep
          exact (hRefines.enqueue hIdle mode element).implements
      · cases hStep
  | producer memory =>
      have hCall : s.producer ≠ .idle := by
        intro hIdle
        rw [ReaderWriterQueue.step, producerStep, hIdle] at hStep
        cases hStep
      obtain ⟨u, hNext, hMatched⟩ := hRefines.producerStep hCall maxBlockSize memory
      cases hStep.symm.trans hNext
      exact hMatched.implements
  | call call =>
      rw [ReaderWriterQueue.step] at hStep
      split at hStep
      · next hIdle =>
          cases hStep
          exact (hRefines.call hIdle call).implements
      · cases hStep
  | consumer =>
      have hCall : s.consumer ≠ .idle := by
        intro hIdle
        rw [ReaderWriterQueue.step, consumerStep, hIdle] at hStep
        cases hStep
      obtain ⟨u, hNext, hMatched⟩ := hRefines.consumerStep hCall
      cases hStep.symm.trans hNext
      exact hMatched.implements

/-- What the callers see of the constructed queue. -/
theorem implements_of_run (hBlock : PowerOfTwo maxBlockSize) (hPos : 0 < maxSize)
    (hFits : maxSize < 2 ^ 63) {events : List (Event α)}
    (hRun : run (ReaderWriterQueue.step maxBlockSize) (make maxBlockSize maxSize) events = some t) :
    ∃ queue, run (SharedQueue.step maxSize) SharedQueue.empty
        (labels (ReaderWriterQueue.step maxBlockSize) label (make maxBlockSize maxSize) events) =
          some queue ∧ Implements maxSize t queue := by
  obtain ⟨unit, spare, hRefines⟩ := refines_make (α := α) hBlock hPos hFits
  exact run_labels (Implements maxSize) (fun _ _ _ _ hImplements hStep =>
    hImplements.step hStep) ⟨unit, [], spare, 0, 0, hRefines⟩ hRun

/-- In every order of the steps of the two threads the callers see a queue: what `try_dequeue`
and `pop` take is what `enqueue` put in, in the same order, and the rest is still there. -/
theorem given_append_contents_of_run (hBlock : PowerOfTwo maxBlockSize) (hPos : 0 < maxSize)
    (hFits : maxSize < 2 ^ 63) {events : List (Event α)}
    (hRun : run (ReaderWriterQueue.step maxBlockSize) (make maxBlockSize maxSize) events = some t) :
    ∃ queue, run (SharedQueue.step maxSize) SharedQueue.empty
        (labels (ReaderWriterQueue.step maxBlockSize) label (make maxBlockSize maxSize) events) =
          some queue ∧
      SharedQueue.given
          (labels (ReaderWriterQueue.step maxBlockSize) label (make maxBlockSize maxSize) events) ++
        queue.contents =
      SharedQueue.accepted
          (labels (ReaderWriterQueue.step maxBlockSize) label (make maxBlockSize maxSize) events) ∧
      (t.producer = .idle → sizeApprox t = queue.contents.length) := by
  obtain ⟨queue, hQueue, unit, others, spare, room, fill, hRefines⟩ :=
    implements_of_run hBlock hPos hFits hRun
  exact ⟨queue, hQueue, SharedQueue.given_append_contents hQueue, hRefines.sizeApprox⟩

theorem given_append_contents_of_run_blocks :
    ∃ t : State Nat, run (ReaderWriterQueue.step 2) (make 2 1) blockEvents = some t ∧
      t.allocated = 2 ∧
      ∃ queue, run (SharedQueue.step 1) SharedQueue.empty
          (labels (ReaderWriterQueue.step 2) label (make 2 1) blockEvents) = some queue ∧
        SharedQueue.given (labels (ReaderWriterQueue.step 2) label (make 2 1) blockEvents) ++
          queue.contents =
        SharedQueue.accepted (labels (ReaderWriterQueue.step 2) label (make 2 1) blockEvents) ∧
        (t.producer = .idle → sizeApprox t = queue.contents.length) := by
  have hBlocks : ((run (ReaderWriterQueue.step 2) (make 2 1) blockEvents).map State.allocated) =
      some 2 := by
    decide +kernel
  obtain ⟨t, hRun, hAllocated⟩ := Option.map_eq_some_iff.mp hBlocks
  exact ⟨t, hRun, hAllocated,
    given_append_contents_of_run ⟨1, by decide, rfl⟩ (by decide) (by decide) hRun⟩

end Runs

section Progress

variable {s t : State α}

/-- How many steps the producer still makes in its call, at most. -/
def Producer.left : Producer α → Nat
  | .idle => 0
  | .storeTail .. | .storeTailBlock .. => 1
  | .construct .. | .storeNextTail .. | .linkBlock .. => 2
  | .constructNext .. | .allocate .. => 3
  | .loadNextFront .. => 4
  | .loadFrontBlock .. => 5
  | .loadFront .. => 6

/-- How many steps the consumer still makes in its call, at most. -/
def Consumer.left : Consumer α → Nat
  | .idle => 0
  | .storeFront .. => 1
  | .take .. => 2
  | .storeFrontBlock .. => 3
  | .loadNextTail .. => 4
  | .loadNext .. => 5
  | .reloadTail .. => 6
  | .loadTailBlock .. => 7
  | .loadTail .. => 8

theorem producerStep_left {memory : Bool} (hStep : producerStep maxBlockSize memory s = some t) :
    t.producer.left < s.producer.left ∧ t.consumer = s.consumer ∧
      (t.allocated = s.allocated ∨
        ∃ mode tailBlock element, s.producer = .allocate mode tailBlock element) := by
  cases hAt : s.producer with
  | idle =>
      rw [producerStep, hAt] at hStep
      cases hStep
  | loadFront mode tailBlock blockTail element =>
      rw [producerStep, hAt] at hStep
      cases hStep
      refine ⟨?_, rfl, .inl rfl⟩
      show (ite _ _ _ : Producer α).left < 6
      split_ifs
      · show 2 < 6
        decide
      · show 5 < 6
        decide
  | construct tailBlock blockTail element =>
      rw [producerStep, hAt] at hStep
      cases hStep
      exact ⟨show 1 < 2 by decide, rfl, .inl rfl⟩
  | storeTail tailBlock nextBlockTail element =>
      rw [producerStep, hAt] at hStep
      cases hStep
      exact ⟨show 0 < 1 by decide, rfl, .inl rfl⟩
  | loadFrontBlock mode tailBlock element =>
      rw [producerStep, hAt] at hStep
      cases hStep
      refine ⟨?_, rfl, .inl rfl⟩
      show (ite _ _ _ : Producer α).left < 5
      split_ifs
      · show 4 < 5
        decide
      · show 3 < 5
        decide
  | loadNextFront tailBlock element =>
      rw [producerStep, hAt] at hStep
      dsimp only at hStep
      split_ifs at hStep
      cases hStep
      exact ⟨show 3 < 4 by decide, rfl, .inl rfl⟩
  | constructNext tailBlockNext nextBlockTail element =>
      rw [producerStep, hAt] at hStep
      cases hStep
      exact ⟨show 2 < 3 by decide, rfl, .inl rfl⟩
  | storeNextTail tailBlockNext nextBlockTail element =>
      rw [producerStep, hAt] at hStep
      cases hStep
      exact ⟨show 1 < 2 by decide, rfl, .inl rfl⟩
  | allocate mode tailBlock element =>
      rw [producerStep, hAt] at hStep
      dsimp only at hStep
      by_cases hMemory : mode = .canAlloc ∧ memory = true
      · rw [if_pos hMemory] at hStep
        cases hStep
        exact ⟨show 2 < 3 by decide, rfl, .inr ⟨mode, tailBlock, element, rfl⟩⟩
      · rw [if_neg hMemory] at hStep
        cases hStep
        exact ⟨show 0 < 3 by decide, rfl, .inr ⟨mode, tailBlock, element, rfl⟩⟩
  | linkBlock tailBlock newBlock element =>
      rw [producerStep, hAt] at hStep
      cases hStep
      exact ⟨show 1 < 2 by decide, rfl, .inl rfl⟩
  | storeTailBlock tailBlockNext element =>
      rw [producerStep, hAt] at hStep
      cases hStep
      exact ⟨show 0 < 1 by decide, rfl, .inl rfl⟩

theorem consumerStep_left (hStep : consumerStep s = some t) :
    t.consumer.left < s.consumer.left ∧ t.producer = s.producer ∧
      t.allocated = s.allocated := by
  cases hAt : s.consumer with
  | idle =>
      rw [consumerStep, hAt] at hStep
      cases hStep
  | loadTail call frontBlock blockFront =>
      rw [consumerStep, hAt] at hStep
      cases hStep
      refine ⟨?_, rfl, rfl⟩
      show (ite _ _ _ : Consumer α).left < 8
      split_ifs
      · show 2 < 8
        decide
      · show 7 < 8
        decide
  | loadTailBlock call frontBlock =>
      rw [consumerStep, hAt] at hStep
      cases hStep
      refine ⟨?_, rfl, rfl⟩
      show (ite _ _ _ : Consumer α).left < 7
      split_ifs
      · show 6 < 7
        decide
      · show 0 < 7
        decide
  | reloadTail call =>
      rw [consumerStep, hAt] at hStep
      cases hStep
      refine ⟨?_, rfl, rfl⟩
      show (ite _ _ _ : Consumer α).left < 6
      split_ifs
      · show 2 < 6
        decide
      · show 5 < 6
        decide
  | loadNext call frontBlock =>
      rw [consumerStep, hAt] at hStep
      cases hStep
      exact ⟨show 4 < 5 by decide, rfl, rfl⟩
  | loadNextTail call nextBlock nextBlockFront =>
      rw [consumerStep, hAt] at hStep
      dsimp only at hStep
      split_ifs at hStep
      · cases hStep
        exact ⟨show 2 < 4 by decide, rfl, rfl⟩
      · cases hStep
        exact ⟨show 3 < 4 by decide, rfl, rfl⟩
  | storeFrontBlock call nextBlock nextBlockFront =>
      rw [consumerStep, hAt] at hStep
      cases hStep
      exact ⟨show 2 < 3 by decide, rfl, rfl⟩
  | take call frontBlock blockFront =>
      rw [consumerStep, hAt] at hStep
      obtain ⟨element, -, rfl⟩ := Option.map_eq_some_iff.mp hStep
      refine ⟨?_, rfl, rfl⟩
      show (ite _ _ _ : Consumer α).left < 2
      split_ifs
      · show 0 < 2
        decide
      · show 1 < 2
        decide
  | storeFront frontBlock blockFront element =>
      rw [consumerStep, hAt] at hStep
      cases hStep
      exact ⟨show 0 < 1 by decide, rfl, rfl⟩

/-- The events that make the producer go on, and those that make it begin. -/
def Event.ofProducer : Event α → Bool
  | .producer _ => true
  | _ => false

def Event.isEnqueue : Event α → Bool
  | .enqueue .. => true
  | _ => false

/-- The events that make the consumer go on, and those that make it begin. -/
def Event.ofConsumer : Event α → Bool
  | .consumer => true
  | _ => false

def Event.isCall : Event α → Bool
  | .call _ => true
  | _ => false

theorem producer_left_step {event : Event α}
    (hStep : ReaderWriterQueue.step maxBlockSize s event = some t) (hOld : event.isEnqueue = false) :
    t.producer.left + (if event.ofProducer then 1 else 0) ≤ s.producer.left := by
  cases event with
  | enqueue mode element => cases hOld
  | producer memory => exact (producerStep_left hStep).1
  | call call =>
      rw [ReaderWriterQueue.step] at hStep
      split at hStep
      · cases hStep
        exact Nat.le_refl _
      · cases hStep
  | consumer => exact Nat.le_of_eq (congrArg Producer.left (consumerStep_left hStep).2.1)

theorem consumer_left_step {event : Event α}
    (hStep : ReaderWriterQueue.step maxBlockSize s event = some t) (hOld : event.isCall = false) :
    t.consumer.left + (if event.ofConsumer then 1 else 0) ≤ s.consumer.left := by
  cases event with
  | enqueue mode element =>
      rw [ReaderWriterQueue.step] at hStep
      split at hStep
      · cases hStep
        exact Nat.le_refl _
      · cases hStep
  | producer memory => exact Nat.le_of_eq (congrArg Consumer.left (producerStep_left hStep).2.1)
  | call call => cases hOld
  | consumer => exact (consumerStep_left hStep).1

/-- What every admitted step uses up, a run uses up. -/
theorem countP_add_le {m : State α → Nat} {begins own : Event α → Bool}
    (hStep : ∀ s event t, ReaderWriterQueue.step maxBlockSize s event = some t →
      begins event = false → m t + (if own event then 1 else 0) ≤ m s)
    {events : List (Event α)}
    (hRun : run (ReaderWriterQueue.step maxBlockSize) s events = some t)
    (hOld : ∀ event ∈ events, begins event = false) :
    events.countP own + m t ≤ m s := by
  induction events generalizing s with
  | nil =>
      cases hRun
      simp
  | cons event events ih =>
      obtain ⟨middle, hFirst, hRest⟩ := run_cons_eq_some.mp hRun
      have hLater := ih hRest fun later hMem => hOld later (List.mem_cons_of_mem _ hMem)
      have hNow := hStep s event middle hFirst (hOld event (List.mem_cons_self ..))
      rw [List.countP_cons]
      omega

theorem producer_left_le (p : Producer α) : p.left ≤ 6 := by
  cases p <;> simp [Producer.left]

theorem consumer_left_le (c : Consumer α) : c.left ≤ 8 := by
  cases c <;> simp [Consumer.left]

/-- The queue is wait-free. In every state that the threads come to, a thread in a call can make
its next step: no assertion fails, no slot is read that holds no element, and nothing is waited
for. And however the other thread runs, a call ends after a few steps of its own thread. -/
theorem wait_free_of_run [DecidableEq α] (hBlock : PowerOfTwo maxBlockSize) (hPos : 0 < maxSize)
    (hFits : maxSize < 2 ^ 63) {events : List (Event α)}
    (hRun : run (ReaderWriterQueue.step maxBlockSize) (make maxBlockSize maxSize) events = some t) :
    (t.producer ≠ .idle → ∀ memory, (producerStep maxBlockSize memory t).isSome) ∧
    (t.consumer ≠ .idle → (consumerStep t).isSome) ∧
    ∀ later u, run (ReaderWriterQueue.step maxBlockSize) t later = some u →
      ((∀ event ∈ later, event.isEnqueue = false) → later.countP Event.ofProducer ≤ 6) ∧
      ((∀ event ∈ later, event.isCall = false) → later.countP Event.ofConsumer ≤ 8) := by
  obtain ⟨queue, -, unit, others, spare, room, fill, hRefines⟩ :=
    implements_of_run hBlock hPos hFits hRun
  refine ⟨fun hCall memory => ?_, fun hCall => ?_, fun later u hLater =>
    ⟨fun hOld => ?_, fun hOld => ?_⟩⟩
  · obtain ⟨u, hStep, -⟩ := hRefines.producerStep hCall maxBlockSize memory
    exact Option.isSome_iff_exists.mpr ⟨u, hStep⟩
  · obtain ⟨u, hStep, -⟩ := hRefines.consumerStep hCall
    exact Option.isSome_iff_exists.mpr ⟨u, hStep⟩
  · have hUsed := countP_add_le (m := fun s => s.producer.left)
      (fun _ _ _ => producer_left_step) hLater hOld
    exact (Nat.le_add_right _ _).trans (hUsed.trans (producer_left_le _))
  · have hUsed := countP_add_le (m := fun s => s.consumer.left)
      (fun _ _ _ => consumer_left_step) hLater hOld
    exact (Nat.le_add_right _ _).trans (hUsed.trans (consumer_left_le _))

/-- Both threads are in a call, the consumer of the second block and the producer of the first. -/
def callEvents : List (Event Nat) := blockEvents ++ [.consumer, .enqueue .canAlloc 11]

theorem wait_free_of_run_calls :
    ∃ t : State Nat, run (ReaderWriterQueue.step 2) (make 2 1) callEvents = some t ∧
      (t.producer ≠ .idle ∧ ∀ memory, (producerStep 2 memory t).isSome) ∧
      (t.consumer ≠ .idle ∧ (consumerStep t).isSome) ∧
      ∀ later u, run (ReaderWriterQueue.step 2) t later = some u →
        ((∀ event ∈ later, event.isEnqueue = false) → later.countP Event.ofProducer ≤ 6) ∧
        ((∀ event ∈ later, event.isCall = false) → later.countP Event.ofConsumer ≤ 8) := by
  have hCalls : ((run (ReaderWriterQueue.step 2) (make 2 1) callEvents).map fun t =>
      (t.producer.left, t.consumer.left)) = some (6, 7) := by
    decide +kernel
  obtain ⟨t, hRun, hLeft⟩ := Option.map_eq_some_iff.mp hCalls
  obtain ⟨hProducer, hConsumer⟩ := Prod.mk.inj hLeft
  have hEnqueues : t.producer ≠ .idle := by
    intro hIdle
    rw [hIdle] at hProducer
    cases hProducer
  have hPops : t.consumer ≠ .idle := by
    intro hIdle
    rw [hIdle] at hConsumer
    cases hConsumer
  obtain ⟨hNext, hNext', hSteps⟩ :=
    wait_free_of_run ⟨1, by decide, rfl⟩ (by decide) (by decide) hRun
  exact ⟨t, hRun, ⟨hEnqueues, hNext hEnqueues⟩, ⟨hPops, hNext' hPops⟩, hSteps⟩

end Progress

section Allocation

variable [DecidableEq α] {s t : State α}

/-- The producer begins a call only when the queue holds fewer than `maxSize` elements. -/
def Spares (maxSize : Nat) (s : State α) : Event α → Prop
  | .enqueue .. => sizeApprox s < maxSize
  | _ => True

instance (maxSize : Nat) (s : State α) (event : Event α) : Decidable (Spares maxSize s event) :=
  match event with
  | .enqueue .. => inferInstanceAs (Decidable (sizeApprox s < maxSize))
  | .producer _ | .call _ | .consumer => inferInstanceAs (Decidable True)

/-- No block has been added, and none will be in the call that is under way. -/
def Roomy (maxSize allocated : Nat) (s : State α) : Prop :=
  s.allocated = allocated ∧ ∃ queue unit others spare room fill,
    Refines maxSize unit s queue others spare room fill ∧ (s.producer ≠ .idle → room < maxSize)

theorem Matched.roomy {queue : SharedQueue α} {seen : Option (SharedQueue.Event α)}
    {unit room fill allocated : Nat} (h : Matched maxSize unit queue seen t room fill)
    (hAllocated : t.allocated = allocated) (hRoom : t.producer ≠ .idle → room < maxSize) :
    Roomy maxSize allocated t := by
  obtain ⟨queue', others, spare, -, hRefines⟩ := h
  exact ⟨hAllocated, queue', unit, others, spare, room, fill, hRefines, hRoom⟩

theorem Roomy.step {allocated : Nat} {event : Event α} (h : Roomy maxSize allocated s)
    (hSpares : Spares maxSize s event)
    (hStep : ReaderWriterQueue.step maxBlockSize s event = some t) : Roomy maxSize allocated t := by
  obtain ⟨rfl, queue, unit, others, spare, room, fill, hRefines, hRoom⟩ := h
  cases event with
  | enqueue mode element =>
      rw [ReaderWriterQueue.step] at hStep
      split at hStep
      · next hIdle =>
          cases hStep
          refine (hRefines.enqueue hIdle mode element).roomy rfl fun _ => ?_
          rw [← hRefines.sizeApprox hIdle]
          exact hSpares
      · cases hStep
  | producer memory =>
      have hCall : s.producer ≠ .idle := by
        intro hIdle
        rw [ReaderWriterQueue.step, producerStep, hIdle] at hStep
        cases hStep
      obtain ⟨u, hNext, hMatched⟩ := hRefines.producerStep hCall maxBlockSize memory
      cases hStep.symm.trans hNext
      refine hMatched.roomy ?_ fun _ => hRoom hCall
      refine (producerStep_left hStep).2.2.resolve_right ?_
      rintro ⟨mode, tailBlock, element, hAt⟩
      have hPlace := hRefines.producer
      rw [hAt] at hPlace
      exact absurd hPlace.2.2.2 (Nat.not_le_of_lt (hRoom hCall))
  | call call =>
      rw [ReaderWriterQueue.step] at hStep
      split at hStep
      · next hIdle =>
          cases hStep
          exact (hRefines.call hIdle call).roomy rfl hRoom
      · cases hStep
  | consumer =>
      have hCall : s.consumer ≠ .idle := by
        intro hIdle
        rw [ReaderWriterQueue.step, consumerStep, hIdle] at hStep
        cases hStep
      obtain ⟨u, hNext, hMatched⟩ := hRefines.consumerStep hCall
      cases hStep.symm.trans hNext
      obtain ⟨-, hProducer, hAllocated⟩ := consumerStep_left hStep
      exact hMatched.roomy hAllocated (hProducer ▸ hRoom)

/-- As the constructor says, the queue holds `maxSize` elements without further allocations:
while it is never asked to hold more, no block is added to those it began with. -/
theorem allocated_of_spares (hBlock : PowerOfTwo maxBlockSize) (hPos : 0 < maxSize)
    (hFits : maxSize < 2 ^ 63) {events : List (Event α)}
    (hRun : run (ReaderWriterQueue.step maxBlockSize) (make maxBlockSize maxSize) events = some t)
    (hSpares : Meets (ReaderWriterQueue.step maxBlockSize) (Spares maxSize)
      (make maxBlockSize maxSize) events) :
    t.allocated = (make maxBlockSize maxSize : State α).allocated := by
  obtain ⟨unit, spare, hRefines⟩ := refines_make (α := α) hBlock hPos hFits
  have hIdle : (make maxBlockSize maxSize : State α).producer = .idle := by
    rw [make]
    split_ifs <;> rfl
  have hInit : Roomy maxSize (make maxBlockSize maxSize : State α).allocated
      (make maxBlockSize maxSize : State α) :=
    ⟨rfl, SharedQueue.empty, unit, [], spare, 0, 0, hRefines, fun hCall => absurd hIdle hCall⟩
  have hAlways := always_of_meets (fun _ _ _ hRoomy hSpares hStep =>
    hRoomy.step hSpares hStep) hInit hSpares
  exact (hAlways.of_run hRun).1

/-- The player's queue is made for 8192 marks, in blocks of 512. -/
theorem allocated_of_run_marks {events : List (Event α)}
    (hRun : run (ReaderWriterQueue.step 512) (make 512 8192) events = some t)
    (hSpares : Meets (ReaderWriterQueue.step 512) (Spares 8192) (make 512 8192) events) :
    t.allocated = 18 := by
  have hMade : (make 512 8192 : State α).allocated = 18 := by
    have hLarge : 512 * 2 < ceilToPow2 (8192 + 1) := by decide
    rw [make, if_pos hLarge]
    rfl
  exact (allocated_of_spares ⟨9, by decide, rfl⟩ (by decide) (by decide) hRun hSpares).trans hMade

/-- Five blocks for one element each: 8 goes into the second one, and the consumer follows. -/
def nextBlockEvents : List (Event Nat) :=
  [.enqueue .canAlloc 7, .producer true, .producer true, .enqueue .canAlloc 8, .producer true,
    .producer true, .call .tryDequeue, .producer true, .consumer, .producer true, .consumer,
    .producer true, .consumer, .producer true, .call .tryDequeue, .consumer, .consumer, .consumer,
    .consumer, .consumer, .consumer, .consumer, .consumer]

theorem allocated_of_spares_nextBlock :
    ∃ t : State Nat, run (ReaderWriterQueue.step 2) (make 2 4) nextBlockEvents = some t ∧
      t.tailBlock = 1 ∧ t.frontBlock = 1 ∧ t.allocated = (make 2 4 : State Nat).allocated := by
  have hBlocks : ((run (ReaderWriterQueue.step 2) (make 2 4) nextBlockEvents).map fun t =>
      (t.tailBlock, t.frontBlock)) = some (1, 1) := by
    decide +kernel
  obtain ⟨t, hRun, hBlock⟩ := Option.map_eq_some_iff.mp hBlocks
  obtain ⟨hTail, hFront⟩ := Prod.mk.inj hBlock
  have hSpares : Meets (ReaderWriterQueue.step 2) (Spares 4) (make 2 4) nextBlockEvents := by
    decide +kernel
  exact ⟨t, hRun, hTail, hFront,
    allocated_of_spares ⟨1, by decide, rfl⟩ (by decide) (by decide) hRun hSpares⟩

end Allocation

end AudioSync.Player.ReaderWriterQueue
