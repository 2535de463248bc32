import AudioSync.Player.EnqueuedData

/-! The frame-dropping loop on its own: which samples it reads, and which frames it leaves at the
front of the buffer. -/
namespace AudioSync.Player

open MachineInt

namespace State

/-- What the loop leaves behind. The samples it has read are indices into `buf_ptr`. -/
structure Dropped where
  nFrame : Nat
  reads : List Nat
  memory : Pointer

/-- `dropFrames` with the count of the frames that it keeps and the samples that it reads. -/
def tracedDropFrames (base channels : Nat) (mod : Int) :
    Nat → Nat → Nat → Int → List Nat → Pointer → Option Dropped
  | 0, _, nFrame, _, reads, memory => some ⟨nFrame, reads, memory⟩
  | remaining + 1, frame, nFrame, drop, reads, memory =>
      let source := frame * channels
      let target := nFrame * channels
      let next := source + channels
      if 0 < drop ∧ mod = 0 then none
      else if 0 < drop ∧ (frame : Int).tmod mod = 0 then
        tracedDropFrames base channels mod remaining (frame + 1) nFrame (drop - 1)
          (reads ++ List.range' source channels ++ List.range' next channels)
          (averageFrame channels (base + target) (base + source) (base + next) memory)
      else
        tracedDropFrames base channels mod remaining (frame + 1) (nFrame + 1) drop
          (reads ++ List.range' source channels)
          (copyFrame channels (base + target) (base + source) memory)

/-- The frame at an index of the buffer. -/
def frameAt (base channels : Nat) (memory : Pointer) (index : Nat) : Frame :=
  (memory.add (2 * (base + index * channels))).bytes (2 * channels)

/-- The indices 0, `mod`, 2 * `mod` and so on, as many as there are frames to drop. -/
def removed (mod drop : Nat) : List Nat := (List.range drop).map (· * mod)

/-- How many frames are dropped before an index. -/
def droppedBefore (mod drop index : Nat) : Nat := min drop ((index + mod - 1) / mod)

section Erasure

variable {base channels : Nat} {mod : Int}

/-- The loop of the callback, with what it counts and reads left out. -/
theorem dropped_memory (remaining frame nFrame : Nat) (drop : Int) (reads : List Nat)
    (memory : Pointer) :
    (tracedDropFrames base channels mod remaining frame nFrame drop reads memory).map Dropped.memory =
      dropFrames base channels mod remaining frame nFrame drop memory := by
  induction remaining generalizing frame nFrame drop reads memory with
  | zero => rfl
  | succ remaining ih =>
      unfold tracedDropFrames dropFrames
      dsimp only
      split_ifs
      · rfl
      · rw [ih, Nat.add_assoc]
      · exact ih _ _ _ _ _

end Erasure

section Loads

/-! The samples that are counted as read are those that the loop depends on. -/

/-- Two memories hold the same samples at these indices. -/
def AgreeOn (base : Nat) (indices : Set Nat) (memory memory' : Pointer) : Prop :=
  ∀ i ∈ indices, SameSamples 1 memory (base + i) memory' (base + i)

variable {base channels : Nat} {mod : Int} {indices : Set Nat} {memory memory' : Pointer}

theorem AgreeOn.mono {fewer : Set Nat} (h : AgreeOn base indices memory memory')
    (hFewer : fewer ⊆ indices) : AgreeOn base fewer memory memory' :=
  fun i hi => h i (hFewer hi)

theorem AgreeOn.sample_eq (h : AgreeOn base indices memory memory') {i : Nat} (hi : i ∈ indices) :
    sample memory (base + i) = sample memory' (base + i) := by
  have hFirst : sample memory (base + i + 0) = sample memory' (base + i + 0) :=
    (h i hi).sample_eq Nat.one_pos
  exact hFirst

/-- A sample that is stored in both. -/
theorem AgreeOn.setSample (h : AgreeOn base indices memory memory') (target : Nat) (value : Int) :
    AgreeOn base (insert target indices) (Player.setSample memory (base + target) value)
      (Player.setSample memory' (base + target) value) := by
  intro i hi
  rcases eq_or_ne i target with rfl | hOther
  · have hStored := sameBytes_store memory memory' (2 * (base + i)) (2 * (base + i))
      [(BitVec.ofInt 16 value).setWidth 8, (BitVec.ofInt 16 value >>> 8).setWidth 8]
    exact hStored
  · have hBefore := h i (Set.mem_of_mem_insert_of_ne hi hOther)
    intro j hj
    unfold Player.setSample store
    rw [hBefore j hj]

/-- Samples that are stored one after the other, where their values do not differ. -/
theorem AgreeOn.foldl {value : Pointer → Nat → Int} (target : Nat) (cs : List Nat)
    (hValue : ∀ c ∈ cs, ∀ memory memory', AgreeOn base indices memory memory' →
      value memory c = value memory' c)
    (h : AgreeOn base indices memory memory') :
    AgreeOn base (indices ∪ {i | ∃ c ∈ cs, target + c = i})
      (cs.foldl (fun memory c => Player.setSample memory (base + target + c) (value memory c)) memory)
      (cs.foldl (fun memory c => Player.setSample memory (base + target + c) (value memory c))
        memory') := by
  induction cs generalizing indices memory memory' with
  | nil => exact h.mono (by simp)
  | cons c cs ih =>
      have hStored := h.setSample (target + c) (value memory c)
      rw [← Nat.add_assoc] at hStored
      rw [List.foldl_cons, List.foldl_cons, ← hValue c (List.mem_cons_self ..) memory memory' h]
      refine (ih (fun other hOther before after hAgree => ?_) hStored).mono ?_
      · exact hValue other (List.mem_cons_of_mem c hOther) before after
          (hAgree.mono (Set.subset_insert _ _))
      · rintro i (hi | ⟨other, hOther, rfl⟩)
        · exact Or.inl (Set.mem_insert_of_mem _ hi)
        · rcases List.mem_cons.mp hOther with rfl | hLater
          · exact Or.inl (Set.mem_insert _ _)
          · exact Or.inr ⟨other, hLater, rfl⟩

/-- The samples of the frame that begins at an index. -/
theorem mem_frame {target i : Nat} :
    (∃ c ∈ List.range channels, target + c = i) ↔ i ∈ List.range' target channels := by
  rw [List.mem_range'_1]
  constructor
  · rintro ⟨c, hc, rfl⟩
    have hLess := List.mem_range.mp hc
    omega
  · rintro ⟨hFrom, hTo⟩
    exact ⟨i - target, List.mem_range.mpr (by omega), by omega⟩

/-- `copyFrame` loads the samples of its source. -/
theorem AgreeOn.copyFrame (h : AgreeOn base indices memory memory') (target : Nat) {source : Nat}
    (hSource : ∀ i ∈ List.range' source channels, i ∈ indices) :
    AgreeOn base (indices ∪ {i | i ∈ List.range' target channels})
      (State.copyFrame channels (base + target) (base + source) memory)
      (State.copyFrame channels (base + target) (base + source) memory') := by
  have hAll := h.foldl target (List.range channels) fun c hc before after hAgree => by
    have hIn := hSource (source + c) (mem_frame.mp ⟨c, hc, rfl⟩)
    have hSame := hAgree.sample_eq hIn
    rw [← Nat.add_assoc] at hSame
    exact hSame
  simp only [mem_frame] at hAll
  exact hAll

/-- `averageFrame` loads those of the two frames that it averages. -/
theorem AgreeOn.averageFrame (h : AgreeOn base indices memory memory') (target : Nat)
    {source next : Nat} (hSource : ∀ i ∈ List.range' source channels, i ∈ indices)
    (hNext : ∀ i ∈ List.range' next channels, i ∈ indices) :
    AgreeOn base (indices ∪ {i | i ∈ List.range' target channels})
      (State.averageFrame channels (base + target) (base + source) (base + next) memory)
      (State.averageFrame channels (base + target) (base + source) (base + next) memory') := by
  have hAll := h.foldl target (List.range channels) fun c hc before after hAgree => by
    have hLeft := hAgree.sample_eq (hSource (source + c) (mem_frame.mp ⟨c, hc, rfl⟩))
    have hRight := hAgree.sample_eq (hNext (next + c) (mem_frame.mp ⟨c, hc, rfl⟩))
    rw [← Nat.add_assoc] at hLeft hRight
    show (sample before (base + source + c) + sample before (base + next + c)).tdiv 2 =
      (sample after (base + source + c) + sample after (base + next + c)).tdiv 2
    rw [hLeft, hRight]
  simp only [mem_frame] at hAll
  exact hAll

/-- The reads so far stay in the list. -/
theorem mem_reads_of_mem {remaining frame nFrame : Nat} {drop : Int} {reads : List Nat}
    {result : Dropped} (hRun : tracedDropFrames base channels mod remaining frame nFrame drop reads
      memory = some result) {i : Nat} (hi : i ∈ reads) : i ∈ result.reads := by
  induction remaining generalizing frame nFrame drop reads memory with
  | zero =>
      obtain rfl := Option.some.inj hRun
      exact hi
  | succ remaining ih =>
      unfold tracedDropFrames at hRun
      dsimp only at hRun
      split_ifs at hRun
      · exact ih hRun (List.mem_append_left _ (List.mem_append_left _ hi))
      · exact ih hRun (List.mem_append_left _ hi)

/-- The loop goes the same way in any memory that holds the same samples at the indices that it
reads, and it leaves the same samples in the frames that it keeps. -/
theorem tracedDropFrames_loads {remaining frame nFrame : Nat} {drop : Int} {reads : List Nat}
    {result : Dropped} (hRun : tracedDropFrames base channels mod remaining frame nFrame drop reads
      memory = some result) (hReads : ∀ i ∈ result.reads, i ∈ indices)
    (hAgree : AgreeOn base indices memory memory') :
    ∃ result', tracedDropFrames base channels mod remaining frame nFrame drop reads memory' =
        some result' ∧ result'.nFrame = result.nFrame ∧ result'.reads = result.reads ∧
      AgreeOn base (indices ∪ {i | nFrame * channels ≤ i ∧ i < result.nFrame * channels})
        result.memory result'.memory := by
  induction remaining generalizing frame nFrame drop reads memory memory' indices with
  | zero =>
      obtain rfl := Option.some.inj hRun
      refine ⟨_, rfl, rfl, rfl, hAgree.mono ?_⟩
      rintro i (hi | ⟨hFrom, hTo⟩)
      · exact hi
      · exact absurd hTo (not_lt.mpr hFrom)
  | succ remaining ih =>
      unfold tracedDropFrames at hRun ⊢
      dsimp only at hRun ⊢
      split_ifs at hRun ⊢
      · have hLoaded (i : Nat) (hi : i ∈ reads ++ List.range' (frame * channels) channels ++
            List.range' (frame * channels + channels) channels) : i ∈ indices :=
          hReads i (mem_reads_of_mem hRun hi)
        have hNext := hAgree.averageFrame (nFrame * channels)
          (fun i hi => hLoaded i (List.mem_append_left _ (List.mem_append_right _ hi)))
          (fun i hi => hLoaded i (List.mem_append_right _ hi))
        obtain ⟨result', hRun', hCount, hSame, hEnd⟩ :=
          ih hRun (fun i hi => Or.inl (hReads i hi)) hNext
        refine ⟨result', hRun', hCount, hSame, hEnd.mono ?_⟩
        exact Set.union_subset_union_left _ Set.subset_union_left
      · have hLoaded (i : Nat) (hi : i ∈ reads ++ List.range' (frame * channels) channels) :
            i ∈ indices := hReads i (mem_reads_of_mem hRun hi)
        have hNext := hAgree.copyFrame (nFrame * channels)
          (fun i hi => hLoaded i (List.mem_append_right _ hi))
        obtain ⟨result', hRun', hCount, hSame, hEnd⟩ :=
          ih hRun (fun i hi => Or.inl (hReads i hi)) hNext
        refine ⟨result', hRun', hCount, hSame, hEnd.mono ?_⟩
        have hFrame : (nFrame + 1) * channels = nFrame * channels + channels := Nat.succ_mul ..
        rintro i (hi | ⟨hFrom, hTo⟩)
        · exact Or.inl (Or.inl hi)
        · rcases Nat.lt_or_ge i ((nFrame + 1) * channels) with hHere | hLater
          · exact Or.inl (Or.inr (List.mem_range'_1.mpr ⟨hFrom, hFrame ▸ hHere⟩))
          · exact Or.inr ⟨hLater, hTo⟩

end Loads

section Frames

variable {base channels : Nat} {memory : Pointer}

theorem frameAt_length (index : Nat) : (frameAt base channels memory index).length = 2 * channels :=
  Pointer.bytes_length _ _

/-- The memory holds its own frames. -/
theorem holds_frames (base channels : Nat) (memory : Pointer) (first count : Nat) :
    Holds memory (2 * (base + first * channels))
      ((List.range' first count).map (frameAt base channels memory)).flatten := by
  induction count generalizing first with
  | zero => exact holds_nil _ _
  | succ count ih =>
      have hNext : (first + 1) * channels = first * channels + channels := Nat.succ_mul ..
      have hAddress : 2 * (base + (first + 1) * channels) =
          2 * (base + first * channels) + 2 * channels := by omega
      rw [List.range'_succ, List.map_cons, List.flatten_cons, holds_append, frameAt_length,
        ← hAddress]
      refine ⟨?_, ih (first + 1)⟩
      unfold Holds
      rw [frameAt_length]
      rfl

/-- Frames that the memory holds are those at their indices. -/
theorem frames_of_holds {frames : List Frame} (hLengths : ∀ f ∈ frames, f.length = 2 * channels)
    (first : Nat) (hHolds : Holds memory (2 * (base + first * channels)) frames.flatten) :
    (List.range' first frames.length).map (frameAt base channels memory) = frames := by
  induction frames generalizing first with
  | nil => rfl
  | cons frame frames ih =>
      have hFrame : frame.length = 2 * channels := hLengths frame List.mem_cons_self
      have hNext : (first + 1) * channels = first * channels + channels := Nat.succ_mul ..
      have hAddress : 2 * (base + first * channels) + 2 * channels =
          2 * (base + (first + 1) * channels) := by omega
      rw [List.flatten_cons, holds_append, hFrame, hAddress] at hHolds
      rw [List.length_cons, List.range'_succ, List.map_cons,
        ih (fun f hf => hLengths f (List.mem_cons_of_mem frame hf)) (first + 1) hHolds.2]
      congr 1
      have hFirst := hHolds.1
      unfold Holds at hFirst
      rw [hFrame] at hFirst
      exact hFirst

end Frames

section Removed

variable {mod drop : Nat}

theorem mem_removed {index : Nat} : index ∈ removed mod drop ↔ ∃ k < drop, k * mod = index := by
  simp [removed]

theorem droppedBefore_zero (hMod : 0 < mod) : droppedBefore mod drop 0 = 0 := by
  rw [droppedBefore, Nat.div_eq_of_lt (by omega), Nat.min_zero]

/-- At a multiple as many frames have been dropped as there are multiples before it. -/
theorem droppedBefore_mul (hMod : 0 < mod) (k : Nat) : droppedBefore mod drop (k * mod) =
    min drop k := by
  rw [droppedBefore, Nat.mul_comm, Nat.add_sub_assoc hMod, Nat.mul_add_div hMod,
    Nat.div_eq_of_lt (by omega), Nat.add_zero]

theorem droppedBefore_add (hMod : 0 < mod) (k : Nat) {rest : Nat} (hPos : 0 < rest)
    (hLe : rest ≤ mod) : droppedBefore mod drop (k * mod + rest) = min drop (k + 1) := by
  have hSum : k * mod + rest + mod - 1 = mod * (k + 1) + (rest - 1) := by
    rw [Nat.mul_comm k, Nat.mul_succ]
    omega
  rw [droppedBefore, hSum, Nat.mul_add_div hMod, Nat.div_eq_of_lt (by omega), Nat.add_zero]

/-- The test of the loop: a frame is left to drop, and the index is a multiple. -/
theorem mem_removed_iff (hMod : 0 < mod) (index : Nat) :
    index ∈ removed mod drop ↔ droppedBefore mod drop index < drop ∧ index % mod = 0 := by
  rw [mem_removed]
  constructor
  · rintro ⟨k, hk, rfl⟩
    rw [droppedBefore_mul hMod]
    exact ⟨by omega, Nat.mul_mod_left k mod⟩
  · rintro ⟨hLess, hZero⟩
    have hMultiple : index / mod * mod = index := Nat.div_mul_cancel (Nat.dvd_of_mod_eq_zero hZero)
    rw [← hMultiple, droppedBefore_mul hMod] at hLess
    exact ⟨index / mod, by omega, hMultiple⟩

theorem dropTest_iff (hMod : 0 < mod) (index : Nat) :
    0 < (drop - droppedBefore mod drop index : Int) ∧ (index : Int).tmod mod = 0 ↔
      index ∈ removed mod drop := by
  rw [mem_removed_iff hMod, ← Int.ofNat_tmod]
  omega

theorem droppedBefore_succ (hMod : 0 < mod) (index : Nat) : droppedBefore mod drop (index + 1) =
    droppedBefore mod drop index + if index ∈ removed mod drop then 1 else 0 := by
  obtain ⟨hSplit, hRest⟩ : index / mod * mod + index % mod = index ∧ index % mod < mod :=
    ⟨Nat.div_add_mod' index mod, Nat.mod_lt index hMod⟩
  simp only [mem_removed_iff hMod]
  generalize index / mod = k at hSplit
  generalize index % mod = rest at *
  have hNext : index + 1 = k * mod + (rest + 1) := by omega
  rw [hNext, droppedBefore_add hMod k (Nat.succ_pos rest) hRest, ← hSplit]
  rcases Nat.eq_zero_or_pos rest with rfl | hPos
  · simp only [Nat.add_zero, droppedBefore_mul hMod, and_true]
    split_ifs <;> omega
  · rw [droppedBefore_add hMod k hPos hRest.le, if_neg (by omega)]
    omega

/-- What is kept and what is dropped make up all frames. -/
theorem length_kept (hMod : 0 < mod) (index count : Nat) :
    ((List.range' index count).filter (· ∉ removed mod drop)).length +
      droppedBefore mod drop (index + count) = count + droppedBefore mod drop index := by
  induction count generalizing index with
  | zero => simp
  | succ count ih =>
      have hLater := ih (index + 1)
      have hEnd : index + 1 + count = index + (count + 1) := by omega
      rw [hEnd, droppedBefore_succ hMod] at hLater
      rw [List.range'_succ, List.filter_cons]
      split_ifs at hLater with hRemoved
      · simp only [hRemoved, not_true_eq_false, decide_false, Bool.false_eq_true, if_false]
        omega
      · simp only [hRemoved, not_false_eq_true, decide_true, if_true, List.length_cons]
        omega

/-- The list of frames that the loop keeps, by their indices. -/
theorem keptFrames_range' (hMod : 0 < mod) (frame : Nat → Frame) (index count : Nat) :
    keptFrames mod ((List.range' index count).map frame) index
        (drop - droppedBefore mod drop index) =
      ((List.range' index count).filter (· ∉ removed mod drop)).map frame := by
  induction count generalizing index with
  | zero => rfl
  | succ count ih =>
      have hLater := ih (index + 1)
      rw [droppedBefore_succ hMod] at hLater
      rw [List.range'_succ, List.map_cons, keptFrames, List.filter_cons]
      simp only [dropTest_iff hMod]
      by_cases hRemoved : index ∈ removed mod drop
      · rw [if_pos hRemoved] at hLater ⊢
        rw [if_neg (by simpa using hRemoved), ← hLater]
        congr 1
        push_cast
        ring
      · rw [if_neg hRemoved] at hLater ⊢
        simp only [Nat.add_zero] at hLater
        rw [if_pos (by simpa using hRemoved), List.map_cons, ← hLater]

end Removed

section Loop

variable (base : Nat) {channels mod drop total : Nat}

/-- The loop counts the frames that it keeps, and reads no further than the frame behind one that
it drops. -/
theorem tracedDropFrames_spec (hMod : 0 < mod) (hInside : ∀ i ∈ removed mod drop, i + 1 < total) :
    ∀ (remaining frame nFrame : Nat) (reads : List Nat) (memory : Pointer),
      frame + remaining = total → (∀ i ∈ reads, i < total * channels) →
      ∃ result, tracedDropFrames base channels mod remaining frame nFrame
          (drop - droppedBefore mod drop frame) reads memory = some result ∧
        result.nFrame =
          nFrame + ((List.range' frame remaining).filter (· ∉ removed mod drop)).length ∧
        ∀ i ∈ result.reads, i < total * channels := by
  intro remaining
  induction remaining with
  | zero =>
      intro frame nFrame reads memory hEnd hReads
      exact ⟨_, rfl, rfl, hReads⟩
  | succ remaining ih =>
      intro frame nFrame reads memory hEnd hReads
      have hFrame (index : Nat) (hIndex : index < total) :
          ∀ i ∈ List.range' (index * channels) channels, i < total * channels := by
        intro i hi
        have hLast := Nat.mul_le_mul_right channels (Nat.succ_le_of_lt hIndex)
        rw [Nat.succ_mul] at hLast
        have hBound := (List.mem_range'_1.mp hi).2
        omega
      have hNonzero : (mod : Int) ≠ 0 := by omega
      have hNow := hFrame frame (by omega)
      unfold tracedDropFrames
      dsimp only
      rw [if_neg fun hTrap => hNonzero hTrap.2]
      simp only [dropTest_iff hMod]
      rw [List.range'_succ, List.filter_cons]
      by_cases hRemoved : frame ∈ removed mod drop
      · have hNext := hFrame (frame + 1) (hInside frame hRemoved)
        rw [Nat.succ_mul] at hNext
        have hDropped : (drop : Int) - droppedBefore mod drop frame - 1 =
            drop - droppedBefore mod drop (frame + 1) := by
          rw [droppedBefore_succ hMod, if_pos hRemoved]
          push_cast
          ring
        rw [if_pos hRemoved, if_neg (by simpa using hRemoved), hDropped]
        apply ih _ _ _ _ (by omega)
        exact List.forall_mem_append.mpr ⟨List.forall_mem_append.mpr ⟨hReads, hNow⟩, hNext⟩
      · have hSame : droppedBefore mod drop (frame + 1) = droppedBefore mod drop frame := by
          rw [droppedBefore_succ hMod, if_neg hRemoved, Nat.add_zero]
        rw [if_neg hRemoved, if_pos (by simpa using hRemoved), ← hSame, List.length_cons,
          ← Nat.add_assoc, Nat.add_right_comm nFrame _ 1]
        apply ih _ _ _ _ (by omega)
        exact List.forall_mem_append.mpr ⟨hReads, hNow⟩

end Loop

section Front

variable {base channels mod drop total : Nat} {memory result : Pointer}

/-- The frames at the front of the buffer when the loop has ended. -/
theorem dropFrames_front (hMod : 0 < mod)
    (hRun : dropFrames base channels mod total 0 0 drop memory = some result) :
    (List.range ((List.range total).filter (· ∉ removed mod drop)).length).map
        (frameAt base channels result) =
      ((List.range total).filter (· ∉ removed mod drop)).map (frameAt base channels memory) := by
  have hFrames := holds_frames base channels memory 0 total
  have hLength : ((List.range' 0 total).map (frameAt base channels memory)).length = total := by
    rw [List.length_map, List.length_range']
  have hLengths (indices : List Nat) : ∀ f ∈ indices.map (frameAt base channels memory),
      f.length = 2 * channels :=
    List.forall_mem_map.mpr fun index _ => frameAt_length index
  have hEmpty : ([] : List Frame).flatten.length = 2 * (0 * channels) := by
    rw [Nat.zero_mul]
    rfl
  have hDrop : (drop : Int) = drop - droppedBefore mod drop 0 := by
    rw [droppedBefore_zero hMod, Nat.cast_zero, sub_zero]
  have hStart : 2 * base = 2 * (base + 0 * channels) := by omega
  rw [← hLength] at hRun
  have hHolds := dropFrames_holds (hLengths _) hEmpty (Nat.le_refl 0) (holds_nil memory _) hFrames
    hRun
  rw [hDrop, keptFrames_range' hMod, List.nil_append, hStart] at hHolds
  have hFront := frames_of_holds (hLengths _) 0 hHolds
  rw [List.length_map] at hFront
  rw [List.range_eq_range', List.range_eq_range']
  exact hFront

end Front

section Dropper

variable {G d : Nat}

/-- Every multiple that is removed has a frame behind it. -/
theorem removed_inside (hG : 1 ≤ G) : ∀ i ∈ removed ((G + d) / d) d, i + 1 < G + d := by
  intro i hi
  obtain ⟨k, hk, rfl⟩ := mem_removed.mp hi
  have hPos : 0 < (G + d) / d := Nat.div_pos (by omega) (by omega)
  have hAll : (G + d) / d * d ≤ G + d := Nat.div_mul_le_self _ _
  generalize (G + d) / d = mod at *
  have hLast : (k + 1) * mod ≤ d * mod := Nat.mul_le_mul_right mod hk
  rw [Nat.succ_mul, Nat.mul_comm d] at hLast
  rcases Nat.lt_or_ge 1 mod with hMore | hOne
  · omega
  · obtain rfl : mod = 1 := by omega
    rw [Nat.mul_one]
    omega

/-- All of them are before the end. -/
theorem droppedBefore_end (hd : 1 ≤ d) : droppedBefore ((G + d) / d) d (G + d) = d := by
  have hPos : 0 < (G + d) / d := Nat.div_pos (by omega) hd
  have hAll : (G + d) / d * d ≤ G + d := Nat.div_mul_le_self _ _
  have hMultiples : d ≤ (G + d + (G + d) / d - 1) / ((G + d) / d) := by
    rw [Nat.le_div_iff_mul_le hPos, Nat.mul_comm]
    omega
  exact Nat.min_eq_left hMultiples

/-- As many frames are kept as are played. -/
theorem length_played (hd : 1 ≤ d) :
    ((List.range (G + d)).filter (· ∉ removed ((G + d) / d) d)).length = G := by
  have hMod : 0 < (G + d) / d := Nat.div_pos (by omega) hd
  have hBoth : ((List.range' 0 (G + d)).filter (· ∉ removed ((G + d) / d) d)).length +
      droppedBefore ((G + d) / d) d (0 + (G + d)) = G + d + droppedBefore ((G + d) / d) d 0 :=
    length_kept hMod 0 (G + d)
  rw [Nat.zero_add, droppedBefore_end hd, droppedBefore_zero hMod, ← List.range_eq_range'] at hBoth
  omega

/-- The frame-dropping loop on a buffer of `d` frames more than the `G` that are played: it counts
`G` frames, leaves at the front all those whose index is none of the first `d` multiples, and reads
no sample behind the buffer. -/
theorem frameDropper_exact (hG : 1 ≤ G) (hd : 1 ≤ d) (base channels : Nat) (memory : Pointer) :
    ∃ result, tracedDropFrames base channels (((G + d : Nat) : Int).tdiv d) (G + d) 0 0 d [] memory =
        some result ∧
      result.nFrame = G ∧
      (List.range G).map (frameAt base channels result.memory) =
        ((List.range (G + d)).filter (· ∉ removed ((G + d) / d) d)).map
          (frameAt base channels memory) ∧
      ∀ i ∈ result.reads, i < (G + d) * channels := by
  have hMod : 0 < (G + d) / d := Nat.div_pos (by omega) hd
  have hStart : (d : Int) - droppedBefore ((G + d) / d) d 0 = d := by
    rw [droppedBefore_zero hMod, Nat.cast_zero, sub_zero]
  have hSpec := tracedDropFrames_spec base hMod (removed_inside hG) (G + d) 0 0 [] memory
    (Nat.zero_add _) (List.forall_mem_nil (· < (G + d) * channels))
  rw [hStart, ← List.range_eq_range', length_played hd, Nat.zero_add] at hSpec
  obtain ⟨result, hRun, hCount, hReads⟩ := hSpec
  have hMemory : dropFrames base channels ((G + d) / d : Nat) (G + d) 0 0 d memory =
      some result.memory := by
    rw [← dropped_memory (G + d) 0 0 d [] memory, hRun, Option.map_some]
  have hFront := dropFrames_front hMod hMemory
  rw [length_played hd] at hFront
  exact ⟨result, hRun, hCount, hFront, hReads⟩

/-- Of seven frames the ones at 0 and 3 are removed. -/
theorem frameDropper_exact_seven :
    ∃ result, tracedDropFrames 0 2 (((5 + 2 : Nat) : Int).tdiv (2 : Nat)) (5 + 2) 0 0 (2 : Nat) []
        (fun address => address) = some result ∧
      result.nFrame = 5 ∧
      (List.range 5).map (frameAt 0 2 result.memory) =
        ((List.range (5 + 2)).filter (· ∉ removed ((5 + 2) / 2) 2)).map
          (frameAt 0 2 fun address => address) ∧
      ∀ i ∈ result.reads, i < (5 + 2) * 2 :=
  frameDropper_exact (by decide) (by decide) 0 2 fun address => address

/-- The callback: of the frames that it has read beyond a buffer the ones at the front are those
that the loop keeps. The division is an `int` as long as they fit into `MAX_BUFFER_SIZE`. -/
theorem squeeze_front {abi : Abi} {player squeezed : State} {bufPtr : Nat} (hd : 1 ≤ d)
    (hChannels : 1 ≤ player.currentNumChannels)
    (hSize : (G + d) * (player.currentNumChannels * 2) ≤ MAX_BUFFER_SIZE)
    (hSqueeze : player.squeeze abi bufPtr (G + d) d = some squeezed) :
    (List.range G).map (frameAt bufPtr player.currentNumChannels squeezed.tempBuffers) =
      ((List.range (G + d)).filter (· ∉ removed ((G + d) / d) d)).map
        (frameAt bufPtr player.currentNumChannels player.tempBuffers) := by
  obtain ⟨-, memory, hRun, rfl⟩ := squeeze_eq_some hSqueeze
  have hFrames : G + d ≤ (G + d) * (player.currentNumChannels * 2) :=
    Nat.le_mul_of_pos_right _ (by omega)
  have hLess := Nat.div_le_self (G + d) d
  unfold MAX_BUFFER_SIZE at hSize
  have hExact : toSigned 32 (((G + d : Nat) : Int).tdiv d) = ((G + d) / d : Nat) := by
    rw [← Int.ofNat_tdiv, toSigned_eq_self (by decide)]
    generalize (G + d) / d = mod at hLess
    exact ⟨by omega, by omega⟩
  rw [hExact] at hRun
  have hFront := dropFrames_front (Nat.div_pos (by omega) hd) hRun
  rw [length_played hd] at hFront
  exact hFront

end Dropper

end State

end AudioSync.Player
