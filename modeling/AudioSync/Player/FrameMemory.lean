import AudioSync.Player.SampleMemory

/-! What the memory holds after the stores of the callback, and what they leave alone: the
frame-dropping loop moves the frames it keeps to the front. -/
namespace AudioSync.Player

/-- The memory holds these bytes from the address on. -/
def Holds (memory : Pointer) (address : Nat) (block : List Byte) : Prop :=
  (memory.add address).bytes block.length = block

/-- The memory is the same before an address and from another one on. -/
def SameOutside (first last : Nat) (memory memory' : Pointer) : Prop :=
  ∀ i, i < first ∨ last ≤ i → memory' i = memory i

section Bytes

variable {memory memory' : Pointer} {address first last : Nat} {block : List Byte}

theorem holds_iff : Holds memory address block ↔
    ∀ i (hi : i < block.length), memory (address + i) = block[i] := by
  unfold Holds
  rw [List.ext_getElem_iff]
  simp [Pointer.add]

theorem holds_append {front : List Byte} : Holds memory address (front ++ block) ↔
    Holds memory address front ∧ Holds memory (address + front.length) block := by
  simp only [holds_iff, List.length_append]
  constructor
  · intro hBoth
    constructor
    · intro i hi
      have hFront := hBoth i (by omega)
      rwa [List.getElem_append_left hi] at hFront
    · intro i hi
      have hBack := hBoth (front.length + i) (by omega)
      rw [List.getElem_append_right (by omega)] at hBack
      simpa [Nat.add_assoc] using hBack
  · rintro ⟨hFront, hBack⟩ i hi
    rcases Nat.lt_or_ge i front.length with hLess | hMore
    · rw [List.getElem_append_left hLess]
      exact hFront i hLess
    · rw [List.getElem_append_right hMore, ← hBack _ (by omega)]
      congr 1
      omega

/-- What is enqueued of a block that the memory holds. -/
theorem Holds.bytes_eq (hHolds : Holds memory address block) {count : Nat}
    (hCount : count ≤ block.length) : (memory.add address).bytes count = block.take count := by
  apply List.ext_getElem
  · simp [hCount]
  · intro i hi hi'
    rw [Pointer.bytes_getElem, List.getElem_take]
    exact holds_iff.mp hHolds i (by simp at hi; omega)

theorem SameOutside.holds (hSame : SameOutside first last memory memory')
    (hHolds : Holds memory address block)
    (hApart : address + block.length ≤ first ∨ last ≤ address) : Holds memory' address block := by
  rw [holds_iff] at *
  intro i hi
  rw [hSame _ (by omega)]
  exact hHolds i hi

theorem SameOutside.refl (first last : Nat) (memory : Pointer) :
    SameOutside first last memory memory := fun _ _ => rfl

theorem SameOutside.trans {memory'' : Pointer} (left : SameOutside first last memory memory')
    (right : SameOutside first last memory' memory'') : SameOutside first last memory memory'' :=
  fun i hi => (right i hi).trans (left i hi)

theorem SameOutside.mono (hSame : SameOutside first last memory memory') {first' last' : Nat}
    (hFirst : first' ≤ first) (hLast : last ≤ last') : SameOutside first' last' memory memory' :=
  fun i hi => hSame i (by omega)

theorem holds_store (memory : Pointer) (address : Nat) (block : List Byte) :
    Holds (store memory address block) address block := by
  rw [holds_iff]
  intro i hi
  have hByte := store_apply memory address 0 i block
  rw [Nat.add_zero, if_pos (Nat.zero_le i), Nat.sub_zero, List.getElem?_eq_getElem hi] at hByte
  exact hByte

theorem store_nil (memory : Pointer) (address : Nat) : store memory address [] = memory := by
  funext i
  unfold store
  exact ite_self _

theorem sameOutside_store (memory : Pointer) (address : Nat) (block : List Byte) :
    SameOutside address (address + block.length) memory (store memory address block) := by
  intro i hi
  unfold store
  split_ifs with hReached
  · rw [List.getElem?_eq_none (by omega)]
    rfl
  · rfl

end Bytes

section Samples

variable {memory memory' : Pointer}

theorem sameOutside_setSample (memory : Pointer) (index : Nat) (value : Int) :
    SameOutside (2 * index) (2 * (index + 1)) memory (setSample memory index value) := by
  unfold setSample
  exact sameOutside_store memory (2 * index) [_, _]

/-- A sample that is copied is copied byte by byte. -/
theorem setSample_sample (memory memory' : Pointer) (target source : Nat) :
    setSample memory target (sample memory' source) =
      store memory (2 * target) [memory' (2 * source), memory' (2 * source + 1)] := by
  have hLow : (memory' (2 * source + 1) ++ memory' (2 * source)).setWidth 8 =
      memory' (2 * source) := by
    apply BitVec.eq_of_getLsbD_eq
    intro i hi
    rw [BitVec.getLsbD_setWidth, BitVec.getLsbD_append]
    simp [hi]
  have hHigh : ((memory' (2 * source + 1) ++ memory' (2 * source)) >>> 8).setWidth 8 =
      memory' (2 * source + 1) := by
    apply BitVec.eq_of_getLsbD_eq
    intro i hi
    rw [BitVec.getLsbD_setWidth, BitVec.getLsbD_ushiftRight, BitVec.getLsbD_append]
    simp [hi]
  unfold setSample sample
  rw [BitVec.ofInt_toInt]
  dsimp only
  rw [hLow, hHigh]

/-- A loop over the channels of a frame that stores one sample for each. -/
theorem sameOutside_foldl {f : Pointer → Nat → Pointer} {target : Nat}
    (hStep : ∀ memory c, SameOutside (2 * (target + c)) (2 * (target + c + 1)) memory (f memory c))
    (channels : Nat) (memory : Pointer) :
    SameOutside (2 * target) (2 * (target + channels)) memory
      ((List.range channels).foldl f memory) := by
  induction channels with
  | zero => exact SameOutside.refl _ _ memory
  | succ channels ih =>
      rw [List.range_succ, List.foldl_append]
      exact (ih.mono (Nat.le_refl _) (by omega)).trans
        ((hStep _ channels).mono (by omega) (by omega))

end Samples

namespace State

section Frames

variable {memory : Pointer} {channels target source : Nat}

theorem sameOutside_copyFrame (channels target source : Nat) (memory : Pointer) :
    SameOutside (2 * target) (2 * (target + channels)) memory
      (copyFrame channels target source memory) :=
  sameOutside_foldl (fun memory c => sameOutside_setSample memory (target + c) _) channels memory

theorem sameOutside_averageFrame (channels target source next : Nat) (memory : Pointer) :
    SameOutside (2 * target) (2 * (target + channels)) memory
      (averageFrame channels target source next memory) :=
  sameOutside_foldl (fun memory c => sameOutside_setSample memory (target + c) _) channels memory

/-- To the front, or onto itself, a frame is copied as it is. -/
theorem copyFrame_holds {frame : Frame} (hOrder : target ≤ source)
    (hLength : frame.length = 2 * channels) (hHolds : Holds memory (2 * source) frame) :
    Holds (copyFrame channels target source memory) (2 * target) frame := by
  have hCopied (count : Nat) : ∀ i < 2 * count,
      copyFrame count target source memory (2 * target + i) = memory (2 * source + i) := by
    induction count with
    | zero =>
        intro i hi
        omega
    | succ count ih =>
        intro i hi
        have hBefore := sameOutside_copyFrame count target source memory
        have hStep : copyFrame (count + 1) target source memory =
            setSample (copyFrame count target source memory) (target + count)
              (sample (copyFrame count target source memory) (source + count)) := by
          unfold copyFrame
          rw [List.range_succ, List.foldl_append]
          rfl
        rw [hStep, setSample_sample, hBefore _ (by omega), hBefore _ (by omega)]
        rcases Nat.lt_or_ge i (2 * count) with hLess | hMore
        · rw [sameOutside_store _ _ _ _ (by omega)]
          exact ih i hLess
        · have hSample := holds_iff.mp (holds_store (copyFrame count target source memory)
            (2 * (target + count)) [memory (2 * (source + count)),
              memory (2 * (source + count) + 1)]) (i - 2 * count) (by simp; omega)
          have hAddress : 2 * (target + count) + (i - 2 * count) = 2 * target + i := by omega
          rw [hAddress] at hSample
          rw [hSample]
          obtain rfl | rfl : i = 2 * count ∨ i = 2 * count + 1 := by omega
          · simp [Nat.mul_add]
          · simp [Nat.mul_add, Nat.add_assoc]
  rw [holds_iff] at *
  intro i hi
  rw [hCopied channels i (by omega)]
  exact hHolds i hi

end Frames

/-- The frames that the frame-dropping loop keeps. -/
def keptFrames (mod : Int) : List Frame → Nat → Int → List Frame
  | [], _, _ => []
  | frame :: frames, index, drop =>
      if 0 < drop ∧ (index : Int).tmod mod = 0 then keptFrames mod frames (index + 1) (drop - 1)
      else frame :: keptFrames mod frames (index + 1) drop

section Kept

variable {mod : Int}

theorem keptFrames_sublist (mod : Int) (frames : List Frame) (index : Nat) (drop : Int) :
    (keptFrames mod frames index drop).Sublist frames := by
  induction frames generalizing index drop with
  | nil => exact List.Sublist.refl []
  | cons frame frames ih =>
      unfold keptFrames
      split_ifs
      · exact (ih _ _).cons frame
      · exact (ih _ _).cons_cons frame

/-- No more frames are dropped than there are to drop. -/
theorem length_le_keptFrames (mod : Int) (frames : List Frame) (index : Nat) (drop : Int) :
    frames.length ≤ (keptFrames mod frames index drop).length + drop.toNat := by
  induction frames generalizing index drop with
  | nil => exact Nat.zero_le _
  | cons frame frames ih =>
      unfold keptFrames
      split_ifs with hDrop
      · have hRest := ih (index + 1) (drop - 1)
        rw [List.length_cons]
        omega
      · have hRest := ih (index + 1) drop
        rw [List.length_cons, List.length_cons]
        omega

/-- Nothing to drop: every frame is kept. -/
theorem keptFrames_of_nonpos {drop : Int} (hNone : drop ≤ 0) (frames : List Frame) (index : Nat) :
    keptFrames mod frames index drop = frames := by
  induction frames generalizing index with
  | nil => rfl
  | cons frame frames ih =>
      rw [keptFrames, if_neg (by omega), ih]

variable {base channels : Nat}

/-- The loop over frames that the memory holds: behind those it has kept before, it leaves the
ones it keeps. A mean that it stores there is overwritten by the next frame. -/
theorem dropFrames_holds {frames : List Frame} :
    ∀ {kept : List Frame} {frame nFrame : Nat} {drop : Int} {memory result : Pointer},
      (∀ f ∈ frames, f.length = 2 * channels) → kept.flatten.length = 2 * (nFrame * channels) →
      nFrame ≤ frame → Holds memory (2 * base) kept.flatten →
      Holds memory (2 * (base + frame * channels)) frames.flatten →
      dropFrames base channels mod frames.length frame nFrame drop memory = some result →
      Holds result (2 * base) (kept ++ keptFrames mod frames frame drop).flatten := by
  induction frames with
  | nil =>
      intro kept frame nFrame drop memory result hLengths hKept hBehind hHead hTail hRun
      cases hRun
      rw [keptFrames, List.append_nil]
      exact hHead
  | cons first frames ih =>
      intro kept frame nFrame drop memory result hLengths hKept hBehind hHead hTail hRun
      have hFirst : first.length = 2 * channels := hLengths first (List.mem_cons_self ..)
      have hRest : ∀ f ∈ frames, f.length = 2 * channels :=
        fun f hf => hLengths f (List.mem_cons_of_mem first hf)
      have hOrder : nFrame * channels ≤ frame * channels := Nat.mul_le_mul_right channels hBehind
      have hNext : (frame + 1) * channels = frame * channels + channels := Nat.succ_mul ..
      rw [List.flatten_cons, holds_append, hFirst] at hTail
      have hAddress : 2 * (base + frame * channels) + 2 * channels =
          2 * (base + (frame + 1) * channels) := by omega
      rw [hAddress] at hTail
      rw [List.length_cons] at hRun
      unfold dropFrames at hRun
      dsimp only at hRun
      unfold keptFrames
      split_ifs at hRun with hZero hDrop
      · rw [if_pos hDrop]
        have hSame := sameOutside_averageFrame channels (base + nFrame * channels)
          (base + frame * channels) (base + frame * channels + channels) memory
        apply ih hRest hKept (by omega) _ _ hRun
        · exact hSame.holds hHead (by omega)
        · exact hSame.holds hTail.2 (by omega)
      · rw [if_neg hDrop]
        have hSame := sameOutside_copyFrame channels (base + nFrame * channels)
          (base + frame * channels) memory
        have hMoved : (kept ++ [first]).flatten = kept.flatten ++ first := by simp
        have hLength : (kept ++ [first]).flatten.length = 2 * ((nFrame + 1) * channels) := by
          rw [hMoved, List.length_append, hKept, hFirst, Nat.succ_mul nFrame]
          omega
        have hNow : Holds (copyFrame channels (base + nFrame * channels)
            (base + frame * channels) memory) (2 * base) (kept ++ [first]).flatten := by
          have hTarget : 2 * base + kept.flatten.length = 2 * (base + nFrame * channels) := by
            omega
          rw [hMoved, holds_append, hTarget]
          exact ⟨hSame.holds hHead (by omega), copyFrame_holds (by omega) hFirst hTail.1⟩
        have hAll := ih hRest hLength (by omega) hNow (hSame.holds hTail.2 (by omega)) hRun
        rw [List.append_assoc] at hAll
        exact hAll

/-- The loop stays within the frames it visits. -/
theorem sameOutside_dropFrames {remaining : Nat} :
    ∀ {frame nFrame : Nat} {drop : Int} {memory result : Pointer}, nFrame ≤ frame →
      dropFrames base channels mod remaining frame nFrame drop memory = some result →
      SameOutside (2 * base) (2 * (base + (frame + remaining) * channels)) memory result := by
  induction remaining with
  | zero =>
      intro frame nFrame drop memory result hBehind hRun
      cases hRun
      exact SameOutside.refl _ _ memory
  | succ remaining ih =>
      intro frame nFrame drop memory result hBehind hRun
      have hStored : nFrame * channels + channels ≤ (frame + (remaining + 1)) * channels := by
        rw [← Nat.succ_mul]
        exact Nat.mul_le_mul_right channels (by omega)
      have hEnd : frame + 1 + remaining = frame + (remaining + 1) := by omega
      unfold dropFrames at hRun
      dsimp only at hRun
      split_ifs at hRun with hZero hDrop
      · have hLater := ih (by omega) hRun
        rw [hEnd] at hLater
        exact ((sameOutside_averageFrame _ _ _ _ _).mono (by omega) (by omega)).trans hLater
      · have hLater := ih (by omega) hRun
        rw [hEnd] at hLater
        exact ((sameOutside_copyFrame _ _ _ _).mono (by omega) (by omega)).trans hLater

end Kept

end State

end AudioSync.Player
