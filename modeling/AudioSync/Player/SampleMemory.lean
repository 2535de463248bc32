import AudioSync.Player.Callback

/-! Two memories that hold the same bytes from two addresses on, and what the
callback does to the samples there. -/
namespace AudioSync.Player

/-- The `count` bytes from the two addresses on are the same. -/
def SameBytes (count : Nat) (memory : Pointer) (address : Nat) (memory' : Pointer)
    (address' : Nat) : Prop :=
  ∀ i < count, memory (address + i) = memory' (address' + i)

section Bytes

variable {count address address' : Nat} {memory memory' : Pointer}

theorem SameBytes.mono {fewer : Nat} (hSame : SameBytes count memory address memory' address')
    (hFewer : fewer ≤ count) : SameBytes fewer memory address memory' address' :=
  fun i hi => hSame i (Nat.lt_of_lt_of_le hi hFewer)

theorem SameBytes.bytes_eq (hSame : SameBytes count memory address memory' address') :
    (memory.add address).bytes count = (memory'.add address').bytes count := by
  apply List.map_congr_left
  intro i hi
  exact hSame i (List.mem_range.mp hi)

theorem store_apply (memory : Pointer) (address offset i : Nat) (block : List Byte) :
    store memory (address + offset) block (address + i) =
      if offset ≤ i then (block[i - offset]?).getD (memory (address + i))
      else memory (address + i) := by
  have hIndex : address + i - (address + offset) = i - offset := Nat.add_sub_add_left ..
  simp [store, hIndex]

/-- A block that has just been stored is the same wherever it lies. -/
theorem sameBytes_store (memory memory' : Pointer) (address address' : Nat) (block : List Byte) :
    SameBytes block.length (store memory address block) address
      (store memory' address' block) address' := by
  intro i hi
  have hLeft := store_apply memory address 0 i block
  have hRight := store_apply memory' address' 0 i block
  rw [Nat.add_zero, if_pos (Nat.zero_le i), Nat.sub_zero, List.getElem?_eq_getElem hi] at hLeft
  rw [Nat.add_zero, if_pos (Nat.zero_le i), Nat.sub_zero, List.getElem?_eq_getElem hi] at hRight
  rw [hLeft, hRight]
  rfl

theorem SameBytes.store (hSame : SameBytes count memory address memory' address') (offset : Nat)
    (block : List Byte) :
    SameBytes count (store memory (address + offset) block) address
      (Player.store memory' (address' + offset) block) address' := by
  intro i hi
  rw [store_apply, store_apply, hSame i hi]

/-- What is stored behind the bytes does not matter. -/
theorem SameBytes.store_behind (hSame : SameBytes count memory address memory' address')
    {offset : Nat} (hBehind : count ≤ offset) (block block' : List Byte) :
    SameBytes count (Player.store memory (address + offset) block) address
      (Player.store memory' (address' + offset) block') address' := by
  intro i hi
  have hBefore : ¬ offset ≤ i := by omega
  rw [store_apply, store_apply, if_neg hBefore, if_neg hBefore, hSame i hi]

end Bytes

/-- The same for 16 bit samples. -/
def SameSamples (count : Nat) (memory : Pointer) (base : Nat) (memory' : Pointer)
    (base' : Nat) : Prop :=
  SameBytes (2 * count) memory (2 * base) memory' (2 * base')

section Samples

variable {count base base' : Nat} {memory memory' : Pointer}

theorem SameSamples.sample_eq (hSame : SameSamples count memory base memory' base') {i : Nat}
    (hi : i < count) : sample memory (base + i) = sample memory' (base' + i) := by
  have hLow := hSame (2 * i) (by omega)
  have hHigh := hSame (2 * i + 1) (by omega)
  rw [← Nat.mul_add, ← Nat.mul_add] at hLow
  rw [← Nat.add_assoc, ← Nat.add_assoc, ← Nat.mul_add, ← Nat.mul_add] at hHigh
  rw [sample, sample, hLow, hHigh]

theorem SameSamples.setSample (hSame : SameSamples count memory base memory' base') (i : Nat)
    (value : Int) :
    SameSamples count (Player.setSample memory (base + i) value) base
      (Player.setSample memory' (base' + i) value) base' := by
  unfold Player.setSample
  rw [Nat.mul_add, Nat.mul_add]
  exact hSame.store (2 * i) _

theorem SameSamples.setSample_behind (hSame : SameSamples count memory base memory' base') {i : Nat}
    (hBehind : count ≤ i) (value value' : Int) :
    SameSamples count (Player.setSample memory (base + i) value) base
      (Player.setSample memory' (base' + i) value') base' := by
  unfold Player.setSample
  rw [Nat.mul_add, Nat.mul_add]
  exact hSame.store_behind (by omega) _ _

end Samples

section Frames

variable {count base base' channels : Nat} {memory memory' : Pointer}

/-- A loop over the channels of a frame that keeps the samples the same. -/
theorem SameSamples.foldl {f f' : Pointer → Nat → Pointer} {channels : List Nat}
    (hStep : ∀ c ∈ channels, ∀ memory memory', SameSamples count memory base memory' base' →
      SameSamples count (f memory c) base (f' memory' c) base')
    (hSame : SameSamples count memory base memory' base') :
    SameSamples count (channels.foldl f memory) base (channels.foldl f' memory') base' := by
  induction channels generalizing memory memory' with
  | nil => exact hSame
  | cons c rest ih =>
      apply ih
      · intro c' hc'
        exact hStep c' (List.mem_cons_of_mem c hc')
      · exact hStep c (List.mem_cons_self ..) memory memory' hSame

theorem SameSamples.copyFrame (hSame : SameSamples count memory base memory' base')
    (target : Nat) {source : Nat} (hSource : source + channels ≤ count) :
    SameSamples count (State.copyFrame channels (base + target) (base + source) memory) base
      (State.copyFrame channels (base' + target) (base' + source) memory') base' := by
  refine hSame.foldl fun c hc memory memory' hNow => ?_
  have hChannel := List.mem_range.mp hc
  rw [Nat.add_assoc, Nat.add_assoc, Nat.add_assoc, Nat.add_assoc,
    hNow.sample_eq (by omega : source + c < count)]
  exact hNow.setSample (target + c) _

theorem SameSamples.averageFrame (hSame : SameSamples count memory base memory' base')
    (target : Nat) {source next : Nat} (hSource : source + channels ≤ count)
    (hNext : next + channels ≤ count) :
    SameSamples count (State.averageFrame channels (base + target) (base + source) (base + next) memory)
      base (State.averageFrame channels (base' + target) (base' + source) (base' + next) memory')
      base' := by
  refine hSame.foldl fun c hc memory memory' hNow => ?_
  have hChannel := List.mem_range.mp hc
  rw [Nat.add_assoc, Nat.add_assoc, Nat.add_assoc, Nat.add_assoc, Nat.add_assoc, Nat.add_assoc,
    hNow.sample_eq (by omega : source + c < count), hNow.sample_eq (by omega : next + c < count)]
  exact hNow.setSample (target + c) _

/-- A frame that is stored behind the samples may be any. -/
theorem SameSamples.averageFrame_behind (hSame : SameSamples count memory base memory' base')
    {target : Nat} (hBehind : count ≤ target) (source next source' next' : Nat) :
    SameSamples count (State.averageFrame channels (base + target) source next memory) base
      (State.averageFrame channels (base' + target) source' next' memory') base' := by
  refine hSame.foldl fun c hc memory memory' hNow => ?_
  rw [Nat.add_assoc, Nat.add_assoc]
  exact hNow.setSample_behind (by omega) _ _

/-- The frame-dropping loop on the same frames, with `kept` frames left in the end. It reads
one frame too many only when it drops the last one, which is not kept. -/
theorem dropFrames_same (mod : Int) {total kept : Nat} (hKept : kept ≤ total) (remaining : Nat) :
    ∀ {frame nFrame : Nat} {drop : Int} {memory memory' : Pointer}, frame + remaining = total →
      nFrame ≤ frame → (0 < drop → (kept + frame : Int) + drop ≤ total + nFrame) →
      SameSamples (total * channels) memory base memory' base' →
      (State.dropFrames base channels mod remaining frame nFrame drop memory = none ∧
        State.dropFrames base' channels mod remaining frame nFrame drop memory' = none) ∨
      ∃ result result',
        State.dropFrames base channels mod remaining frame nFrame drop memory = some result ∧
        State.dropFrames base' channels mod remaining frame nFrame drop memory' = some result' ∧
        SameSamples (kept * channels) result base result' base' := by
  induction remaining with
  | zero =>
      intro frame nFrame drop memory memory' hFrame hBehind hDrops hSame
      exact Or.inr ⟨memory, memory', rfl, rfl,
        SameBytes.mono hSame (Nat.mul_le_mul_left 2 (Nat.mul_le_mul_right channels hKept))⟩
  | succ remaining ih =>
      intro frame nFrame drop memory memory' hFrame hBehind hDrops hSame
      have hSource : frame * channels + channels ≤ total * channels := by
        rw [← Nat.succ_mul]
        exact Nat.mul_le_mul_right channels (by omega)
      unfold State.dropFrames
      dsimp only
      split_ifs with hZero hDrop
      · exact Or.inl ⟨rfl, rfl⟩
      · obtain ⟨hMore, -⟩ := hDrop
        have hLeft := hDrops hMore
        cases remaining with
        | zero =>
            refine Or.inr ⟨_, _, rfl, rfl, ?_⟩
            apply SameSamples.averageFrame_behind
            · exact SameBytes.mono hSame
                (Nat.mul_le_mul_left 2 (Nat.mul_le_mul_right channels hKept))
            · exact Nat.mul_le_mul_right channels (by omega)
        | succ remaining =>
            apply ih (by omega) (by omega)
            · intro _
              push_cast
              omega
            · rw [Nat.add_assoc, Nat.add_assoc]
              apply SameSamples.averageFrame hSame _ hSource
              rw [← Nat.succ_mul, ← Nat.succ_mul]
              exact Nat.mul_le_mul_right channels (by omega)
      · apply ih (by omega) (by omega)
        · intro hMore
          have hLeft := hDrops hMore
          push_cast
          omega
        · exact SameSamples.copyFrame hSame _ hSource

end Frames

end AudioSync.Player
