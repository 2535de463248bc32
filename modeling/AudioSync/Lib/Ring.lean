import Mathlib.Data.List.Basic

/-! Arrays used as rings. The elements of an endless sequence are numbered, and
element `m` lies in slot `m % size`. -/
namespace Ring

variable {α : Type*} {size : Nat} {cells : Nat → α}

/-- Store a block into consecutive slots. -/
def blit (cells : Nat → α) (start : Nat) (block : List α) : Nat → α :=
  fun slot => if start ≤ slot then (block[slot - start]?).getD (cells slot) else cells slot

/-- The elements from number `front` on. -/
def window (size : Nat) (cells : Nat → α) (front count : Nat) : List α :=
  (List.range count).map fun i => cells ((front + i) % size)

/-- Store a block from number `rear` on: up to the last slot, and the rest from the
first slot on. -/
def store (size : Nat) (cells : Nat → α) (rear : Nat) (block : List α) : Nat → α :=
  let part := min (size - rear % size) block.length
  blit (blit cells (rear % size) (block.take part)) 0 (block.drop part)

/-- Fetch elements from number `front` on, in the same two parts. -/
def fetch (size : Nat) (cells : Nat → α) (front count : Nat) : List α :=
  let part := min (size - front % size) count
  (List.range part).map (fun i => cells (front % size + i)) ++
    (List.range (count - part)).map cells

@[simp]
theorem window_length (front count : Nat) : (window size cells front count).length = count := by
  simp [window]

@[simp]
theorem window_zero (front : Nat) : window size cells front 0 = [] := rfl

theorem window_getElem? (front count i : Nat) :
    (window size cells front count)[i]? =
      if i < count then some (cells ((front + i) % size)) else none := by
  by_cases h : i < count <;> simp [window, h]

/-- The last element of a window, and the first one. -/
theorem window_succ (front count : Nat) :
    window size cells front (count + 1) =
      window size cells front count ++ [cells ((front + count) % size)] := by
  simp [window, List.range_succ]

theorem window_succ_eq_cons (front count : Nat) :
    window size cells front (count + 1) =
      cells (front % size) :: window size cells (front + 1) count := by
  simp [window, List.range_succ_eq_map, Function.comp_def, Nat.add_assoc, Nat.add_comm 1]

/-- Two windows, one behind the other. -/
theorem window_add (front m n : Nat) :
    window size cells front (m + n) =
      window size cells front m ++ window size cells (front + m) n := by
  simp [window, List.range_add, Function.comp_def, Nat.add_assoc]

/-- A window starts in a slot. -/
theorem window_mod (front count : Nat) :
    window size cells (front % size) count = window size cells front count := by
  simp [window]

/-- A window depends on the slots that it shows. -/
theorem window_congr {cells' : Nat → α} {front count : Nat}
    (hSame : ∀ i < count, cells' ((front + i) % size) = cells ((front + i) % size)) :
    window size cells' front count = window size cells front count := by
  rw [window, window]
  exact List.map_congr_left fun i hi => hSame i (List.mem_range.mp hi)

/-- Within one turn around the ring a slot number wraps at most once. -/
theorem add_mod_of_le {front i : Nat} (hSize : 0 < size) (hTurn : i ≤ size) :
    (front + i) % size =
      if front % size + i < size then front % size + i else front % size + i - size := by
  have hSlot := Nat.mod_lt front hSize
  rw [← Nat.mod_add_mod]
  split_ifs with hWraps
  · exact Nat.mod_eq_of_lt hWraps
  · rw [Nat.mod_eq_sub_mod (by omega)]
    exact Nat.mod_eq_of_lt (by omega)

/-- Within one turn no two elements lie in the same slot. -/
theorem mod_ne_of_lt {i j : Nat} (hLt : i < j) (hTurn : j < i + size) : i % size ≠ j % size := by
  intro hSame
  have hSub : (j - i) % size = 0 := Nat.sub_mod_eq_zero_of_mod_eq hSame.symm
  rw [Nat.mod_eq_of_lt (by omega)] at hSub
  omega

/-- Storing one element that lies within a turn from the window's first element and behind its
last one. -/
theorem window_update {front count rear : Nat} {x : α}
    (hBehind : front + count ≤ rear) (hTurn : rear < front + size) :
    window size (Function.update cells (rear % size) x) front count =
      window size cells front count :=
  window_congr fun i hi => Function.update_of_ne (mod_ne_of_lt (by omega) (by omega)) ..

/-- And the number of turns grows by one where the slot number wraps. -/
theorem add_div_of_le {front i : Nat} (hSize : 0 < size) (hTurn : i ≤ size) :
    (front + i) / size =
      if front % size + i < size then front / size else front / size + 1 := by
  have hSlot := Nat.mod_lt front hSize
  have hSplit : front + i = (front % size + i) + front / size * size := by
    have := Nat.mod_add_div' front size
    omega
  rw [hSplit, Nat.add_mul_div_right _ _ hSize]
  split_ifs with hWraps
  · rw [Nat.div_eq_of_lt hWraps, Nat.zero_add]
  · rw [show (front % size + i) / size = 1 from Nat.div_eq_of_lt_le (by omega) (by omega),
      Nat.add_comm]

theorem fetch_eq_window (hSize : 0 < size) {front count : Nat} (hCount : count ≤ size) :
    fetch size cells front count = window size cells front count := by
  apply List.ext_getElem
  · simp only [fetch, window_length, List.length_append, List.length_map, List.length_range]
    omega
  · intro i hFetch hWindow
    rw [window_length] at hWindow
    have hSlot := Nat.mod_lt front hSize
    simp only [fetch, window, List.getElem_append, List.length_map, List.length_range,
      List.getElem_map, List.getElem_range,
      add_mod_of_le hSize (Nat.le_trans (Nat.le_of_lt hWindow) hCount)]
    split_ifs
    · rfl
    · omega
    · omega
    · exact congrArg cells (by omega)

/-- Taking and dropping elements moves the ends of the window. -/
theorem window_take (front count n : Nat) :
    (window size cells front count).take n = window size cells front (min n count) := by
  simp only [window, ← List.map_take, List.take_range]

theorem window_drop (front count n : Nat) :
    (window size cells front count).drop n = window size cells (front + n) (count - n) := by
  apply List.ext_getElem?
  intro i
  rw [List.getElem?_drop, window_getElem?, window_getElem?, Nat.add_assoc]
  exact if_congr (by omega) rfl rfl

/-- What a store leaves within one turn from `rear` on: the block, and behind it what
was there before. -/
theorem store_apply (hSize : 0 < size) {rear j : Nat} {block : List α}
    (hBlock : block.length ≤ size) (hTurn : j < size) :
    store size cells rear block ((rear + j) % size) =
      (block[j]?).getD (cells ((rear + j) % size)) := by
  have hSlot := Nat.mod_lt rear hSize
  rw [add_mod_of_le hSize (Nat.le_of_lt hTurn)]
  simp only [store, blit, Nat.zero_le, if_true, Nat.sub_zero, List.getElem?_drop,
    List.getElem?_take]
  by_cases hWraps : rear % size + j < size
  · rw [if_pos hWraps]
    -- The second part of the block ends before the slot.
    have hBehind : block.length ≤
        min (size - rear % size) block.length + (rear % size + j) := by omega
    rw [List.getElem?_eq_none hBehind, Option.getD_none, if_pos (Nat.le_add_right _ _),
      Nat.add_sub_cancel_left]
    by_cases hInside : j < block.length
    · rw [if_pos (by omega)]
    · rw [if_neg (by omega), List.getElem?_eq_none (Nat.le_of_not_lt hInside)]
  · rw [if_neg hWraps, if_neg (by omega)]
    by_cases hInside : j < block.length
    · have hIndex : min (size - rear % size) block.length + (rear % size + j - size) = j := by omega
      rw [hIndex]
    · rw [List.getElem?_eq_none (Nat.le_of_not_lt hInside), List.getElem?_eq_none (by omega)]

/-- A store behind the last element extends the window. -/
theorem window_store (hSize : 0 < size) {front rear : Nat} {block : List α}
    (hOrder : front ≤ rear) (hRoom : rear + block.length ≤ front + size) :
    window size (store size cells rear block) front (rear + block.length - front) =
      window size cells front (rear - front) ++ block := by
  apply List.ext_getElem?
  intro i
  rw [window_getElem?, List.getElem?_append, window_length, window_getElem?]
  by_cases hInside : i < rear + block.length - front
  · rw [if_pos hInside]
    by_cases hOld : i < rear - front
    · -- One turn later the slot is the one behind the block.
      have hTurn : (front + i) % size = (rear + (front + i + size - rear)) % size := by
        rw [show rear + (front + i + size - rear) = front + i + size by omega, Nat.add_mod_right]
      rw [if_pos hOld, if_pos hOld, hTurn, store_apply hSize (by omega) (by omega),
        List.getElem?_eq_none (by omega), Option.getD_none]
    · have hNew : front + i = rear + (i - (rear - front)) := by omega
      have hLt : i - (rear - front) < block.length := by omega
      rw [if_neg hOld, hNew, store_apply hSize (by omega) (by omega),
        List.getElem?_eq_getElem hLt, Option.getD_some]
  · rw [if_neg hInside, if_neg (by omega), List.getElem?_eq_none (by omega)]

end Ring
