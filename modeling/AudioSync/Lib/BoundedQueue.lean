import Mathlib.Data.List.Basic

/-! A bounded first-in first-out queue with partial transfers: a write accepts
what fits, a read returns what is there. -/

/-- A queue that never holds more than its capacity. -/
structure BoundedQueue (α : Type*) where
  capacity : Nat
  contents : List α
  fits : contents.length ≤ capacity

namespace BoundedQueue

variable {α : Type*}

/-- An empty queue of the given capacity. -/
def empty (capacity : Nat) : BoundedQueue α := ⟨capacity, [], Nat.zero_le _⟩

/-- How many elements the queue holds. -/
def fill (q : BoundedQueue α) : Nat := q.contents.length

/-- How many more elements the queue accepts. -/
def free (q : BoundedQueue α) : Nat := q.capacity - q.contents.length

/-- Append as many of the offered elements as fit, and say how many these are. -/
def write (q : BoundedQueue α) (offered : List α) : BoundedQueue α × Nat :=
  (⟨q.capacity, q.contents ++ offered.take q.free, by
      have := q.fits
      simp only [List.length_append, List.length_take, free]
      omega⟩,
    min q.free offered.length)

/-- Remove up to `count` elements from the front. -/
def read (q : BoundedQueue α) (count : Nat) : BoundedQueue α × List α :=
  (⟨q.capacity, q.contents.drop count, by
      have := q.fits
      simp only [List.length_drop]
      omega⟩,
    q.contents.take count)

@[simp]
theorem write_capacity (q : BoundedQueue α) (offered : List α) :
    (q.write offered).1.capacity = q.capacity := rfl

theorem write_contents (q : BoundedQueue α) (offered : List α) :
    (q.write offered).1.contents = q.contents ++ offered.take q.free := rfl

/-- A write with enough room keeps every offered element. -/
theorem write_contents_of_room {q : BoundedQueue α} {offered : List α}
    (hRoom : offered.length ≤ q.free) :
    (q.write offered).1.contents = q.contents ++ offered := by
  rw [write_contents, List.take_of_length_le hRoom]

/-- A read moves elements from the queue to the reader and loses none. -/
theorem read_append_contents (q : BoundedQueue α) (count : Nat) :
    (q.read count).2 ++ (q.read count).1.contents = q.contents :=
  List.take_append_drop count q.contents

/-- One read after the other, and all that they return. -/
def readAll (q : BoundedQueue α) : List Nat → BoundedQueue α × List α
  | [] => (q, [])
  | count :: counts =>
      let later := readAll (q.read count).1 counts
      (later.1, (q.read count).2 ++ later.2)

@[simp]
theorem read_length (q : BoundedQueue α) (count : Nat) :
    (q.read count).2.length = min count q.fill := by
  simp [read, fill]

@[simp]
theorem read_fill (q : BoundedQueue α) (count : Nat) :
    (q.read count).1.fill = q.fill - count := by
  simp [read, fill]

end BoundedQueue
