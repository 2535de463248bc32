import Mathlib.Data.List.Basic
import Mathlib.Tactic.Ring

/-! Records of one size that lie one after the other in a byte string, and lists that are cut
into parts of a limited length. -/
namespace Records

variable {α β : Type*}

/-- The record at an offset. -/
def recordAt (decode : List β → α) (size offset : Nat) (data : List β) : α :=
  decode ((data.drop offset).take size)

/-- The first records from an offset on. -/
def recordsAt (decode : List β → α) (size offset count : Nat) (data : List β) : List α :=
  (List.range count).map fun i => recordAt decode size (offset + size * i) data

/-- The record that was written at an offset is read there. -/
theorem recordAt_append {decode : List β → α} {size offset : Nat} {before record after : List β}
    (hBefore : before.length = offset) (hSize : record.length = size) :
    recordAt decode size offset (before ++ (record ++ after)) = decode record := by
  subst hBefore hSize
  rw [recordAt, List.drop_left, List.take_left]

/-- The records that were written are the records that are read. -/
theorem recordsAt_flatMap {decode : List β → α} {encode : α → List β} {size : Nat}
    (hSize : ∀ x, (encode x).length = size) (hDecode : ∀ x, decode (encode x) = x)
    {offset : Nat} {before after : List β} (hBefore : before.length = offset) (xs : List α) :
    recordsAt decode size offset xs.length (before ++ (xs.flatMap encode ++ after)) = xs := by
  induction xs generalizing offset before with
  | nil => rfl
  | cons x xs ih =>
      have hNext : recordsAt decode size (offset + size) xs.length
          ((before ++ encode x) ++ (xs.flatMap encode ++ after)) = xs :=
        ih (by rw [List.length_append, hBefore, hSize])
      have hShift (i : Nat) : offset + size * (i + 1) = offset + size + size * i := by ring
      rw [List.append_assoc] at hNext
      rw [recordsAt, List.length_cons, List.range_succ_eq_map, List.map_cons, List.map_map,
        List.flatMap_cons, List.append_assoc]
      refine congrArg₂ List.cons ?_ ?_
      · rw [Nat.mul_zero, Nat.add_zero, recordAt_append hBefore (hSize x), hDecode]
      · refine Eq.trans ?_ hNext
        simp only [recordsAt, Function.comp_def, hShift]

theorem flatMap_length {encode : α → List β} {size : Nat} (hSize : ∀ x, (encode x).length = size)
    (xs : List α) : (xs.flatMap encode).length = size * xs.length := by
  induction xs with
  | nil => rfl
  | cons x xs ih =>
      rw [List.flatMap_cons, List.length_append, hSize, ih, List.length_cons]
      ring

section Parts

/-- A list cut into parts of `limit` elements, all but the last one full; there is at least one
part. The first argument bounds their number. -/
def parts (limit : Nat) : Nat → List α → List (List α)
  | 0, _ => []
  | fuel + 1, xs =>
      xs.take limit ::
        if xs.drop limit = [] then [] else parts limit fuel (xs.drop limit)

variable {limit : Nat}

theorem flatten_parts (hLimit : 0 < limit) {fuel : Nat} {xs : List α} (hFuel : xs.length < fuel) :
    (parts limit fuel xs).flatten = xs := by
  induction fuel generalizing xs with
  | zero => omega
  | succ fuel ih =>
      rw [parts, List.flatten_cons]
      split_ifs with hDone
      · rw [List.flatten_nil, List.append_nil, List.take_of_length_le]
        exact List.drop_eq_nil_iff.mp hDone
      · have hLonger : limit < xs.length := by
          by_contra hShort
          exact hDone (List.drop_eq_nil_iff.mpr (not_lt.mp hShort))
        rw [ih (by rw [List.length_drop]; omega), List.take_append_drop]

theorem length_le_of_mem_parts {fuel : Nat} {xs part : List α}
    (hMem : part ∈ parts limit fuel xs) : part.length ≤ limit := by
  induction fuel generalizing xs with
  | zero => cases hMem
  | succ fuel ih =>
      rw [parts, List.mem_cons] at hMem
      rcases hMem with rfl | hMem
      · exact List.length_take_le _ _
      · split_ifs at hMem
        · cases hMem
        · exact ih hMem

/-- The number of parts, as it is counted beforehand. -/
theorem length_parts (hLimit : 0 < limit) {fuel : Nat} {xs : List α} (hFuel : xs.length < fuel)
    (hSome : xs ≠ []) : (parts limit fuel xs).length = (xs.length + limit - 1) / limit := by
  induction fuel generalizing xs with
  | zero => omega
  | succ fuel ih =>
      have hPos : 0 < xs.length := List.length_pos_iff.mpr hSome
      rw [parts, List.length_cons]
      split_ifs with hDone
      · have hShort := List.drop_eq_nil_iff.mp hDone
        rw [List.length_nil, eq_comm, Nat.div_eq_iff hLimit]
        omega
      · have hLonger : limit < xs.length := by
          by_contra hShort
          exact hDone (List.drop_eq_nil_iff.mpr (not_lt.mp hShort))
        have hSplit : xs.length + limit - 1 = (xs.length - limit + limit - 1) + limit := by omega
        rw [ih (by rw [List.length_drop]; omega) hDone, List.length_drop, hSplit,
          Nat.add_div_right _ hLimit]

/-- The sizes of parts that each have something of their own besides their elements. -/
theorem sum_map_flatten (extra : Nat) (size : α → Nat) (xss : List (List α)) :
    (xss.map fun xs => extra + (xs.map size).sum).sum =
      extra * xss.length + (xss.flatten.map size).sum := by
  induction xss with
  | nil => rfl
  | cons xs xss ih =>
      rw [List.map_cons, List.sum_cons, ih, List.flatten_cons, List.map_append, List.sum_append,
        List.length_cons]
      ring

end Parts

end Records
