import Mathlib.Data.List.Nodup

/-! Lists whose elements carry their own keys: they are found by their keys, changed where they
stand, and added at the end. -/
namespace KeyedList

variable {κ α : Type*} [DecidableEq κ] (key : α → κ)

/-- The element with a key. -/
def find (k : κ) (xs : List α) : Option α := xs.find? fun x => decide (key x = k)

/-- The list with an element in the place of the one that has its key. -/
def replace (x : α) (xs : List α) : List α := xs.map fun y => if key y = key x then x else y

variable {key} {k : κ} {x y : α} {xs : List α}

theorem find_cons (x : α) (xs : List α) :
    find key k (x :: xs) = if key x = k then some x else find key k xs := by
  simp only [find, List.find?_cons]
  by_cases hKey : key x = k
  · simp [hKey]
  · simp [hKey]

theorem replace_cons (x y : α) (xs : List α) : replace key x (y :: xs) =
    (if key y = key x then x else y) :: replace key x xs := rfl

theorem find_eq_none : find key k xs = none ↔ ∀ x ∈ xs, key x ≠ k := by
  simp [find]

/-- Nothing is put in where no element has the key. -/
theorem replace_of_find_none (hNone : find key (key x) xs = none) : replace key x xs = xs := by
  refine (List.map_congr_left fun y hMem => ?_).trans (List.map_id xs)
  exact if_neg (find_eq_none.mp hNone y hMem)

theorem key_of_find (h : find key k xs = some x) : key x = k := by
  simpa using List.find?_some h

theorem mem_of_find (h : find key k xs = some x) : x ∈ xs := List.mem_of_find?_eq_some h

/-- Where the keys differ, each element is found by its key. -/
theorem find_eq_some (hNodup : (xs.map key).Nodup) :
    find key k xs = some x ↔ x ∈ xs ∧ key x = k := by
  constructor
  · exact fun h => ⟨mem_of_find h, key_of_find h⟩
  · rintro ⟨hMem, rfl⟩
    induction xs with
    | nil => cases hMem
    | cons y ys ih =>
        rw [List.map_cons, List.nodup_cons] at hNodup
        rcases List.mem_cons.mp hMem with rfl | hLater
        · simp [find]
        · have hOther : key y ≠ key x := fun hSame =>
            hNodup.1 (hSame ▸ List.mem_map_of_mem hLater)
          rw [find, List.find?_cons_of_neg (by simpa using hOther)]
          exact ih hNodup.2 hLater

/-- What is added under a new key is found; the others are as before. -/
theorem find_append (hNone : find key (key x) xs = none) :
    find key k (xs ++ [x]) = if key x = k then some x else find key k xs := by
  have hOr : find key k (xs ++ [x]) = (find key k xs).or (find key k [x]) := List.find?_append
  rw [hOr, find_cons]
  by_cases hKey : key x = k
  · rw [if_pos hKey, if_pos hKey, ← hKey, hNone, Option.none_or]
  · rw [if_neg hKey, if_neg hKey]
    exact Option.or_none

/-- A new key keeps the keys different. -/
theorem nodup_append (hNodup : (xs.map key).Nodup) (hNone : find key (key x) xs = none) :
    ((xs ++ [x]).map key).Nodup := by
  rw [List.map_append, List.map_singleton]
  refine hNodup.append (List.nodup_singleton _) ?_
  simpa [List.disjoint_singleton] using find_eq_none.mp hNone

theorem map_key_replace (x : α) (xs : List α) : (replace key x xs).map key = xs.map key := by
  rw [replace, List.map_map]
  refine List.map_congr_left fun y _ => ?_
  by_cases hSame : key y = key x
  · rw [Function.comp_apply, if_pos hSame, hSame]
  · rw [Function.comp_apply, if_neg hSame]

theorem length_replace (x : α) (xs : List α) : (replace key x xs).length = xs.length :=
  List.length_map ..

/-- The element that was put in is found; the others are as before. -/
theorem find_replace (hSome : find key (key x) xs = some y) :
    find key k (replace key x xs) = if key x = k then some x else find key k xs := by
  induction xs generalizing y with
  | nil => cases hSome
  | cons z zs ih =>
      rw [find_cons] at hSome
      rw [replace_cons, find_cons, find_cons]
      by_cases hHere : key z = key x
      · rw [if_pos hHere, hHere]
        by_cases hKey : key x = k
        · rw [if_pos hKey, if_pos hKey]
        · rw [if_neg hKey, if_neg hKey, if_neg hKey]
          cases hLater : find key (key x) zs with
          | none => rw [replace_of_find_none hLater]
          | some later =>
              rw [ih hLater, if_neg hKey]
      · rw [if_neg hHere] at hSome
        rw [if_neg hHere, ih hSome]
        by_cases hKey : key z = k
        · rw [if_pos hKey, if_pos hKey, if_neg fun hBoth => hHere (hKey.trans hBoth.symm)]
        · rw [if_neg hKey, if_neg hKey]

theorem countP_cons_toNat (p : α → Bool) (x : α) (xs : List α) :
    (x :: xs).countP p = xs.countP p + (p x).toNat := by
  rw [List.countP_cons]
  cases p x <;> rfl

/-- What a change of one element does to the number of those that have a property. -/
theorem countP_replace (hNodup : (xs.map key).Nodup) (hSome : find key (key x) xs = some y)
    (p : α → Bool) :
    (replace key x xs).countP p + (p y).toNat = xs.countP p + (p x).toNat := by
  induction xs with
  | nil => cases hSome
  | cons z zs ih =>
      rw [List.map_cons, List.nodup_cons] at hNodup
      rw [find_cons] at hSome
      rw [replace_cons, countP_cons_toNat, countP_cons_toNat]
      by_cases hHere : key z = key x
      · rw [if_pos hHere] at hSome
        obtain rfl := Option.some.inj hSome
        have hNone : find key (key x) zs = none := find_eq_none.mpr fun w hMem hSame =>
          hNodup.1 (hHere ▸ hSame ▸ List.mem_map_of_mem hMem)
        rw [if_pos hHere, replace_of_find_none hNone]
        omega
      · rw [if_neg hHere] at hSome
        rw [if_neg hHere]
        have hLater := ih hNodup.2 hSome
        omega

/-- What is left without the element that has a key, counted. -/
theorem countP_filter_ne (hNodup : (xs.map key).Nodup) (hSome : find key k xs = some y)
    (p : α → Bool) :
    (xs.filter fun x => key x ≠ k).countP p + (p y).toNat = xs.countP p := by
  induction xs with
  | nil => cases hSome
  | cons z zs ih =>
      rw [List.map_cons, List.nodup_cons] at hNodup
      rw [find_cons] at hSome
      by_cases hHere : key z = k
      · rw [if_pos hHere] at hSome
        obtain rfl := Option.some.inj hSome
        have hOthers : zs.filter (fun x => key x ≠ k) = zs :=
          List.filter_eq_self.mpr fun w hMem => decide_eq_true fun hSame =>
            hNodup.1 (hHere ▸ hSame ▸ List.mem_map_of_mem hMem)
        rw [List.filter_cons_of_neg (by simpa using hHere), hOthers, countP_cons_toNat]
      · rw [if_neg hHere] at hSome
        have hLater := ih hNodup.2 hSome
        rw [List.filter_cons_of_pos (by simpa using hHere), countP_cons_toNat,
          countP_cons_toNat]
        omega

omit [DecidableEq κ] in
/-- Elements that are changed or left out keep the order of the keys. -/
theorem map_key_filterMap_sublist {change : α → Option α}
    (hKey : ∀ x, ∀ y ∈ change x, key y = key x) (xs : List α) :
    ((xs.filterMap change).map key).Sublist (xs.map key) := by
  induction xs with
  | nil => exact List.Sublist.refl _
  | cons x xs ih =>
      cases hChange : change x with
      | none =>
          rw [List.filterMap_cons_none hChange]
          exact ih.cons _
      | some y =>
          rw [List.filterMap_cons_some hChange, List.map_cons, List.map_cons, hKey x y hChange]
          exact ih.cons_cons _

/-- What is found where elements were left out by their keys. -/
theorem find_filter (keep : κ → Bool) (xs : List α) :
    find key k (xs.filter fun x => keep (key x)) = if keep k then find key k xs else none := by
  induction xs with
  | nil => exact (ite_self none).symm
  | cons x xs ih =>
      rw [List.filter_cons, find_cons]
      by_cases hKeep : keep (key x) = true
      · rw [if_pos hKeep, find_cons, ih]
        by_cases hKey : key x = k
        · rw [if_pos hKey, if_pos hKey, if_pos (hKey ▸ hKeep)]
        · rw [if_neg hKey, if_neg hKey]
      · rw [if_neg hKeep, ih]
        by_cases hKey : key x = k
        · rw [if_neg (hKey ▸ hKeep), if_neg (hKey ▸ hKeep)]
        · rw [if_neg hKey]

/-- What is found where elements were changed or left out, and their keys differ. -/
theorem find_filterMap {change : α → Option α} (hKey : ∀ x, ∀ y ∈ change x, key y = key x)
    (hNodup : (xs.map key).Nodup) :
    find key k (xs.filterMap change) = (find key k xs).bind change := by
  induction xs with
  | nil => rfl
  | cons x xs ih =>
      rw [List.map_cons, List.nodup_cons] at hNodup
      have hLater := ih hNodup.2
      rw [find_cons]
      cases hChange : change x with
      | none =>
          rw [List.filterMap_cons_none hChange, hLater]
          by_cases hHere : key x = k
          · have hNone : find key k xs = none := find_eq_none.mpr fun y hMem hSame =>
              hNodup.1 (hHere ▸ hSame ▸ List.mem_map_of_mem hMem)
            rw [if_pos hHere, hNone, Option.bind_some, hChange]
            rfl
          · rw [if_neg hHere]
      | some y =>
          rw [List.filterMap_cons_some hChange, find_cons, hKey x y hChange]
          by_cases hHere : key x = k
          · rw [if_pos hHere, if_pos hHere, Option.bind_some, hChange]
          · rw [if_neg hHere, if_neg hHere, hLater]

end KeyedList
