import AudioSync.Lib.Transition
import Mathlib.Data.Finset.Basic

/-! A buffer that puts in order what arrives out of order: it holds every number that has arrived
once, and the least one is taken first. When it is full the least one may be replaced. -/
namespace ReorderBuffer

open Transition

variable {κ : Type*}

inductive Event (κ : Type*)
  | arrive (k : κ)
  | replace (least k : κ)
  | take (k : κ)
  deriving DecidableEq

/-- What has arrived, in the order of its arrival. -/
def arrived : List (Event κ) → List κ
  | [] => []
  | .arrive k :: events => k :: arrived events
  | .replace _ k :: events => k :: arrived events
  | .take _ :: events => arrived events

/-- What has been taken, in this order. -/
def taken : List (Event κ) → List κ
  | [] => []
  | .take k :: events => k :: taken events
  | _ :: events => taken events

/-- What has been replaced. -/
def replaced : List (Event κ) → List κ
  | [] => []
  | .replace least _ :: events => least :: replaced events
  | _ :: events => replaced events

theorem arrived_append (events later : List (Event κ)) :
    arrived (events ++ later) = arrived events ++ arrived later := by
  induction events with
  | nil => rfl
  | cons event events ih => cases event <;> simp [arrived, ih]

theorem taken_append (events later : List (Event κ)) :
    taken (events ++ later) = taken events ++ taken later := by
  induction events with
  | nil => rfl
  | cons event events ih => cases event <;> simp [taken, ih]

variable [LinearOrder κ]

/-- The first number that the buffer gives away. -/
def Least (held : Finset κ) (k : κ) : Prop := k ∈ held ∧ ∀ j ∈ held, k ≤ j

instance (held : Finset κ) (k : κ) : Decidable (Least held k) :=
  inferInstanceAs (Decidable (_ ∧ _))

def step (held : Finset κ) : Event κ → Option (Finset κ)
  | .arrive k => some (insert k held)
  | .replace least k => if Least held least then some (insert k (held.erase least)) else none
  | .take k => if Least held k then some (held.erase k) else none

/-- Nothing arrives when a greater number, or the same, has already been taken. -/
def InTime (before : List κ) : List (Event κ) → Prop
  | [] => True
  | .arrive k :: events => (∀ j ∈ before, j < k) ∧ InTime before events
  | .replace _ k :: events => (∀ j ∈ before, j < k) ∧ InTime before events
  | .take k :: events => InTime (before ++ [k]) events

section Runs

variable {held next : Finset κ} {events : List (Event κ)}

/-- Nothing is lost and nothing is made up: what was there or has arrived is still there, has
been taken or was replaced. -/
theorem mem_run_iff (hRun : run step held events = some next) (k : κ) :
    k ∈ next ∨ k ∈ taken events ∨ k ∈ replaced events ↔ k ∈ held ∨ k ∈ arrived events := by
  induction events generalizing held with
  | nil =>
      cases hRun
      simp [taken, replaced, arrived]
  | cons event events ih =>
      obtain ⟨middle, hFirst, hRest⟩ := run_cons_eq_some.mp hRun
      have hLater := ih hRest
      cases event with
      | arrive j =>
          cases hFirst
          simp only [taken, replaced, arrived, List.mem_cons, hLater, Finset.mem_insert]
          tauto
      | replace least j =>
          rw [step] at hFirst
          split at hFirst <;> cases hFirst
          next hLeast =>
            have hHeld := hLeast.1
            by_cases hSame : k = least
            · subst hSame
              simp [replaced, hHeld]
            · simp only [Finset.mem_insert, Finset.mem_erase] at hLater
              simp only [taken, replaced, arrived, List.mem_cons]
              tauto
      | take j =>
          rw [step] at hFirst
          split at hFirst <;> cases hFirst
          next hLeast =>
            have hHeld := hLeast.1
            by_cases hSame : k = j
            · subst hSame
              simp [taken, hHeld]
            · simp only [Finset.mem_erase] at hLater
              simp only [taken, replaced, arrived, List.mem_cons]
              tauto

/-- What arrives in time is taken in order. -/
theorem taken_increasing {before : List κ} (hRun : run step held events = some next)
    (hInTime : InTime before events) (hBefore : before.Pairwise (· < ·))
    (hHeld : ∀ i ∈ before, ∀ j ∈ held, i < j) : (before ++ taken events).Pairwise (· < ·) := by
  induction events generalizing held before with
  | nil => simpa [taken] using hBefore
  | cons event events ih =>
      obtain ⟨middle, hFirst, hRest⟩ := run_cons_eq_some.mp hRun
      cases event with
      | arrive k =>
          cases hFirst
          refine ih hRest hInTime.2 hBefore fun i hi j hj => ?_
          rcases Finset.mem_insert.mp hj with rfl | hj
          · exact hInTime.1 i hi
          · exact hHeld i hi j hj
      | replace least k =>
          rw [step] at hFirst
          split at hFirst <;> cases hFirst
          refine ih hRest hInTime.2 hBefore fun i hi j hj => ?_
          rcases Finset.mem_insert.mp hj with rfl | hj
          · exact hInTime.1 i hi
          · exact hHeld i hi j (Finset.mem_of_mem_erase hj)
      | take k =>
          rw [step] at hFirst
          split at hFirst <;> cases hFirst
          next hLeast =>
            have hNext : (before ++ [k]).Pairwise (· < ·) := by
              refine List.pairwise_append.mpr ⟨hBefore, List.pairwise_singleton _ _, ?_⟩
              intro i hi j hj
              rw [List.mem_singleton.mp hj]
              exact hHeld i hi k hLeast.1
            have hAbove : ∀ i ∈ before ++ [k], ∀ j ∈ held.erase k, i < j := by
              intro i hi j hj
              obtain ⟨hOther, hj⟩ := Finset.mem_erase.mp hj
              rcases List.mem_append.mp hi with hi | hi
              · exact hHeld i hi j hj
              · rw [List.mem_singleton.mp hi]
                exact lt_of_le_of_ne (hLeast.2 j hj) hOther.symm
            have hLater := ih hRest hInTime hNext hAbove
            rwa [List.append_assoc, List.singleton_append] at hLater

end Runs

section Lists

/-! The buffer as a list in strictly increasing order, which is searched from its end. -/

variable {α : Type*} (key : α → κ)

/-- The search for the place of a new element; the list is given backwards. An element whose key
is already there is not put in. -/
def insertBack (x : α) : List α → Option (List α)
  | [] => some [x]
  | p :: before =>
      if key x < key p then (insertBack x before).map (p :: ·)
      else if key p < key x then some (x :: p :: before)
      else none

/-- The keys grow along the list. -/
def Increasing (list : List α) : Prop := list.Pairwise fun a b => key a < key b

/-- What the list holds as a buffer. -/
def keys (list : List α) : Finset κ := (list.map key).toFinset

variable {key} {x : α} {list : List α}

theorem mem_keys {k : κ} : k ∈ keys key list ↔ ∃ y ∈ list, key y = k := by
  simp [keys]

/-- Only a key that is there keeps an element out. -/
theorem key_mem_of_insertBack_eq_none {reversed : List α}
    (hInsert : insertBack key x reversed = none) : ∃ y ∈ reversed, key y = key x := by
  induction reversed with
  | nil => cases hInsert
  | cons p before ih =>
      rw [insertBack] at hInsert
      split_ifs at hInsert with hBelow hAbove
      · obtain ⟨y, hMem, hKey⟩ := ih (Option.map_eq_none_iff.mp hInsert)
        exact ⟨y, List.mem_cons_of_mem p hMem, hKey⟩
      · exact ⟨p, List.mem_cons_self .., le_antisymm (not_lt.mp hBelow) (not_lt.mp hAbove)⟩

theorem mem_of_insertBack {reversed inserted : List α}
    (hInsert : insertBack key x reversed = some inserted) (y : α) :
    y ∈ inserted ↔ y = x ∨ y ∈ reversed := by
  induction reversed generalizing inserted with
  | nil =>
      cases hInsert
      simp
  | cons p before ih =>
      rw [insertBack] at hInsert
      split_ifs at hInsert with hBelow hAbove
      · obtain ⟨rest, hRest, rfl⟩ := Option.map_eq_some_iff.mp hInsert
        simp only [List.mem_cons, ih hRest]
        tauto
      · cases hInsert
        simp only [List.mem_cons]

theorem insertBack_decreasing {reversed inserted : List α}
    (hReversed : reversed.Pairwise fun a b => key b < key a)
    (hInsert : insertBack key x reversed = some inserted) :
    inserted.Pairwise fun a b => key b < key a := by
  induction reversed generalizing inserted with
  | nil =>
      cases hInsert
      exact List.pairwise_singleton _ _
  | cons p before ih =>
      obtain ⟨hFirst, hBefore⟩ := List.pairwise_cons.mp hReversed
      rw [insertBack] at hInsert
      split_ifs at hInsert with hBelow hAbove
      · obtain ⟨rest, hRest, rfl⟩ := Option.map_eq_some_iff.mp hInsert
        refine List.pairwise_cons.mpr ⟨fun y hy => ?_, ih hBefore hRest⟩
        rcases (mem_of_insertBack hRest y).mp hy with rfl | hy
        · exact hBelow
        · exact hFirst y hy
      · cases hInsert
        refine List.pairwise_cons.mpr ⟨fun y hy => ?_, hReversed⟩
        rcases List.mem_cons.mp hy with rfl | hy
        · exact hAbove
        · exact (hFirst y hy).trans hAbove

/-- The list after the search. -/
def insertList (key : α → κ) (x : α) (list : List α) : List α :=
  ((insertBack key x list.reverse).map List.reverse).getD list

theorem insertList_increasing (hList : Increasing key list) :
    Increasing key (insertList key x list) := by
  unfold insertList
  cases hInsert : insertBack key x list.reverse with
  | none => exact hList
  | some inserted =>
      have hReversed := insertBack_decreasing (List.pairwise_reverse.mpr hList) hInsert
      exact List.pairwise_reverse.mpr hReversed

theorem mem_insertList {y : α} (hMem : y ∈ insertList key x list) : y = x ∨ y ∈ list := by
  unfold insertList at hMem
  cases hInsert : insertBack key x list.reverse with
  | none =>
      rw [hInsert] at hMem
      exact Or.inr hMem
  | some inserted =>
      rw [hInsert] at hMem
      have hEither := (mem_of_insertBack hInsert y).mp (List.mem_reverse.mp hMem)
      rwa [List.mem_reverse] at hEither

/-- The list implements the arrival of a number. -/
theorem keys_insertList : keys key (insertList key x list) = insert (key x) (keys key list) := by
  ext k
  rw [Finset.mem_insert, mem_keys, mem_keys]
  unfold insertList
  cases hInsert : insertBack key x list.reverse with
  | none =>
      obtain ⟨y, hMem, hKey⟩ := key_mem_of_insertBack_eq_none hInsert
      constructor
      · exact Or.inr
      · rintro (rfl | hThere)
        · exact ⟨y, List.mem_reverse.mp hMem, hKey⟩
        · exact hThere
  | some inserted =>
      simp only [Option.map_some, Option.getD_some, List.mem_reverse, mem_of_insertBack hInsert]
      constructor
      · rintro ⟨y, rfl | hMem, rfl⟩
        · exact Or.inl rfl
        · exact Or.inr ⟨y, hMem, rfl⟩
      · rintro (rfl | ⟨y, hMem, rfl⟩)
        · exact ⟨x, Or.inl rfl, rfl⟩
        · exact ⟨y, Or.inr hMem, rfl⟩

/-- The first element of the list is the least one. -/
theorem least_head (hList : Increasing key (x :: list)) : Least (keys key (x :: list)) (key x) := by
  have hAbove := (List.pairwise_cons.mp hList).1
  refine ⟨mem_keys.mpr ⟨x, List.mem_cons_self .., rfl⟩, fun k hk => ?_⟩
  obtain ⟨y, hMem, rfl⟩ := mem_keys.mp hk
  rcases List.mem_cons.mp hMem with rfl | hMem
  · exact le_refl _
  · exact (hAbove y hMem).le

/-- Without it the other numbers are left. -/
theorem keys_tail (hList : Increasing key (x :: list)) :
    keys key list = (keys key (x :: list)).erase (key x) := by
  have hAbove := (List.pairwise_cons.mp hList).1
  ext k
  rw [Finset.mem_erase, mem_keys, mem_keys]
  constructor
  · rintro ⟨y, hMem, rfl⟩
    exact ⟨(hAbove y hMem).ne', y, List.mem_cons_of_mem x hMem, rfl⟩
  · rintro ⟨hOther, y, hMem, rfl⟩
    rcases List.mem_cons.mp hMem with rfl | hMem
    · exact absurd rfl hOther
    · exact ⟨y, hMem, rfl⟩

end Lists

end ReorderBuffer
