import Mathlib.Data.Set.Basic
import Mathlib.Logic.Function.Basic
import Mathlib.Logic.Nontrivial.Defs

/-! The footprint of operations on a memory. A store puts fixed values at its addresses. What
follows a store may go wrong, and may change these addresses again. -/
namespace Footprint

variable {α β : Type*}

/-- The operation stores fixed values at these addresses, and leaves all others alone. -/
structure Stores (addresses : Set α) (f : (α → β) → α → β) : Prop where
  fixed : ∀ m m' a, a ∈ addresses → f m a = f m' a
  frame : ∀ m a, a ∉ addresses → f m a = m a

/-- Where the operation succeeds, it leaves all other addresses alone. -/
def Confined (addresses : Set α) (f : (α → β) → Option (α → β)) : Prop :=
  ∀ m m', f m = some m' → ∀ a, a ∉ addresses → m' a = m a

/-- The operation can change what is at the address. -/
def Changes (f : (α → β) → Option (α → β)) (a : α) : Prop :=
  ∃ m m', f m = some m' ∧ m' a ≠ m a

variable {s t : Set α} {f g : (α → β) → α → β}

theorem stores_id : Stores ∅ (id : (α → β) → α → β) where
  fixed := fun _ _ _ hIn => hIn.elim
  frame := fun _ _ _ => rfl

/-- One store after the other. -/
theorem Stores.comp (hFirst : Stores s f) (hNext : Stores t g) :
    Stores (s ∪ t) (fun m => g (f m)) where
  fixed := by
    intro m m' a hIn
    by_cases hLast : a ∈ t
    · exact hNext.fixed _ _ a hLast
    · have hBefore : a ∈ s := hIn.resolve_right hLast
      rw [hNext.frame _ a hLast, hNext.frame _ a hLast]
      exact hFirst.fixed m m' a hBefore
  frame := by
    intro m a hOut
    rw [Set.mem_union, not_or] at hOut
    rw [hNext.frame _ a hOut.2, hFirst.frame m a hOut.1]

theorem Stores.congr (hStores : Stores s f) (hSame : ∀ a, a ∈ s ↔ a ∈ t) : Stores t f :=
  Set.ext hSame ▸ hStores

theorem confined_some (addresses : Set α) :
    Confined addresses (some : (α → β) → Option (α → β)) := by
  intro m m' hRun a hOut
  cases hRun
  rfl

theorem Confined.mono {k : (α → β) → Option (α → β)} (hConfined : Confined s k) (hMore : s ⊆ t) :
    Confined t k :=
  fun m m' hRun a hOut => hConfined m m' hRun a fun hIn => hOut (hMore hIn)

variable [DecidableEq α]

/-- A store does not depend on what was at its addresses. -/
theorem Stores.update (hStores : Stores s f) {a : α} (hIn : a ∈ s) (m : α → β) (v : β) :
    f (Function.update m a v) = f m := by
  funext b
  by_cases hAt : b ∈ s
  · exact hStores.fixed _ _ b hAt
  · have hOther : b ≠ a := fun hEq => hAt (hEq ▸ hIn)
    rw [hStores.frame _ b hAt, hStores.frame _ b hAt, Function.update_of_ne hOther]

/-- What is changed by a store, and by what follows it within its footprint, is all of the
footprint, provided that it succeeds at all. -/
theorem changes_iff [Nontrivial β] {k : (α → β) → Option (α → β)} (hStores : Stores s f)
    (hConfined : Confined s k) (hReturns : ∃ m m', k (f m) = some m') (a : α) :
    Changes (fun m => k (f m)) a ↔ a ∈ s := by
  constructor
  · rintro ⟨m, m', hRun, hChanged⟩
    by_contra hOut
    apply hChanged
    rw [hConfined _ m' hRun a hOut, hStores.frame m a hOut]
  · intro hIn
    obtain ⟨m, m', hRun⟩ := hReturns
    -- The result is the same for any old value at the address, so some old value differs.
    obtain ⟨v, hOld⟩ := exists_ne (m' a)
    refine ⟨Function.update m a v, m', ?_, ?_⟩
    · show k (f (Function.update m a v)) = some m'
      rw [hStores.update hIn]
      exact hRun
    · rw [Function.update_self]
      exact hOld.symm

end Footprint
