import Mathlib.Data.Finset.Basic

/-! Sets that consist of at most one element of interest and of others. -/
namespace SetUpdate

variable {α : Type*} {others : α → Prop}

/-- Replacing the element keeps the set if the elements are equal, or if both of
them are among the others. -/
theorem replace_eq_iff (others : α → Prop) (old new : Option α) :
    (∀ x, (old = some x ∨ others x) ↔ (new = some x ∨ others x)) ↔
      new = old ∨ (∀ x ∈ old, others x) ∧ ∀ x ∈ new, others x := by
  constructor
  · intro hSame
    by_cases hEq : new = old
    · exact Or.inl hEq
    · refine Or.inr ⟨fun x hOld => ?_, fun x hNew => ?_⟩
      · rcases (hSame x).mp (Or.inl hOld) with hNew | hOther
        · exact absurd (hNew.trans (Option.mem_def.mp hOld).symm) hEq
        · exact hOther
      · rcases (hSame x).mpr (Or.inl hNew) with hOld | hOther
        · exact absurd ((Option.mem_def.mp hNew).trans hOld.symm) hEq
        · exact hOther
  · rintro (rfl | ⟨hOld, hNew⟩) x
    · exact Iff.rfl
    · exact ⟨fun h => Or.inr (h.elim (hOld x) id), fun h => Or.inr (h.elim (hNew x) id)⟩

/-- Taking the element out leaves the others if it is not one of them. -/
theorem erase_eq_others_iff [DecidableEq α] {set : Finset α} {old : Option α} {x : α}
    (hSet : ∀ y, y ∈ set ↔ old = some y ∨ others y) (hOld : ∀ y ∈ old, y = x) :
    (∀ y, y ∈ set.erase x ↔ others y) ↔ ¬ others x := by
  constructor
  · intro hErased hOther
    exact Finset.notMem_erase x set ((hErased x).mpr hOther)
  · intro hFree y
    rw [Finset.mem_erase, hSet]
    constructor
    · rintro ⟨hNe, hGone | hOther⟩
      · exact absurd (hOld y hGone) hNe
      · exact hOther
    · intro hOther
      exact ⟨fun hEq => hFree (hEq ▸ hOther), Or.inr hOther⟩

end SetUpdate
