import Mathlib.Data.List.AList

/-! Properties of the values of a finite map: how many have one, and whether any
does. Both are described by the entry at one key and the other entries. -/
namespace KeyedTable

variable {κ α : Type*} [DecidableEq κ]

/-- A finite map with values of one type. -/
abbrev Table (κ α : Type*) := AList fun _ : κ => α

/-- The number of keys whose value satisfies a test. -/
def countValues (p : α → Bool) (m : Table κ α) : Nat := m.entries.countP fun e => p e.2

/-- Some key has a value with the property. -/
def HasValue (p : α → Prop) (m : Table κ α) : Prop := ∃ k, ∃ v ∈ m.lookup k, p v

theorem entries_perm_of_lookup {m : Table κ α} {k : κ} {v : α} (h : m.lookup k = some v) :
    m.entries.Perm (⟨k, v⟩ :: (m.erase k).entries) := by
  have hKey : k ∈ m.entries.keys := AList.lookup_isSome.mp (by rw [h]; rfl)
  obtain ⟨w, front, back, hFront, hSplit, hErase⟩ := List.exists_of_kerase hKey
  have hValue : (⟨k, w⟩ : Sigma fun _ : κ => α) ∈ m.entries := by
    rw [hSplit]
    exact List.mem_append_right _ List.mem_cons_self
  obtain rfl : w = v := Option.some.inj ((AList.mem_lookup_iff.mpr hValue).symm.trans h)
  have hRest : (m.erase k).entries = front ++ back := hErase
  rw [hRest, hSplit]
  exact List.perm_middle

theorem countValues_of_lookup (p : α → Bool) {m : Table κ α} {k : κ} {v : α}
    (h : m.lookup k = some v) :
    countValues p m = countValues p (m.erase k) + (p v).toNat := by
  rw [countValues, (entries_perm_of_lookup h).countP_eq, List.countP_cons, countValues]
  cases p v <;> rfl

theorem erase_of_lookup_none {m : Table κ α} {k : κ} (h : m.lookup k = none) : m.erase k = m :=
  AList.ext (List.kerase_of_notMem_keys (AList.lookup_eq_none.mp h))

theorem entries_erase (m : Table κ α) (k : κ) : (m.erase k).entries = m.entries.kerase k := rfl

theorem countValues_insert (p : α → Bool) (m : Table κ α) (k : κ) (v : α) :
    countValues p (m.insert k v) = countValues p (m.erase k) + (p v).toNat := by
  rw [countValues, AList.entries_insert, List.countP_cons, countValues, entries_erase]
  cases p v <;> rfl

theorem hasValue_of_lookup (p : α → Prop) {m : Table κ α} {k : κ} {v : α}
    (h : m.lookup k = some v) : HasValue p m ↔ p v ∨ HasValue p (m.erase k) := by
  constructor
  · rintro ⟨other, w, hLookup, hValue⟩
    by_cases hKey : other = k
    · subst hKey
      obtain rfl : w = v := Option.some.inj (hLookup.symm.trans h)
      exact Or.inl hValue
    · exact Or.inr ⟨other, w, by rwa [AList.lookup_erase_ne hKey], hValue⟩
  · rintro (hValue | ⟨other, w, hLookup, hValue⟩)
    · exact ⟨k, v, h, hValue⟩
    · have hKey : other ≠ k := by
        rintro rfl
        rw [AList.lookup_erase] at hLookup
        cases hLookup
      exact ⟨other, w, by rwa [AList.lookup_erase_ne hKey] at hLookup, hValue⟩

theorem erase_insert (m : Table κ α) (k : κ) (v : α) : (m.insert k v).erase k = m.erase k := by
  apply AList.ext
  simp [entries_erase]

theorem hasValue_insert (p : α → Prop) (m : Table κ α) (k : κ) (v : α) :
    HasValue p (m.insert k v) ↔ p v ∨ HasValue p (m.erase k) := by
  rw [hasValue_of_lookup p (AList.lookup_insert m), erase_insert]

section Changes

/-- The table with the value at one key changed, and every entry where it was. -/
def alter (m : Table κ α) (k : κ) (change : α → α) : Table κ α where
  entries := m.entries.map fun e => if e.1 = k then ⟨e.1, change e.2⟩ else e
  nodupKeys := by
    have hKeys : (m.entries.map fun e => if e.1 = k then ⟨e.1, change e.2⟩ else e).keys =
        m.entries.keys := by
      rw [List.keys, List.map_map]
      apply List.map_congr_left
      intro e _
      dsimp only [Function.comp_apply]
      split_ifs <;> rfl
    rw [List.NodupKeys, hKeys]
    exact m.nodupKeys

/-- `List.dlookup` for values of one type. -/
theorem dlookup_map_alter (es : List (Sigma fun _ : κ => α)) (k j : κ) (change : α → α) :
    (List.dlookup j (es.map fun e => if e.1 = k then ⟨e.1, change e.2⟩ else e)) =
      if j = k then Option.map change (List.dlookup j es) else List.dlookup j es := by
  induction es with
  | nil => simp
  | cons e es ih =>
      obtain ⟨i, v⟩ := e
      rw [List.map_cons]
      by_cases hKey : j = i
      · subst hKey
        rw [List.dlookup_cons_eq]
        by_cases hHere : j = k
        · rw [if_pos hHere, if_pos hHere, List.dlookup_cons_eq]
          rfl
        · rw [if_neg hHere, if_neg hHere, List.dlookup_cons_eq]
      · rw [List.dlookup_cons_ne es ⟨i, v⟩ hKey, ← ih]
        by_cases hHere : i = k
        · rw [if_pos hHere, List.dlookup_cons_ne _ _ hKey]
        · rw [if_neg hHere, List.dlookup_cons_ne _ _ hKey]

theorem lookup_alter (m : Table κ α) (k j : κ) (change : α → α) :
    (alter m k change).lookup j = if j = k then (m.lookup j).map change else m.lookup j :=
  dlookup_map_alter m.entries k j change

end Changes

section Groups

/-- A map to lists, with one more value under a key. -/
def addTo (m : Table κ (List α)) (k : κ) (v : α) : Table κ (List α) :=
  m.insert k ((m.lookup k).getD [] ++ [v])

theorem lookup_addTo (m : Table κ (List α)) (k other : κ) (v : α) :
    ((addTo m k v).lookup other).getD [] =
      (m.lookup other).getD [] ++ if other = k then [v] else [] := by
  by_cases hKey : other = k
  · subst hKey
    rw [addTo, AList.lookup_insert, if_pos rfl]
    rfl
  · rw [addTo, AList.lookup_insert_ne hKey, if_neg hKey, List.append_nil]

theorem mem_addTo (m : Table κ (List α)) (k other : κ) (v : α) :
    other ∈ addTo m k v ↔ other = k ∨ other ∈ m := by
  rw [addTo, AList.mem_insert]

end Groups

section Values

/-- The values of a finite map, in some order. -/
def values (m : Table κ α) : List α := m.entries.map fun e => e.2

theorem values_perm_of_lookup {m : Table κ α} {k : κ} {v : α} (h : m.lookup k = some v) :
    (values m).Perm (v :: values (m.erase k)) := by
  have hPerm := (entries_perm_of_lookup h).map fun e => e.2
  exact hPerm

theorem values_insert (m : Table κ α) (k : κ) (v : α) :
    values (m.insert k v) = v :: values (m.erase k) := by
  rw [values, AList.entries_insert, List.map_cons]
  rfl

/-- The values are what the keys lead to. -/
theorem filterMap_lookup_keys (m : Table κ α) :
    (m.keys.filterMap fun k => m.lookup k) = values m := by
  have hLookup : ∀ e ∈ m.entries, ((fun k => m.lookup k) ∘ Sigma.fst) e = some e.2 :=
    fun e he => AList.mem_lookup_iff.mpr he
  have hKeys : m.keys = m.entries.map Sigma.fst := rfl
  rw [hKeys, List.filterMap_map, List.filterMap_congr hLookup]
  exact congrFun List.filterMap_eq_map m.entries

/-- Tables whose keys lead to the same have the same values, in some order. -/
theorem values_map_perm {β : Type*} (f : α → β) {m n : Table κ α}
    (hSame : ∀ k, (m.lookup k).map f = (n.lookup k).map f) :
    ((values m).map f).Perm ((values n).map f) := by
  have hKeys : m.keys.Perm n.keys := by
    apply (List.perm_ext_iff_of_nodup m.keys_nodup n.keys_nodup).mpr
    intro k
    have hSome := congrArg Option.isSome (hSame k)
    rw [Option.isSome_map, Option.isSome_map] at hSome
    rw [← AList.mem_keys, ← AList.mem_keys, ← AList.lookup_isSome, ← AList.lookup_isSome, hSome]
  rw [← filterMap_lookup_keys m, ← filterMap_lookup_keys n, List.map_filterMap, List.map_filterMap,
    funext hSame]
  exact hKeys.filterMap _

end Values

end KeyedTable
