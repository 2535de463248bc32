import Mathlib.Data.List.Infix

/-! Strings that end at a NUL, in a block of memory that ends somewhere too. An access
outside the block is `none`. -/
namespace CString

variable {α : Type*} [DecidableEq α] [Zero α]

/-- The first address from `i` on whose content meets `p`. -/
def scan (p : α → Bool) (mem : List α) (i : Nat) : Option Nat :=
  ((mem.drop i).findIdx? p).map (i + ·)

/-- The string at an address. -/
def readString (mem : List α) (i : Nat) : Option (List α) :=
  (scan (· = 0) mem i).map fun stop => (mem.drop i).take (stop - i)

/-- `strchr`. -/
def strchr (mem : List α) (i : Nat) (c : α) : Option (Option Nat) :=
  (scan (fun x => x = c || x = 0) mem i).map fun stop =>
    if mem[stop]? = some c then some stop else none

/-- Whether `strncmp` finds the characters of a literal at an address. -/
def strncmp (mem : List α) (i : Nat) : List α → Option Bool
  | [] => some true
  | c :: literal => mem[i]?.bind fun x => if x = c then strncmp mem (i + 1) literal else some false

/-- A token that `strtok` has found, and where it goes on the next time. -/
structure Token where
  start : Nat
  saved : Nat
  deriving DecidableEq, Repr

/-- `strtok` from a given address on; it ends the token with a NUL. -/
def strtok (delim : List α) (mem : List α) (i : Nat) : Option (Option Token × List α) :=
  (scan (· ∉ delim) mem i).bind fun start =>
    if mem[start]? = some 0 then some (none, mem)
    else (scan (fun x => x ∈ delim || x = 0) mem start).map fun stop =>
      if mem[stop]? = some 0 then (some ⟨start, stop⟩, mem)
      else (some ⟨start, stop + 1⟩, mem.set stop 0)

/-- The tokens of a string: its longest parts without a delimiter. -/
def tokens (delim s : List α) : List (List α) :=
  (s.splitOnP (· ∈ delim)).filter (· ≠ [])

/-- The string `s` lies at the address `i`. -/
structure StringAt (mem : List α) (i : Nat) (s : List α) : Prop where
  noNul : (0 : α) ∉ s
  lies : s ++ [0] <+: mem.drop i

section Scan

variable {p : α → Bool} {mem : List α} {i : Nat}

omit [DecidableEq α] [Zero α] in
theorem scan_eq {before : List α} {c : α} (hLies : before ++ [c] <+: mem.drop i)
    (hBefore : ∀ x ∈ before, p x = false) (hFound : p c = true) :
    scan p mem i = some (i + before.length) := by
  obtain ⟨rest, hRest⟩ := hLies
  have hNone : before.findIdx? p = none := List.findIdx?_eq_none_iff.mpr hBefore
  simp [scan, ← hRest, hNone, hFound, List.findIdx?_cons]

omit [DecidableEq α] [Zero α] in
theorem getElem?_of_lies {before : List α} {c : α} (hLies : before ++ [c] <+: mem.drop i) :
    mem[i + before.length]? = some c := by
  obtain ⟨rest, hRest⟩ := hLies
  rw [← List.getElem?_drop, ← hRest]
  simp

end Scan

section Strings

variable {mem : List α} {i : Nat} {s : List α}

omit [DecidableEq α] in
/-- A string goes on inside itself. -/
theorem StringAt.drop {a b : List α} (h : StringAt mem i (a ++ b)) :
    StringAt mem (i + a.length) b := by
  obtain ⟨hNoNul, rest, hRest⟩ := h
  refine ⟨fun hMem => hNoNul (List.mem_append_right a hMem), rest, ?_⟩
  rw [← List.drop_drop, ← hRest]
  simp

omit [DecidableEq α] in
theorem StringAt.length_lt (h : StringAt mem i s) : s.length < mem.length := by
  have hLength := h.lies.length_le
  rw [List.length_append, List.length_drop, List.length_singleton] at hLength
  omega

/-- What is read up to the first NUL. -/
theorem stringAt_takeWhile (h : (0 : α) ∈ mem.drop i) :
    StringAt mem i ((mem.drop i).takeWhile (· ≠ 0)) := by
  obtain ⟨before, after, hSplit, hFirst⟩ := List.eq_append_cons_of_mem h
  have hBefore : ∀ x ∈ before, decide (x ≠ 0) = true := fun x hx => by
    simpa using fun hNul : x = 0 => hFirst (hNul ▸ hx)
  have hString : (mem.drop i).takeWhile (· ≠ 0) = before := by
    rw [hSplit, List.takeWhile_append_of_pos hBefore]
    simp
  rw [hString]
  exact ⟨hFirst, after, by simp [hSplit]⟩

theorem readString_eq (h : StringAt mem i s) : readString mem i = some s := by
  have hScan := scan_eq (p := (· = 0)) h.lies (fun x hx => by
    simpa using fun hNul : x = 0 => h.noNul (hNul ▸ hx)) (by simp)
  obtain ⟨rest, hRest⟩ := h.lies
  simp [readString, hScan, ← hRest]

/-- A search for a character that the string has. -/
theorem strchr_found {c : α} {a b : List α} (h : StringAt mem i (a ++ c :: b)) (hFirst : c ∉ a) :
    strchr mem i c = some (some (i + a.length)) := by
  have hNoNul := h.noNul
  have hLies : a ++ [c] <+: mem.drop i :=
    (List.prefix_append (a ++ [c]) (b ++ [0])).trans (by simpa using h.lies)
  have hScan := scan_eq (p := fun x => x = c || x = 0) hLies (fun x hx => by
    have hNul : x ≠ 0 := fun hZero => hNoNul (hZero ▸ List.mem_append_left _ hx)
    have hOther : x ≠ c := fun hSame => hFirst (hSame ▸ hx)
    simp [hNul, hOther]) (by simp)
  simp [strchr, hScan, getElem?_of_lies hLies]

theorem strchr_missing {c : α} (h : StringAt mem i s) (hMissing : c ∉ s) (hChar : c ≠ 0) :
    strchr mem i c = some none := by
  have hScan := scan_eq (p := fun x => x = c || x = 0) h.lies (fun x hx => by
    have hNul : x ≠ 0 := fun hZero => h.noNul (hZero ▸ hx)
    have hOther : x ≠ c := fun hSame => hMissing (hSame ▸ hx)
    simp [hNul, hOther]) (by simp)
  simp [strchr, hScan, getElem?_of_lies h.lies, hChar.symm]

omit [DecidableEq α] in
/-- A NUL written into a string ends it there; what comes after is a string still. -/
theorem StringAt.cut {a b : List α} {d : α} (h : StringAt mem i (a ++ d :: b)) :
    StringAt (mem.set (i + a.length) 0) i a ∧
      StringAt (mem.set (i + a.length) 0) (i + a.length + 1) b := by
  obtain ⟨hNoNul, rest, hRest⟩ := h
  have hDrop : (mem.set (i + a.length) 0).drop i = a ++ 0 :: b ++ [0] ++ rest := by
    rw [List.drop_set, if_neg (by omega), Nat.add_sub_cancel_left, ← hRest]
    simp
  refine ⟨⟨fun hMem => hNoNul (List.mem_append_left _ hMem), b ++ [0] ++ rest, ?_⟩,
    ⟨fun hMem => hNoNul (List.mem_append_right a (List.mem_cons_of_mem d hMem)), rest, ?_⟩⟩
  · simp [hDrop]
  · rw [Nat.add_assoc, ← List.drop_drop, hDrop, ← List.drop_drop]
    simp

end Strings

section Tokens

variable {delim mem : List α} {i : Nat}

omit [Zero α] in
/-- Delimiters in front do not matter. -/
theorem tokens_append {lead s : List α} (h : ∀ x ∈ lead, x ∈ delim) :
    tokens delim (lead ++ s) = tokens delim s := by
  induction lead with
  | nil => rfl
  | cons x lead ih =>
      have hHead := h x (List.mem_cons_self ..)
      have hTail := ih fun y hy => h y (List.mem_cons_of_mem x hy)
      rw [← hTail]
      simp [tokens, List.splitOnP_cons_eq_if_modifyHead, hHead]

omit [Zero α] in
theorem tokens_of_delim {s : List α} (h : ∀ x ∈ s, x ∈ delim) : tokens delim s = [] := by
  have hEmpty := tokens_append (s := []) h
  rw [List.append_nil] at hEmpty
  rw [hEmpty]
  simp [tokens]

omit [Zero α] in
theorem tokens_single {tok : List α} (hTok : ∀ x ∈ tok, x ∉ delim) (hSome : tok ≠ []) :
    tokens delim tok = [tok] := by
  simp [tokens, List.splitOnP_eq_singleton (p := (· ∈ delim)) (by simpa using hTok), hSome]

omit [Zero α] in
theorem tokens_cons {tok rest : List α} {d : α} (hTok : ∀ x ∈ tok, x ∉ delim) (hSome : tok ≠ [])
    (hDelim : d ∈ delim) : tokens delim (tok ++ d :: rest) = tok :: tokens delim rest := by
  simp [tokens, List.splitOnP_append_cons_of_forall_mem (p := (· ∈ delim)) (by simpa using hTok) d
    (by simpa using hDelim), hSome]

omit [DecidableEq α] [Zero α] in
/-- A list up to the first element that does not meet `p`. -/
theorem exists_first_not (p : α → Prop) [DecidablePred p] (s : List α) :
    ∃ before after, s = before ++ after ∧ (∀ x ∈ before, p x) ∧ ∀ c ∈ after.head?, ¬ p c := by
  induction s with
  | nil => exact ⟨[], [], rfl, by simp, by simp⟩
  | cons x s ih =>
      by_cases hx : p x
      · obtain ⟨before, after, rfl, hBefore, hAfter⟩ := ih
        exact ⟨x :: before, after, rfl, by simpa [hx] using hBefore, hAfter⟩
      · exact ⟨[], x :: s, rfl, by simp, by simpa using hx⟩

/-- `strtok` finds the first token of the string, cuts it off, and goes on behind it. -/
theorem strtok_cases {s : List α} (hNul : (0 : α) ∉ delim) (h : StringAt mem i s) :
    (tokens delim s = [] ∧ strtok delim mem i = some (none, mem)) ∨
      ∃ token mem' tok rest, tokens delim s = tok :: tokens delim rest ∧
        strtok delim mem i = some (some token, mem') ∧ StringAt mem' token.start tok ∧
        StringAt mem' token.saved rest ∧ rest.length < s.length := by
  obtain ⟨lead, body, rfl, hLead, hBody⟩ := exists_first_not (· ∈ delim) s
  have hBodyAt : StringAt mem (i + lead.length) body := h.drop
  cases body with
  | nil =>
      have hScan := scan_eq (p := fun x => x ∉ delim) (c := (0 : α)) (by simpa using h.lies)
        (by simpa using hLead) (by simpa using hNul)
      refine Or.inl ⟨by simpa using tokens_of_delim hLead, ?_⟩
      have hEnd := getElem?_of_lies (by simpa using h.lies : lead ++ [0] <+: mem.drop i)
      rw [strtok, hScan, Option.bind_some, if_pos hEnd]
  | cons c body =>
      have hStart : c ∉ delim := by simpa using hBody
      have hChar : c ≠ 0 := fun hZero => h.noNul (by simp [hZero])
      have hLies : lead ++ [c] <+: mem.drop i :=
        (List.prefix_append (lead ++ [c]) (body ++ [0])).trans (by simpa using h.lies)
      have hScan := scan_eq (p := fun x => x ∉ delim) hLies (by simpa using hLead)
        (by simpa using hStart)
      obtain ⟨tok, rest, hToken, hTok, hRest⟩ := exists_first_not (· ∉ delim) (c :: body)
      have hSome : tok ≠ [] := by
        rintro rfl
        rw [List.nil_append] at hToken
        subst hToken
        simp [hStart] at hRest
      rw [hToken] at hBodyAt ⊢
      have hStops : ∀ x ∈ tok, (fun x => decide (x ∈ delim) || decide (x = 0)) x = false := by
        intro x hx
        have hNotNul : x ≠ 0 := fun hZero => hBodyAt.noNul (hZero ▸ List.mem_append_left _ hx)
        simp [hTok x hx, hNotNul]
      cases rest with
      | nil =>
          have hStop := scan_eq (c := (0 : α)) (by simpa using hBodyAt.lies) hStops (by simp)
          refine Or.inr ⟨⟨i + lead.length, i + lead.length + tok.length⟩, mem, tok, [], ?_, ?_, ?_,
            hBodyAt.drop, ?_⟩
          · rw [tokens_append hLead, List.append_nil, tokens_single hTok hSome]
            simp [tokens]
          · have hEnd := getElem?_of_lies (by simpa using hBodyAt.lies :
              tok ++ [0] <+: mem.drop (i + lead.length))
            rw [strtok, hScan, Option.bind_some, if_neg (by simpa [getElem?_of_lies hLies]), hStop,
              Option.map_some, if_pos hEnd]
          · simpa using hBodyAt
          · have := List.length_pos_of_ne_nil hSome
            simp
            omega
      | cons d rest =>
          have hDelim : d ∈ delim := by simpa using hRest
          have hCut := hBodyAt.cut
          have hLiesTok : tok ++ [d] <+: mem.drop (i + lead.length) :=
            (List.prefix_append (tok ++ [d]) (rest ++ [0])).trans (by simpa using hBodyAt.lies)
          have hStop := scan_eq hLiesTok hStops (by simp [hDelim])
          have hDelimChar : d ≠ 0 := fun hZero => hNul (hZero ▸ hDelim)
          refine Or.inr ⟨⟨i + lead.length, i + lead.length + tok.length + 1⟩,
            mem.set (i + lead.length + tok.length) 0, tok, rest, ?_, ?_, hCut.1, hCut.2, ?_⟩
          · rw [tokens_append hLead, tokens_cons hTok hSome hDelim]
          · rw [strtok, hScan, Option.bind_some, if_neg (by simpa [getElem?_of_lies hLies]), hStop,
              Option.map_some, if_neg (by simpa [getElem?_of_lies hLiesTok])]
          · simp
            omega

end Tokens

end CString
