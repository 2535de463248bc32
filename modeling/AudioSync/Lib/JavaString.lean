import Mathlib.Data.List.DropRight
import Mathlib.Data.List.Infix

/-! Strings of Java, as their UTF-16 code units. -/

abbrev JavaString := List UInt16

namespace JavaString

/-- A string literal, all of whose characters are in ASCII. -/
def literal (s : String) : JavaString := s.toList.map fun c => c.toNat.toUInt16

/-- `String.valueOf(int)`. -/
def valueOf (n : Int) : JavaString := literal (toString n)

/-- `hashCode()`, as a signed 32 bit number. -/
def hashCode (s : JavaString) : Int :=
  (s.foldl (fun h c => 31 * h + c.toUInt32) (0 : UInt32)).toBitVec.toInt

/-- `startsWith(String)`. -/
def startsWith (s start : JavaString) : Bool := start.isPrefixOf s

/-- `contains(CharSequence)`. -/
def contains (s part : JavaString) : Bool := decide (part <:+: s)

/-- `indexOf(char)`, where `none` stands for -1. -/
def indexOf (s : JavaString) (c : UInt16) : Option Nat := s.idxOf? c

/-- `split` at a character that is no metacharacter of regular expressions: a string that
does not contain it stays whole, and empty strings at the end are left out. -/
def split (s : JavaString) (c : UInt16) : List JavaString :=
  if c ∈ s then (s.splitOn c).rdropWhile (· = []) else [s]

theorem indexOf_eq_none {s : JavaString} {c : UInt16} (hNone : c ∉ s) : s.indexOf c = none :=
  List.idxOf?_eq_none_iff.mpr hNone

/-- The first occurrence is the one with none in front of it. -/
theorem indexOf_append {front : JavaString} {c : UInt16} (hFront : c ∉ front)
    (rest : JavaString) : indexOf (front ++ c :: rest) c = some front.length := by
  induction front with
  | nil => simp [indexOf, List.idxOf?_cons]
  | cons d front ih =>
      rw [List.mem_cons, not_or] at hFront
      obtain ⟨hNe, hLater⟩ := hFront
      have hRest := ih hLater
      unfold indexOf at *
      rw [List.cons_append, List.idxOf?_cons, hRest]
      simp [Ne.symm hNe]

theorem takeWhile_of_not_mem {s : JavaString} {c : UInt16} (hNone : c ∉ s) :
    s.takeWhile (· ≠ c) = s := by
  apply List.takeWhile_eq_self_iff.mpr
  intro d hd
  simpa using ne_of_mem_of_not_mem hd hNone

theorem takeWhile_append {front : JavaString} {c : UInt16} (hFront : c ∉ front)
    (rest : JavaString) : List.takeWhile (· ≠ c) (front ++ c :: rest) = front := by
  have hAll : ∀ d ∈ front, decide (d ≠ c) = true := by
    intro d hd
    simpa using ne_of_mem_of_not_mem hd hFront
  rw [List.takeWhile_append_of_pos hAll, List.takeWhile_cons_of_neg (by simp), List.append_nil]

/-- What stands in front of the first separator, or all of the string. -/
theorem take_indexOf (s : JavaString) (c : UInt16) :
    (match s.indexOf c with
      | some pos => s.take pos
      | none => s) = s.takeWhile (· ≠ c) := by
  by_cases hSep : c ∈ s
  · obtain ⟨front, rest, rfl, hFront⟩ := List.eq_append_cons_of_mem hSep
    rw [indexOf_append hFront, takeWhile_append hFront]
    exact List.take_left
  · rw [indexOf_eq_none hSep, takeWhile_of_not_mem hSep]

/-- The first part of a string is what stands in front of the first separator. -/
theorem splitOn_head (s : JavaString) (c : UInt16) :
    ∃ more, s.splitOn c = s.takeWhile (· ≠ c) :: more := by
  by_cases hSep : c ∈ s
  · obtain ⟨front, rest, rfl, hFront⟩ := List.eq_append_cons_of_mem hSep
    rw [takeWhile_append hFront, List.splitOn_append_cons_self_of_not_mem hFront]
    exact ⟨_, rfl⟩
  · rw [takeWhile_of_not_mem hSep, List.splitOn_eq_singleton hSep]
    exact ⟨[], rfl⟩

/-- The part behind the first separator, if there is one: the string may end there, or have
nothing but separators left. -/
theorem split_second {front : JavaString} {c : UInt16} (hFront : c ∉ front)
    (rest : JavaString) :
    (split (front ++ c :: rest) c)[1]? = none ∨
      (split (front ++ c :: rest) c)[1]? = some (rest.takeWhile (· ≠ c)) := by
  obtain ⟨more, hRest⟩ := splitOn_head rest c
  have hMem : c ∈ front ++ c :: rest := List.mem_append_right _ List.mem_cons_self
  unfold split
  rw [if_pos hMem, List.splitOn_append_cons_self_of_not_mem hFront, hRest]
  obtain ⟨tail, hParts⟩ := List.rdropWhile_prefix (fun part : JavaString => decide (part = []))
    (l := front :: rest.takeWhile (· ≠ c) :: more)
  generalize List.rdropWhile _ _ = parts at hParts ⊢
  rcases Nat.lt_or_ge 1 parts.length with hTwo | hOne
  · right
    rw [← List.getElem?_append_left hTwo, hParts]
    rfl
  · exact Or.inl (List.getElem?_eq_none hOne)

/-- A string that is split at its only separator. -/
theorem split_two {front back : JavaString} {c : UInt16} (hFront : c ∉ front) (hBack : c ∉ back)
    (hSome : back ≠ []) : split (front ++ c :: back) c = [front, back] := by
  have hMem : c ∈ front ++ c :: back := List.mem_append_right _ List.mem_cons_self
  unfold split
  rw [if_pos hMem, List.splitOn_append_cons_self_of_not_mem hFront,
    List.splitOn_eq_singleton hBack]
  exact List.rdropWhile_concat_neg _ [front] back (by simpa using hSome)

/-- Nothing behind the only separator is no part. -/
theorem split_end {front : JavaString} {c : UInt16} (hFront : c ∉ front) :
    (split (front ++ [c]) c)[1]? = none := by
  have hMem : c ∈ front ++ [c] := List.mem_append_right _ List.mem_cons_self
  unfold split
  rw [if_pos hMem, List.splitOn_append_cons_self_of_not_mem hFront]
  have hDropped : List.rdropWhile (fun part : JavaString => decide (part = [])) [front, []] =
      List.rdropWhile _ [front] := List.rdropWhile_concat_pos _ [front] [] rfl
  rw [List.splitOn_nil, hDropped]
  exact List.getElem?_eq_none (List.rdropWhile_prefix _ [front]).length_le

section Numbers

/-- A sign, if there is one, and the digits. -/
theorem valueOf_eq (n : Int) : valueOf n =
    (if 0 ≤ n then [] else literal "-") ++ (Nat.toDigits 10 n.natAbs).map
      fun c => c.toNat.toUInt16 := by
  have hString : toString n = if 0 ≤ n then n.toNat.repr else "-" ++ (-n).toNat.repr :=
    Int.repr_eq_if
  rw [valueOf, hString, ← Nat.toList_repr]
  split_ifs with hNonneg
  · have hAbs : n.toNat = n.natAbs := by omega
    rw [hAbs]
    rfl
  · have hAbs : (-n).toNat = n.natAbs := by omega
    rw [hAbs, literal, String.toList_append, List.map_append]
    rfl

/-- The code unit of a digit. -/
theorem digit_toNat {n : Nat} {d : Char} (hMem : d ∈ Nat.toDigits 10 n) :
    d.toNat.toUInt16.toNat = d.toNat ∧ 48 ≤ d.toNat ∧ d.toNat ≤ 57 := by
  obtain ⟨hLow, hHigh⟩ := Char.isDigit_iff_toNat.mp
    (Nat.isDigit_of_mem_toDigits (by decide) (by decide) hMem)
  have hZero : '0'.toNat = 48 := rfl
  have hNine : '9'.toNat = 57 := rfl
  rw [Nat.toUInt16, UInt16.toNat_ofNat']
  omega

theorem digit_bounds {n : Nat} {c : UInt16}
    (hDigit : c ∈ (Nat.toDigits 10 n).map fun c => c.toNat.toUInt16) :
    48 ≤ c.toNat ∧ c.toNat ≤ 57 := by
  obtain ⟨d, hMem, rfl⟩ := List.mem_map.mp hDigit
  obtain ⟨hSame, hBounds⟩ := digit_toNat hMem
  rwa [hSame]

/-- A number is written with digits and a minus sign. -/
theorem mem_valueOf {n : Int} {c : UInt16} (hMem : c ∈ valueOf n) :
    c.toNat = 45 ∨ 48 ≤ c.toNat ∧ c.toNat ≤ 57 := by
  rw [valueOf_eq, List.mem_append] at hMem
  rcases hMem with hSign | hDigit
  · split_ifs at hSign
    · cases hSign
    · rw [List.mem_singleton.mp hSign]
      exact Or.inl rfl
  · exact Or.inr (digit_bounds hDigit)

/-- The digits are read back. -/
theorem digits_injective {m n : Nat}
    (hSame : (Nat.toDigits 10 m).map (fun c => c.toNat.toUInt16) =
      (Nat.toDigits 10 n).map fun c => c.toNat.toUInt16) : m = n := by
  have hBack (k : Nat) : ((Nat.toDigits 10 k).map fun c => c.toNat.toUInt16).map
      (fun c => Char.ofNat c.toNat) = Nat.toDigits 10 k := by
    rw [List.map_map]
    refine (List.map_congr_left fun d hMem => ?_).trans (List.map_id _)
    rw [Function.comp_apply, (digit_toNat hMem).1, Char.ofNat_toNat]
    rfl
  have hDigits := congrArg (List.map fun c => Char.ofNat c.toNat) hSame
  rw [hBack, hBack] at hDigits
  rw [← Nat.ofDigitChars_toDigits (n := m) (by decide : 1 < 10) (by decide), hDigits,
    Nat.ofDigitChars_toDigits (by decide) (by decide)]

/-- Different numbers are written differently. -/
theorem valueOf_injective : Function.Injective valueOf := by
  intro m n hSame
  rw [valueOf_eq, valueOf_eq] at hSame
  -- No digit is a minus sign.
  have hNoSign (sign : JavaString) (k l : Nat) (hSign : sign = literal "-")
      (hEq : ((Nat.toDigits 10 k).map fun c => c.toNat.toUInt16) =
        sign ++ (Nat.toDigits 10 l).map fun c => c.toNat.toUInt16) : False := by
    subst hSign
    have hMem : (45 : UInt16) ∈ (Nat.toDigits 10 k).map fun c => c.toNat.toUInt16 := by
      rw [hEq]
      exact List.mem_cons_self
    have hBounds := digit_bounds hMem
    exact absurd hBounds.1 (by decide)
  split_ifs at hSame with hFirst hSecond hSecond
  · have hAbs := digits_injective hSame
    omega
  · exact (hNoSign _ _ _ rfl hSame).elim
  · exact (hNoSign _ _ _ rfl hSame.symm).elim
  · have hAbs := digits_injective (List.append_cancel_left hSame)
    omega

end Numbers

end JavaString
