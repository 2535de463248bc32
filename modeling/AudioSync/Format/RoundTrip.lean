import AudioSync.Format.CreateFormat

namespace AudioSync.Format

open CString

/-- The character has no part in the structure of a format string. -/
def Plain (c : Byte) : Prop := c ≠ 0 ∧ c ∉ chars ", :()"

instance (c : Byte) : Decidable (Plain c) := inferInstanceAs (Decidable (_ ∧ _))

/-- A C string without the characters that structure a format string. -/
structure Word where
  text : List Byte
  nonempty : text ≠ []
  plain : ∀ c ∈ text, Plain c

inductive EntryValue where
  | int32 (x : BitVec 32)
  | int64 (x : BitVec 64)
  | string (s : Word)

/-- `%d`. -/
def printInt : Int → List Byte
  | .ofNat n => (Nat.toDigits 10 n).map char
  | .negSucc n => char '-' :: (Nat.toDigits 10 (n + 1)).map char

namespace EntryValue

def type : EntryValue → List Byte
  | int32 _ => chars "int32"
  | int64 _ => chars "int64"
  | string _ => chars "string"

def print : EntryValue → List Byte
  | int32 x => printInt x.toInt
  | int64 x => printInt x.toInt
  | string s => s.text

/-- The value in a format. -/
def toFormat {Single : Type} : EntryValue → FormatValue Single
  | int32 x => .int32 x.toInt
  | int64 x => .int64 x.toInt
  | string s => .string s.text

end EntryValue

structure Entry where
  key : Word
  value : EntryValue

namespace Entry

/-- The two parts of an entry's text, around the space. -/
def keyToken (e : Entry) : List Byte := e.key.text ++ chars ":"

def valueToken (e : Entry) : List Byte := e.value.type ++ chars "(" ++ e.value.print ++ chars ")"

/-- `key: type(value)`. -/
def print (e : Entry) : List Byte := e.keyToken ++ chars " " ++ e.valueToken

end Entry

/-- The entries of a format, in some order. -/
structure FormatEntries where
  entries : List Entry
  distinct : (entries.map (·.key.text)).Nodup

/-- The shape that the comment in `audiostream_createFormat` quotes. -/
def print : List Entry → List Byte
  | [] => []
  | [e] => e.print
  | e :: rest => e.print ++ chars ", " ++ print rest

/-- The format with these entries. -/
def formatOf {Single : Type} (entries : List Entry) : AMediaFormat Single :=
  entries.map fun e => (e.key.text, e.value.toFormat)

section

variable {Single : Type} (abi : Abi)
variable (strtod : List Byte → CharPtr → Except Fault (Single × CharPtr))

/-- The printed entries are read as a format with these keys, types and values. -/
def RoundTrips (entries : FormatEntries) : Prop :=
  ∃ format, createFormat abi strtod (print entries.entries ++ [0]) = .ok format ∧
    ∀ key, format.get key = (formatOf entries.entries).get key

section Characters

theorem plain_of_digit {c : Byte} (hLow : 48 ≤ c.toNat) (hHigh : c.toNat ≤ 57) : Plain c := by
  have hOthers : ∀ x ∈ 0 :: chars ", :()", x.toNat < 48 ∨ 57 < x.toNat := by decide
  have hNot : c ∉ 0 :: chars ", :()" := fun hMem => by
    have := hOthers c hMem
    omega
  exact ⟨fun hNul => hNot (by simp [hNul]), fun hMem => hNot (List.mem_cons_of_mem _ hMem)⟩

theorem digits_plain (n : Nat) : ∀ c ∈ (Nat.toDigits 10 n).map char, Plain c := by
  intro c hc
  obtain ⟨d, hd, rfl⟩ := List.mem_map.mp hc
  have hDigit := Nat.isDigit_of_mem_toDigits (by decide) (by decide) hd
  simp only [Char.isDigit, Bool.and_eq_true, decide_eq_true_eq, ge_iff_le,
    UInt32.le_iff_toNat_le] at hDigit
  have hValue : (char d).toNat = d.val.toNat := by
    have hHigh : d.val.toNat ≤ 57 := hDigit.2
    simp only [char, BitVec.toNat_ofNat, Char.toNat]
    omega
  apply plain_of_digit
  · rw [hValue]; exact hDigit.1
  · rw [hValue]; exact hDigit.2

theorem printInt_plain (x : Int) : ∀ c ∈ printInt x, Plain c := by
  cases x with
  | ofNat n => exact digits_plain n
  | negSucc n =>
      intro c hc
      rcases List.mem_cons.mp hc with rfl | hc
      · decide
      · exact digits_plain (n + 1) c hc

theorem EntryValue.type_plain (v : EntryValue) : ∀ c ∈ v.type, Plain c := by
  cases v <;> simp only [EntryValue.type] <;> decide

theorem EntryValue.print_plain (v : EntryValue) : ∀ c ∈ v.print, Plain c := by
  cases v with
  | int32 x => exact printInt_plain x.toInt
  | int64 x => exact printInt_plain x.toInt
  | string s => exact s.plain

theorem Plain.not_delimiter {c : Byte} (h : Plain c) : c ∉ delimiters := by
  have hIncluded : delimiters ⊆ chars ", :()" := by decide
  exact fun hMem => h.2 (hIncluded hMem)

end Characters

section Tokens

variable (e : Entry)

theorem Entry.keyToken_not_delimiter : ∀ c ∈ e.keyToken, c ∉ delimiters := by
  intro c hc
  rcases List.mem_append.mp hc with hKey | hColon
  · exact (e.key.plain c hKey).not_delimiter
  · exact (by decide : ∀ c ∈ chars ":", c ∉ delimiters) c hColon

theorem Entry.valueToken_not_delimiter : ∀ c ∈ e.valueToken, c ∉ delimiters := by
  intro c hc
  simp only [valueToken, List.mem_append] at hc
  obtain ((hType | hOpen) | hValue) | hClose := hc
  · exact (e.value.type_plain c hType).not_delimiter
  · exact (by decide : ∀ c ∈ chars "(", c ∉ delimiters) c hOpen
  · exact (e.value.print_plain c hValue).not_delimiter
  · exact (by decide : ∀ c ∈ chars ")", c ∉ delimiters) c hClose

theorem Entry.keyToken_ne_nil : e.keyToken ≠ [] := by
  simp [keyToken, e.key.nonempty]

theorem Entry.valueToken_ne_nil : e.valueToken ≠ [] := by
  simp [valueToken, chars]

/-- There is no value in the part before the space. -/
theorem Entry.not_reachesType_keyToken : ¬ ReachesType e.keyToken := by
  apply not_reachesType
  intro hOpen
  rcases List.mem_append.mp hOpen with hKey | hColon
  · exact (e.key.plain _ hKey).2 (by decide)
  · exact absurd hColon (by decide)

/-- There is no key in the part behind it. -/
theorem Entry.not_reachesType_valueToken : ¬ ReachesType e.valueToken := by
  intro hReaches
  have hColon := hReaches.1
  simp only [valueToken, List.mem_append] at hColon
  obtain ((hType | hOpen) | hValue) | hClose := hColon
  · exact (e.value.type_plain _ hType).2 (by decide)
  · exact absurd hOpen (by decide)
  · exact (e.value.print_plain _ hValue).2 (by decide)
  · exact absurd hClose (by decide)

/-- The space inside an entry separates tokens as well. -/
theorem tokens_entry (rest : List Byte) :
    tokens delimiters (e.print ++ rest) = e.keyToken :: tokens delimiters (e.valueToken ++ rest) := by
  have hSpace : e.print ++ rest = e.keyToken ++ char ' ' :: (e.valueToken ++ rest) := by
    simp [Entry.print, chars]
  rw [hSpace]
  exact tokens_cons e.keyToken_not_delimiter e.keyToken_ne_nil (by decide)

theorem tokens_print (entries : List Entry) :
    tokens delimiters (print entries) = entries.flatMap fun e => [e.keyToken, e.valueToken] := by
  induction entries with
  | nil => rfl
  | cons e rest ih =>
      cases rest with
      | nil =>
          have hEntry := tokens_entry e []
          rw [List.append_nil, List.append_nil,
            tokens_single e.valueToken_not_delimiter e.valueToken_ne_nil] at hEntry
          exact hEntry
      | cons e' rest =>
          have hSeparator : chars ", " ++ print (e' :: rest) =
            char ',' :: (chars " " ++ print (e' :: rest)) := rfl
          show tokens delimiters (e.print ++ chars ", " ++ print (e' :: rest)) = _
          rw [List.append_assoc, tokens_entry, hSeparator,
            tokens_cons e.valueToken_not_delimiter e.valueToken_ne_nil (by decide),
            tokens_append (by decide), ih]
          rfl

end Tokens

section Strings

theorem Entry.print_noNul (e : Entry) : (0 : Byte) ∉ e.print := by
  intro hNul
  simp only [print, keyToken, valueToken, List.mem_append] at hNul
  obtain ((hKey | hColon) | hSpace) | ((hType | hOpen) | hValue) | hClose := hNul
  · exact (e.key.plain _ hKey).1 rfl
  · exact absurd hColon (by decide)
  · exact absurd hSpace (by decide)
  · exact (e.value.type_plain _ hType).1 rfl
  · exact absurd hOpen (by decide)
  · exact (e.value.print_plain _ hValue).1 rfl
  · exact absurd hClose (by decide)

theorem print_noNul (entries : List Entry) : (0 : Byte) ∉ print entries := by
  induction entries with
  | nil => exact List.not_mem_nil
  | cons e rest ih =>
      cases rest with
      | nil => exact e.print_noNul
      | cons e' rest =>
          intro hNul
          simp only [print, List.mem_append] at hNul
          obtain (hEntry | hSeparator) | hRest := hNul
          · exact e.print_noNul hEntry
          · exact absurd hSeparator (by decide)
          · exact ih hRest

/-- Every attribute of a printed list is skipped; without one the first token is null. -/
theorem createFormat_print (entries : List Entry) :
    createFormat abi strtod (print entries ++ [0]) =
      if entries = [] then .error (.wild 0) else .ok [] := by
  have hString : StringAt (print entries ++ [0]) 0 (print entries) := ⟨print_noNul entries, by simp⟩
  have hHarmless : ¬ ∃ t ∈ tokens delimiters (print entries), ReachesType t := by
    intro ⟨t, hToken, hReaches⟩
    rw [tokens_print] at hToken
    obtain ⟨e, -, hPart⟩ := List.mem_flatMap.mp hToken
    rcases List.mem_pair.mp hPart with rfl | rfl
    · exact e.not_reachesType_keyToken hReaches
    · exact e.not_reachesType_valueToken hReaches
  rw [createFormat_eq abi strtod hString, if_neg hHarmless, tokens_print]
  cases entries <;> simp

end Strings

/-- No list of entries is read back. -/
theorem not_roundTrips (entries : FormatEntries) : ¬ RoundTrips abi strtod entries := by
  intro ⟨format, hCreate, hGet⟩
  obtain ⟨entries, hDistinct⟩ := entries
  rw [createFormat_print] at hCreate
  cases entries with
  | nil => cases hCreate
  | cons e rest =>
      cases hCreate
      have hFirst := hGet e.key.text
      simp [formatOf, AMediaFormat.get] at hFirst

end

section Example

/-- The first two entries of the comment's example. -/
def commentExample : FormatEntries where
  entries :=
    [⟨⟨chars "mime", by decide, by decide⟩, .string ⟨chars "audio/mpeg", by decide, by decide⟩⟩,
      ⟨⟨chars "durationUs", by decide, by decide⟩, .int64 56737959⟩]
  distinct := by decide

/-- They give an empty format. -/
theorem not_roundTrips_commentExample :
    ¬ RoundTrips .ilp32 (fun _ p => .ok ((), p)) commentExample := by
  intro ⟨format, hCreate, hGet⟩
  have hEmpty : createFormat .ilp32 (fun _ p => .ok ((), p))
      (chars "mime: string(audio/mpeg), durationUs: int64(56737959)" ++ [0]) = .ok [] := by
    decide +kernel
  have hPrint : print commentExample.entries =
      chars "mime: string(audio/mpeg), durationUs: int64(56737959)" := by
    decide +kernel
  rw [hPrint, hEmpty] at hCreate
  cases hCreate
  have hMime := hGet (chars "mime")
  revert hMime
  decide

end Example

end AudioSync.Format
