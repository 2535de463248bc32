import AudioSync.Basic
import AudioSync.Lib.CString
import Mathlib.Data.BitVec
import Mathlib.Data.List.TakeWhile

namespace AudioSync.Format

open CString

def char (c : Char) : Byte := BitVec.ofNat 8 c.toNat

def chars (s : String) : List Byte := s.toList.map char

/-- A `char *`: into the format string, or another address, such as null. -/
inductive CharPtr where
  | text (offset : Nat)
  | address (a : Nat)
  deriving DecidableEq, Repr

namespace CharPtr

def null : CharPtr := address 0

/-- The pointer after `++`. -/
def succ : CharPtr → CharPtr
  | text i => text (i + 1)
  | address a => address (a + 1)

@[simp]
theorem text_ne_null (i : Nat) : text i ≠ null := nofun

end CharPtr

inductive Fault where
  /-- An access behind the end of the data. -/
  | outside
  /-- An access through a pointer that does not point into the data. -/
  | wild (address : Nat)
  /-- The loop does not end. -/
  | endless
  deriving DecidableEq, Repr

/-- A library function that reads the string a pointer points to. -/
def reading {β : Type} (read : Nat → Option β) : CharPtr → Except Fault β
  | .text i => (read i).elim (.error .outside) .ok
  | .address a => .error (.wild a)

def strchr (mem : List Byte) (p : CharPtr) (c : Char) : Except Fault CharPtr :=
  reading (fun i => (CString.strchr mem i (char c)).map fun found =>
    found.elim .null .text) p

def strncmp (mem : List Byte) (p : CharPtr) (literal : String) : Except Fault Bool :=
  reading (fun i => CString.strncmp mem i (chars literal)) p

def delimiters : List Byte := chars ", "

/-- `strtok` from an address on: the token, the address to go on from, and the memory. -/
def strtok (mem : List Byte) (i : Nat) : Except Fault (CharPtr × Nat × List Byte) :=
  reading (fun i => (CString.strtok delimiters mem i).map fun (token, mem) =>
    (token.elim .null fun t => .text t.start, token.elim i Token.saved, mem)) (.text i)

/-- `isspace` in the C locale. -/
def isspace (c : Byte) : Bool := c = char ' ' || (9 ≤ c.toNat && c.toNat ≤ 13)

def isdigit (c : Byte) : Bool := 48 ≤ c.toNat && c.toNat ≤ 57

/-- The value of a row of decimal digits. -/
def decimal (digits : List Byte) : Nat := digits.foldl (fun n c => 10 * n + (c.toNat - 48)) 0

/-- A value that `long` cannot represent becomes the nearest one that it can. -/
def toLong (abi : Abi) (x : Int) : Int := max (-2 ^ (abi.bits - 1)) (min x (2 ^ (abi.bits - 1) - 1))

/-- `strtol` in base 10, and where the number ends. -/
def strtol (abi : Abi) (mem : List Byte) (p : CharPtr) : Except Fault (Int × CharPtr) :=
  reading (fun i => (scan (!isspace ·) mem i).bind fun sign =>
    let negative := mem[sign]? = some (char '-')
    let first := if negative ∨ mem[sign]? = some (char '+') then sign + 1 else sign
    (scan (!isdigit ·) mem first).map fun stop =>
      if stop = first then (0, .text i)
      else
        let n : Int := decimal ((mem.drop first).take (stop - first))
        (toLong abi (if negative then -n else n), .text stop)) p

/-- A value of a format. -/
inductive FormatValue (Single : Type) where
  | int32 (x : Int)
  | int64 (x : Int)
  | float (x : Single)
  | string (s : List Byte)
  deriving DecidableEq, Repr

/-- The contents of an `AMediaFormat`: values under keys. -/
abbrev AMediaFormat (Single : Type) := List (List Byte × FormatValue Single)

namespace AMediaFormat

variable {Single : Type}

def get (format : AMediaFormat Single) (key : List Byte) : Option (FormatValue Single) :=
  format.lookup key

/-- `AMediaFormat_setInt32` and the like: a value replaces one under the same key. -/
def set (format : AMediaFormat Single) (key : List Byte) (x : FormatValue Single) :
    AMediaFormat Single :=
  (key, x) :: format.filter (·.1 ≠ key)

end AMediaFormat

section

variable {Single : Type} (abi : Abi)

-- `strtod` with the conversion to `float`, and where the number ends
variable (strtod : List Byte → CharPtr → Except Fault (Single × CharPtr))

/-- What is done with an attribute whose key, type and value have been found. -/
def setAttribute (mem : List Byte) (attr type valBegin stop : CharPtr)
    (format : AMediaFormat Single) : Except Fault (List Byte × AMediaFormat Single) := do
  if ← strncmp mem type "int32" then
    let (val, endptr) ← strtol abi mem valBegin
    if endptr = stop then
      return (mem, format.set (← reading (readString mem) attr)
        (.int32 (MachineInt.toSigned 32 val)))
    else return (mem, format)
  else if ← strncmp mem type "int64" then
    let (val, endptr) ← strtol abi mem valBegin
    if endptr = stop then
      return (mem, format.set (← reading (readString mem) attr) (.int64 (int64 val)))
    else return (mem, format)
  else if ← strncmp mem type "size_t" then
    return (mem, format)
  -- the first comparison is made at the key, not at the type
  else if ← (do if ← strncmp mem attr "float" then pure true else strncmp mem type "double") then
    let (val, endptr) ← strtod mem valBegin
    if endptr = stop then
      return (mem, format.set (← reading (readString mem) attr) (.float val))
    else return (mem, format)
  else if ← strncmp mem type "string" then
    let mem := match stop with
      | .text i => mem.set i 0
      | .address _ => mem
    return (mem, format.set (← reading (readString mem) attr)
      (.string (← reading (readString mem) valBegin)))
  else return (mem, format)

/-- The body of the loop up to its condition. -/
def readAttribute (mem : List Byte) (attr : CharPtr) (format : AMediaFormat Single) :
    Except Fault (List Byte × AMediaFormat Single) := do
  let type ← strchr mem attr ':'
  if type = .null then return (mem, format)
  let valBegin ← strchr mem attr '('
  if valBegin = .null then return (mem, format)
  let stop ← strchr mem valBegin ')'
  if stop = .null then return (mem, format)
  -- `type = '\0'` sets the pointer; the character at it stays what it is
  let type := CharPtr.null
  setAttribute abi strtod mem attr type.succ valBegin.succ stop format

/-- The loop; every pass but the last moves the address `strtok` goes on from. -/
def readAttributes : Nat → List Byte → CharPtr → Nat → AMediaFormat Single →
    Except Fault (AMediaFormat Single)
  | 0, _, _, _, _ => .error .endless
  | passes + 1, mem, attr, saved, format => do
    let (mem, format) ← readAttribute abi strtod mem attr format
    let (attr, saved, mem) ← strtok mem saved
    if attr = .null then return format
    readAttributes passes mem attr saved format

/-- `audiostream_createFormat` on a string at the start of the given memory. -/
def createFormat (mem : List Byte) : Except Fault (AMediaFormat Single) := do
  let (attr, saved, mem) ← strtok mem 0
  readAttributes abi strtod (mem.length + 1) mem attr saved []

/-- The loop's body comes to the comparisons of the type for such a token only. -/
def ReachesType (tok : List Byte) : Prop :=
  char ':' ∈ tok ∧ char ')' ∈ tok.dropWhile (· ≠ char '(')

instance (tok : List Byte) : Decidable (ReachesType tok) := inferInstanceAs (Decidable (_ ∧ _))

section Strings

variable {mem : List Byte} {i : Nat} {s : List Byte} {c : Char}

theorem strchr_eq_text {a b : List Byte} (h : StringAt mem i (a ++ char c :: b))
    (hFirst : char c ∉ a) : strchr mem (.text i) c = .ok (.text (i + a.length)) := by
  simp [strchr, reading, CString.strchr_found h hFirst]

theorem strchr_eq_null (h : StringAt mem i s) (hMissing : char c ∉ s) (hChar : char c ≠ 0) :
    strchr mem (.text i) c = .ok .null := by
  simp [strchr, reading, CString.strchr_missing h hMissing hChar]

/-- One search, whether it succeeds or not. -/
theorem strchr_ok (h : StringAt mem i s) (hChar : char c ≠ 0) :
    ∃ p, strchr mem (.text i) c = .ok p ∧ (p = .null ↔ char c ∉ s) := by
  by_cases hMem : char c ∈ s
  · obtain ⟨a, b, rfl, hFirst⟩ := List.eq_append_cons_of_mem hMem
    exact ⟨_, strchr_eq_text h hFirst, by simp [CharPtr.null]⟩
  · exact ⟨_, strchr_eq_null h hMem hChar, by simp [hMem]⟩

theorem except_bind_ok {β γ : Type} (x : β) (f : β → Except Fault γ) :
    ((Except.ok x : Except Fault β) >>= f) = f x := rfl

/-- The type is compared at the address that `type++` makes of null. -/
theorem setAttribute_wild (attr valBegin stop : CharPtr) (format : AMediaFormat Single) :
    setAttribute abi strtod mem attr (CharPtr.succ .null) valBegin stop format =
      .error (.wild 1) := rfl

theorem not_reachesType (hOpen : char '(' ∉ s) : ¬ ReachesType s := by
  intro hReaches
  have hMem := hReaches.2
  rw [List.dropWhile_eq_nil_iff.mpr fun x hx => by
    simpa using fun hSame : x = char '(' => hOpen (hSame ▸ hx)] at hMem
  simp at hMem

theorem reachesType_iff {a b : List Byte} (hFirst : char '(' ∉ a) :
    ReachesType (a ++ char '(' :: b) ↔ char ':' ∈ a ++ char '(' :: b ∧ char ')' ∈ char '(' :: b := by
  unfold ReachesType
  rw [List.dropWhile_append_of_pos fun x hx => by
    simpa using fun hSame : x = char '(' => hFirst (hSame ▸ hx),
    List.dropWhile_cons_of_neg (by simp)]

theorem readAttribute_eq (h : StringAt mem i s) (format : AMediaFormat Single) :
    readAttribute abi strtod mem (.text i) format =
      if ReachesType s then .error (.wild 1) else .ok (mem, format) := by
  obtain ⟨type, hType, hColon⟩ := strchr_ok (c := ':') h (by decide)
  unfold readAttribute
  rw [hType, except_bind_ok]
  by_cases hKey : char ':' ∈ s
  case neg =>
    rw [if_pos (hColon.mpr hKey), if_neg fun hReaches => hKey hReaches.1]
    rfl
  rw [if_neg fun hNull => hColon.mp hNull hKey]
  by_cases hOpen : char '(' ∈ s
  case neg =>
    rw [strchr_eq_null h hOpen (by decide), except_bind_ok, if_pos rfl,
      if_neg (not_reachesType hOpen)]
    rfl
  obtain ⟨a, b, rfl, hFirst⟩ := List.eq_append_cons_of_mem hOpen
  obtain ⟨stop, hStop, hClose⟩ := strchr_ok (c := ')') h.drop (by decide)
  rw [strchr_eq_text h hFirst, except_bind_ok, if_neg (CharPtr.text_ne_null _), hStop,
    except_bind_ok]
  by_cases hEnd : char ')' ∈ char '(' :: b
  · rw [if_neg fun hNull => hClose.mp hNull hEnd,
      if_pos ((reachesType_iff hFirst).mpr ⟨hKey, hEnd⟩)]
    exact setAttribute_wild ..
  · rw [if_pos (hClose.mpr hEnd),
      if_neg fun hReaches => hEnd ((reachesType_iff hFirst).mp hReaches).2]
    rfl

/-- The first token of a string, and the string that is left behind it. -/
theorem strtok_cases (h : StringAt mem i s) :
    (tokens delimiters s = [] ∧ strtok mem i = .ok (.null, i, mem)) ∨
      ∃ start saved mem' tok rest, tokens delimiters s = tok :: tokens delimiters rest ∧
        strtok mem i = .ok (.text start, saved, mem') ∧ StringAt mem' start tok ∧
        StringAt mem' saved rest ∧ rest.length < s.length := by
  rcases CString.strtok_cases (by decide : (0 : Byte) ∉ delimiters) h with
    ⟨hTokens, hStrtok⟩ | ⟨token, mem', tok, rest, hTokens, hStrtok, hTok, hRest, hShorter⟩
  · exact Or.inl ⟨hTokens, by simp [strtok, reading, hStrtok]⟩
  · exact Or.inr ⟨token.start, token.saved, mem', tok, rest, hTokens,
      by simp [strtok, reading, hStrtok], hTok, hRest, hShorter⟩

/-- The whole loop: no token sets anything, and one that comes to the type is fatal. -/
theorem readAttributes_eq {passes saved : Nat} {tok rest : List Byte} (hTok : StringAt mem i tok)
    (hRest : StringAt mem saved rest) (hPasses : rest.length < passes)
    (format : AMediaFormat Single) :
    readAttributes abi strtod passes mem (.text i) saved format =
      if ∃ t ∈ tok :: tokens delimiters rest, ReachesType t then .error (.wild 1)
      else .ok format := by
  induction passes generalizing mem i saved tok rest with
  | zero => omega
  | succ passes ih =>
      unfold readAttributes
      rw [readAttribute_eq abi strtod hTok]
      by_cases hReaches : ReachesType tok
      case pos => simp [hReaches, bind, Except.bind]
      rcases strtok_cases hRest with
        ⟨hNone, hStrtok⟩ | ⟨start, saved', mem', tok', rest', hTokens, hStrtok, hTok', hRest', hShorter⟩
      · simp [hReaches, hNone, hStrtok, bind, Except.bind, pure, Except.pure]
      · have hLoop := ih hTok' hRest' (by omega)
        simp [hReaches, hTokens, hStrtok, CharPtr.null, bind, Except.bind, hLoop]

/-- What `audiostream_createFormat` makes of any string. -/
theorem createFormat_eq (h : StringAt mem 0 s) :
    createFormat abi strtod mem =
      if tokens delimiters s = [] then .error (.wild 0)
      else if ∃ t ∈ tokens delimiters s, ReachesType t then .error (.wild 1)
      else .ok [] := by
  unfold createFormat
  rcases strtok_cases h with
    ⟨hNone, hStrtok⟩ | ⟨start, saved, mem', tok, rest, hTokens, hStrtok, hTok, hRest, hShorter⟩
  · rw [hStrtok, if_pos hNone]
    rfl
  · have hLoop := readAttributes_eq abi strtod hTok hRest
      (Nat.lt_succ_of_lt hRest.length_lt) []
    rw [hStrtok, except_bind_ok, hTokens, if_neg (List.cons_ne_nil _ _)]
    exact hLoop

end Strings

end

end AudioSync.Format
