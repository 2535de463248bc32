import AudioSync.Format.CreateFormat

namespace AudioSync.Format

open CString

/-- A packet as the constructor of `RTCPAPPPacket` leaves it. Its header counts its 32 bit
words, less one, in 16 bits. -/
structure RTCPAPPPacket where
  data : List Byte
  short : data.length ≤ 4 * 2 ^ 16
  knownformat : Bool
  appdatalen : Nat
  fits : knownformat → 12 + appdatalen ≤ data.length

namespace RTCPAPPPacket

def unknown (data : List Byte) (short : data.length ≤ 4 * 2 ^ 16) : RTCPAPPPacket where
  data := data
  short := short
  knownformat := false
  appdatalen := 0
  fits := nofun

/-- The packet when `len` of its bytes are not padding. -/
def ofLength (data : List Byte) (short : data.length ≤ 4 * 2 ^ 16) (len : Nat)
    (hLen : len ≤ data.length) : RTCPAPPPacket :=
  if hHeader : len < 12 then unknown data short
  else
    { data := data
      short := short
      knownformat := true
      appdatalen := len - 12
      fits := fun _ => by omega }

/-- The constructor; the compound packet passes the bytes of one packet. -/
def ofData (data : List Byte) (short : data.length ≤ 4 * 2 ^ 16) : RTCPAPPPacket :=
  if (data.headD 0).getLsbD 5 then
    let padcount := (data.getLastD 0).toNat
    if padcount % 4 ≠ 0 ∨ data.length ≤ padcount then unknown data short
    else ofLength data short (data.length - padcount) (Nat.sub_le ..)
  else ofLength data short data.length (Nat.le_refl _)

def getSubType (packet : RTCPAPPPacket) : Nat :=
  if packet.knownformat then (packet.data.headD 0).toNat % 32 else 0

def getAPPData (packet : RTCPAPPPacket) : CharPtr :=
  if packet.knownformat ∧ packet.appdatalen ≠ 0 then .text 0 else .null

def getAPPDataLength (packet : RTCPAPPPacket) : Nat :=
  if packet.knownformat then packet.appdatalen else 0

/-- The memory that the APP data is. -/
def appData (packet : RTCPAPPPacket) : List Byte :=
  (packet.data.drop 12).take packet.getAPPDataLength

@[simp]
theorem appData_length (packet : RTCPAPPPacket) :
    packet.appData.length = packet.getAPPDataLength := by
  have hFits := packet.fits
  simp only [appData, getAPPDataLength, List.length_take, List.length_drop]
  split
  · have := hFits ‹_›
    omega
  · simp

theorem getAPPData_eq (packet : RTCPAPPPacket) :
    packet.getAPPData = if packet.appData = [] then .null else .text 0 := by
  have hEmpty : packet.appData = [] ↔ packet.getAPPDataLength = 0 := by
    rw [← List.length_eq_zero_iff, appData_length]
  simp only [hEmpty, getAPPData, getAPPDataLength]
  cases packet.knownformat <;> simp

theorem getAPPDataLength_lt (packet : RTCPAPPPacket) (abi : Abi) :
    packet.getAPPDataLength < 2 ^ abi.bits := by
  have hShort := packet.short
  have hWide := abi.two_pow_bits_ge
  have hLength : packet.getAPPDataLength ≤ packet.data.length := by
    rw [← packet.appData_length]
    exact (List.length_take_le' ..).trans (by simp)
  omega

end RTCPAPPPacket

def AUDIOSTREAM_PACKET_MEDIAFORMAT : Nat := 1

/-- Pointer arithmetic, with an unsigned offset. -/
def CharPtr.add (abi : Abi) (p : CharPtr) (offset : Nat) : CharPtr :=
  match p with
  | .text i => .text (i + offset)
  | .address a => .address (abi.size (a + offset))

/-- The media codec library, as far as a receiver needs it to configure a codec. -/
structure CodecLibrary (Single Codec : Type) where
  createDecoderByType : List Byte → Option Codec
  configure : Codec → AMediaFormat Single → Bool

structure ReceiverSession (Single Codec : Type) where
  format : Option (AMediaFormat Single)
  codec : Option Codec

section

variable {Single Codec : Type} (abi : Abi) (codecs : CodecLibrary Single Codec)
variable (strtod : List Byte → CharPtr → Except Fault (Single × CharPtr))

/-- `ReceiverSession::SetFormat` -/
def setFormat (session : ReceiverSession Single Codec) (newFormat : AMediaFormat Single) :
    ReceiverSession Single Codec :=
  match newFormat.get (chars "mime") with
  | some (.string mime) =>
      match codecs.createDecoderByType mime with
      | some newCodec =>
          if codecs.configure newCodec newFormat then ⟨some newFormat, some newCodec⟩ else session
      | none => session
  | _ => session

/-- `ReceiverSession::OnAPPPacket` -/
def onAPPPacket (session : ReceiverSession Single Codec) (packet : RTCPAPPPacket) :
    Except Fault (ReceiverSession Single Codec) := do
  if packet.getSubType = AUDIOSTREAM_PACKET_MEDIAFORMAT then
    let formatString := packet.getAPPData
    let mem := packet.appData
    let last ← reading (mem[·]?) (formatString.add abi (abi.size (packet.getAPPDataLength - 1)))
    if last = 0 then
      -- the log prints the string
      let _ ← reading (readString mem) formatString
      let newFormat ← createFormat abi strtod mem
      if session.format.isNone then return setFormat codecs session newFormat
      else return session
    else return session
  else return session

/-- No access faults, and the handler returns. -/
def Safe {β : Type} (outcome : Except Fault β) : Prop := ∃ x, outcome = .ok x

theorem safe_ok {β : Type} (x : β) : Safe (.ok x) := ⟨x, rfl⟩

theorem not_safe_error {β : Type} (fault : Fault) : ¬ Safe (.error fault : Except Fault β) := nofun

/-- The string that the data begins with. -/
def firstString (data : List Byte) : List Byte := data.takeWhile (· ≠ 0)

/-- There is data, and if it ends with a NUL, then its first string has a token and none
that comes to the comparisons of the type. -/
def Harmless (data : List Byte) : Prop :=
  data ≠ [] ∧ (data.getLast? = some 0 →
    tokens delimiters (firstString data) ≠ [] ∧
      ∀ t ∈ tokens delimiters (firstString data), ¬ ReachesType t)

/-- An empty format has no type to make a codec for. -/
theorem setFormat_nil (session : ReceiverSession Single Codec) :
    setFormat codecs session [] = session := rfl

variable {session : ReceiverSession Single Codec} {packet : RTCPAPPPacket}

theorem onAPPPacket_empty (hSub : packet.getSubType = AUDIOSTREAM_PACKET_MEDIAFORMAT)
    (hEmpty : packet.appData = []) :
    onAPPPacket abi codecs strtod session packet = .error (.wild (2 ^ abi.bits - 1)) := by
  have hLength : packet.getAPPDataLength = 0 := by rw [← packet.appData_length, hEmpty]; rfl
  have hNull : packet.getAPPData = .address 0 := by rw [packet.getAPPData_eq, if_pos hEmpty]; rfl
  unfold onAPPPacket
  rw [if_pos hSub, hNull, hLength]
  cases abi <;> rfl

/-- With data, the byte that is looked at is the last one. -/
theorem load_last {c : Byte} (hLast : packet.appData.getLast? = some c) :
    reading (packet.appData[·]?)
      (packet.getAPPData.add abi (abi.size (packet.getAPPDataLength - 1))) = .ok c := by
  have hSome : packet.appData ≠ [] := by
    intro hEmpty
    rw [hEmpty] at hLast
    cases hLast
  have hPos : 0 < packet.getAPPDataLength := by
    rw [← packet.appData_length]
    exact List.length_pos_of_ne_nil hSome
  have hSize : abi.size (packet.getAPPDataLength - 1) = packet.getAPPDataLength - 1 := by
    have hLess := packet.getAPPDataLength_lt abi
    have hSize : abi.size (packet.getAPPDataLength - 1 : Nat) = packet.getAPPDataLength - 1 :=
      Abi.size_of_lt (by omega)
    rwa [Nat.cast_sub hPos] at hSize
  rw [List.getLast?_eq_getElem?, packet.appData_length] at hLast
  rw [packet.getAPPData_eq, if_neg hSome, hSize]
  simp [CharPtr.add, reading, hLast]

theorem onAPPPacket_unterminated (hSub : packet.getSubType = AUDIOSTREAM_PACKET_MEDIAFORMAT)
    {c : Byte} (hLast : packet.appData.getLast? = some c) (hOther : c ≠ 0) :
    onAPPPacket abi codecs strtod session packet = .ok session := by
  unfold onAPPPacket
  rw [if_pos hSub]
  simp only
  rw [load_last abi hLast, except_bind_ok, if_neg hOther]
  rfl

/-- The string that `audiostream_createFormat` is called with. -/
theorem onAPPPacket_terminated (hSub : packet.getSubType = AUDIOSTREAM_PACKET_MEDIAFORMAT)
    (hLast : packet.appData.getLast? = some 0) :
    onAPPPacket abi codecs strtod session packet =
      if tokens delimiters (firstString packet.appData) = [] then .error (.wild 0)
      else if ∃ t ∈ tokens delimiters (firstString packet.appData), ReachesType t then
        .error (.wild 1)
      else .ok session := by
  have hString : StringAt packet.appData 0 (firstString packet.appData) :=
    stringAt_takeWhile (List.mem_of_getLast? hLast)
  have hText : packet.getAPPData = .text 0 := by
    rw [packet.getAPPData_eq, if_neg]
    intro hEmpty
    rw [hEmpty] at hLast
    cases hLast
  have hLog : reading (readString packet.appData) (.text 0) =
      .ok (firstString packet.appData) := by
    simp [reading, readString_eq hString]
  unfold onAPPPacket
  rw [if_pos hSub]
  simp only
  rw [load_last abi hLast, except_bind_ok, if_pos rfl, hText, hLog, except_bind_ok,
    createFormat_eq abi strtod hString]
  split
  · rfl
  · split
    · rfl
    · rw [except_bind_ok, setFormat_nil]
      split <;> rfl

/-- Exactly the harmless data is handled without a bad access. -/
theorem safe_onAPPPacket_iff (session : ReceiverSession Single Codec) (packet : RTCPAPPPacket)
    (hSub : packet.getSubType = AUDIOSTREAM_PACKET_MEDIAFORMAT) :
    Safe (onAPPPacket abi codecs strtod session packet) ↔ Harmless packet.appData := by
  cases hLast : packet.appData.getLast? with
  | none =>
      have hEmpty := List.getLast?_eq_none_iff.mp hLast
      rw [onAPPPacket_empty abi codecs strtod hSub hEmpty]
      exact iff_of_false (not_safe_error _) fun hHarmless => hHarmless.1 hEmpty
  | some c =>
      have hSome : packet.appData ≠ [] := by
        intro hEmpty
        rw [hEmpty] at hLast
        cases hLast
      by_cases hNul : c = 0
      case neg =>
        rw [onAPPPacket_unterminated abi codecs strtod hSub hLast hNul]
        refine iff_of_true (safe_ok _) ⟨hSome, fun hEnd => absurd ?_ hNul⟩
        exact Option.some.inj (hLast.symm.trans hEnd)
      subst hNul
      rw [onAPPPacket_terminated abi codecs strtod hSub hLast]
      split
      case isTrue hNone =>
        exact iff_of_false (not_safe_error _) fun hHarmless => (hHarmless.2 hLast).1 hNone
      case isFalse hTokens =>
        split
        case isTrue hReaches =>
          obtain ⟨t, hToken, hType⟩ := hReaches
          exact iff_of_false (not_safe_error _) fun hHarmless =>
            (hHarmless.2 hLast).2 t hToken hType
        case isFalse hNever =>
          exact iff_of_true (safe_ok _)
            ⟨hSome, fun _ => ⟨hTokens, fun t hToken hType => hNever ⟨t, hToken, hType⟩⟩⟩

end

section Example

/-- An APP packet of subtype 1 from the source 1, with the given data. -/
def formatPacket (appData : List Byte) (short : appData.length ≤ 4) : RTCPAPPPacket :=
  .ofData ([0x81, 204, 0, 2, 0, 0, 0, 1] ++ chars "ADST" ++ appData) (by simp [chars]; omega)

/-- The theorem on a text without attributes. -/
theorem safe_onAPPPacket_plain :
    Safe (onAPPPacket .lp64 ⟨fun _ => some (), fun _ _ => true⟩ (fun _ p => .ok ((), p)) ⟨none, none⟩
      (formatPacket (chars "abc" ++ [0]) (by decide))) ↔ Harmless (chars "abc" ++ [0]) :=
  safe_onAPPPacket_iff .lp64 ⟨fun _ => some (), fun _ _ => true⟩ (fun _ p => .ok ((), p))
    ⟨none, none⟩ (formatPacket (chars "abc" ++ [0]) (by decide)) (by decide)

/-- A packet without data is read one byte before address 0. -/
theorem not_safe_onAPPPacket_empty :
    ¬ Safe (onAPPPacket .lp64 ⟨fun _ => some (), fun _ _ => true⟩ (fun _ p => .ok ((), p))
      ⟨none, none⟩ (formatPacket [] (by decide))) := by
  have hFault : onAPPPacket .lp64 ⟨fun _ => some (), fun _ _ => true⟩ (fun _ p => .ok ((), p))
      ⟨none, none⟩ (formatPacket [] (by decide)) = .error (.wild (2 ^ 64 - 1)) := by
    rfl
  rw [hFault]
  exact not_safe_error _

end Example

end AudioSync.Format
