import AudioSync.Rtp.Session
import AudioSync.Lib.ByteOrder

/-! The bytes of a data packet: what `RTPPacket::BuildPacket` writes, and what
`RTPPacket::ParseRawPacket` reads from a datagram. -/
namespace AudioSync

open ByteOrder

namespace Pointer

theorem bytes_add (p : Pointer) (first second : Nat) :
    p.bytes (first + second) = p.bytes first ++ (p.add first).bytes second := by
  simp only [bytes, List.range_add, List.map_append, List.map_map]
  rfl

theorem add_add (p : Pointer) (first second : Nat) :
    (p.add first).add second = p.add (first + second) := by
  funext i
  simp only [add, Nat.add_assoc]

/-- Memory that holds two byte strings one after the other. -/
theorem bytes_eq_append {p : Pointer} {count : Nat} {first second : List Byte} :
    p.bytes count = first ++ second ↔ count = first.length + second.length ∧
      p.bytes first.length = first ∧ (p.add first.length).bytes second.length = second := by
  constructor
  · intro hBytes
    have hCount : count = first.length + second.length := by
      simpa using congrArg List.length hBytes
    rw [hCount, bytes_add] at hBytes
    obtain ⟨hFirst, hSecond⟩ := List.append_inj hBytes (by simp)
    exact ⟨hCount, hFirst, hSecond⟩
  · intro h
    rw [h.1, bytes_add, h.2.1, h.2.2]

/-- `ntohs` or `ntohl` of the word at an address. -/
def ntoh (p : Pointer) (width : Nat) : Nat := bigValue (p.bytes width)

theorem ntoh_lt (p : Pointer) (width : Nat) : p.ntoh width < 256 ^ width := by
  simpa [ntoh] using bigValue_lt (p.bytes width)

theorem bytes_eq_bigEndian (p : Pointer) (width : Nat) :
    p.bytes width = bigEndian width (p.ntoh width) := by
  simpa [ntoh] using (bigEndian_bigValue (p.bytes width)).symm

/-- The bytes of a number are read as this number, and only they are. -/
theorem bytes_eq_bigEndian_iff {p : Pointer} {width n : Nat} (hFits : n < 256 ^ width) :
    p.bytes width = bigEndian width n ↔ p.ntoh width = n := by
  constructor
  · intro hBytes
    rw [ntoh, hBytes, bigValue_bigEndian, Nat.mod_eq_of_lt hFits]
  · intro hNumber
    rw [bytes_eq_bigEndian, hNumber]

/-- The same for a word of this width. -/
theorem bytes_eq_word {p : Pointer} {width : Nat} {word : BitVec (8 * width)} :
    p.bytes width = bigEndian width word.toNat ↔
      BitVec.ofNat (8 * width) (p.ntoh width) = word := by
  have hPow : 2 ^ (8 * width) = 256 ^ width := Nat.pow_mul 2 8 width
  have hFits : word.toNat < 256 ^ width := hPow ▸ word.isLt
  have hRead : p.ntoh width < 2 ^ (8 * width) := hPow ▸ p.ntoh_lt width
  rw [bytes_eq_bigEndian_iff hFits, ← BitVec.toNat_inj, BitVec.toNat_ofNat,
    Nat.mod_eq_of_lt hRead]

/-- The first of `count` 32 bit words in network order. -/
def words (p : Pointer) : Nat → List (BitVec 32)
  | 0 => []
  | count + 1 => BitVec.ofNat 32 (p.ntoh 4) :: (p.add 4).words count

end Pointer

/-- 32 bit words in network order. -/
def wordsBytes (words : List (BitVec 32)) : List Byte :=
  words.flatMap fun word => bigEndian 4 word.toNat

@[simp]
theorem wordsBytes_length (words : List (BitVec 32)) :
    (wordsBytes words).length = 4 * words.length := by
  induction words with
  | nil => rfl
  | cons word words ih =>
      rw [wordsBytes] at ih ⊢
      rw [List.flatMap_cons, List.length_append, ih, bigEndian_length, List.length_cons]
      omega

namespace Pointer

@[simp]
theorem words_length (p : Pointer) (count : Nat) : (p.words count).length = count := by
  induction count generalizing p with
  | zero => rfl
  | succ count ih => rw [words, List.length_cons, ih]

theorem wordsBytes_words (p : Pointer) (count : Nat) :
    wordsBytes (p.words count) = p.bytes (4 * count) := by
  induction count generalizing p with
  | zero => rfl
  | succ count ih =>
      have hWord : (BitVec.ofNat 32 (p.ntoh 4)).toNat = p.ntoh 4 :=
        Nat.mod_eq_of_lt (p.ntoh_lt 4)
      rw [show 4 * (count + 1) = 4 + 4 * count by omega, bytes_add, ← ih (p.add 4),
        bytes_eq_bigEndian, words, wordsBytes, List.flatMap_cons, hWord]
      rfl

/-- The words that were written are the words that are read. -/
theorem words_eq {p : Pointer} {written : List (BitVec 32)}
    (hBytes : p.bytes (4 * written.length) = wordsBytes written) :
    p.words written.length = written := by
  induction written generalizing p with
  | nil => rfl
  | cons word written ih =>
      have hSplit : wordsBytes (word :: written) = bigEndian 4 word.toNat ++ wordsBytes written := rfl
      rw [hSplit, bytes_eq_append, wordsBytes_length, bigEndian_length] at hBytes
      have hWord : p.ntoh 4 = word.toNat := (bytes_eq_bigEndian_iff word.isLt).mp hBytes.2.1
      rw [List.length_cons, words, hWord, BitVec.ofNat_toNat, BitVec.setWidth_eq, ih hBytes.2.2]

end Pointer

namespace Rtp

/-- `RTP_VERSION`. -/
def RTP_VERSION : Nat := 2

/-- `RTPRawPacket`: a datagram, and the memory that its bytes begin. -/
structure RTPRawPacket where
  isRTP : Bool
  data : Pointer
  dataLength : Nat

/-- The datagram, which is all of the memory that was received. -/
def RTPRawPacket.bytes (rawpack : RTPRawPacket) : List Byte := rawpack.data.bytes rawpack.dataLength

namespace RTPHeader

/-! The bit fields of `RTPHeader`, and its words. -/

def version (header : Pointer) : Nat := (header 0).toNat / 64

def padding (header : Pointer) : Bool := decide ((header 0).toNat / 32 % 2 = 1)

def extension (header : Pointer) : Bool := decide ((header 0).toNat / 16 % 2 = 1)

def csrccount (header : Pointer) : Nat := (header 0).toNat % 16

def marker (header : Pointer) : Bool := decide ((header 1).toNat / 128 = 1)

def payloadtype (header : Pointer) : BitVec 8 := BitVec.ofNat 8 ((header 1).toNat % 128)

def sequencenumber (header : Pointer) : BitVec 16 := BitVec.ofNat 16 ((header.add 2).ntoh 2)

def timestamp (header : Pointer) : BitVec 32 := BitVec.ofNat 32 ((header.add 4).ntoh 4)

def ssrc (header : Pointer) : BitVec 32 := BitVec.ofNat 32 ((header.add 8).ntoh 4)

end RTPHeader

/-- The extension that an `RTPExtensionHeader` begins. -/
def extensionAt (rtpextheader : Pointer) : HeaderExtension where
  id := BitVec.ofNat 16 (rtpextheader.ntoh 2)
  words := BitVec.ofNat 16 ((rtpextheader.add 2).ntoh 2)
  data := (rtpextheader.add 4).bytes
    (4 * (BitVec.ofNat 16 ((rtpextheader.add 2).ntoh 2)).toNat)
  sized := by simp

namespace RTPRawPacket

/-- `rtpextheader`, which need not lie within the datagram. -/
def extensionHeader (rawpack : RTPRawPacket) : Option HeaderExtension :=
  if RTPHeader.extension rawpack.data then
    some (extensionAt (rawpack.data.add (12 + 4 * RTPHeader.csrccount rawpack.data)))
  else none

/-- `payloadoffset`, with the extension header and as many words as that counts. -/
def payloadOffset (rawpack : RTPRawPacket) : Nat :=
  12 + 4 * RTPHeader.csrccount rawpack.data +
    rawpack.extensionHeader.elim 0 fun extension => 4 + 4 * extension.words.toNat

/-- `numpadbytes`: the last byte counts the bytes of the padding. -/
def numPadBytes (rawpack : RTPRawPacket) : Nat :=
  if RTPHeader.padding rawpack.data then (rawpack.data (rawpack.dataLength - 1)).toNat else 0

/-- `payloadlength`, an `int`. -/
def payloadLength (rawpack : RTPRawPacket) : Int :=
  MachineInt.toSigned 32
    ((rawpack.dataLength : Int) - rawpack.numPadBytes - rawpack.payloadOffset)

end RTPRawPacket

namespace RTPPacket

/-- The members that `RTPPacket::ParseRawPacket` fills in. -/
def ofRawPacket (rawpack : RTPRawPacket) : RTPPacket where
  payloadType := RTPHeader.payloadtype rawpack.data
  hasMarker := RTPHeader.marker rawpack.data
  sequenceNumber := RTPHeader.sequencenumber rawpack.data
  timestamp := RTPHeader.timestamp rawpack.data
  ssrc := RTPHeader.ssrc rawpack.data
  csrcs := (rawpack.data.add 12).words (RTPHeader.csrccount rawpack.data)
  extension := rawpack.extensionHeader
  payload := (rawpack.data.add rawpack.payloadOffset).bytes rawpack.payloadLength.toNat

/-- `RTPPacket::ParseRawPacket`. Its only error is `ERR_RTP_PACKET_INVALIDPACKET`. -/
def parseRawPacket (rawpack : RTPRawPacket) : Option RTPPacket :=
  let rtpheader := rawpack.data
  if rawpack.isRTP = false then none
  else if rawpack.dataLength < 12 then none
  else if RTPHeader.version rtpheader ≠ RTP_VERSION then none
  -- these two would be a sender or a receiver report
  else if RTPHeader.marker rtpheader ∧
      (RTPHeader.payloadtype rtpheader = 72 ∨ RTPHeader.payloadtype rtpheader = 73) then none
  else if RTPHeader.padding rtpheader ∧ rawpack.numPadBytes = 0 then none
  else if rawpack.payloadLength < 0 then none
  else some (ofRawPacket rawpack)

/-- The first two bytes: the bit fields of `RTPHeader`. -/
def flagBytes (packet : RTPPacket) (padded : Bool) : List Byte :=
  [BitVec.ofNat 8 (64 * RTP_VERSION + 32 * padded.toNat + 16 * packet.extension.isSome.toNat +
      packet.csrcs.length),
    BitVec.ofNat 8 (128 * packet.hasMarker.toNat + packet.payloadType.toNat % 128)]

def header (packet : RTPPacket) (padded : Bool) : List Byte :=
  packet.flagBytes padded ++ (bigEndian 2 packet.sequenceNumber.toNat ++
    (bigEndian 4 packet.timestamp.toNat ++ bigEndian 4 packet.ssrc.toNat))

/-- The extension header and its data. -/
def extensionBytes (extension : HeaderExtension) : List Byte :=
  bigEndian 2 extension.id.toNat ++ (bigEndian 2 extension.words.toNat ++ extension.data)

/-- A packet and the padding behind it. -/
def paddedBytes (packet : RTPPacket) (padding : List Byte) : List Byte :=
  packet.header (padding ≠ []) ++ (wordsBytes packet.csrcs ++
    (packet.extension.elim [] extensionBytes ++ (packet.payload ++ padding)))

/-- The bytes that `RTPPacket::BuildPacket` writes. -/
def bytes (packet : RTPPacket) : List Byte := packet.paddedBytes []

end RTPPacket

/-- The padding that a receiver takes off: its last byte counts all of its bytes. -/
def IsPadding (padding : List Byte) : Prop :=
  ∀ last ∈ padding.getLast?, last.toNat = padding.length

theorem isPadding_nil : IsPadding [] := by
  simp [IsPadding]

/-- What the header has room for, and no report's type. -/
structure RTPPacket.Sendable (packet : RTPPacket) : Prop where
  csrcs : packet.csrcs.length ≤ RTP_MAXCSRCS
  payloadType : packet.payloadType.toNat ≤ 127
  noReport : packet.hasMarker → packet.payloadType ≠ 72 ∧ packet.payloadType ≠ 73

namespace RTPPacket

variable {packet : RTPPacket} {p : Pointer} {padded : Bool}

/-- The bit fields that are read are those that were written. -/
theorem bytes_eq_flagBytes (hPacket : packet.Sendable) :
    p.bytes 2 = packet.flagBytes padded ↔
      RTPHeader.version p = RTP_VERSION ∧ RTPHeader.padding p = padded ∧
        RTPHeader.extension p = packet.extension.isSome ∧
        RTPHeader.csrccount p = packet.csrcs.length ∧ RTPHeader.marker p = packet.hasMarker ∧
        RTPHeader.payloadtype p = packet.payloadType := by
  have hCsrcs : packet.csrcs.length ≤ 15 := hPacket.csrcs
  have hType := hPacket.payloadType
  have hFirst := (p 0).isLt
  have hSecond := (p 1).isLt
  have hBytes : p.bytes 2 = [p 0, p 1] := rfl
  simp only [hBytes, flagBytes, List.cons.injEq, and_true, ← BitVec.toNat_inj, BitVec.toNat_ofNat,
    RTPHeader.version, RTPHeader.padding, RTPHeader.extension, RTPHeader.csrccount,
    RTPHeader.marker, RTPHeader.payloadtype, RTP_VERSION]
  cases padded <;> cases packet.extension.isSome <;> cases packet.hasMarker <;>
    simp only [Bool.toNat_false, Bool.toNat_true, decide_eq_true_eq, decide_eq_false_iff_not] <;>
    omega

/-- What `ParseRawPacket` reads from the header is what was written there. -/
theorem bytes_eq_header (hPacket : packet.Sendable) :
    p.bytes 12 = packet.header padded ↔
      RTPHeader.version p = RTP_VERSION ∧ RTPHeader.padding p = padded ∧
        RTPHeader.extension p = packet.extension.isSome ∧
        RTPHeader.csrccount p = packet.csrcs.length ∧ RTPHeader.marker p = packet.hasMarker ∧
        RTPHeader.payloadtype p = packet.payloadType ∧
        RTPHeader.sequencenumber p = packet.sequenceNumber ∧
        RTPHeader.timestamp p = packet.timestamp ∧ RTPHeader.ssrc p = packet.ssrc := by
  have hFlags : p.bytes 2 = packet.flagBytes padded ↔ _ := bytes_eq_flagBytes hPacket
  have hSequence : (p.add 2).bytes 2 = bigEndian 2 packet.sequenceNumber.toNat ↔
      RTPHeader.sequencenumber p = packet.sequenceNumber := Pointer.bytes_eq_word
  have hTimestamp : (p.add 4).bytes 4 = bigEndian 4 packet.timestamp.toNat ↔
      RTPHeader.timestamp p = packet.timestamp := Pointer.bytes_eq_word
  have hSsrc : (p.add 8).bytes 4 = bigEndian 4 packet.ssrc.toNat ↔
      RTPHeader.ssrc p = packet.ssrc := Pointer.bytes_eq_word
  have hLength : (packet.flagBytes padded).length = 2 := rfl
  simp only [header, Pointer.bytes_eq_append, Pointer.add_add, List.length_append, hLength,
    bigEndian_length, hFlags, hSequence, hTimestamp, hSsrc, true_and, and_assoc]

theorem extensionBytes_length (extension : HeaderExtension) :
    (extensionBytes extension).length = 4 + 4 * extension.words.toNat := by
  simp only [extensionBytes, List.length_append, bigEndian_length, extension.sized]
  omega

theorem bytes_eq_extensionBytes {extension : HeaderExtension} :
    p.bytes (4 + 4 * extension.words.toNat) = extensionBytes extension ↔
      extensionAt p = extension := by
  obtain ⟨id, words, data, hSized⟩ := extension
  have hId : p.bytes 2 = bigEndian 2 id.toNat ↔ BitVec.ofNat 16 (p.ntoh 2) = id :=
    Pointer.bytes_eq_word
  have hWords : (p.add 2).bytes 2 = bigEndian 2 words.toNat ↔
      BitVec.ofNat 16 ((p.add 2).ntoh 2) = words := Pointer.bytes_eq_word
  have hCount : 4 + 4 * words.toNat = 2 + (2 + 4 * words.toNat) := by omega
  simp only [extensionBytes, Pointer.bytes_eq_append, Pointer.add_add, List.length_append,
    bigEndian_length, hSized, hId, hWords, hCount, true_and, extensionAt,
    HeaderExtension.mk.injEq]
  constructor
  · rintro ⟨hSameId, hSameWords, hData⟩
    exact ⟨hSameId, hSameWords, by rw [hSameWords, hData]⟩
  · rintro ⟨hSameId, hSameWords, hData⟩
    exact ⟨hSameId, hSameWords, by rw [← hData, hSameWords]⟩

/-- The bytes of the extension header and its data, if there is one. -/
def extensionLength (packet : RTPPacket) : Nat :=
  packet.extension.elim 0 fun extension => 4 + 4 * extension.words.toNat

theorem bytes_eq_extension {rawpack : RTPRawPacket} {offset : Nat}
    (hExtension : RTPHeader.extension rawpack.data = packet.extension.isSome)
    (hOffset : offset = 12 + 4 * RTPHeader.csrccount rawpack.data) :
    (rawpack.data.add offset).bytes packet.extensionLength =
        packet.extension.elim [] extensionBytes ↔
      rawpack.extensionHeader = packet.extension := by
  subst hOffset
  rw [RTPRawPacket.extensionHeader, hExtension, extensionLength]
  cases packet.extension with
  | none => simp [Pointer.bytes]
  | some extension => simpa using bytes_eq_extensionBytes

theorem words_eq_csrcs :
    p.bytes (4 * packet.csrcs.length) = wordsBytes packet.csrcs ↔
      p.words packet.csrcs.length = packet.csrcs := by
  constructor
  · exact Pointer.words_eq
  · intro hWords
    rw [← Pointer.wordsBytes_words, hWords]

/-- A datagram is this packet with this padding when each field is read from it. -/
theorem bytes_eq_paddedBytes {rawpack : RTPRawPacket} {padding : List Byte}
    (hPacket : packet.Sendable) :
    rawpack.bytes = packet.paddedBytes padding ↔
      rawpack.dataLength = 12 + (4 * packet.csrcs.length + (packet.extensionLength +
        (packet.payload.length + padding.length))) ∧
      rawpack.data.bytes 12 = packet.header (padding ≠ []) ∧
      (rawpack.data.add 12).words packet.csrcs.length = packet.csrcs ∧
      rawpack.extensionHeader = packet.extension ∧
      (rawpack.data.add (12 + 4 * packet.csrcs.length + packet.extensionLength)).bytes
        packet.payload.length = packet.payload ∧
      (rawpack.data.add (12 + 4 * packet.csrcs.length + packet.extensionLength +
        packet.payload.length)).bytes padding.length = padding := by
  have hHeader : (packet.header (padding ≠ [])).length = 12 := by simp [header, flagBytes]
  have hLength : (packet.extension.elim [] extensionBytes).length = packet.extensionLength := by
    cases hExtension : packet.extension <;> simp [extensionLength, extensionBytes_length, hExtension]
  simp only [RTPRawPacket.bytes, paddedBytes, Pointer.bytes_eq_append, Pointer.add_add,
    List.length_append, hHeader, hLength, wordsBytes_length, words_eq_csrcs, true_and]
  constructor
  · rintro ⟨hCount, hFirst, hCsrcs, hExtension, hPayload, hPadding⟩
    have hFields := (bytes_eq_header hPacket).mp hFirst
    exact ⟨hCount, hFirst, hCsrcs, (bytes_eq_extension hFields.2.2.1 (by rw [hFields.2.2.2.1])).mp
      hExtension, hPayload, hPadding⟩
  · rintro ⟨hCount, hFirst, hCsrcs, hExtension, hPayload, hPadding⟩
    have hFields := (bytes_eq_header hPacket).mp hFirst
    exact ⟨hCount, hFirst, hCsrcs, (bytes_eq_extension hFields.2.2.1 (by rw [hFields.2.2.2.1])).mpr
      hExtension, hPayload, hPadding⟩

end RTPPacket

namespace RTPRawPacket

variable {rawpack : RTPRawPacket} {packet : RTPPacket}

/-- The lengths in a datagram that a socket can deliver fit an `int`. -/
theorem payloadLength_eq (hShort : rawpack.dataLength < 2 ^ 31) :
    rawpack.payloadLength =
      (rawpack.dataLength : Int) - rawpack.numPadBytes - rawpack.payloadOffset := by
  have hCsrcs : RTPHeader.csrccount rawpack.data < 16 := Nat.mod_lt _ (by decide)
  have hPad : rawpack.numPadBytes < 256 := by
    unfold numPadBytes
    split
    · exact BitVec.isLt _
    · decide
  have hOffset : rawpack.payloadOffset ≤ 2 ^ 20 := by
    unfold payloadOffset
    cases rawpack.extensionHeader with
    | none => simp only [Option.elim_none]; omega
    | some extension =>
        have hWords := extension.words.isLt
        simp only [Option.elim_some]
        omega
  refine (MachineInt.toSigned_eq_self (by decide)).mpr ⟨?_, ?_⟩ <;> omega

/-- The bytes that the last byte counts are a padding. -/
theorem isPadding_bytes {offset : Nat}
    (hLength : rawpack.dataLength = offset + rawpack.numPadBytes) :
    IsPadding ((rawpack.data.add offset).bytes rawpack.numPadBytes) := by
  intro last hLast
  rw [Pointer.bytes_length]
  cases hCount : rawpack.numPadBytes with
  | zero => simp [hCount, Pointer.bytes] at hLast
  | succ count =>
      have hLastByte : rawpack.data (rawpack.dataLength - 1) = last := by
        rw [hCount, Pointer.bytes, List.range_succ, List.map_append, List.map_singleton,
          List.getLast?_concat] at hLast
        rw [hLength, hCount]
        exact Option.some.inj hLast
      rw [numPadBytes] at hCount
      split at hCount
      · rw [← hLastByte, hCount]
      · cases hCount

/-- The padding of a datagram is as long as its last byte says. -/
theorem numPadBytes_eq {offset : Nat} {padding : List Byte} (hPadding : IsPadding padding)
    (hLength : rawpack.dataLength = offset + padding.length)
    (hFlag : RTPHeader.padding rawpack.data = decide (padding ≠ []))
    (hBytes : (rawpack.data.add offset).bytes padding.length = padding) :
    rawpack.numPadBytes = padding.length := by
  rcases List.eq_nil_or_concat padding with rfl | ⟨front, last, rfl⟩
  · simp [numPadBytes, hFlag]
  · have hLast := hPadding last (by simp)
    rw [List.concat_eq_append, List.length_append, List.length_singleton] at hLength hBytes hLast
    rw [Pointer.bytes_eq_append] at hBytes
    have hByte : rawpack.data (rawpack.dataLength - 1) = last := by
      have hAt := List.singleton_inj.mp hBytes.2.2
      rw [hLength]
      exact hAt
    rw [numPadBytes, hFlag, hByte]
    simp [hLast]

end RTPRawPacket

namespace RTPPacket

variable {packet : RTPPacket} {rawpack : RTPRawPacket}

theorem payloadOffset_eq (hCount : RTPHeader.csrccount rawpack.data = packet.csrcs.length)
    (hExtension : rawpack.extensionHeader = packet.extension) :
    rawpack.payloadOffset = 12 + 4 * packet.csrcs.length + packet.extensionLength := by
  rw [RTPRawPacket.payloadOffset, hCount, hExtension, extensionLength]

/-- What is accepted is a packet's bytes and a padding. -/
theorem of_parseRawPacket (hShort : rawpack.dataLength < 2 ^ 31)
    (hParse : parseRawPacket rawpack = some packet) :
    rawpack.isRTP = true ∧ packet.Sendable ∧
      ∃ padding, IsPadding padding ∧ rawpack.bytes = packet.paddedBytes padding := by
  unfold parseRawPacket at hParse
  dsimp only at hParse
  split_ifs at hParse with hRtp hLong hVersion hReport hPad hNegative
  obtain rfl := Option.some.inj hParse
  have hLengths := RTPRawPacket.payloadLength_eq hShort
  have hCsrcs : (ofRawPacket rawpack).csrcs.length = RTPHeader.csrccount rawpack.data :=
    Pointer.words_length ..
  have hCount : RTPHeader.csrccount rawpack.data < 16 := Nat.mod_lt _ (by decide)
  have hType : (RTPHeader.payloadtype rawpack.data).toNat ≤ 127 := by
    rw [RTPHeader.payloadtype, BitVec.toNat_ofNat]
    omega
  have hSendable : (ofRawPacket rawpack).Sendable := by
    refine ⟨?_, hType, ?_⟩
    · rw [hCsrcs]
      exact Nat.le_of_lt_succ hCount
    · intro hMarker
      have hOther := not_and.mp hReport hMarker
      exact ⟨fun h => hOther (Or.inl h), fun h => hOther (Or.inr h)⟩
  have hOffset : rawpack.payloadOffset = 12 + 4 * (ofRawPacket rawpack).csrcs.length +
      (ofRawPacket rawpack).extensionLength := payloadOffset_eq hCsrcs.symm rfl
  have hPayload : (ofRawPacket rawpack).payload.length = rawpack.payloadLength.toNat :=
    Pointer.bytes_length ..
  have hTotal : rawpack.dataLength =
      rawpack.payloadOffset + rawpack.payloadLength.toNat + rawpack.numPadBytes := by omega
  refine ⟨by simpa using hRtp, hSendable,
    (rawpack.data.add (rawpack.payloadOffset + rawpack.payloadLength.toNat)).bytes
      rawpack.numPadBytes, RTPRawPacket.isPadding_bytes hTotal, ?_⟩
  rw [bytes_eq_paddedBytes hSendable, bytes_eq_header hSendable, hCsrcs, hPayload,
    Pointer.bytes_length]
  rw [hCsrcs] at hOffset
  have hPadded : RTPHeader.padding rawpack.data = decide
      ((rawpack.data.add (rawpack.payloadOffset + rawpack.payloadLength.toNat)).bytes
        rawpack.numPadBytes ≠ []) := by
    rw [Bool.eq_iff_iff, decide_eq_true_iff, ne_eq, ← List.length_eq_zero_iff,
      Pointer.bytes_length]
    constructor
    · intro hFlag hNone
      exact hPad ⟨hFlag, hNone⟩
    · intro hSome
      by_contra hFlag
      exact hSome (by simp [RTPRawPacket.numPadBytes, hFlag])
  have hExtension : RTPHeader.extension rawpack.data =
      (ofRawPacket rawpack).extension.isSome := by
    show _ = rawpack.extensionHeader.isSome
    rw [RTPRawPacket.extensionHeader]
    cases RTPHeader.extension rawpack.data <;> rfl
  rw [← hOffset]
  exact ⟨by omega, ⟨not_not.mp hVersion, hPadded, hExtension, rfl, rfl, rfl, rfl, rfl, rfl⟩, rfl,
    rfl, rfl, rfl⟩

/-- A packet's bytes are accepted with any padding, and read as this packet. -/
theorem parseRawPacket_of_bytes {padding : List Byte} (hShort : rawpack.dataLength < 2 ^ 31)
    (hRtp : rawpack.isRTP = true) (hPacket : packet.Sendable) (hPadding : IsPadding padding)
    (hBytes : rawpack.bytes = packet.paddedBytes padding) :
    parseRawPacket rawpack = some packet := by
  rw [bytes_eq_paddedBytes hPacket, bytes_eq_header hPacket] at hBytes
  obtain ⟨hLength, ⟨hVersion, hFlag, -, hCount, hMarker, hType, hSequence, hTimestamp, hSsrc⟩,
    hCsrcs, hExtension, hPayload, hPadBytes⟩ := hBytes
  have hOffset := payloadOffset_eq hCount hExtension
  have hPad : rawpack.numPadBytes = padding.length :=
    RTPRawPacket.numPadBytes_eq hPadding (by omega) hFlag hPadBytes
  have hPayloadLength : rawpack.payloadLength = packet.payload.length := by
    rw [RTPRawPacket.payloadLength_eq hShort, hPad, hOffset]
    omega
  have hReport : ¬ (RTPHeader.marker rawpack.data = true ∧
      (RTPHeader.payloadtype rawpack.data = 72 ∨ RTPHeader.payloadtype rawpack.data = 73)) := by
    rw [hMarker, hType]
    rintro ⟨hSet, hReport | hReport⟩
    · exact (hPacket.noReport hSet).1 hReport
    · exact (hPacket.noReport hSet).2 hReport
  have hEmpty : ¬ (RTPHeader.padding rawpack.data = true ∧ rawpack.numPadBytes = 0) := by
    rw [hPad, hFlag, decide_eq_true_iff, List.length_eq_zero_iff]
    exact fun h => h.1 h.2
  unfold parseRawPacket
  dsimp only
  rw [if_neg (by simp [hRtp]), if_neg (by omega), if_neg (not_not.mpr hVersion), if_neg hReport,
    if_neg hEmpty, if_neg (by omega)]
  congr 1
  simp only [ofRawPacket, hType, hMarker, hSequence, hTimestamp, hSsrc, hCount, hCsrcs, hExtension,
    hOffset, hPayloadLength, Int.toNat_natCast, hPayload]

/-- Exactly the bytes of packets, with a padding or without, are accepted, and each packet is
read as it was written. -/
theorem parseRawPacket_eq_some_iff (hShort : rawpack.dataLength < 2 ^ 31) :
    parseRawPacket rawpack = some packet ↔ rawpack.isRTP = true ∧ packet.Sendable ∧
      ∃ padding, IsPadding padding ∧ rawpack.bytes = packet.paddedBytes padding := by
  constructor
  · exact of_parseRawPacket hShort
  · rintro ⟨hRtp, hPacket, padding, hPadding, hBytes⟩
    exact parseRawPacket_of_bytes hShort hRtp hPacket hPadding hBytes

/-- A datagram with an extension, one byte of payload and three of padding. -/
def paddedDatagram : RTPRawPacket where
  isRTP := true
  data := fun i => ([0xb0, 0x80, 0x12, 0x34, 0, 0, 0, 1, 0, 0, 0, 2, 0, 7, 0, 1, 1, 2, 3, 4, 5,
    0, 0, 3] : List Byte).getD i 0
  dataLength := 24

theorem parseRawPacket_eq_some_iff_paddedDatagram :
    (ofRawPacket paddedDatagram).payload = [5] ∧ ∃ padding, IsPadding padding ∧
      paddedDatagram.bytes = (ofRawPacket paddedDatagram).paddedBytes padding := by
  have hShort : paddedDatagram.dataLength < 2 ^ 31 := by decide
  have hParse : parseRawPacket paddedDatagram = some (ofRawPacket paddedDatagram) := rfl
  exact ⟨by decide, ((parseRawPacket_eq_some_iff hShort).mp hParse).2.2⟩

/-- The size that `BuildPacket` compares with the maximum is that of what it writes. -/
theorem bytes_length (packet : RTPPacket) : packet.bytes.length = packet.packetLength := by
  have hExtension : (packet.extension.elim [] extensionBytes).length =
      packet.extension.elim 0 fun extension => 4 + 4 * extension.words.toNat := by
    cases packet.extension <;> simp [extensionBytes_length]
  simp only [bytes, paddedBytes, header, flagBytes, List.length_append, List.length_cons,
    List.length_nil, bigEndian_length, wordsBytes_length, hExtension, packetLength]
  omega

/-- What `BuildPacket` accepts can be told from a report. -/
theorem sendable_of_buildPacket {maxsize : Nat} {built : RTPPacket}
    (hBuild : buildPacket maxsize packet = .ok built) : built = packet ∧ packet.Sendable := by
  unfold buildPacket at hBuild
  split_ifs at hBuild with hCsrcs hType hReport hSize
  cases hBuild
  exact ⟨rfl, not_lt.mp hCsrcs, not_lt.mp hType, fun _ => not_or.mp hReport⟩

end RTPPacket

end Rtp

end AudioSync
