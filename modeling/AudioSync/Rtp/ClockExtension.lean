import AudioSync.Rtp.Session
import AudioSync.Lib.ByteOrder

/-! The header extension that carries the sender's clock time for a sample. -/
namespace AudioSync.Rtp

open ByteOrder

/-- `AUDIOSYNC_EXTENSION_HEADER_ID`. -/
def AUDIOSYNC_EXTENSION_HEADER_ID : BitVec 16 := 7

/-- `htonq` of an `int64_t` that lies in a little-endian machine's memory. -/
def htonq (value : Int) : BitVec 64 := swap64 (BitVec.ofInt 64 value)

def ntohq (word : BitVec 64) : Int := (swap64 word).toInt

def clockExtension (systemTimeUs : Int) : HeaderExtension :=
  ⟨AUDIOSYNC_EXTENSION_HEADER_ID, 2, wordBytes (htonq systemTimeUs), by simp [wordBytes]⟩

/-- The clock time `ReceiverSession` finds in an extension of the right kind. -/
def HeaderExtension.clockTime (extension : HeaderExtension) : Option Int :=
  if extension.id = AUDIOSYNC_EXTENSION_HEADER_ID ∧ 4 * extension.words.toNat = 8 then
    some (ntohq (bytesWord extension.data))
  else none

theorem clockTime_clockExtension (systemTimeUs : Int) :
    (clockExtension systemTimeUs).clockTime = some (int64 systemTimeUs) := by
  have hKind : (clockExtension systemTimeUs).id = AUDIOSYNC_EXTENSION_HEADER_ID ∧
      4 * (clockExtension systemTimeUs).words.toNat = 8 := ⟨rfl, rfl⟩
  rw [HeaderExtension.clockTime, if_pos hKind, clockExtension, bytesWord_wordBytes, ntohq, htonq,
    swap64_swap64, BitVec.toInt_ofInt]
  rfl

end AudioSync.Rtp
