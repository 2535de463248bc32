import AudioSync.Decoder.EnqueueBuffer

/-! Taking decoded data from the codec. `decoder_dequeueBuffer` tests the flags of a
structure that the codec fills in only when it returns a buffer. -/
namespace AudioSync.Decoder

/-- `AMEDIACODEC_INFO_TRY_AGAIN_LATER`. -/
def INFO_TRY_AGAIN_LATER : Int := -1

/-- `AMediaCodecBufferInfo`. -/
structure BufferInfo where
  offset : Int
  size : Int
  presentationTimeUs : Int
  flags : Nat

/-- `info.flags & AMEDIACODEC_BUFFER_FLAG_END_OF_STREAM` is not 0. -/
def BufferInfo.endOfStream (info : BufferInfo) : Bool :=
  info.flags &&& BUFFER_FLAG_END_OF_STREAM != 0

/-- The codec's answers during one call. Without a buffer, `info` is what was on the stack
before; `outputBuffer` is the memory around the buffer. -/
structure OutputAnswer where
  bufIdx : Int
  info : BufferInfo
  outputBuffer : Int → Byte
  releaseOutputBuffer : MediaStatus

/-- What `sinkFunc` is called with. -/
structure PcmBuffer where
  data : List Byte
  playbackTime : Int
  deriving DecidableEq

/-- The decoded data of an answer, if it has any. -/
def OutputAnswer.pcm (answer : OutputAnswer) : Option PcmBuffer :=
  if 0 ≤ answer.bufIdx ∧ 0 < answer.info.size then
    some ⟨(List.range answer.info.size.toNat).map fun i =>
      answer.outputBuffer (answer.info.offset + i), answer.info.presentationTimeUs⟩
  else none

/-- `decoder_dequeueBuffer`: what it hands to `sinkFunc` and what it returns. A change of
the format is only logged. -/
def dequeueBuffer (answer : OutputAnswer) : Option PcmBuffer × Bool :=
  if 0 ≤ answer.bufIdx then
    let passed := if 0 < answer.info.size then
        some ⟨(List.range answer.info.size.toNat).map fun i =>
          answer.outputBuffer (answer.info.offset + i), answer.info.presentationTimeUs⟩
      else none
    if answer.releaseOutputBuffer ≠ AMEDIA_OK then (passed, false)
    else (passed, !answer.info.endOfStream)
  else (none, !answer.info.endOfStream)

variable {answer : OutputAnswer}

/-- Whatever it returns, the data goes to the sink. -/
theorem dequeueBuffer_fst (answer : OutputAnswer) : (dequeueBuffer answer).1 = answer.pcm := by
  rw [dequeueBuffer, OutputAnswer.pcm]
  by_cases hBuffer : 0 ≤ answer.bufIdx
  · simp only [hBuffer, true_and, if_true]
    split <;> rfl
  · simp [hBuffer]

/-- When the buffer can be released, the flags decide, set or not. -/
theorem dequeueBuffer_snd (hReleased : answer.releaseOutputBuffer = AMEDIA_OK) :
    (dequeueBuffer answer).2 = !answer.info.endOfStream := by
  rw [dequeueBuffer]
  split
  · rw [if_neg (not_not_intro hReleased)]
  · rfl

/-- What a codec puts out once the end of the stream is queued: after any number of answers,
a buffer that is flagged. All buffers can be released. -/
structure EndedOutput where
  before : List OutputAnswer
  last : OutputAnswer
  unended : ∀ answer ∈ before, 0 ≤ answer.bufIdx → answer.info.endOfStream = false
  ended : 0 ≤ last.bufIdx ∧ last.info.endOfStream = true
  released : ∀ answer ∈ before ++ [last], answer.releaseOutputBuffer = AMEDIA_OK

namespace EndedOutput

def answers (output : EndedOutput) : List OutputAnswer := output.before ++ [output.last]

/-- The decoded data up to the end. -/
def pcm (output : EndedOutput) : List PcmBuffer := output.answers.filterMap OutputAnswer.pcm

end EndedOutput

end AudioSync.Decoder
