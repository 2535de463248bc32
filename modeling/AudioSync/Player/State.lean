import AudioSync.Player.Fifo

/-! The global variables of the audio player, and the memory operations its
callback performs on the sample buffers. -/
namespace AudioSync.Player

open MachineInt

/-- `N_BUFFERS`. -/
def N_BUFFERS : Nat := 3

/-- `MAX_BUFFER_SIZE`. -/
def MAX_BUFFER_SIZE : Nat := 8192

/-- One PCM frame: the bytes of one 16 bit sample for each channel. -/
abbrev Frame := List Byte

/-- `_playbackMark`: a position in the frame stream and its media time. -/
structure PlaybackMark where
  frameCount : Nat
  playbackTimeUs : Int
  deriving DecidableEq, Repr

/-- The function-local statics of `audioplayer_monitorPlayback`. -/
structure Monitor where
  lastPrint : Int
  lastDiff : Int
  lastAdjustment : Int
  listenTime : Int

/-- The player's globals, with `accuracy`, a static local of the callback. The
sample rate is positive: `audioplayer_initPlayback` aborts on an empty FIFO. -/
structure State where
  globalSamplesPerSec : Nat
  globalFramesPerBuffers : Nat
  currentSamplesPerSec : Nat
  currentNumChannels : Nat
  currentRatePermille : Int
  fifo : BoundedQueue Frame
  currentSyncSystemTimeUs : Int
  currentBufferedFrames : Nat
  currentSystemTimeOffsetUs : Int
  currentDeviceLatency : Int
  currentPlaybackMarkQueue : List PlaybackMark
  currentIsPlaying : Bool
  currentEnableJumps : Bool
  currentQueuedFrames : Int
  lastMark : PlaybackMark
  currentStarted : Int
  currentDrop : Int
  currentDiff : Int
  tempBuffers : Pointer
  tempBuffersIx : Nat
  accuracy : Int
  monitor : Monitor
  samplesPerSec_pos : 0 < currentSamplesPerSec

/-- A buffer handed to OpenSL, with the bytes it held at that time. -/
structure SLBuffer where
  address : Nat
  data : List Byte
  deriving DecidableEq

section Memory

/-- The memory after a block of bytes has been stored at an address. -/
def store (memory : Pointer) (address : Nat) (block : List Byte) : Pointer :=
  fun i => if address ≤ i then (block[i - address]?).getD (memory i) else memory i

/-- `memset`. -/
def memset (memory : Pointer) (address : Nat) (value : Byte) (count : Nat) : Pointer :=
  store memory address (List.replicate count value)

/-- The little-endian 16 bit sample with the given index. -/
def sample (memory : Pointer) (index : Nat) : Int :=
  (memory (2 * index + 1) ++ memory (2 * index)).toInt

def setSample (memory : Pointer) (index : Nat) (value : Int) : Pointer :=
  let bits := BitVec.ofInt 16 value
  store memory (2 * index) [bits.setWidth 8, (bits >>> 8).setWidth 8]

end Memory

namespace State

variable (abi : Abi) (player : State)

/-- `numChannels * sizeof(int16_t)`. -/
def frameSize : Nat := abi.size (player.currentNumChannels * 2)

/-- `global_framesPerBuffers * frameSize`. -/
def maxBufferSize : Nat := abi.size (player.globalFramesPerBuffers * player.frameSize abi)

/-- `audio_utils_fifo_read` into the sample buffers at a byte address. -/
def fifoRead (player : State) (address count : Nat) : State × List Frame :=
  let (fifo, frames) := player.fifo.read count
  ({ player with fifo := fifo, tempBuffers := store player.tempBuffers address frames.flatten },
    frames)

/-- `Enqueue` of `count` bytes at a byte address, as an `SLuint32` size. -/
def slBuffer (player : State) (address count : Nat) : SLBuffer :=
  ⟨address, (player.tempBuffers.add address).bytes (toUnsigned 32 count)⟩

@[simp]
theorem slBuffer_length (address count : Nat) :
    (player.slBuffer address count).data.length = toUnsigned 32 count := by
  simp [slBuffer]

@[simp]
theorem fifoRead_fifo (address count : Nat) :
    (player.fifoRead address count).1.fifo = (player.fifo.read count).1 := rfl

@[simp]
theorem fifoRead_frames (address count : Nat) :
    (player.fifoRead address count).2 = (player.fifo.read count).2 := rfl

@[simp]
theorem fifoRead_queuedFrames (address count : Nat) :
    (player.fifoRead address count).1.currentQueuedFrames = player.currentQueuedFrames := rfl

end State

end AudioSync.Player
