import AudioSync.Rtp.ClockExtension
import Mathlib.Data.List.TakeWhile
import Mathlib.Order.Nat

/-! `SenderSession::RunNetwork`: one packet for each sample of the extractor, then
a packet with the marker bit. -/
namespace AudioSync.Sender

open Rtp

/-- The size of the buffer `RunNetwork` reads samples into. -/
def BUFFER_SIZE : Nat := 8192

/-- An encoded sample. Its time is an `int64_t`, and negative times stand for the
end of the data. -/
structure Sample where
  data : List Byte
  timeUs : Nat
  inRange : timeUs < 2 ^ 63

/-- `AMediaExtractor`: the samples from the current one on. -/
abbrev Extractor := List Sample

/-- `AMediaExtractor_readSampleData`; `none` is a negative result, at the end of
the data or for a sample that is larger than the buffer. -/
def readSampleData (extractor : Extractor) (capacity : Nat) : Option (List Byte) :=
  match extractor with
  | [] => none
  | sample :: _ => if sample.data.length ≤ capacity then some sample.data else none

/-- `AMediaExtractor_getSampleTime`. -/
def getSampleTime (extractor : Extractor) : Int :=
  match extractor with
  | [] => -1
  | sample :: _ => sample.timeUs

def sampleRequest (systemTimeUs : Int) (timestampinc : BitVec 32) (data : List Byte) :
    PacketRequest :=
  ⟨data, 0, false, timestampinc, some (clockExtension systemTimeUs)⟩

/-- The end of the data: a byte without meaning, in a packet with the marker bit. -/
def markerRequest (timestampinc : BitVec 32) : PacketRequest :=
  ⟨[0], 0, true, timestampinc, none⟩

/-- What one pass of the loop leaves: `written` says that a sample was read. -/
structure Turn where
  session : RTPSession
  lastTimeUs : Int
  attempt : Except RtpError RTPPacket
  written : Bool

/-- One pass of the sending loop. A failed send is only logged. -/
def sendNext (playbackStartUs : Int) (session : RTPSession) (lastTimeUs : Int)
    (extractor : Extractor) : Turn :=
  let data := readSampleData extractor BUFFER_SIZE
  let timeUs := getSampleTime extractor
  let last := if lastTimeUs = -1 then timeUs else lastTimeUs
  let timestampinc := BitVec.ofInt 32 (timeUs - last)
  let sent := session.sendPacket
    (data.elim (markerRequest timestampinc) (sampleRequest (playbackStartUs + timeUs) timestampinc))
  ⟨sent.1, timeUs, sent.2, data.isSome⟩

/-- The sending loop, with its attempts to send in order. `isRunning` is the flag
as the successive passes read it. -/
def sendSamples (isRunning : Nat → Bool) (playbackStartUs : Int) (session : RTPSession)
    (turn : Nat) (lastTimeUs : Int) : Extractor → List (Except RtpError RTPPacket)
  | [] =>
      if isRunning turn then [(sendNext playbackStartUs session lastTimeUs []).attempt] else []
  | sample :: rest =>
      if isRunning turn then
        let sent := sendNext playbackStartUs session lastTimeUs (sample :: rest)
        sent.attempt :: if sent.written then
          sendSamples isRunning playbackStartUs sent.session (turn + 1) sent.lastTimeUs rest
        else []
      else []

/-- What the network thread sees of the other threads: `connectedSources` and
`isRunning` at its successive readings, and the clock when it starts to stream. -/
structure Environment where
  connectedSources : Nat → Int
  isRunning : Nat → Bool
  systemTimeUs : Int
  waitEnds : ∃ pass, connectedSources pass ≠ 0 ∨ isRunning pass = false

/-- `SenderSession::transmissionLatency`. -/
def transmissionLatency : Int := 10 * SECOND_MICRO

/-- `SenderSession::RunNetwork`, with its attempts to send. -/
def runNetwork (env : Environment) (session : RTPSession) (extractor : Option Extractor) :
    List (Except RtpError RTPPacket) :=
  match extractor with
  | none => []
  | some extractor =>
      let waited := Nat.find env.waitEnds
      if env.isRunning (waited + 1) then
        sendSamples (fun turn => env.isRunning (waited + 2 + turn))
          (env.systemTimeUs + transmissionLatency) session 0 (-1) extractor
      else []

/-- The packets that were handed to the transmitter. -/
def transmitted (attempts : List (Except RtpError RTPPacket)) : List RTPPacket :=
  attempts.filterMap Except.toOption

/-- The session as `SenderSession::StartStreaming` creates it, with the default
packet size and whatever random numbers the builder draws. -/
def streamingSession (ssrc timestamp : BitVec 32) (seqnr : BitVec 16) : RTPSession :=
  ⟨true, ⟨true, RTP_DEFAULTPACKETSIZE, ssrc, timestamp, seqnr, []⟩, ⟨true, RTP_DEFAULTPACKETSIZE⟩⟩

theorem create_default (ssrc timestamp : BitVec 32) (seqnr : BitVec 16) :
    RTPSession.create RTP_DEFAULTPACKETSIZE ssrc timestamp seqnr =
      .ok (streamingSession ssrc timestamp seqnr) := rfl

theorem ready_streamingSession (ssrc timestamp : BitVec 32) (seqnr : BitVec 16) :
    (streamingSession ssrc timestamp seqnr).Ready RTP_DEFAULTPACKETSIZE :=
  ⟨rfl, rfl, rfl, rfl, rfl, rfl⟩

/-- The largest sample that fits a packet with the header and the extension. -/
def LARGEST_SAMPLE : Nat := 1376

theorem sampleRequest_packetLength (systemTimeUs : Int) (timestampinc : BitVec 32)
    (data : List Byte) :
    (sampleRequest systemTimeUs timestampinc data).packetLength = 24 + data.length := by
  simp [sampleRequest, PacketRequest.packetLength, clockExtension]

/-- What is seen of a packet at the receiving end of the stream. -/
def content (packet : RTPPacket) : Bool × List Byte := (packet.hasMarker, packet.payload)

section Loop

variable {isRunning : Nat → Bool} {playbackStartUs : Int} {session : RTPSession}
  {lastTimeUs : Int} {sample : Sample} {rest : List Sample}

/-- The timestamp increment that goes with a sample. -/
def increment (lastTimeUs timeUs : Int) : BitVec 32 :=
  BitVec.ofInt 32 (timeUs - if lastTimeUs = -1 then timeUs else lastTimeUs)

/-- Without a sample to read a pass sends the marker packet and ends the loop. -/
theorem sendNext_of_end (playbackStartUs lastTimeUs : Int) {extractor : Extractor}
    (hReady : session.Ready RTP_DEFAULTPACKETSIZE)
    (hEnd : readSampleData extractor BUFFER_SIZE = none) :
    let turn := sendNext playbackStartUs session lastTimeUs extractor
    turn.written = false ∧
      turn.attempt = .ok (session.packetbuilder.packet
        (markerRequest (increment lastTimeUs (getSampleTime extractor)))) := by
  simp only [sendNext, hEnd, Option.elim_none, Option.isSome_none, true_and]
  rw [hReady.sendPacket_of_le RTPPacket.validPayloadType_zero
    (by simp [markerRequest, PacketRequest.packetLength, RTP_DEFAULTPACKETSIZE])]
  rfl

/-- A sample that fits a packet is sent as one. -/
theorem sendNext_of_le (hReady : session.Ready RTP_DEFAULTPACKETSIZE)
    (hFits : sample.data.length ≤ LARGEST_SAMPLE) :
    sendNext playbackStartUs session lastTimeUs (sample :: rest) =
      ⟨{ session with packetbuilder :=
          session.packetbuilder.advance (increment lastTimeUs sample.timeUs) },
        sample.timeUs,
        .ok (session.packetbuilder.packet (sampleRequest (playbackStartUs + sample.timeUs)
          (increment lastTimeUs sample.timeUs) sample.data)), true⟩ := by
  have hRead : readSampleData (sample :: rest) BUFFER_SIZE = some sample.data := by
    rw [readSampleData, if_pos (Nat.le_trans hFits (by decide))]
  simp only [sendNext, hRead, Option.elim_some, Option.isSome_some, getSampleTime]
  rw [hReady.sendPacket_of_le RTPPacket.validPayloadType_zero (by
    rw [sampleRequest_packetLength]
    simp only [LARGEST_SAMPLE, RTP_DEFAULTPACKETSIZE] at hFits ⊢
    omega)]
  rfl

/-- A sample that only fits the buffer is dropped, and leaves no trace. -/
theorem sendNext_of_lt (hReady : session.Ready RTP_DEFAULTPACKETSIZE)
    (hBuffer : sample.data.length ≤ BUFFER_SIZE) (hLarge : LARGEST_SAMPLE < sample.data.length) :
    sendNext playbackStartUs session lastTimeUs (sample :: rest) =
      ⟨session, sample.timeUs, .error .dataExceedsMaxSize, true⟩ := by
  simp only [sendNext, readSampleData, if_pos hBuffer, Option.elim_some, Option.isSome_some,
    getSampleTime]
  rw [hReady.sendPacket_of_lt RTPPacket.validPayloadType_zero (by decide) (by
    rw [sampleRequest_packetLength]
    simp only [LARGEST_SAMPLE, RTP_DEFAULTPACKETSIZE] at hLarge ⊢
    omega)]

/-- What the loop transmits: of the samples up to the first one that does not fit
the buffer, those that fit a packet, and then the marker. -/
theorem transmitted_sendSamples (hRunning : ∀ turn, isRunning turn = true)
    (hReady : session.Ready RTP_DEFAULTPACKETSIZE) (turn : Nat) (lastTimeUs : Int)
    (samples : List Sample) :
    (transmitted (sendSamples isRunning playbackStartUs session turn lastTimeUs samples)).map
        content =
      (((samples.takeWhile fun sample => sample.data.length ≤ BUFFER_SIZE).filter
        fun sample => sample.data.length ≤ LARGEST_SAMPLE).map fun sample => (false, sample.data)) ++
      [(true, [0])] := by
  induction samples generalizing session turn lastTimeUs with
  | nil =>
      obtain ⟨-, hAttempt⟩ := sendNext_of_end playbackStartUs lastTimeUs hReady
        (rfl : readSampleData [] BUFFER_SIZE = none)
      simp only [sendSamples, hRunning, if_true, hAttempt]
      rfl
  | cons sample rest ih =>
      simp only [sendSamples, hRunning, if_true]
      rcases Nat.lt_or_ge BUFFER_SIZE sample.data.length with hHuge | hBuffer
      · have hEnd : readSampleData (sample :: rest) BUFFER_SIZE = none := by
          simp [readSampleData, hHuge]
        obtain ⟨hWritten, hAttempt⟩ := sendNext_of_end playbackStartUs lastTimeUs hReady hEnd
        rw [hWritten, hAttempt, List.takeWhile_cons_of_neg (by simpa using hHuge)]
        rfl
      · rw [List.takeWhile_cons_of_pos (by simpa using hBuffer)]
        rcases Nat.lt_or_ge LARGEST_SAMPLE sample.data.length with hLarge | hFits
        · rw [sendNext_of_lt hReady hBuffer hLarge, List.filter_cons_of_neg (by simpa using hLarge)]
          exact ih hReady (turn + 1) sample.timeUs
        · rw [sendNext_of_le hReady hFits, List.filter_cons_of_pos (by simpa using hFits)]
          have hRest := ih (hReady.advance (increment lastTimeUs sample.timeUs)) (turn + 1)
            sample.timeUs
          simp only [if_true, List.map_cons, List.cons_append]
          rw [← hRest]
          rfl

end Loop

/-- One packet for each sample, in order and with its bytes, then one marker. -/
def TransmitsAll (env : Environment) (session : RTPSession) (samples : List Sample) : Prop :=
  (transmitted (runNetwork env session (some samples))).map content =
    samples.map (fun sample => (false, sample.data)) ++ [(true, [0])]

/-- A session that is never stopped transmits what its loop does. -/
theorem content_runNetwork {env : Environment} {session : RTPSession} (samples : List Sample)
    (hRunning : ∀ reading, env.isRunning reading = true)
    (hReady : session.Ready RTP_DEFAULTPACKETSIZE) :
    (transmitted (runNetwork env session (some samples))).map content =
      (((samples.takeWhile fun sample => sample.data.length ≤ BUFFER_SIZE).filter
        fun sample => sample.data.length ≤ LARGEST_SAMPLE).map fun sample => (false, sample.data)) ++
      [(true, [0])] := by
  simp only [runNetwork, hRunning, if_true]
  exact transmitted_sendSamples (fun _ => rfl) hReady 0 (-1) samples

theorem transmitsAll_of_fits {env : Environment} {session : RTPSession} {samples : List Sample}
    (hRunning : ∀ reading, env.isRunning reading = true)
    (hReady : session.Ready RTP_DEFAULTPACKETSIZE)
    (hFits : ∀ sample ∈ samples, sample.data.length ≤ LARGEST_SAMPLE) :
    TransmitsAll env session samples := by
  have hBuffer : samples.takeWhile (fun sample => sample.data.length ≤ BUFFER_SIZE) = samples :=
    List.takeWhile_eq_self_iff.mpr fun sample hSample =>
      decide_eq_true (Nat.le_trans (hFits sample hSample) (by decide))
  have hPacket : samples.filter (fun sample => sample.data.length ≤ LARGEST_SAMPLE) = samples :=
    List.filter_eq_self.mpr fun sample hSample => decide_eq_true (hFits sample hSample)
  rw [TransmitsAll, content_runNetwork samples hRunning hReady, hBuffer, hPacket]

/-- No sample is lost exactly when every sample fits a packet of the session. -/
theorem transmitsAll_iff_fits (env : Environment)
    (hRunning : ∀ reading, env.isRunning reading = true) (ssrc timestamp : BitVec 32)
    (seqnr : BitVec 16) (samples : List Sample) :
    TransmitsAll env (streamingSession ssrc timestamp seqnr) samples ↔
      ∀ sample ∈ samples, sample.data.length ≤ LARGEST_SAMPLE := by
  have hReady := ready_streamingSession ssrc timestamp seqnr
  constructor
  · intro hAll
    rw [TransmitsAll, content_runNetwork samples hRunning hReady] at hAll
    have hLength := congrArg List.length hAll
    simp only [List.length_append, List.length_map, Nat.add_right_cancel_iff] at hLength
    -- The samples that were sent are a sublist of the same length.
    have hSent := (List.filter_sublist.trans (List.takeWhile_sublist _)).eq_of_length hLength
    intro sample hSample
    rw [← hSent] at hSample
    simpa using (List.mem_filter.mp hSample).2
  · exact transmitsAll_of_fits hRunning hReady

/-- An environment with a client from the start. -/
def steadyEnvironment (systemTimeUs : Int) : Environment :=
  ⟨fun _ => 1, fun _ => true, systemTimeUs, ⟨0, Or.inl (by decide)⟩⟩

theorem transmitsAll_two_samples :
    TransmitsAll (steadyEnvironment 0) (streamingSession 1 2 3)
      [⟨[1, 2], 0, by decide⟩, ⟨[], 20000, by decide⟩] :=
  (transmitsAll_iff_fits (steadyEnvironment 0) (fun _ => rfl) 1 2 3 _).mpr (by decide)

/-- A sample of 1377 bytes makes a packet of 1401. -/
theorem not_transmitsAll_large_sample :
    ¬ TransmitsAll (steadyEnvironment 0) (streamingSession 1 2 3)
      [⟨List.replicate 1377 0, 0, by decide⟩] := by
  rw [TransmitsAll, content_runNetwork _ (fun _ => rfl) (ready_streamingSession 1 2 3),
    List.takeWhile_cons_of_pos (by rw [List.length_replicate]; decide),
    List.filter_cons_of_neg (by rw [List.length_replicate]; decide)]
  intro hAll
  have hLength := congrArg List.length hAll
  contradiction

end AudioSync.Sender
