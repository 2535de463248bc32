import AudioSync.Sender.Streaming

/-! The RTP timestamps and the clock times in the packets of one stream. -/
namespace AudioSync.Sender

open Rtp

/-- Every call of `SendPacketEx` and `SendPacket` has returned without an error. -/
def EverySent (attempts : List (Except RtpError RTPPacket)) : Prop :=
  ∀ attempt ∈ attempts, ∃ packet, attempt = .ok packet

/-- Samples that fit a packet are sent without an error. -/
theorem everySent_sendSamples {isRunning : Nat → Bool} {playbackStartUs : Int}
    {session : RTPSession} (hReady : session.Ready RTP_DEFAULTPACKETSIZE) (turn : Nat)
    (lastTimeUs : Int) {samples : List Sample}
    (hFits : ∀ sample ∈ samples, sample.data.length ≤ LARGEST_SAMPLE) :
    EverySent (sendSamples isRunning playbackStartUs session turn lastTimeUs samples) := by
  intro attempt hAttempt
  induction samples generalizing session turn lastTimeUs with
  | nil =>
      have hEnd := (sendNext_of_end playbackStartUs lastTimeUs hReady
        (rfl : readSampleData [] BUFFER_SIZE = none)).2
      rw [sendSamples, hEnd, List.mem_ite_nil_right, List.mem_singleton] at hAttempt
      exact ⟨_, hAttempt.2⟩
  | cons sample rest ih =>
      rw [sendSamples, sendNext_of_le hReady (hFits sample List.mem_cons_self),
        List.mem_ite_nil_right, List.mem_cons] at hAttempt
      obtain ⟨-, rfl | hRest⟩ := hAttempt
      · exact ⟨_, rfl⟩
      · exact ih (hReady.advance _) (turn + 1) _
          (fun other hOther => hFits other (List.mem_cons_of_mem _ hOther)) hRest

theorem everySent_runNetwork (env : Environment) {session : RTPSession}
    (hReady : session.Ready RTP_DEFAULTPACKETSIZE) {samples : List Sample}
    (hFits : ∀ sample ∈ samples, sample.data.length ≤ LARGEST_SAMPLE) :
    EverySent (runNetwork env session (some samples)) := by
  simp only [runNetwork]
  split
  · exact everySent_sendSamples hReady 0 (-1) hFits
  · intro attempt hAttempt
    cases hAttempt

/-- The media time that the timestamp of a packet stands for. The builder adds an
increment after it has built the packet, so this is the time of the sample before. -/
def builderTime (last : Nat) (times : List Nat) (i : Nat) : Nat := (last :: times).getD i 0

/-- A packet with the given index in the stream of samples at `times`, from a
builder that has last been advanced to the media time `last`. -/
structure IsPacket (builder : RTPPacketBuilder) (playbackStartUs : Int) (last : Nat)
    (times : List Nat) (i : Nat) (packet : RTPPacket) : Prop where
  index_le : i ≤ times.length
  timestamp : packet.timestamp =
    builder.timestamp + BitVec.ofInt 32 (builderTime last times i - last)
  sequenceNumber : packet.sequenceNumber = builder.seqnr + BitVec.ofNat 16 i
  hasMarker : packet.hasMarker = decide (times.length ≤ i)
  extension : packet.extension =
    times[i]?.map fun timeUs => clockExtension (playbackStartUs + timeUs)

variable {isRunning : Nat → Bool} {playbackStartUs : Int} {session : RTPSession}

/-- The packets behind the first one are those of a builder that has moved on. -/
theorem IsPacket.succ {builder : RTPPacketBuilder} {last timeUs i : Nat} {times : List Nat}
    {packet : RTPPacket}
    (h : IsPacket (builder.advance (BitVec.ofInt 32 (timeUs - last))) playbackStartUs timeUs times
      i packet) :
    IsPacket builder playbackStartUs last (timeUs :: times) (i + 1) packet where
  index_le := Nat.succ_le_succ h.index_le
  timestamp := by
    have hSum : ((builderTime timeUs times i : Int) - last) =
        (timeUs - last) + (builderTime timeUs times i - timeUs) := by ring
    have hShift : builderTime last (timeUs :: times) (i + 1) = builderTime timeUs times i := rfl
    rw [h.timestamp, hShift, hSum, BitVec.ofInt_add, ← BitVec.add_assoc]
    rfl
  sequenceNumber := by
    have hIndex : BitVec.ofNat 16 (i + 1) = 1#16 + BitVec.ofNat 16 i := by
      rw [Nat.add_comm, BitVec.ofNat_add]
    rw [h.sequenceNumber, hIndex, ← BitVec.add_assoc]
    rfl
  hasMarker := by simp [h.hasMarker]
  extension := by simp [h.extension]

/-- The first pass works as if a sample of the same time had been sent before. -/
theorem sendSamples_first (hReady : session.Ready RTP_DEFAULTPACKETSIZE) (turn : Nat)
    (samples : List Sample) :
    sendSamples isRunning playbackStartUs session turn (-1) samples =
      sendSamples isRunning playbackStartUs session turn
        ((samples.map Sample.timeUs).headD 0 : Nat) samples := by
  cases samples with
  | nil =>
      have hEnd (last : Int) := (sendNext_of_end playbackStartUs last hReady
        (rfl : readSampleData [] BUFFER_SIZE = none)).2
      rw [sendSamples, sendSamples, hEnd, hEnd]
      rfl
  | cons sample rest =>
      have hNext : sendNext playbackStartUs session (-1) (sample :: rest) =
          sendNext playbackStartUs session sample.timeUs (sample :: rest) := by
        simp [sendNext, getSampleTime]
      rw [sendSamples, sendSamples, hNext]
      rfl

theorem isPacket_sendSamples (hReady : session.Ready RTP_DEFAULTPACKETSIZE) {turn last : Nat}
    {samples : List Sample} (hBuffer : ∀ sample ∈ samples, sample.data.length ≤ BUFFER_SIZE)
    (hSent : EverySent (sendSamples isRunning playbackStartUs session turn last samples))
    {i : Nat} {packet : RTPPacket}
    (hPacket : (transmitted
      (sendSamples isRunning playbackStartUs session turn last samples))[i]? = some packet) :
    IsPacket session.packetbuilder playbackStartUs last (samples.map Sample.timeUs) i packet := by
  induction samples generalizing session turn last i with
  | nil =>
      rw [sendSamples] at hPacket
      cases hRunning : isRunning turn with
      | false => simp [hRunning, transmitted] at hPacket
      | true =>
          obtain ⟨-, hAttempt⟩ := sendNext_of_end playbackStartUs last hReady
            (rfl : readSampleData [] BUFFER_SIZE = none)
          rw [hRunning, if_pos rfl, hAttempt] at hPacket
          cases i with
          | zero =>
              cases hPacket
              exact ⟨Nat.le_refl 0, by simp [builderTime, RTPPacketBuilder.packet],
                by simp [RTPPacketBuilder.packet], rfl, rfl⟩
          | succ i => cases hPacket
  | cons sample rest ih =>
      rw [sendSamples] at hSent hPacket
      cases hRunning : isRunning turn with
      | false => simp [hRunning, transmitted] at hPacket
      | true =>
          simp only [hRunning, if_true] at hSent hPacket
          have hSample := hBuffer sample List.mem_cons_self
          have hFits : sample.data.length ≤ LARGEST_SAMPLE := by
            by_contra hLarge
            rw [sendNext_of_lt hReady hSample (Nat.lt_of_not_le hLarge)] at hSent
            obtain ⟨sent, hOk⟩ := hSent _ List.mem_cons_self
            cases hOk
          rw [sendNext_of_le hReady hFits] at hSent hPacket
          have hIncrement : increment last sample.timeUs =
              BitVec.ofInt 32 (sample.timeUs - last) := by
            rw [increment, if_neg (by omega)]
          cases i with
          | zero =>
              cases hPacket
              exact ⟨Nat.zero_le _, by simp [builderTime, RTPPacketBuilder.packet],
                by simp [RTPPacketBuilder.packet], rfl, rfl⟩
          | succ i =>
              rw [hIncrement] at hSent hPacket
              exact (ih (hReady.advance _)
                (fun sample hRest => hBuffer sample (List.mem_cons_of_mem _ hRest))
                (fun attempt hRest => hSent attempt (List.mem_cons_of_mem _ hRest)) hPacket).succ

/-- Every packet of a stream whose sends succeed, however early it is stopped. -/
theorem isPacket_runNetwork {env : Environment} (hReady : session.Ready RTP_DEFAULTPACKETSIZE)
    {samples : List Sample} (hBuffer : ∀ sample ∈ samples, sample.data.length ≤ BUFFER_SIZE)
    (hSent : EverySent (runNetwork env session (some samples))) {i : Nat} {packet : RTPPacket}
    (hPacket : (transmitted (runNetwork env session (some samples)))[i]? = some packet) :
    IsPacket session.packetbuilder (env.systemTimeUs + transmissionLatency)
      ((samples.map Sample.timeUs).headD 0) (samples.map Sample.timeUs) i packet := by
  simp only [runNetwork] at hSent hPacket
  split at hPacket
  · next hRunning =>
      rw [if_pos hRunning, sendSamples_first hReady] at hSent
      rw [sendSamples_first hReady] at hPacket
      exact isPacket_sendSamples hReady hBuffer hSent hPacket
  · simp [transmitted] at hPacket

end AudioSync.Sender
