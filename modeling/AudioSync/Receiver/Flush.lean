import AudioSync.Lib.MachineInt
import AudioSync.Receiver.Schedule

/-! When the codec is flushed: the gaps that `RunNetwork` sees in the sequence numbers and
timestamps of one stream, and the real ones. -/
namespace AudioSync.Receiver

open Rtp Player State MachineInt

/-- For each buffer that is enqueued, whether the codec was flushed since the one before. -/
def flushesBefore : Bool → List CodecCall → List Bool
  | _, [] => []
  | _, .flush :: rest => flushesBefore true rest
  | flushed, .enqueueBuffer _ _ :: rest => flushed :: flushesBefore false rest

/-- A packet that gets through: its place in the stream, and its time from the start. -/
structure Delivery where
  index : Nat
  offset : Int
  packet : RTPPacket

/-- What one sender's stream delivers in sequence order, with fewer than 65535 consecutive
losses and timestamps within 2^31 of the start. -/
structure SenderStream where
  firstSeqNum : BitVec 16
  startTimestamp : BitVec 32
  deliveries : List Delivery
  numbered : ∀ delivery ∈ deliveries,
    delivery.packet.sequenceNumber = firstSeqNum + BitVec.ofNat 16 delivery.index
  stamped : ∀ delivery ∈ deliveries,
    delivery.packet.timestamp = startTimestamp + BitVec.ofInt 32 delivery.offset
  near : ∀ delivery ∈ deliveries, |delivery.offset| ≤ 2 ^ 31
  inOrder : deliveries.IsChain fun previous next =>
    previous.index < next.index ∧ next.index - previous.index - 1 < 65535

/-- A packet between the two is missing, and they are more than 50 ms apart. -/
def RealGap (previous next : Delivery) : Prop :=
  previous.index + 1 < next.index ∧ (FLUSH_GAP : Int) < |next.offset - previous.offset|

instance (previous next : Delivery) : Decidable (RealGap previous next) :=
  inferInstanceAs (Decidable (_ ∧ _))

def gapsFrom : Delivery → List Delivery → List Bool
  | _, [] => []
  | previous, next :: rest => decide (RealGap previous next) :: gapsFrom next rest

/-- For each delivered packet, whether it comes after a real gap. -/
def realGaps : List Delivery → List Bool
  | [] => []
  | first :: rest => false :: gapsFrom first rest

/-- In every run in which these packets arrive, the codec is flushed exactly on the real
gaps before the packets that are handled. -/
def FlushesOnRealGaps (stream : SenderStream) : Prop :=
  ∀ env clock samples channels player batches state,
    batches.flatten = stream.deliveries.map Delivery.packet →
      runNetwork env clock samples channels player batches = some state →
        flushesBefore false state.codecCalls <+: realGaps stream.deliveries

/-- Two packets in a row that the loop judges rightly. `begun` says that a timestamp
other than -1 has been recorded. -/
def JudgedRightly (begun : Bool) (previous next : Delivery) : Prop :=
  let advance := next.offset - previous.offset
  if previous.index + 1 < next.index then
    if begun then
      (0 ≤ advance ∧ advance < 2 ^ 32) ∨ (FLUSH_GAP < -advance ∧ -advance < 2 ^ 32 - FLUSH_GAP)
    else |advance| ≤ FLUSH_GAP
  else
    begun = true → previous.packet.sequenceNumber = 65535 → toUnsigned 32 advance ≤ FLUSH_GAP

instance (begun : Bool) (previous next : Delivery) :
    Decidable (JudgedRightly begun previous next) := by
  dsimp only [JudgedRightly]
  infer_instance

/-- Whether a timestamp other than -1 has been seen, with this packet. -/
def begins (begun : Bool) (packet : RTPPacket) : Bool := begun || packet.timestamp != -1

def JudgedRightlyFrom : Bool → Delivery → List Delivery → Prop
  | _, _, [] => True
  | begun, previous, next :: rest =>
      JudgedRightly begun previous next ∧ JudgedRightlyFrom (begins begun next.packet) next rest

/-- All pairs of consecutive packets are judged rightly. -/
def GapsVisible (stream : SenderStream) : Prop :=
  match stream.deliveries with
  | [] => True
  | first :: rest => JudgedRightlyFrom (begins false first.packet) first rest

section Loop

variable {env : Environment} {state : State} {begun : Bool} {previous next packet : RTPPacket}

/-- The loop flushes between these two packets. -/
def Flushes (begun : Bool) (previous next : RTPPacket) : Prop :=
  begun = true ∧ next.sequenceNumber.toNat ≠ previous.sequenceNumber.toNat + 1 ∧
    FLUSH_GAP < (next.timestamp - previous.timestamp).toNat

instance (begun : Bool) (previous next : RTPPacket) : Decidable (Flushes begun previous next) :=
  inferInstanceAs (Decidable (_ ∧ _ ∧ _))

/-- What the loop does before each packet, with what it knows of those before. -/
def flushesAlong : Bool → RTPPacket → List RTPPacket → List Bool
  | _, _, [] => []
  | begun, previous, next :: rest =>
      decide (Flushes begun previous next) :: flushesAlong (begins begun next) next rest

/-- What the loop remembers of the packet before. As long as all timestamps were -1, it
starts anew with each packet. -/
structure Follows (state : State) (begun : Bool) (previous : RTPPacket) : Prop where
  fresh : begun = false → state.beginTimestamp = -1 ∧ state.lastTimestamp = 0
  started : begun = true → state.beginTimestamp ≠ -1 ∧
    state.lastTimestamp = previous.timestamp - state.beginTimestamp ∧
    state.lastSeqNum = previous.sequenceNumber

theorem follows_start (player : Player.State) (packet : RTPPacket) :
    Follows (start player) false packet where
  fresh _ := ⟨rfl, rfl⟩
  started hBegun := by cases hBegun

theorem Follows.jumps (h : Follows state begun previous) (next : RTPPacket) :
    state.jumps next (next.timestamp - beginWith state.beginTimestamp next.timestamp) =
      decide (Flushes begun previous next) := by
  cases begun with
  | false =>
      obtain ⟨hBegin, hLast⟩ := h.fresh rfl
      -- The relative timestamp is 0, as the last one was.
      simp [State.jumps, beginWith, hBegin, hLast, Flushes]
  | true =>
      obtain ⟨hBegin, hLast, hSeq⟩ := h.started rfl
      have hGap : (next.timestamp - state.beginTimestamp) -
          (previous.timestamp - state.beginTimestamp) = next.timestamp - previous.timestamp := by
        bv_omega
      rw [State.jumps, if_neg hBegin, beginWith, if_neg hBegin, hLast, hSeq, hGap]
      simp only [Flushes, Bool.decide_and, decide_true, Bool.true_and]

theorem Follows.handlePacket (h : Follows state begun previous) (env : Environment)
    (next : RTPPacket) : Follows (state.handlePacket env next) (begins begun next) next := by
  have hTimes : (state.handlePacket env next).beginTimestamp =
        beginWith state.beginTimestamp next.timestamp ∧
      (state.handlePacket env next).lastTimestamp =
        next.timestamp - beginWith state.beginTimestamp next.timestamp := ⟨rfl, rfl⟩
  obtain ⟨hBeginWith, hLast⟩ := hTimes
  cases begun with
  | false =>
      obtain ⟨hBegin, -⟩ := h.fresh rfl
      rw [hBegin, beginWith, if_pos rfl] at hBeginWith hLast
      constructor
      · intro hFresh
        have hMinus : next.timestamp = -1 := by simpa [begins] using hFresh
        exact ⟨hBeginWith.trans hMinus, hLast.trans (BitVec.sub_self _)⟩
      · intro hBegun
        have hOther : next.timestamp ≠ -1 := by simpa [begins] using hBegun
        exact ⟨by rwa [hBeginWith], by rw [hLast, hBeginWith], rfl⟩
  | true =>
      obtain ⟨hBegin, -, -⟩ := h.started rfl
      rw [beginWith, if_neg hBegin] at hBeginWith hLast
      constructor
      · intro hFresh
        cases hFresh
      · intro _
        exact ⟨by rwa [hBeginWith], by rw [hLast, hBeginWith], rfl⟩

/-- The last call has enqueued a buffer. -/
def Complete (calls : List CodecCall) : Prop :=
  ∀ later, flushesBefore false (calls ++ later) =
    flushesBefore false calls ++ flushesBefore false later

theorem flushesBefore_packet (flushes : Bool) (payload : Option (List Byte)) (timeUs : Int)
    (later : List CodecCall) :
    flushesBefore false
        ((if flushes then [.flush] else []) ++ [.enqueueBuffer payload timeUs] ++ later) =
      flushes :: flushesBefore false later := by
  cases flushes <;> rfl

theorem flushesBefore_handlePacket (h : Follows state begun previous)
    (hComplete : Complete state.codecCalls) (env : Environment) (next : RTPPacket) :
    flushesBefore false (state.handlePacket env next).codecCalls =
        flushesBefore false state.codecCalls ++ [decide (Flushes begun previous next)] ∧
      Complete (state.handlePacket env next).codecCalls := by
  have hCalls : ∃ payload timeUs, (state.handlePacket env next).codecCalls = state.codecCalls ++
      (if decide (Flushes begun previous next) then [.flush] else []) ++
        [.enqueueBuffer payload timeUs] := by
    rw [← h.jumps next]
    exact ⟨_, _, rfl⟩
  obtain ⟨payload, timeUs, hCalls⟩ := hCalls
  have hAdded (later : List CodecCall) :
      flushesBefore false ((state.handlePacket env next).codecCalls ++ later) =
        flushesBefore false state.codecCalls ++
          decide (Flushes begun previous next) :: flushesBefore false later := by
    rw [hCalls, List.append_assoc, List.append_assoc, hComplete, ← List.append_assoc,
      flushesBefore_packet]
  have hHere := hAdded []
  rw [List.append_nil] at hHere
  constructor
  · exact hHere
  · intro later
    rw [hAdded, hHere, List.append_assoc]
    rfl

/-- What the loop remembers after some packets. -/
def remember (known : Bool × RTPPacket) (packet : RTPPacket) : Bool × RTPPacket :=
  (begins known.1 packet, packet)

theorem flushesAlong_append (known : Bool × RTPPacket) (front back : List RTPPacket) :
    flushesAlong known.1 known.2 (front ++ back) = flushesAlong known.1 known.2 front ++
      flushesAlong (front.foldl remember known).1 (front.foldl remember known).2 back := by
  induction front generalizing known with
  | nil => rfl
  | cons packet rest ih => exact congrArg (_ :: ·) (ih (remember known packet))

/-- A drain flushes as it goes along the packets. -/
theorem flushesBefore_foldl (env : Environment) (known : Bool × RTPPacket)
    (h : Follows state known.1 known.2) (hComplete : Complete state.codecCalls)
    (packets : List RTPPacket) :
    let drained := packets.foldl (handlePacket env) state
    let knows := packets.foldl remember known
    flushesBefore false drained.codecCalls =
        flushesBefore false state.codecCalls ++ flushesAlong known.1 known.2 packets ∧
      Follows drained knows.1 knows.2 ∧ Complete drained.codecCalls := by
  induction packets generalizing state known with
  | nil => exact ⟨(List.append_nil _).symm, h, hComplete⟩
  | cons packet rest ih =>
      obtain ⟨hFlushes, hNext⟩ := flushesBefore_handlePacket h hComplete env packet
      obtain ⟨hRest, hEnd⟩ := ih (remember known packet) (h.handlePacket env packet) hNext
      refine ⟨?_, hEnd⟩
      rw [List.foldl_cons, hRest, hFlushes, List.append_assoc]
      rfl

/-- The loop flushes as it goes along the packets, until it ends. -/
theorem flushesBefore_receive (env : Environment) (turn : Nat) (known : Bool × RTPPacket)
    (h : Follows state known.1 known.2) (hComplete : Complete state.codecCalls)
    (batches : List (List RTPPacket)) :
    flushesBefore false (state.receive env turn batches).codecCalls <+:
      flushesBefore false state.codecCalls ++ flushesAlong known.1 known.2 batches.flatten := by
  induction batches generalizing turn state known with
  | nil => exact List.prefix_append _ _
  | cons packets rest ih =>
      rw [receive]
      split
      · obtain ⟨hFlushes, hKnows, hDone⟩ := flushesBefore_foldl env known h hComplete packets
        have hPass : Follows (state.pass env packets) _ _ := ⟨hKnows.fresh, hKnows.started⟩
        have hRest := ih (turn + 1) (packets.foldl remember known) hPass hDone
        have hCalls : (state.pass env packets).codecCalls =
          (packets.foldl (State.handlePacket env) state).codecCalls := rfl
        rw [hCalls, hFlushes, List.append_assoc, ← flushesAlong_append] at hRest
        exact hRest
      · exact List.prefix_append _ _

end Loop

section Stream

variable {begun : Bool} {first : BitVec 16} {start : BitVec 32} {previous next : Delivery}

/-- The loop's difference of two timestamps is that of the offsets, modulo 2^32. -/
theorem timestamp_sub
    (hPrevious : previous.packet.timestamp = start + BitVec.ofInt 32 previous.offset)
    (hNext : next.packet.timestamp = start + BitVec.ofInt 32 next.offset) :
    (next.packet.timestamp - previous.packet.timestamp).toNat =
      toUnsigned 32 (next.offset - previous.offset) := by
  rw [hNext, hPrevious, toUnsigned]
  simp only [BitVec.toNat_sub, BitVec.toNat_add, BitVec.toNat_ofInt]
  omega

/-- The sum in the comparison is an `int`: the next sequence number is not the successor when it
has wrapped around. -/
theorem sequenceNumber_ne_iff
    (hPrevious : previous.packet.sequenceNumber = first + BitVec.ofNat 16 previous.index)
    (hNext : next.packet.sequenceNumber = first + BitVec.ofNat 16 next.index)
    (hOrder : previous.index < next.index ∧ next.index - previous.index - 1 < 65535) :
    next.packet.sequenceNumber.toNat ≠ previous.packet.sequenceNumber.toNat + 1 ↔
      previous.index + 1 < next.index ∨ previous.packet.sequenceNumber = 65535 := by
  have hLast : (65535 : BitVec 16).toNat = 65535 := rfl
  rw [← BitVec.toNat_inj, hLast, hNext, hPrevious]
  simp only [BitVec.toNat_add, BitVec.toNat_ofNat]
  omega

/-- The successor that it misses: without a loss, it sees a gap at the wrap-around only. -/
theorem flushes_iff_realGap (hAdvance : (next.packet.timestamp - previous.packet.timestamp).toNat =
      toUnsigned 32 (next.offset - previous.offset))
    (hSeq : next.packet.sequenceNumber.toNat ≠ previous.packet.sequenceNumber.toNat + 1 ↔
      previous.index + 1 < next.index ∨ previous.packet.sequenceNumber = 65535)
    (hNear : |next.offset - previous.offset| ≤ 2 ^ 32) :
    (Flushes begun previous.packet next.packet ↔ RealGap previous next) ↔
      JudgedRightly begun previous next := by
  have hUnsigned : (toUnsigned 32 (next.offset - previous.offset) : Int) =
      (next.offset - previous.offset) % 2 ^ 32 :=
    Int.toNat_of_nonneg (Int.emod_nonneg _ (by decide))
  rw [Flushes, RealGap, hSeq, hAdvance, JudgedRightly]
  by_cases hMissing : previous.index + 1 < next.index
  · cases begun with
    | false => simp [hMissing]
    | true =>
        simp only [hMissing, if_true, true_or, true_and, lt_abs, FLUSH_GAP]
        rw [abs_le] at hNear
        omega
  · simp [hMissing]

/-- A stream goes on behind its first packet. -/
def SenderStream.later (stream : SenderStream) {rest : List Delivery}
    (hSplit : stream.deliveries = previous :: rest) : SenderStream where
  firstSeqNum := stream.firstSeqNum
  startTimestamp := stream.startTimestamp
  deliveries := rest
  numbered delivery hMem := stream.numbered delivery (hSplit ▸ List.mem_cons_of_mem previous hMem)
  stamped delivery hMem := stream.stamped delivery (hSplit ▸ List.mem_cons_of_mem previous hMem)
  near delivery hMem := stream.near delivery (hSplit ▸ List.mem_cons_of_mem previous hMem)
  inOrder := (hSplit ▸ stream.inOrder).tail

/-- Two packets of a stream in a row. -/
theorem SenderStream.judged (stream : SenderStream) {rest : List Delivery}
    (hSplit : stream.deliveries = previous :: next :: rest) :
    (Flushes begun previous.packet next.packet ↔ RealGap previous next) ↔
      JudgedRightly begun previous next := by
  have hPrevious : previous ∈ stream.deliveries := by simp [hSplit]
  have hNext : next ∈ stream.deliveries := by simp [hSplit]
  have hOrder := stream.inOrder
  rw [hSplit] at hOrder
  apply flushes_iff_realGap
  · exact timestamp_sub (stream.stamped previous hPrevious) (stream.stamped next hNext)
  · exact sequenceNumber_ne_iff (stream.numbered previous hPrevious) (stream.numbered next hNext)
      (List.isChain_cons_cons.mp hOrder).1
  · have hNearPrevious := abs_le.mp (stream.near previous hPrevious)
    have hNearNext := abs_le.mp (stream.near next hNext)
    rw [abs_le]
    omega

/-- The loop goes along a stream rightly, if all pairs are judged rightly. -/
theorem flushesAlong_eq_gapsFrom_iff {rest : List Delivery} (stream : SenderStream)
    (hSplit : stream.deliveries = previous :: rest) :
    flushesAlong begun previous.packet (rest.map Delivery.packet) = gapsFrom previous rest ↔
      JudgedRightlyFrom begun previous rest := by
  induction rest generalizing stream begun previous with
  | nil => exact iff_of_true rfl trivial
  | cons next rest ih =>
      rw [List.map_cons, flushesAlong, gapsFrom, JudgedRightlyFrom, List.cons.injEq,
        decide_eq_decide, stream.judged hSplit, ih (stream.later hSplit) rfl]

theorem gapsFrom_length (previous : Delivery) (rest : List Delivery) :
    (gapsFrom previous rest).length = rest.length := by
  induction rest generalizing previous with
  | nil => rfl
  | cons next rest ih => exact congrArg (· + 1) (ih next)

theorem flushesAlong_length (begun : Bool) (previous : RTPPacket) (packets : List RTPPacket) :
    (flushesAlong begun previous packets).length = packets.length := by
  induction packets generalizing begun previous with
  | nil => rfl
  | cons next rest ih => exact congrArg (· + 1) (ih _ next)

end Stream

section Runs

/-- What the loop does before each packet of a whole run. -/
def flushesFrom : List RTPPacket → List Bool
  | [] => []
  | first :: rest => false :: flushesAlong (begins false first) first rest

/-- Before the first packet there is nothing to flush, whatever came before. -/
theorem flushesAlong_start (previous : RTPPacket) (packets : List RTPPacket) :
    flushesAlong false previous packets = flushesFrom packets := by
  cases packets with
  | nil => rfl
  | cons first rest => simp [flushesAlong, flushesFrom, Flushes]

theorem complete_start (player : Player.State) : Complete (start player).codecCalls :=
  fun _ => rfl

/-- Any run flushes so, as far as it gets. -/
theorem flushesBefore_runNetwork {env : Environment} {clock : Clock} {samples channels : BitVec 32}
    {player : Player.State} {batches : List (List RTPPacket)} {state : State}
    (hRun : runNetwork env clock samples channels player batches = some state) :
    flushesBefore false state.codecCalls <+: flushesFrom batches.flatten := by
  obtain ⟨run, -, rfl⟩ := Option.map_eq_some_iff.mp hRun
  have anyPacket : RTPPacket := ⟨0, false, 0, 0, 0, [], none, []⟩
  rw [← flushesAlong_start anyPacket]
  exact flushesBefore_receive env 0 (false, anyPacket) (follows_start run.player anyPacket)
    (complete_start run.player) batches

/-- A run that handles all packets. -/
theorem exists_flushesBefore_eq (packets : List RTPPacket) :
    ∃ env clock samples channels player state,
      runNetwork env clock samples channels player [packets] = some state ∧
        flushesBefore false state.codecCalls = flushesFrom packets := by
  have hSize : 0 < Abi.lp64.size ((1#32).toNat * 2) := by decide
  obtain ⟨run, hInit⟩ := initPlayback_isSome Abi.lp64 ⟨0, 0⟩ (Player.State.boot 44100 1024)
    (by decide : 0 < Player.State.fifoFrames 44100) hSize
  have anyPacket : RTPPacket := ⟨0, false, 0, 0, 0, [], none, []⟩
  obtain ⟨hFlushes, -, -⟩ := flushesBefore_foldl (steadyEnvironment .lp64) (false, anyPacket)
    (follows_start run.player anyPacket) (complete_start run.player) packets
  refine ⟨steadyEnvironment .lp64, ⟨0, 0⟩, 44100, 1, Player.State.boot 44100 1024,
    (start run.player).receive (steadyEnvironment .lp64) 0 [packets], ?_, ?_⟩
  · rw [runNetwork]
    exact congrArg _ hInit
  · rw [← flushesAlong_start anyPacket]
    exact hFlushes

/-- The codec is flushed exactly on the real gaps of a stream if and only if the loop judges all
pairs of consecutive packets rightly. -/
theorem flushesOnRealGaps_iff (stream : SenderStream) :
    FlushesOnRealGaps stream ↔ GapsVisible stream := by
  have hSame : flushesFrom (stream.deliveries.map Delivery.packet) = realGaps stream.deliveries ↔
      GapsVisible stream := by
    rw [GapsVisible]
    cases hSplit : stream.deliveries with
    | nil => exact iff_of_true rfl trivial
    | cons first rest =>
        rw [List.map_cons, flushesFrom, realGaps, List.cons.injEq]
        exact (and_iff_right rfl).trans (flushesAlong_eq_gapsFrom_iff stream hSplit)
  rw [← hSame]
  constructor
  · intro hAlways
    obtain ⟨env, clock, samples, channels, player, state, hRun, hFlushes⟩ :=
      exists_flushesBefore_eq (stream.deliveries.map Delivery.packet)
    have hPrefix := hAlways env clock samples channels player _ state (by simp) hRun
    rw [hFlushes] at hPrefix
    apply hPrefix.eq_of_length
    cases stream.deliveries with
    | nil => rfl
    | cons first rest => simp [flushesFrom, realGaps, flushesAlong_length, gapsFrom_length]
  · intro hEqual env clock samples channels player batches state hFlatten hRun
    rw [← hEqual, ← hFlatten]
    exact flushesBefore_runNetwork hRun

/-- Two packets in a row, 60 ms apart, whose sequence numbers wrap around. -/
def wrappingStream : SenderStream where
  firstSeqNum := 65535
  startTimestamp := 0
  deliveries := [⟨0, 0, ⟨0, false, 65535, 0, 1, [], none, [1]⟩⟩,
    ⟨1, 60000, ⟨0, false, 0, 60000, 1, [], none, [2]⟩⟩]
  numbered := by decide
  stamped := by decide
  near := by decide
  inOrder := by decide

/-- The codec is flushed between them, although nothing is missing. -/
theorem not_flushesOnRealGaps_wrapping : ¬ FlushesOnRealGaps wrappingStream := by
  intro hAlways
  obtain ⟨env, clock, samples, channels, player, state, hRun, hFlushes⟩ :=
    exists_flushesBefore_eq (wrappingStream.deliveries.map Delivery.packet)
  have hPrefix := hAlways env clock samples channels player _ state (by simp) hRun
  rw [hFlushes] at hPrefix
  revert hPrefix
  decide

end Runs

end AudioSync.Receiver
