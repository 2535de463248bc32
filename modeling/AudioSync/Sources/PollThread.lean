import AudioSync.Sources.RawPackets

/-! The thread that hands the datagrams of a session to its sources. It ends at the first error of
`ProcessRawPacket`, and nobody starts it again. -/
namespace AudioSync.Sources

open Rtp (RTPPacket RTPRawPacket ProbationType)
open Rtcp (RTCPPacket SDESItem SDESChunk ReportBlock)

namespace RTPSources

/-- An item for which `ProcessSDESNormalItem` returns `ERR_RTP_SOURCES_ILLEGALSDESTYPE`. -/
def isIllegalItem (item : SDESItem) : Bool := decide (item.sdesid ≠ 8 ∧ 8 < item.sdesid)

def hasIllegalItem : RTCPPacket → Bool
  | .sdes chunks => chunks.any fun chunk => chunk.items.any isIllegalItem
  | _ => false

/-- A datagram with such an item in a packet that is understood. -/
def isIllegal (rawpack : RTPRawPacket) : Bool :=
  !rawpack.isRTP && (Rtcp.RTCPCompoundPacket.rtcppacklist rawpack.bytes).elim false
    fun packets => packets.any hasIllegalItem

/-- Where an element is an error whatever came before it, a list is one if it has such an
element. -/
theorem isOk_foldlM {σ α ε : Type*} {process : σ → α → Except ε σ} {illegal : α → Bool}
    (hProcess : ∀ s x, (process s x).isOk = !illegal x) (xs : List α) (s : σ) :
    (xs.foldlM process s).isOk = !xs.any illegal := by
  induction xs generalizing s with
  | nil => rfl
  | cons x xs ih =>
      have hFirst := hProcess s x
      rw [List.foldlM_cons, List.any_cons, Bool.not_or, ← hFirst]
      cases process s x with
      | error e => rfl
      | ok next =>
          rw [← ih next]
          exact (Bool.true_and _).symm

variable (sources : RTPSources) (receivetime : RTPTime) (senderaddress : RTPAddress)

theorem isOk_processChunk (chunk : SDESChunk) :
    (processChunk receivetime senderaddress sources chunk).isOk =
      !chunk.items.any isIllegalItem := by
  unfold processChunk
  split_ifs with hNone
  · rw [hNone]
    rfl
  · refine isOk_foldlM (fun next item => ?_) chunk.items sources
    unfold processSDESItem isIllegalItem
    split_ifs with hPriv hUnknown
    · rw [decide_eq_false fun hIllegal => hIllegal.1 hPriv]
      rfl
    · rw [decide_eq_true ⟨hPriv, hUnknown⟩]
      rfl
    · rw [decide_eq_false fun hIllegal => hUnknown hIllegal.2]
      rfl

theorem isOk_processPacket (packet : RTCPPacket) :
    (processPacket receivetime senderaddress sources packet).isOk = !hasIllegalItem packet := by
  cases packet with
  | sdes chunks =>
      exact isOk_foldlM (fun next chunk =>
        isOk_processChunk next receivetime senderaddress chunk) chunks sources
  | sr senderssrc info blocks => rfl
  | rr senderssrc blocks => rfl
  | bye ssrcs reason => rfl
  | app subtype ssrc name appdata => rfl
  | unknown packettype => rfl

/-- A datagram is an error by what it is, whatever the sources are. -/
theorem isOk_processRawPacket (rawpack : RTPRawPacket) :
    (sources.processRawPacket rawpack receivetime senderaddress).isOk = !isIllegal rawpack := by
  unfold processRawPacket isIllegal
  cases rawpack.isRTP with
  | true =>
      rw [if_pos rfl]
      cases RTPPacket.parseRawPacket rawpack <;> rfl
  | false =>
      rw [if_neg Bool.false_ne_true]
      cases Rtcp.RTCPCompoundPacket.rtcppacklist rawpack.bytes with
      | none => rfl
      | some packets =>
          exact isOk_foldlM (fun next packet =>
            isOk_processPacket next receivetime senderaddress packet) packets sources

end RTPSources

open RTPSources

/-- `RTPPollThread`, with the sources of its session. -/
structure PollThread where
  sources : RTPSources
  running : Bool

namespace PollThread

/-- The thread of a session that has been created. -/
def start (probationtype : ProbationType) (ssrc : BitVec 32) : PollThread :=
  ⟨create probationtype ssrc, true⟩

/-- What happens to the session. Its packets are sent by other threads; all else is done by this
thread, while it runs. -/
def step (thread : PollThread) : Input → Option PollThread
  | .sentRTPPacket currenttime =>
      some { thread with sources := thread.sources.sentRTPPacket currenttime }
  | .rawPacket rawpack receivetime senderaddress =>
      if thread.running then
        let result := processRawPacket { thread.sources with owncollision := false } rawpack
          receivetime senderaddress
        some ⟨left result, result.isOk⟩
      else some thread
  | input =>
      if thread.running then (thread.sources.step input).map fun sources => ⟨sources, true⟩
      else some thread

end PollThread

/-- Whether an input ends the thread. -/
def RTPSources.Input.ends : Input → Bool
  | .rawPacket rawpack _ _ => isIllegal rawpack
  | _ => false

def RTPSources.Input.isSending : Input → Bool
  | .sentRTPPacket _ => true
  | _ => false

namespace PollThread

/-- The inputs that come to the sources. -/
def heard : List Input → List Input
  | [] => []
  | input :: inputs => input :: if input.ends then inputs.filter Input.isSending else heard inputs

variable {thread next : PollThread} {input : Input} {inputs : List Input}

/-- While the thread runs, the sources hear of everything. -/
theorem step_of_running (hRunning : thread.running = true) (hStep : thread.step input = some next) :
    thread.sources.step input = some next.sources ∧ next.running = !input.ends := by
  obtain ⟨sources, running⟩ := thread
  obtain rfl : running = true := hRunning
  cases input with
  | rawPacket rawpack receivetime senderaddress =>
      obtain rfl := Option.some.inj hStep
      exact ⟨rfl, isOk_processRawPacket _ receivetime senderaddress rawpack⟩
  | sentRTPPacket currenttime =>
      obtain rfl := Option.some.inj hStep
      exact ⟨rfl, rfl⟩
  | multipleTimeouts curtime sendertimeout byetimeout generaltimeout notetimeout =>
      obtain rfl := Option.some.inj hStep
      exact ⟨rfl, rfl⟩
  | changeOwnSSRC newssrc =>
      obtain ⟨changed, hChange, rfl⟩ := Option.map_eq_some_iff.mp hStep
      exact ⟨hChange, rfl⟩

end PollThread

end AudioSync.Sources
