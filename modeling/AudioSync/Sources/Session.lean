import AudioSync.Lib.KeyedTable
import AudioSync.Lib.Transition
import Mathlib.Data.Finset.Basic

/-! The source table of jrtplib's `RTPSources` and the callbacks with which
`SenderSession` keeps its clients. -/
namespace AudioSync.Sources

open KeyedTable

/-- `RTPIPv4Address`, and a destination of the transmitter. -/
structure RTPAddress where
  ip : BitVec 32
  port : BitVec 16
  deriving DecidableEq, Repr

/-- `RTPInternalSourceData`. An address is unset, set to `NULL` (for the session's
own entry), or known. -/
structure RTPSourceData where
  ownssrc : Bool
  validated : Bool
  receivedbye : Bool
  rtpaddr : Option (Option RTPAddress)
  rtcpaddr : Option (Option RTPAddress)
  deriving DecidableEq, Repr

namespace RTPSourceData

/-- An entry as `ObtainSourceDataInstance` adds it. -/
def new : RTPSourceData := ⟨false, false, false, none, none⟩

/-- The entry that `CreateOwnSSRC` makes. -/
def own : RTPSourceData := ⟨true, true, false, some none, some none⟩

/-- `SetRTPDataAddress` or `SetRTCPDataAddress`. -/
def setAddress (isrtp : Bool) (addr : RTPAddress) (dat : RTPSourceData) : RTPSourceData :=
  if isrtp then { dat with rtpaddr := some (some addr) }
  else { dat with rtcpaddr := some (some addr) }

/-- `RTPSources::CheckCollision` for a packet of another session: `none` is a
collision, else it is the entry with the address that may have been stored. -/
def checkCollision (dat : RTPSourceData) (senderaddress : RTPAddress) (isrtp : Bool) :
    Option RTPSourceData :=
  match if isrtp then dat.rtpaddr else dat.rtcpaddr with
  | none =>
      match if isrtp then dat.rtcpaddr else dat.rtpaddr with
      | none => some (dat.setAddress isrtp senderaddress)
      | some none => none
      | some (some other) =>
          if other.ip = senderaddress.ip then some (dat.setAddress isrtp senderaddress) else none
  | some none => none
  | some (some addr) => if addr = senderaddress then some dat else none

/-- `SenderSession::addressFromData`: the RTP address, or the one before the RTCP
address. The port is a `uint16_t`. -/
def addressFromData (dat : RTPSourceData) : Option RTPAddress :=
  match dat.rtpaddr.join with
  | some addr => some addr
  | none => dat.rtcpaddr.join.map fun addr => ⟨addr.ip, addr.port - 1⟩

/-- The address at which a source has to be served: it is not the session itself,
it has not said BYE, and its address is known. -/
def clientAddress (dat : RTPSourceData) : Option RTPAddress :=
  if dat.ownssrc || dat.receivedbye then none else dat.addressFromData

def isClient (dat : RTPSourceData) : Bool := dat.clientAddress.isSome

end RTPSourceData

/-- `SenderSession`, as far as its sources are concerned. `ownssrc` is the key of
`owndata`, and `appPackets` are the media formats it has sent out. -/
structure Session where
  sources : Table (BitVec 32) RTPSourceData
  ownssrc : BitVec 32
  owncollision : Bool
  destinations : Finset RTPAddress
  connectedSources : Int
  format : Option String
  appPackets : List String

/-- What `RTPSession` hears of a source; `validates` says that the statistics, or
the CNAME, make it a valid one. A packet with CSRC entries is followed by them. -/
inductive Event where
  | rtpPacket (senderaddress : RTPAddress) (ssrc : BitVec 32) (validates : Bool)
  | csrcEntry (senderaddress : RTPAddress) (csrc : BitVec 32)
  | rtcpReport (senderaddress : RTPAddress) (ssrc : BitVec 32) (validates : Bool)
  | bye (senderaddress : RTPAddress) (ssrc : BitVec 32)
  | timeout (ssrc : BitVec 32)
  | changeOwnSSRC (newssrc : BitVec 32)

namespace Session

def create (ssrc : BitVec 32) (format : Option String) : Session :=
  ⟨AList.insert ssrc RTPSourceData.own ∅, ssrc, false, ∅, 0, format, []⟩

def put (session : Session) (ssrc : BitVec 32) (dat : RTPSourceData) : Session :=
  { session with sources := session.sources.insert ssrc dat }

/-- `SenderSession::OnNewSource`. -/
def onNewSource (session : Session) (dat : RTPSourceData) : Session :=
  if dat.ownssrc then session
  else match dat.addressFromData with
    | none => session
    | some dest => { session with
        destinations := insert dest session.destinations
        connectedSources := session.connectedSources + 1
        appPackets := session.appPackets ++ session.format.toList }

/-- What `OnBYEPacket` and `OnRemoveSource` do about the address of a source. -/
def dropSource (session : Session) (dat : RTPSourceData) : Session :=
  match dat.addressFromData with
  | none => session
  | some dest => { session with
      destinations := session.destinations.erase dest
      connectedSources := session.connectedSources - 1 }

/-- `SenderSession::OnBYEPacket`. -/
def onBYEPacket (session : Session) (dat : RTPSourceData) : Session :=
  if dat.ownssrc then session else session.dropSource dat

/-- `SenderSession::OnRemoveSource`. -/
def onRemoveSource (session : Session) (dat : RTPSourceData) : Session :=
  if dat.ownssrc then session
  else if dat.receivedbye then session
  else session.dropSource dat

/-- `OnSSRCCollision`, which detects a collision with the session's own entry. -/
def onSSRCCollision (session : Session) (ssrc : BitVec 32) : Session :=
  { session with owncollision := session.owncollision || decide (ssrc = session.ownssrc) }

/-- The entry a packet is about, and whether it has been created for it: in
`ProcessRTPPacket` for an RTP packet, and `GetRTCPSourceData` for RTCP. -/
def getSourceData (session : Session) (senderaddress : RTPAddress) (ssrc : BitVec 32)
    (isrtp : Bool) : Option (RTPSourceData × Bool) :=
  match session.sources.lookup ssrc with
  | none => some (RTPSourceData.new.setAddress isrtp senderaddress, true)
  | some dat => (dat.checkCollision senderaddress isrtp).map fun dat => (dat, false)

/-- A packet that tells of a source and its address. -/
def processPacket (session : Session) (senderaddress : RTPAddress) (ssrc : BitVec 32)
    (isrtp validates : Bool) : Session :=
  match session.getSourceData senderaddress ssrc isrtp with
  | none => session.onSSRCCollision ssrc
  | some (dat, created) =>
      let dat := { dat with validated := dat.validated || validates }
      let session := session.put ssrc dat
      if created then session.onNewSource dat else session

/-- One entry of the CSRC list in a valid source's packet. A new entry is validated
and has no address. -/
def processCSRC (session : Session) (senderaddress : RTPAddress) (csrc : BitVec 32) : Session :=
  match session.sources.lookup csrc with
  | none =>
      let csrcdat := { RTPSourceData.new with validated := true }
      (session.put csrc csrcdat).onNewSource csrcdat
  | some _ => session.processPacket senderaddress csrc true true

/-- `RTPSources::ProcessBYE`; the own entry ignores it. -/
def processBYE (session : Session) (senderaddress : RTPAddress) (ssrc : BitVec 32) : Session :=
  match session.getSourceData senderaddress ssrc false with
  | none => session.onSSRCCollision ssrc
  | some (dat, created) =>
      if dat.ownssrc then session.put ssrc dat
      else
        let dat := { dat with receivedbye := true }
        let session := session.put ssrc dat
        (if created then session.onNewSource dat else session).onBYEPacket dat

/-- The removal of one entry in `MultipleTimeouts`. -/
def timeout (session : Session) (ssrc : BitVec 32) : Option Session :=
  match session.sources.lookup ssrc with
  | none => none
  | some dat =>
      if dat.ownssrc then none
      else some ({ session with sources := session.sources.erase ssrc }.onRemoveSource dat)

/-- After a collision `ProcessPolledData` replaces the own entry by one with an
SSRC that is not in use. -/
def changeOwnSSRC (session : Session) (newssrc : BitVec 32) : Option Session :=
  if session.owncollision ∧ session.sources.lookup newssrc = none then
    some { session with
      sources := (session.sources.erase session.ownssrc).insert newssrc RTPSourceData.own
      ownssrc := newssrc
      owncollision := false }
  else none

def step (session : Session) : Event → Option Session
  | .rtpPacket senderaddress ssrc validates =>
      some (session.processPacket senderaddress ssrc true validates)
  | .csrcEntry senderaddress csrc => some (session.processCSRC senderaddress csrc)
  | .rtcpReport senderaddress ssrc validates =>
      some (session.processPacket senderaddress ssrc false validates)
  | .bye senderaddress ssrc => some (session.processBYE senderaddress ssrc)
  | .timeout ssrc => session.timeout ssrc
  | .changeOwnSSRC newssrc => session.changeOwnSSRC newssrc

/-- `RTPSources::ProcessRTPPacket`: the CSRC list only counts if the source of the
packet is valid. -/
def processRTPPacket (session : Session) (senderaddress : RTPAddress) (ssrc : BitVec 32)
    (csrcs : List (BitVec 32)) (accept : Bool) : Session :=
  match session.getSourceData senderaddress ssrc true with
  | none => session.onSSRCCollision ssrc
  | some (dat, _) =>
      let processed := session.processPacket senderaddress ssrc true accept
      if dat.validated || accept then
        csrcs.foldl (fun session csrc => session.processCSRC senderaddress csrc) processed
      else processed

/-- A whole RTP packet is a run of the events it is made of. -/
theorem run_processRTPPacket (session : Session) (senderaddress : RTPAddress) (ssrc : BitVec 32)
    (csrcs : List (BitVec 32)) (accept : Bool) :
    ∃ heard, heard <+: csrcs ∧
      Transition.run step session (.rtpPacket senderaddress ssrc accept ::
          heard.map (Event.csrcEntry senderaddress)) =
        some (session.processRTPPacket senderaddress ssrc csrcs accept) := by
  have hFold (start : Session) : Transition.run step start
      (csrcs.map (Event.csrcEntry senderaddress)) =
        some (csrcs.foldl (fun session csrc => session.processCSRC senderaddress csrc) start) := by
    induction csrcs generalizing start with
    | nil => rfl
    | cons csrc rest ih => exact ih (start.processCSRC senderaddress csrc)
  cases hData : session.getSourceData senderaddress ssrc true with
  | none =>
      refine ⟨[], List.nil_prefix, ?_⟩
      simp only [processRTPPacket, processPacket, hData, List.map_nil, Transition.run, step,
        Option.bind_some]
  | some data =>
      simp only [processRTPPacket, hData]
      by_cases hValid : (data.1.validated || accept) = true
      · refine ⟨csrcs, List.prefix_refl _, ?_⟩
        rw [if_pos hValid]
        exact hFold _
      · refine ⟨[], List.nil_prefix, ?_⟩
        rw [if_neg hValid]
        rfl

end Session

end AudioSync.Sources
