import AudioSync.Lib.KeyedList
import AudioSync.Rtcp.CompoundPacket
import AudioSync.Rtp.PacketQueue
import AudioSync.Sources.Session

/-! `RTPSources`: the list of sources with its counters, and what datagrams and timeouts do to
it. The list is in the order of the hash table, in which new elements are the last ones. -/
namespace AudioSync.Sources

open Rtcp (RTCPPacket SDESItem SDESChunk ReportBlock)
open Rtp (RTPPacket RTPRawPacket RTPInternalSourceData ProbationType)

/-- `RTPTime`. -/
structure RTPTime where
  sec : BitVec 32
  microsec : BitVec 32
  deriving DecidableEq, Repr

namespace RTPTime

/-- `operator-=`. -/
def sub (t other : RTPTime) : RTPTime :=
  if t.microsec < other.microsec then
    ⟨t.sec - other.sec - 1, t.microsec + 1000000 - other.microsec⟩
  else ⟨t.sec - other.sec, t.microsec - other.microsec⟩

/-- `operator<`; the other comparison is `operator>`. -/
def lt (t other : RTPTime) : Bool :=
  if t.sec < other.sec then true
  else if other.sec < t.sec then false
  else decide (t.microsec < other.microsec)

end RTPTime

/-- `RTPInternalSourceData`, with what the table uses of it besides its packets. Of the SDES
items it is the CNAME and the note. -/
structure SourceData extends RTPInternalSourceData where
  ssrc : BitVec 32
  receivedbye : Bool
  rtpaddr : Option (Option RTPAddress)
  rtcpaddr : Option (Option RTPAddress)
  cname : List Byte
  note : List Byte
  lastmsgtime : RTPTime
  lastrtptime : RTPTime
  lastnotetime : RTPTime
  byetime : RTPTime

namespace SourceData

/-- The constructor. -/
def new (ssrc : BitVec 32) (probationtype : ProbationType) : SourceData where
  toRTPInternalSourceData := .new probationtype
  ssrc := ssrc
  receivedbye := false
  rtpaddr := none
  rtcpaddr := none
  cname := []
  note := []
  lastmsgtime := ⟨0, 0⟩
  lastrtptime := ⟨0, 0⟩
  lastnotetime := ⟨0, 0⟩
  byetime := ⟨0, 0⟩

/-- The session's own entry, as `CreateOwnSSRC` makes it. -/
def own (ssrc : BitVec 32) (probationtype : ProbationType) : SourceData :=
  { new ssrc probationtype with
    ownssrc := true
    validated := true
    rtpaddr := some none
    rtcpaddr := some none }

def isActive (srcdat : SourceData) : Bool := srcdat.validated && !srcdat.receivedbye

/-- What matters of a source for whom it is served. -/
def entry (srcdat : SourceData) : RTPSourceData :=
  ⟨srcdat.ownssrc, srcdat.validated, srcdat.receivedbye, srcdat.rtpaddr, srcdat.rtcpaddr⟩

/-- With the addresses of an entry. -/
def withAddresses (srcdat : SourceData) (dat : RTPSourceData) : SourceData :=
  { srcdat with rtpaddr := dat.rtpaddr, rtcpaddr := dat.rtcpaddr }

/-- `SetRTPDataAddress` or `SetRTCPDataAddress`. -/
def setAddress (isrtp : Bool) (addr : RTPAddress) (srcdat : SourceData) : SourceData :=
  srcdat.withAddresses (srcdat.entry.setAddress isrtp addr)

/-- `RTPSources::CheckCollision`. -/
def checkCollision (srcdat : SourceData) (senderaddress : RTPAddress) (isrtp : Bool) :
    Option SourceData :=
  (srcdat.entry.checkCollision senderaddress isrtp).map srcdat.withAddresses

/-- `RTPInternalSourceData::ProcessRTPPacket`, with the times of its statistics. -/
def processRTPPacket (srcdat : SourceData) (rtppack : RTPPacket) (receivetime : RTPTime) :
    SourceData :=
  { srcdat with
    toRTPInternalSourceData := srcdat.toRTPInternalSourceData.processRTPPacket rtppack
    lastmsgtime := receivetime
    lastrtptime :=
      if (srcdat.judge rtppack).2.accept && !srcdat.ownssrc then receivetime
      else srcdat.lastrtptime }

/-- `ProcessSenderInfo`, `ProcessReportBlock`, `UpdateMessageTime` and
`ProcessPrivateSDESItem`. -/
def updateMessageTime (receivetime : RTPTime) (srcdat : SourceData) : SourceData :=
  { srcdat with lastmsgtime := receivetime }

def setCSRC (srcdat : SourceData) : SourceData := { srcdat with validated := true }

/-- `RTPInternalSourceData::ProcessSDESItem`: the CNAME is only set once, and validates. -/
def processSDESItem (item : SDESItem) (receivetime : RTPTime) (srcdat : SourceData) : SourceData :=
  if item.sdesid = 1 then
    if srcdat.cname.length = 0 then
      { srcdat with lastmsgtime := receivetime, cname := item.data, validated := true }
    else { srcdat with lastmsgtime := receivetime }
  else if item.sdesid = 7 then
    { srcdat with lastmsgtime := receivetime, lastnotetime := receivetime, note := item.data }
  else { srcdat with lastmsgtime := receivetime }

/-- `RTPInternalSourceData::SentRTPPacket`. -/
def sentRTPPacket (currenttime : RTPTime) (srcdat : SourceData) : SourceData :=
  if srcdat.ownssrc then
    { srcdat with issender := true, lastrtptime := currenttime, lastmsgtime := currenttime }
  else srcdat

def processBYEPacket (receivetime : RTPTime) (srcdat : SourceData) : SourceData :=
  { srcdat with receivedbye := true, byetime := receivetime, lastmsgtime := receivetime }

end SourceData

/-- The callbacks by which a session learns of its sources. -/
inductive Callback where
  | onNewSource (dat : RTPSourceData)
  | onBYEPacket (dat : RTPSourceData)
  | onRemoveSource (dat : RTPSourceData)
  deriving DecidableEq, Repr

/-- The sources, and the callbacks that were made for them. -/
structure RTPSources where
  probationtype : ProbationType
  sourcelist : List SourceData
  callbacks : List Callback
  owndata : Option (BitVec 32)
  owncollision : Bool
  totalcount : Int
  sendercount : Int
  activecount : Int

namespace RTPSources

def find (sources : RTPSources) (ssrc : BitVec 32) : Option SourceData :=
  KeyedList.find SourceData.ssrc ssrc sources.sourcelist

/-- A change of the source that has this SSRC. -/
def put (sources : RTPSources) (srcdat : SourceData) : RTPSources :=
  { sources with sourcelist := KeyedList.replace SourceData.ssrc srcdat sources.sourcelist }

/-- `ObtainSourceDataInstance` where there is no such source yet. -/
def add (sources : RTPSources) (srcdat : SourceData) : RTPSources :=
  { sources with
    sourcelist := sources.sourcelist ++ [srcdat]
    totalcount := sources.totalcount + 1 }

/-- These callbacks are made. -/
def notify (sources : RTPSources) (callbacks : List Callback) : RTPSources :=
  { sources with callbacks := sources.callbacks ++ callbacks }

/-- `OnNewSource` where a source was created. -/
def announce (sources : RTPSources) (created : Bool) (srcdat : SourceData) : RTPSources :=
  sources.notify (if created then [.onNewSource srcdat.entry] else [])

/-- `OnSSRCCollision`. -/
def collide (sources : RTPSources) (srcdat : SourceData) : RTPSources :=
  { sources with owncollision := sources.owncollision || srcdat.ownssrc }

/-- The changes of the counters where a source changes, in the functions that make them. -/
def becomes (flag : SourceData → Bool) (before after : SourceData) : Nat :=
  if !flag before && flag after then 1 else 0

/-- A source that is processed, with its address, and whether it has just been created:
`GetRTCPSourceData`, and the beginning of `ProcessRTPPacket`. -/
def getSourceData (sources : RTPSources) (senderaddress : RTPAddress) (ssrc : BitVec 32)
    (isrtp : Bool) : RTPSources × Option (SourceData × Bool) :=
  match sources.find ssrc with
  | none =>
      let srcdat := (SourceData.new ssrc sources.probationtype).setAddress isrtp senderaddress
      (sources.add srcdat, some (srcdat, true))
  | some srcdat =>
      match srcdat.checkCollision senderaddress isrtp with
      | none => (sources.collide srcdat, none)
      | some srcdat => (sources.put srcdat, some (srcdat, false))

/-- What is done about a source, if its packet is not ignored on a collision. -/
def withSource (sources : RTPSources) (senderaddress : RTPAddress) (ssrc : BitVec 32)
    (isrtp : Bool) (process : RTPSources → SourceData → Bool → RTPSources) : RTPSources :=
  match sources.getSourceData senderaddress ssrc isrtp with
  | (sources, none) => sources
  | (sources, some (srcdat, created)) => process sources srcdat created

/-- One entry of the CSRC list. An existing source is validated without being counted. -/
def processCSRC (senderaddress : RTPAddress) (sources : RTPSources) (csrc : BitVec 32) :
    RTPSources :=
  match sources.find csrc with
  | none =>
      let csrcdat := (SourceData.new csrc sources.probationtype).setCSRC
      announce { sources.add csrcdat with
        activecount := sources.activecount + if csrcdat.isActive then 1 else 0 } true csrcdat
  | some csrcdat =>
      match csrcdat.checkCollision senderaddress true with
      | none => sources.collide csrcdat
      | some csrcdat => sources.put csrcdat.setCSRC

/-- A source that has processed a packet of its own; it may be a sender now, or active. -/
def countPacket (sources : RTPSources) (srcdat processed : SourceData) : RTPSources :=
  { sources.put processed with
    sendercount := sources.sendercount + becomes (fun srcdat => srcdat.issender) srcdat processed
    activecount := sources.activecount + becomes SourceData.isActive srcdat processed }

/-- `ProcessRTPPacket`. -/
def processRTPPacket (sources : RTPSources) (rtppack : RTPPacket) (receivetime : RTPTime)
    (senderaddress : RTPAddress) : RTPSources :=
  sources.withSource senderaddress rtppack.ssrc true fun sources srcdat created =>
    let processed := srcdat.processRTPPacket rtppack receivetime
    let sources := (sources.countPacket srcdat processed).announce created processed
    if processed.validated then rtppack.csrcs.foldl (processCSRC senderaddress) sources
    else sources

/-- `ProcessRTCPSenderInfo`, `ProcessRTCPReportBlock`, `UpdateReceiveTime` and
`ProcessSDESPrivateItem`. -/
def updateReceiveTime (sources : RTPSources) (ssrc : BitVec 32) (receivetime : RTPTime)
    (senderaddress : RTPAddress) : RTPSources :=
  sources.withSource senderaddress ssrc false fun sources srcdat created =>
    let processed := srcdat.updateMessageTime receivetime
    (sources.put processed).announce created processed

/-- `ProcessSDESNormalItem` for the types that it knows. -/
def processSDESNormalItem (sources : RTPSources) (ssrc : BitVec 32) (item : SDESItem)
    (receivetime : RTPTime) (senderaddress : RTPAddress) : RTPSources :=
  sources.withSource senderaddress ssrc false fun sources srcdat created =>
    let processed := srcdat.processSDESItem item receivetime
    announce { sources.put processed with
      activecount := sources.activecount + becomes SourceData.isActive srcdat processed }
        created processed

/-- `ProcessBYE`, which ignores those for the own SSRC. -/
def processBYE (receivetime : RTPTime) (senderaddress : RTPAddress) (sources : RTPSources)
    (ssrc : BitVec 32) : RTPSources :=
  sources.withSource senderaddress ssrc false fun sources srcdat created =>
    if srcdat.ownssrc then sources
    else
      let processed := srcdat.processBYEPacket receivetime
      (announce { sources.put processed with
        activecount := sources.activecount - becomes SourceData.isActive processed srcdat }
          created processed).notify [.onBYEPacket processed.entry]

/-- The report blocks of a sender that are meant for this session, and the time of the report. -/
def processReport (sources : RTPSources) (senderssrc : BitVec 32) (blocks : List ReportBlock)
    (receivetime : RTPTime) (senderaddress : RTPAddress) : RTPSources :=
  let meant := blocks.filter fun block => sources.owndata = some block.ssrc
  if meant = [] then sources.updateReceiveTime senderssrc receivetime senderaddress
  else meant.foldl (fun sources _ =>
    sources.updateReceiveTime senderssrc receivetime senderaddress) sources

/-! An error ends the processing; it comes with the sources as they are left. -/

/-- An item of a chunk. An item of an unknown type is an error. -/
def processSDESItem (receivetime : RTPTime) (senderaddress : RTPAddress) (ssrc : BitVec 32)
    (sources : RTPSources) (item : SDESItem) : Except RTPSources RTPSources :=
  if item.sdesid = 8 then .ok (sources.updateReceiveTime ssrc receivetime senderaddress)
  else if 8 < item.sdesid then .error sources
  else .ok (sources.processSDESNormalItem ssrc item receivetime senderaddress)

def processChunk (receivetime : RTPTime) (senderaddress : RTPAddress) (sources : RTPSources)
    (chunk : SDESChunk) : Except RTPSources RTPSources :=
  if chunk.items = [] then .ok (sources.updateReceiveTime chunk.ssrc receivetime senderaddress)
  else chunk.items.foldlM (processSDESItem receivetime senderaddress chunk.ssrc) sources

/-- One packet of a compound packet. The callbacks for APP packets and for packets that are not
understood leave the sources alone. -/
def processPacket (receivetime : RTPTime) (senderaddress : RTPAddress) (sources : RTPSources) :
    RTCPPacket → Except RTPSources RTPSources
  | .sr senderssrc _ blocks =>
      .ok ((sources.updateReceiveTime senderssrc receivetime senderaddress).processReport
        senderssrc blocks receivetime senderaddress)
  | .rr senderssrc blocks =>
      .ok (sources.processReport senderssrc blocks receivetime senderaddress)
  | .sdes chunks => chunks.foldlM (processChunk receivetime senderaddress) sources
  | .bye ssrcs _ => .ok (ssrcs.foldl (processBYE receivetime senderaddress) sources)
  | .app .. => .ok sources
  | .unknown _ => .ok sources

/-- `ProcessRTCPCompoundPacket`. -/
def processRTCPCompoundPacket (sources : RTPSources) (packets : List RTCPPacket)
    (receivetime : RTPTime) (senderaddress : RTPAddress) : Except RTPSources RTPSources :=
  packets.foldlM (processPacket receivetime senderaddress) sources

/-- `ProcessRawPacket` for a datagram from elsewhere. -/
def processRawPacket (sources : RTPSources) (rawpack : RTPRawPacket) (receivetime : RTPTime)
    (senderaddress : RTPAddress) : Except RTPSources RTPSources :=
  if rawpack.isRTP then
    match RTPPacket.parseRawPacket rawpack with
    | none => .ok sources
    | some rtppack => .ok (sources.processRTPPacket rtppack receivetime senderaddress)
  else
    match Rtcp.RTCPCompoundPacket.rtcppacklist rawpack.bytes with
    | none => .ok sources
    | some packets => sources.processRTCPCompoundPacket packets receivetime senderaddress

/-- `CreateOwnSSRC`. -/
def createOwnSSRC (sources : RTPSources) (ssrc : BitVec 32) : Option RTPSources :=
  if sources.owndata ≠ none then none
  else if (sources.find ssrc).isSome then none
  else
    let owndata := SourceData.own ssrc sources.probationtype
    some (announce { sources.add owndata with
      owndata := some ssrc
      activecount := sources.activecount + 1 } true owndata)

/-- `DeleteOwnSSRC`. -/
def deleteOwnSSRC (sources : RTPSources) : Option RTPSources :=
  match sources.owndata with
  | none => none
  | some ssrc =>
      (sources.find ssrc).map fun owndata => notify { sources with
        sourcelist := sources.sourcelist.filter fun srcdat => srcdat.ssrc ≠ ssrc
        owndata := none
        totalcount := sources.totalcount - 1
        sendercount := sources.sendercount - if owndata.issender then 1 else 0
        activecount := sources.activecount - if owndata.isActive then 1 else 0 }
          [.onRemoveSource owndata.entry]

/-- After a collision `ProcessPolledData` changes the own SSRC to one that is not in use. It does
so once: the flag is cleared before the next datagram. -/
def changeOwnSSRC (sources : RTPSources) (newssrc : BitVec 32) : Option RTPSources :=
  if sources.owncollision ∧ sources.find newssrc = none then
    sources.deleteOwnSSRC.bind fun sources =>
      createOwnSSRC { sources with owncollision := false } newssrc
  else none

/-- `SentRTPPacket`. -/
def sentRTPPacket (sources : RTPSources) (currenttime : RTPTime) : RTPSources :=
  match sources.owndata.bind sources.find with
  | none => sources
  | some owndata =>
      let sent := owndata.sentRTPPacket currenttime
      { sources.put sent with
        sendercount := sources.sendercount +
          becomes (fun srcdat => srcdat.issender) owndata sent }

/-- The times that `MultipleTimeouts` compares with. -/
structure CheckTimes where
  sender : RTPTime
  bye : RTPTime
  general : RTPTime
  note : RTPTime

/-- `MultipleTimeouts` at one source: what is left of it, if it stays. -/
def checkSource (times : CheckTimes) (srcdat : SourceData) : Option SourceData :=
  if srcdat.receivedbye && !srcdat.ownssrc && srcdat.byetime.lt times.bye then none
  else if !srcdat.ownssrc && srcdat.lastmsgtime.lt times.general then none
  else some { srcdat with
    issender := srcdat.issender && !srcdat.lastrtptime.lt times.sender
    note :=
      if srcdat.note.length ≠ 0 ∧ srcdat.lastnotetime.lt times.note then [] else srcdat.note }

/-- `MultipleTimeouts`. The sources that stay are counted anew, the others are removed. -/
def multipleTimeouts (sources : RTPSources)
    (curtime sendertimeout byetimeout generaltimeout notetimeout : RTPTime) : RTPSources :=
  let times : CheckTimes := ⟨curtime.sub sendertimeout, curtime.sub byetimeout,
    curtime.sub generaltimeout, curtime.sub notetimeout⟩
  let sourcelist := sources.sourcelist.filterMap (checkSource times)
  let removed := sources.sourcelist.filter fun srcdat => (checkSource times srcdat).isNone
  notify { sources with
    sourcelist := sourcelist
    totalcount := sourcelist.length
    sendercount := sourcelist.countP fun srcdat => srcdat.issender
    activecount := sourcelist.countP SourceData.isActive }
      (removed.map fun srcdat => .onRemoveSource srcdat.entry)

/-- What happens to the sources of a session. -/
inductive Input where
  | rawPacket (rawpack : RTPRawPacket) (receivetime : RTPTime) (senderaddress : RTPAddress)
  | sentRTPPacket (currenttime : RTPTime)
  | multipleTimeouts (curtime sendertimeout byetimeout generaltimeout notetimeout : RTPTime)
  | changeOwnSSRC (newssrc : BitVec 32)

/-- The sources after something has happened, also when it was an error. -/
def left (result : Except RTPSources RTPSources) : RTPSources :=
  match result with
  | .ok sources => sources
  | .error sources => sources

def step (sources : RTPSources) : Input → Option RTPSources
  | .rawPacket rawpack receivetime senderaddress =>
      some (left (processRawPacket { sources with owncollision := false } rawpack receivetime
        senderaddress))
  | .sentRTPPacket currenttime => some (sources.sentRTPPacket currenttime)
  | .multipleTimeouts curtime sendertimeout byetimeout generaltimeout notetimeout =>
      some (sources.multipleTimeouts curtime sendertimeout byetimeout generaltimeout notetimeout)
  | .changeOwnSSRC newssrc => sources.changeOwnSSRC newssrc

/-- The sources of a session that was created with this SSRC. -/
def create (probationtype : ProbationType) (ssrc : BitVec 32) : RTPSources where
  probationtype := probationtype
  sourcelist := [.own ssrc probationtype]
  callbacks := [.onNewSource (SourceData.own ssrc probationtype).entry]
  owndata := some ssrc
  owncollision := false
  totalcount := 1
  sendercount := 0
  activecount := 1

end RTPSources

end AudioSync.Sources
