import AudioSync.Sources.Cases
import AudioSync.Sources.Counters

/-! What the datagrams of a session do to its clients: the table with its callbacks takes the
steps of `Session`. -/
namespace AudioSync.Sources

open Rtp (RTPPacket RTPRawPacket RTPInternalSourceData ProbationType)

namespace Session

/-- A callback of the table. -/
def hear (session : Session) : Callback → Session
  | .onNewSource dat => session.onNewSource dat
  | .onBYEPacket dat => session.onBYEPacket dat
  | .onRemoveSource dat => session.onRemoveSource dat

/-- Whom a session serves, and what it has told them. -/
def served (session : Session) : Finset RTPAddress × Int × Option String × List String :=
  (session.destinations, session.connectedSources, session.format, session.appPackets)

theorem served_dropSource {session other : Session} (h : session.served = other.served)
    (dat : RTPSourceData) : (session.dropSource dat).served = (other.dropSource dat).served := by
  simp only [served, Prod.mk.injEq] at h
  obtain ⟨hDest, hCount, hFormat, hSent⟩ := h
  unfold dropSource
  cases dat.addressFromData <;> simp [served, hDest, hCount, hFormat, hSent]

/-- The callbacks only depend on whom a session serves. -/
theorem served_hear {session other : Session} (h : session.served = other.served)
    (callback : Callback) : (session.hear callback).served = (other.hear callback).served := by
  cases callback with
  | onNewSource dat =>
      simp only [served, Prod.mk.injEq] at h
      obtain ⟨hDest, hCount, hFormat, hSent⟩ := h
      show (session.onNewSource dat).served = (other.onNewSource dat).served
      unfold onNewSource
      cases dat.ownssrc <;> cases dat.addressFromData <;>
        simp [served, hDest, hCount, hFormat, hSent]
  | onBYEPacket dat =>
      show (session.onBYEPacket dat).served = (other.onBYEPacket dat).served
      unfold onBYEPacket
      split_ifs
      · exact h
      · exact served_dropSource h dat
  | onRemoveSource dat =>
      show (session.onRemoveSource dat).served = (other.onRemoveSource dat).served
      unfold onRemoveSource
      split_ifs
      · exact h
      · exact h
      · exact served_dropSource h dat

/-- A session does not serve itself. -/
theorem hear_own (session : Session) {dat : RTPSourceData} (hOwn : dat.ownssrc = true) :
    session.hear (.onRemoveSource dat) = session ∧ session.hear (.onNewSource dat) = session := by
  constructor
  · show session.onRemoveSource dat = session
    rw [onRemoveSource, if_pos hOwn]
  · show session.onNewSource dat = session
    rw [onNewSource, if_pos hOwn]

/-- A callback does not touch the table. -/
theorem hear_frame (session : Session) (callback : Callback) :
    (session.hear callback).sources = session.sources ∧
      (session.hear callback).ownssrc = session.ownssrc := by
  cases callback with
  | onNewSource dat => exact session.onNewSource_frame dat
  | onBYEPacket dat => exact session.onBYEPacket_frame dat
  | onRemoveSource dat => exact session.onRemoveSource_frame dat

theorem owncollision_hear (session : Session) (callback : Callback) :
    (session.hear callback).owncollision = session.owncollision := by
  have hDrop (dat : RTPSourceData) :
      (session.dropSource dat).owncollision = session.owncollision := by
    unfold dropSource
    split <;> rfl
  cases callback with
  | onNewSource dat =>
      show (session.onNewSource dat).owncollision = _
      unfold onNewSource
      split
      · rfl
      · split <;> rfl
  | onBYEPacket dat =>
      show (session.onBYEPacket dat).owncollision = _
      unfold onBYEPacket
      split_ifs
      · rfl
      · exact hDrop dat
  | onRemoveSource dat =>
      show (session.onRemoveSource dat).owncollision = _
      unfold onRemoveSource
      split_ifs
      · rfl
      · rfl
      · exact hDrop dat

end Session

namespace RTPSources

/-- The sources without those that have these SSRCs. -/
def without (sources : RTPSources) (ssrcs : List (BitVec 32)) : RTPSources :=
  { sources with sourcelist := sources.sourcelist.filter fun srcdat => srcdat.ssrc ∉ ssrcs }

theorem find_without (sources : RTPSources) (ssrcs : List (BitVec 32)) (ssrc : BitVec 32) :
    (sources.without ssrcs).find ssrc = if ssrc ∈ ssrcs then none else sources.find ssrc := by
  have hKept : (sources.without ssrcs).find ssrc =
      if decide (ssrc ∉ ssrcs) = true then sources.find ssrc else none :=
    KeyedList.find_filter (fun key => decide (key ∉ ssrcs)) sources.sourcelist
  rw [hKept]
  by_cases hMem : ssrc ∈ ssrcs <;> simp [hMem]

theorem without_without (sources : RTPSources) (first later : List (BitVec 32)) :
    (sources.without first).without later = sources.without (first ++ later) := by
  have hKeep : (fun srcdat : SourceData =>
        decide (srcdat.ssrc ∉ later) && decide (srcdat.ssrc ∉ first)) =
      fun srcdat => decide (srcdat.ssrc ∉ first ++ later) := by
    funext srcdat
    rw [← Bool.decide_and, decide_eq_decide, List.mem_append, not_or]
    exact and_comm
  rw [without, without, without, List.filter_filter, hKeep]

/-- Callbacks that are made one after the other. -/
theorem notify_without_notify (sources : RTPSources) (ssrcs : List (BitVec 32))
    (first later : List Callback) : ((sources.notify first).without ssrcs).notify later =
      (sources.without ssrcs).notify (first ++ later) := by
  rw [notify, notify, without, List.append_assoc]
  rfl

/-- Tables that only differ in what is of no account for the session. -/
structure Alike (next sources : RTPSources) : Prop where
  ssrcs : next.sourcelist.map SourceData.ssrc = sources.sourcelist.map SourceData.ssrc
  entries : ∀ ssrc,
    (next.find ssrc).map SourceData.entry = (sources.find ssrc).map SourceData.entry
  owndata : next.owndata = sources.owndata
  owncollision : next.owncollision = sources.owncollision
  callbacks : next.callbacks = sources.callbacks

theorem Alike.refl (sources : RTPSources) : sources.Alike sources :=
  ⟨rfl, fun _ => rfl, rfl, rfl, rfl⟩

theorem Alike.trans {first second third : RTPSources} (h : first.Alike second)
    (h' : second.Alike third) : first.Alike third where
  ssrcs := h.ssrcs.trans h'.ssrcs
  entries := fun ssrc => (h.entries ssrc).trans (h'.entries ssrc)
  owndata := h.owndata.trans h'.owndata
  owncollision := h.owncollision.trans h'.owncollision
  callbacks := h.callbacks.trans h'.callbacks

/-- Nobody is told that a packet has been sent. -/
theorem sentRTPPacket_alike (sources : RTPSources) (currenttime : RTPTime) :
    (sources.sentRTPPacket currenttime).Alike sources := by
  unfold RTPSources.sentRTPPacket
  cases hOwn : sources.owndata.bind sources.find with
  | none => exact Alike.refl sources
  | some owndata =>
      obtain ⟨ssrc, -, hFind⟩ := Option.bind_eq_some_iff.mp hOwn
      obtain rfl := KeyedList.key_of_find hFind
      have hFrame : (owndata.sentRTPPacket currenttime).ssrc = owndata.ssrc ∧
          (owndata.sentRTPPacket currenttime).entry = owndata.entry := by
        unfold SourceData.sentRTPPacket
        split_ifs <;> exact ⟨rfl, rfl⟩
      obtain ⟨hKey, hEntry⟩ := hFrame
      have hHere : sources.find (owndata.sentRTPPacket currenttime).ssrc = some owndata :=
        hKey ▸ hFind
      refine ⟨KeyedList.map_key_replace .., fun other => ?_, rfl, rfl, rfl⟩
      have hReplace : (sources.put (owndata.sentRTPPacket currenttime)).find other =
          if (owndata.sentRTPPacket currenttime).ssrc = other then
            some (owndata.sentRTPPacket currenttime) else sources.find other :=
        KeyedList.find_replace hHere
      refine (congrArg (Option.map SourceData.entry) hReplace).trans ?_
      split_ifs with hSame
      · rw [← hSame, hHere, Option.map_some, Option.map_some, hEntry]
      · rfl

end RTPSources

open RTPSources

/-- The table of a session to which a source is added. -/
theorem lookup_insert_entry {table : KeyedTable.Table (BitVec 32) RTPSourceData}
    (srcdat : SourceData) {others : Option SourceData} {ssrc : BitVec 32}
    (hOthers : srcdat.ssrc ≠ ssrc → table.lookup ssrc = others.map SourceData.entry) :
    (table.insert srcdat.ssrc srcdat.entry).lookup ssrc =
      (if srcdat.ssrc = ssrc then some srcdat else others).map SourceData.entry := by
  by_cases hKey : srcdat.ssrc = ssrc
  · rw [if_pos hKey, ← hKey, AList.lookup_insert]
    rfl
  · rw [if_neg hKey, AList.lookup_insert_ne (Ne.symm hKey)]
    exact hOthers hKey

/-- A session that has the sources of the table, and has heard its callbacks since it started. -/
structure Follows (start : Session) (sources : RTPSources) (session : Session) : Prop where
  nodup : (sources.sourcelist.map SourceData.ssrc).Nodup
  lookup : ∀ ssrc, session.sources.lookup ssrc = (sources.find ssrc).map SourceData.entry
  own : sources.owndata = some session.ownssrc
  known : ∃ owndata, sources.find session.ownssrc = some owndata
  ownssrc : ∀ ssrc, ∀ srcdat ∈ sources.find ssrc,
    srcdat.ownssrc = decide (ssrc = session.ownssrc)
  collision : sources.owncollision = true → session.owncollision = true
  served : session.served = (sources.callbacks.foldl Session.hear start).served

namespace Follows

variable {start session : Session} {sources : RTPSources} {srcdat changed : SourceData}

/-- The counters are of no account for the session. -/
theorem counted (h : Follows start sources session) (totalcount sendercount activecount : Int) :
    Follows start { sources with
      totalcount := totalcount, sendercount := sendercount, activecount := activecount } session :=
  ⟨h.nodup, h.lookup, h.own, h.known, h.ownssrc, h.collision, h.served⟩

/-- A source changes, or its address. -/
theorem put (h : Follows start sources session)
    (hFind : sources.find changed.ssrc = some srcdat) (hOwn : changed.ownssrc = srcdat.ownssrc) :
    Follows start (sources.put changed) (session.put changed.ssrc changed.entry) := by
  have hReplace (ssrc : BitVec 32) : (sources.put changed).find ssrc =
      if changed.ssrc = ssrc then some changed else sources.find ssrc :=
    KeyedList.find_replace hFind
  exact {
    nodup := by
      rw [RTPSources.put, KeyedList.map_key_replace]
      exact h.nodup
    lookup := fun ssrc => by
      rw [hReplace]
      exact lookup_insert_entry _ fun _ => h.lookup ssrc
    own := h.own
    known := by
      show ∃ owndata, (sources.put changed).find session.ownssrc = some owndata
      rw [hReplace]
      split_ifs
      · exact ⟨changed, rfl⟩
      · exact h.known
    ownssrc := fun ssrc found hFound => by
      rw [hReplace] at hFound
      split_ifs at hFound with hKey
      · obtain rfl := Option.some.inj hFound
        rw [hOwn]
        exact h.ownssrc ssrc srcdat (hKey ▸ hFind)
      · exact h.ownssrc ssrc found hFound
    collision := h.collision
    served := h.served }

/-- A source that was not known is added. -/
theorem add (h : Follows start sources session) (hNone : sources.find srcdat.ssrc = none)
    (hOwn : srcdat.ownssrc = false) :
    Follows start (sources.add srcdat) (session.put srcdat.ssrc srcdat.entry) := by
  have hAppend (ssrc : BitVec 32) : (sources.add srcdat).find ssrc =
      if srcdat.ssrc = ssrc then some srcdat else sources.find ssrc :=
    KeyedList.find_append hNone
  have hOther : srcdat.ssrc ≠ session.ownssrc := by
    intro hSame
    obtain ⟨owndata, hKnown⟩ := h.known
    rw [← hSame, hNone] at hKnown
    cases hKnown
  exact {
    nodup := KeyedList.nodup_append h.nodup hNone
    lookup := fun ssrc => by
      rw [hAppend]
      exact lookup_insert_entry _ fun _ => h.lookup ssrc
    own := h.own
    known := by
      show ∃ owndata, (sources.add srcdat).find session.ownssrc = some owndata
      rw [hAppend, if_neg hOther]
      exact h.known
    ownssrc := fun ssrc found hFound => by
      rw [hAppend] at hFound
      split_ifs at hFound with hKey
      · obtain rfl := Option.some.inj hFound
        rw [hOwn, ← hKey]
        exact (decide_eq_false hOther).symm
      · exact h.ownssrc ssrc found hFound
    collision := h.collision
    served := h.served }

/-- The session hears a callback. -/
theorem hear (h : Follows start sources session) (callback : Callback) :
    Follows start (sources.notify [callback]) (session.hear callback) := by
  obtain ⟨hSources, hOwn⟩ := session.hear_frame callback
  have hCollision := session.owncollision_hear callback
  exact {
    nodup := h.nodup
    lookup := fun ssrc => hSources.symm ▸ h.lookup ssrc
    own := hOwn.symm ▸ h.own
    known := hOwn.symm ▸ h.known
    ownssrc := hOwn.symm ▸ h.ownssrc
    collision := fun hSome => hCollision.trans (h.collision hSome)
    served := by
      rw [notify, List.foldl_append, List.foldl_cons, List.foldl_nil]
      exact Session.served_hear h.served callback }

/-- Where the table finds a collision. -/
theorem collide (h : Follows start sources session)
    (hFind : sources.find srcdat.ssrc = some srcdat) :
    Follows start (sources.collide srcdat) (session.onSSRCCollision srcdat.ssrc) where
  nodup := h.nodup
  lookup := h.lookup
  own := h.own
  known := h.known
  ownssrc := h.ownssrc
  collision := by
    intro hSome
    show (session.owncollision || decide (srcdat.ssrc = session.ownssrc)) = true
    rw [← h.ownssrc srcdat.ssrc srcdat hFind]
    rcases Bool.or_eq_true_iff.mp hSome with hBefore | hHere
    · rw [h.collision hBefore, Bool.true_or]
    · rw [hHere, Bool.or_true]
  served := h.served

/-- A source changes once more. -/
theorem replace (h : Follows start sources (session.put srcdat.ssrc srcdat.entry))
    (hFind : sources.find srcdat.ssrc = some srcdat) (hKey : changed.ssrc = srcdat.ssrc)
    (hOwn : changed.ownssrc = srcdat.ownssrc) :
    Follows start (sources.put changed) (session.put srcdat.ssrc changed.entry) := by
  have hHere : sources.find changed.ssrc = some srcdat := hKey ▸ hFind
  have hPut := h.put hHere hOwn
  have hTwice : (session.put srcdat.ssrc srcdat.entry).put srcdat.ssrc changed.entry =
      session.put srcdat.ssrc changed.entry :=
    congrArg (fun table => { session with sources := table }) (AList.insert_insert session.sources)
  rwa [hKey, hTwice] at hPut

/-- The session hears of a source, if it is new. -/
theorem announce (h : Follows start sources session) (created : Bool) (srcdat : SourceData) :
    Follows start (sources.announce created srcdat)
      (if created then session.onNewSource srcdat.entry else session) := by
  cases created with
  | true => exact h.hear (.onNewSource srcdat.entry)
  | false =>
      have hNone : sources.announce false srcdat = sources := by
        rw [RTPSources.announce, notify, if_neg Bool.false_ne_true, List.append_nil]
      rw [hNone]
      exact h

/-- A source that has processed a packet. -/
theorem processPacket (h : Follows start sources (session.put srcdat.ssrc srcdat.entry))
    (hFind : sources.find srcdat.ssrc = some srcdat) {senderaddress : RTPAddress} {isrtp : Bool}
    {created : Bool} (hData : session.getSourceData senderaddress srcdat.ssrc isrtp =
      some (srcdat.entry, created))
    (hKey : changed.ssrc = srcdat.ssrc) (validates : Bool)
    (hEntry : changed.entry = { srcdat.entry with validated := srcdat.validated || validates }) :
    Follows start ((sources.put changed).announce created changed)
      (session.processPacket senderaddress srcdat.ssrc isrtp validates) := by
  have hPut :=
    (h.replace hFind hKey (congrArg RTPSourceData.ownssrc hEntry)).announce created changed
  unfold Session.processPacket
  rw [hData]
  dsimp only
  rw [hEntry] at hPut
  exact hPut

/-- Sources of which only that changes which is of no account for the session. -/
theorem same (h : Follows start sources session) {next : RTPSources}
    (hNodup : (next.sourcelist.map SourceData.ssrc).Nodup)
    (hEntries : ∀ ssrc, (next.find ssrc).map SourceData.entry =
      (sources.find ssrc).map SourceData.entry) (hOwn : next.owndata = sources.owndata)
    (hCollision : next.owncollision = true → sources.owncollision = true)
    (hCallbacks : next.callbacks = sources.callbacks) : Follows start next session where
  nodup := hNodup
  lookup := fun ssrc => (h.lookup ssrc).trans (hEntries ssrc).symm
  own := hOwn.trans h.own
  known := by
    obtain ⟨owndata, hKnown⟩ := h.known
    have hSome := hEntries session.ownssrc
    rw [hKnown] at hSome
    obtain ⟨kept, hKept, -⟩ := Option.map_eq_some_iff.mp hSome
    exact ⟨kept, hKept⟩
  ownssrc := fun ssrc found hFound => by
    have hSome := hEntries ssrc
    rw [Option.mem_def.mp hFound] at hSome
    obtain ⟨srcdat, hFind, hSame⟩ := Option.map_eq_some_iff.mp hSome.symm
    have hFlag : srcdat.ownssrc = found.ownssrc := congrArg RTPSourceData.ownssrc hSame
    rw [← hFlag]
    exact h.ownssrc ssrc srcdat hFind
  collision := fun hSome => h.collision (hCollision hSome)
  served := hCallbacks.symm ▸ h.served

/-- The table of the session without a source. -/
theorem lookup_erase (h : Follows start sources session) (removed ssrc : BitVec 32) :
    (session.sources.erase removed).lookup ssrc =
      ((sources.without [removed]).find ssrc).map SourceData.entry := by
  rw [find_without]
  by_cases hKey : ssrc = removed
  · rw [if_pos (List.mem_singleton.mpr hKey), hKey, AList.lookup_erase]
    rfl
  · rw [if_neg (mt List.mem_singleton.mp hKey), AList.lookup_erase_ne hKey]
    exact h.lookup ssrc

/-- A source of another session is removed. -/
theorem remove (h : Follows start sources session) (hFind : sources.find srcdat.ssrc = some srcdat)
    (hOwn : srcdat.ownssrc = false) : Follows start (sources.without [srcdat.ssrc])
      { session with sources := session.sources.erase srcdat.ssrc } := by
  have hOther : session.ownssrc ∉ [srcdat.ssrc] := by
    rw [List.mem_singleton]
    intro hSame
    have hFlag := h.ownssrc srcdat.ssrc srcdat hFind
    rw [hOwn, hSame, decide_eq_true rfl] at hFlag
    cases hFlag
  exact {
    nodup := (List.filter_sublist.map SourceData.ssrc).nodup h.nodup
    lookup := h.lookup_erase srcdat.ssrc
    own := h.own
    known := by
      show ∃ owndata, (sources.without [srcdat.ssrc]).find session.ownssrc = some owndata
      rw [find_without, if_neg hOther]
      exact h.known
    ownssrc := fun ssrc found hFound => by
      rw [find_without] at hFound
      by_cases hKey : ssrc ∈ [srcdat.ssrc]
      · rw [if_pos hKey] at hFound
        cases hFound
      · rw [if_neg hKey] at hFound
        exact h.ownssrc ssrc found hFound
    collision := h.collision
    served := h.served }

/-- The session's own entry is replaced. -/
theorem changeOwn (h : Follows start sources session) {next : RTPSources} {newssrc : BitVec 32}
    {probationtype : ProbationType} (hNone : sources.find newssrc = none)
    (hList : next.sourcelist =
      (sources.without [session.ownssrc]).sourcelist ++ [.own newssrc probationtype])
    (hOwn : next.owndata = some newssrc) (hCollision : next.owncollision = false)
    (hServed : (next.callbacks.foldl Session.hear start).served = session.served) :
    Follows start next { session with
      sources := (session.sources.erase session.ownssrc).insert newssrc RTPSourceData.own
      ownssrc := newssrc
      owncollision := false } := by
  have hFree : (sources.without [session.ownssrc]).find newssrc = none := by
    rw [find_without, hNone, ite_self]
  have hFind (ssrc : BitVec 32) : next.find ssrc =
      if newssrc = ssrc then some (.own newssrc probationtype)
        else (sources.without [session.ownssrc]).find ssrc := by
    rw [RTPSources.find, hList]
    exact KeyedList.find_append hFree
  exact {
    nodup := by
      rw [hList]
      exact KeyedList.nodup_append ((List.filter_sublist.map SourceData.ssrc).nodup h.nodup) hFree
    lookup := fun ssrc => by
      rw [hFind]
      exact lookup_insert_entry (.own newssrc probationtype) fun _ =>
        h.lookup_erase session.ownssrc ssrc
    own := hOwn
    known := ⟨_, (hFind newssrc).trans (if_pos rfl)⟩
    ownssrc := fun ssrc found hFound => by
      show found.ownssrc = decide (ssrc = newssrc)
      rw [hFind, find_without] at hFound
      split_ifs at hFound with hKey hOld
      · obtain rfl := Option.some.inj hFound
        rw [decide_eq_true hKey.symm]
        rfl
      · cases hFound
      · rw [h.ownssrc ssrc found hFound, decide_eq_false (mt List.mem_singleton.mpr hOld),
          decide_eq_false (Ne.symm hKey)]
    collision := fun hSome => by
      rw [hCollision] at hSome
      cases hSome
    served := hServed.symm }

end Follows

/-- What the table hands out. -/
theorem RTPSources.getSourceData_cases (sources : RTPSources) (senderaddress : RTPAddress)
    (ssrc : BitVec 32) (isrtp : Bool) :
    (∃ srcdat : SourceData, sources.find ssrc = none ∧ srcdat.ssrc = ssrc ∧
      srcdat.ownssrc = false ∧ srcdat.entry = RTPSourceData.new.setAddress isrtp senderaddress ∧
      sources.getSourceData senderaddress ssrc isrtp = (sources.add srcdat, some (srcdat, true))) ∨
    (∃ srcdat, sources.find ssrc = some srcdat ∧
      srcdat.entry.checkCollision senderaddress isrtp = none ∧
      sources.getSourceData senderaddress ssrc isrtp = (sources.collide srcdat, none)) ∨
    ∃ srcdat changed : SourceData, sources.find ssrc = some srcdat ∧ changed.ssrc = ssrc ∧
      changed.ownssrc = srcdat.ownssrc ∧
      srcdat.entry.checkCollision senderaddress isrtp = some changed.entry ∧
      sources.getSourceData senderaddress ssrc isrtp =
        (sources.put changed, some (changed, false)) := by
  unfold RTPSources.getSourceData
  cases hFind : sources.find ssrc with
  | none =>
      refine Or.inl ⟨_, rfl, rfl, rfl, ?_, rfl⟩
      cases isrtp <;> rfl
  | some srcdat =>
      have hKey := KeyedList.key_of_find hFind
      refine Or.inr ?_
      dsimp only
      rw [SourceData.checkCollision]
      cases hCheck : srcdat.entry.checkCollision senderaddress isrtp with
      | none => exact Or.inl ⟨srcdat, rfl, hCheck, rfl⟩
      | some dat =>
          refine Or.inr ⟨srcdat, srcdat.withAddresses dat, rfl, hKey, rfl, ?_, rfl⟩
          rw [hCheck]
          rcases RTPSourceData.checkCollision_cases hCheck with ⟨rfl, -⟩ | ⟨rfl, -⟩
          · rfl
          · cases isrtp <;> rfl

/-- A session comes to this state. -/
def Session.Reaches (start session : Session) : Prop :=
  ∃ events, Transition.run Session.step start events = some session

/-- A session comes to this table. -/
def Tracks (start : Session) (sources : RTPSources) : Prop :=
  ∃ session, start.Reaches session ∧ Follows start sources session

/-- The session takes a step, and follows the table there. -/
theorem Session.Reaches.tracks {start session later : Session} {event : Event}
    {sources : RTPSources} (h : start.Reaches session) (hStep : session.step event = some later)
    (hFollows : Follows start sources later) : Tracks start sources := by
  obtain ⟨events, hRun⟩ := h
  refine ⟨later, ⟨events ++ [event], ?_⟩, hFollows⟩
  rw [Transition.run_append hRun, Transition.run, hStep]
  rfl

namespace Tracks

variable {start : Session} {sources : RTPSources}

/-- A source is processed as the session processes it. -/
theorem withSource (h : Tracks start sources) (senderaddress : RTPAddress) (ssrc : BitVec 32)
    (isrtp : Bool) {process : RTPSources → SourceData → Bool → RTPSources}
    (hProcess : ∀ next (session : Session) (srcdat : SourceData) created,
      Follows start next (session.put srcdat.ssrc srcdat.entry) →
      next.find srcdat.ssrc = some srcdat →
      session.getSourceData senderaddress srcdat.ssrc isrtp = some (srcdat.entry, created) →
      start.Reaches session → Tracks start (process next srcdat created)) :
    Tracks start (sources.withSource senderaddress ssrc isrtp process) := by
  obtain ⟨session, hReaches, hFollows⟩ := h
  have hLookup := hFollows.lookup ssrc
  unfold RTPSources.withSource
  obtain ⟨srcdat, hFind, rfl, hOwn, hEntry, hResult⟩ | ⟨srcdat, hFind, hCheck, hResult⟩ |
    ⟨srcdat, changed, hFind, rfl, hOwn, hCheck, hResult⟩ :=
      sources.getSourceData_cases senderaddress ssrc isrtp
  · rw [hResult]
    refine hProcess _ session srcdat true (hFollows.add hFind hOwn) (find_add hFind) ?_ hReaches
    rw [Session.getSourceData, hLookup, hFind, hEntry]
    rfl
  · obtain rfl := KeyedList.key_of_find hFind
    rw [hResult]
    have hNone : session.getSourceData senderaddress srcdat.ssrc isrtp = none := by
      rw [Session.getSourceData, hLookup, hFind]
      exact congrArg (Option.map _) hCheck
    have hCollide : session.processPacket senderaddress srcdat.ssrc isrtp false =
        session.onSSRCCollision srcdat.ssrc := by
      rw [Session.processPacket, hNone]
    cases isrtp with
    | true =>
        have hStep : session.step (.rtpPacket senderaddress srcdat.ssrc false) =
            some (session.onSSRCCollision srcdat.ssrc) := congrArg some hCollide
        exact hReaches.tracks hStep (hFollows.collide hFind)
    | false =>
        have hStep : session.step (.rtcpReport senderaddress srcdat.ssrc false) =
            some (session.onSSRCCollision srcdat.ssrc) := congrArg some hCollide
        exact hReaches.tracks hStep (hFollows.collide hFind)
  · rw [hResult]
    refine hProcess _ session changed false (hFollows.put hFind hOwn) (find_put hFind) ?_ hReaches
    rw [Session.getSourceData, hLookup, hFind]
    exact congrArg (Option.map _) hCheck

/-- A packet of RTCP that tells of its source, and may validate it. -/
theorem report (h : Tracks start sources) (senderaddress : RTPAddress) (ssrc : BitVec 32)
    {process : RTPSources → SourceData → Bool → RTPSources} (change : SourceData → SourceData)
    (hKey : ∀ srcdat, (change srcdat).ssrc = srcdat.ssrc)
    (hEntry : ∀ srcdat, ∃ validates, (change srcdat).entry =
      { srcdat.entry with validated := srcdat.validated || validates })
    (hProcess : ∀ next session srcdat created,
      Follows start ((next.put (change srcdat)).announce created (change srcdat)) session →
        Follows start (process next srcdat created) session) :
    Tracks start (sources.withSource senderaddress ssrc false process) := by
  refine h.withSource senderaddress ssrc false
    fun next session srcdat created hNext hFind hData hReaches => ?_
  obtain ⟨validates, hChanged⟩ := hEntry srcdat
  have hStep : session.step (.rtcpReport senderaddress srcdat.ssrc validates) =
      some (session.processPacket senderaddress srcdat.ssrc false validates) := rfl
  have hPacket := hNext.processPacket hFind hData (hKey srcdat) validates hChanged
  exact hReaches.tracks hStep (hProcess next _ srcdat created hPacket)

theorem updateReceiveTime (h : Tracks start sources) (ssrc : BitVec 32) (receivetime : RTPTime)
    (senderaddress : RTPAddress) :
    Tracks start (sources.updateReceiveTime ssrc receivetime senderaddress) := by
  refine h.report senderaddress ssrc (SourceData.updateMessageTime receivetime) (fun _ => rfl)
    (fun srcdat => ⟨false, ?_⟩) fun next session srcdat created hNext => hNext
  show srcdat.entry = { srcdat.entry with validated := srcdat.validated || false }
  rw [Bool.or_false]
  rfl

theorem processSDESNormalItem (h : Tracks start sources) (ssrc : BitVec 32)
    (item : Rtcp.SDESItem) (receivetime : RTPTime) (senderaddress : RTPAddress) :
    Tracks start (sources.processSDESNormalItem ssrc item receivetime senderaddress) := by
  refine h.report senderaddress ssrc (SourceData.processSDESItem item receivetime) ?_ ?_
    fun next session srcdat created hNext => hNext.counted _ _ _
  · intro srcdat
    unfold SourceData.processSDESItem
    split_ifs <;> rfl
  · intro srcdat
    unfold SourceData.processSDESItem
    split_ifs
    · exact ⟨true, by rw [Bool.or_true]; rfl⟩
    all_goals exact ⟨false, by rw [Bool.or_false]; rfl⟩

theorem processReport (h : Tracks start sources) (senderssrc : BitVec 32)
    (blocks : List Rtcp.ReportBlock) (receivetime : RTPTime) (senderaddress : RTPAddress) :
    Tracks start (sources.processReport senderssrc blocks receivetime senderaddress) := by
  unfold RTPSources.processReport
  dsimp only
  split_ifs
  · exact h.updateReceiveTime senderssrc receivetime senderaddress
  · exact foldl_keeps (Tracks start) (fun next _ hNext =>
      hNext.updateReceiveTime senderssrc receivetime senderaddress) _ h

theorem processChunk (h : Tracks start sources) (chunk : Rtcp.SDESChunk) (receivetime : RTPTime)
    (senderaddress : RTPAddress) :
    Tracks start (left (sources.processChunk receivetime senderaddress chunk)) := by
  unfold RTPSources.processChunk
  split_ifs
  · exact h.updateReceiveTime chunk.ssrc receivetime senderaddress
  · refine left_foldlM (Tracks start) (fun next item _ hNext => ?_) h
    unfold RTPSources.processSDESItem
    split_ifs
    · exact hNext.updateReceiveTime chunk.ssrc receivetime senderaddress
    · exact hNext
    · exact hNext.processSDESNormalItem chunk.ssrc item receivetime senderaddress

theorem processBYE (h : Tracks start sources) (ssrc : BitVec 32) (receivetime : RTPTime)
    (senderaddress : RTPAddress) :
    Tracks start (sources.processBYE receivetime senderaddress ssrc) := by
  refine h.withSource senderaddress ssrc false
    fun next session srcdat created hNext hFind hData hReaches => ?_
  have hStep : session.step (.bye senderaddress srcdat.ssrc) =
      some (session.processBYE senderaddress srcdat.ssrc) := rfl
  refine hReaches.tracks hStep ?_
  unfold Session.processBYE
  rw [hData]
  have hOwnssrc : srcdat.entry.ownssrc = srcdat.ownssrc := rfl
  dsimp only
  rw [hOwnssrc]
  by_cases hOwn : srcdat.ownssrc = true
  · rw [if_pos hOwn, if_pos hOwn]
    exact hNext
  · rw [if_neg hOwn, if_neg hOwn]
    have hPut : Follows start (next.put (srcdat.processBYEPacket receivetime))
        (session.put srcdat.ssrc (srcdat.processBYEPacket receivetime).entry) :=
      hNext.replace hFind rfl rfl
    exact ((hPut.counted _ _ _).announce created _).hear
      (.onBYEPacket (srcdat.processBYEPacket receivetime).entry)

theorem processRTCPCompoundPacket (h : Tracks start sources) (packets : List Rtcp.RTCPPacket)
    (receivetime : RTPTime) (senderaddress : RTPAddress) :
    Tracks start (left (sources.processRTCPCompoundPacket packets receivetime senderaddress)) := by
  refine left_foldlM (Tracks start) (fun next packet _ hNext => ?_) h
  cases packet with
  | sr senderssrc info blocks =>
      exact (hNext.updateReceiveTime senderssrc receivetime senderaddress).processReport senderssrc
        blocks receivetime senderaddress
  | rr senderssrc blocks => exact hNext.processReport senderssrc blocks receivetime senderaddress
  | sdes chunks =>
      exact left_foldlM (Tracks start) (fun later chunk _ hLater =>
        hLater.processChunk chunk receivetime senderaddress) hNext
  | bye ssrcs reason =>
      exact foldl_keeps (Tracks start) (fun later ssrc hLater =>
        hLater.processBYE ssrc receivetime senderaddress) ssrcs hNext
  | app subtype ssrc name appdata => exact hNext
  | unknown packettype => exact hNext

/-- An entry of the CSRC list. -/
theorem processCSRC (h : Tracks start sources) (senderaddress : RTPAddress) (csrc : BitVec 32) :
    Tracks start (sources.processCSRC senderaddress csrc) := by
  obtain ⟨session, hReaches, hFollows⟩ := h
  have hLookup := hFollows.lookup csrc
  have hStep : session.step (.csrcEntry senderaddress csrc) =
      some (session.processCSRC senderaddress csrc) := rfl
  refine hReaches.tracks hStep ?_
  unfold RTPSources.processCSRC Session.processCSRC
  rw [hLookup]
  cases hFind : sources.find csrc with
  | none =>
      have hAdd : Follows start (sources.add (SourceData.new csrc sources.probationtype).setCSRC)
          (session.put csrc (SourceData.new csrc sources.probationtype).setCSRC.entry) :=
        hFollows.add hFind rfl
      exact (hAdd.counted _ _ _).announce true _
  | some csrcdat =>
      obtain rfl := KeyedList.key_of_find hFind
      have hData : session.getSourceData senderaddress csrcdat.ssrc true =
          (csrcdat.entry.checkCollision senderaddress true).map (·, false) := by
        rw [Session.getSourceData, hLookup, hFind]
        rfl
      have hTable : csrcdat.checkCollision senderaddress true =
          (csrcdat.entry.checkCollision senderaddress true).map csrcdat.withAddresses := rfl
      rw [Option.map_some]
      dsimp only
      rw [hTable, Session.processPacket, hData]
      cases hCheck : csrcdat.entry.checkCollision senderaddress true with
      | none => exact hFollows.collide hFind
      | some dat =>
          have hPut : Follows start (sources.put (csrcdat.withAddresses dat).setCSRC)
              (session.put csrcdat.ssrc (csrcdat.withAddresses dat).setCSRC.entry) :=
            hFollows.put hFind rfl
          have hEntry : (csrcdat.withAddresses dat).setCSRC.entry =
              { dat with validated := dat.validated || true } := by
            rw [Bool.or_true]
            rcases RTPSourceData.checkCollision_cases hCheck with ⟨rfl, -⟩ | ⟨rfl, -⟩ <;> rfl
          rw [hEntry] at hPut
          exact hPut

/-- A packet of RTP, and then the entries of its CSRC list. -/
theorem processRTPPacket (h : Tracks start sources) (rtppack : RTPPacket) (receivetime : RTPTime)
    (senderaddress : RTPAddress) :
    Tracks start (sources.processRTPPacket rtppack receivetime senderaddress) := by
  refine h.withSource senderaddress rtppack.ssrc true
    fun next session srcdat created hNext hFind hData hReaches => ?_
  have hFrame : (srcdat.processRTPPacket rtppack receivetime).ssrc = srcdat.ssrc ∧
      (srcdat.processRTPPacket rtppack receivetime).entry =
        { srcdat.entry with validated := srcdat.validated || (srcdat.judge rtppack).2.accept } := by
    unfold SourceData.processRTPPacket RTPInternalSourceData.processRTPPacket
    dsimp only
    split_ifs <;> exact ⟨rfl, rfl⟩
  obtain ⟨hKey, hEntry⟩ := hFrame
  have hStep : session.step (.rtpPacket senderaddress srcdat.ssrc (srcdat.judge rtppack).2.accept) =
      some (session.processPacket senderaddress srcdat.ssrc true (srcdat.judge rtppack).2.accept) :=
    rfl
  have hPut := hNext.replace hFind hKey (congrArg RTPSourceData.ownssrc hEntry)
  have hPacket := hNext.processPacket hFind hData hKey _ hEntry
  have hTracks : Tracks start ((next.countPacket srcdat (srcdat.processRTPPacket rtppack
      receivetime)).announce created (srcdat.processRTPPacket rtppack receivetime)) :=
    hReaches.tracks hStep (hPacket.counted _ _ _)
  dsimp only
  split_ifs
  · exact foldl_keeps (Tracks start) (fun later csrc hLater =>
      hLater.processCSRC senderaddress csrc) rtppack.csrcs hTracks
  · exact hTracks

theorem sentRTPPacket (h : Tracks start sources) (currenttime : RTPTime) :
    Tracks start (sources.sentRTPPacket currenttime) := by
  obtain ⟨session, hReaches, hFollows⟩ := h
  have hAlike := sources.sentRTPPacket_alike currenttime
  refine ⟨session, hReaches, hFollows.same ?_ hAlike.entries hAlike.owndata ?_ hAlike.callbacks⟩
  · rw [hAlike.ssrcs]
    exact hFollows.nodup
  · rw [hAlike.owncollision]
    exact id

/-- The sources that have timed out are removed one after the other. -/
theorem remove {removed : List SourceData} (h : Tracks start sources)
    (hRemoved : (removed.map SourceData.ssrc).Nodup)
    (hFound : ∀ srcdat ∈ removed, sources.find srcdat.ssrc = some srcdat ∧ srcdat.ownssrc = false) :
    Tracks start ((sources.without (removed.map SourceData.ssrc)).notify
      (removed.map fun srcdat => .onRemoveSource srcdat.entry)) := by
  induction removed generalizing sources with
  | nil =>
      have hSame : (sources.without []).notify [] = sources := by
        simp [without, notify]
      rw [List.map_nil, List.map_nil, hSame]
      exact h
  | cons srcdat removed ih =>
      rw [List.map_cons, List.nodup_cons] at hRemoved
      obtain ⟨hFind, hOwn⟩ := hFound srcdat (List.mem_cons_self ..)
      obtain ⟨session, hReaches, hFollows⟩ := h
      have hStep : session.step (.timeout srcdat.ssrc) =
          some ({ session with sources := session.sources.erase srcdat.ssrc }.hear
            (.onRemoveSource srcdat.entry)) := by
        show session.timeout srcdat.ssrc = _
        have hOwnEntry : srcdat.entry.ownssrc = false := hOwn
        rw [Session.timeout, hFollows.lookup, hFind, Option.map_some]
        dsimp only
        rw [hOwnEntry, if_neg Bool.false_ne_true]
        rfl
      have hFirst : Tracks start ((sources.without [srcdat.ssrc]).notify
          [.onRemoveSource srcdat.entry]) :=
        hReaches.tracks hStep ((hFollows.remove hFind hOwn).hear (.onRemoveSource srcdat.entry))
      have hLater := ih hFirst hRemoved.2 fun other hMem => ?_
      · rw [notify_without_notify, without_without] at hLater
        exact hLater
      · obtain ⟨hOther, hOtherOwn⟩ := hFound other (List.mem_cons_of_mem srcdat hMem)
        have hNe : other.ssrc ∉ [srcdat.ssrc] := by
          rw [List.mem_singleton]
          exact fun hSame => hRemoved.1 (hSame ▸ List.mem_map_of_mem hMem)
        refine ⟨?_, hOtherOwn⟩
        show (sources.without [srcdat.ssrc]).find other.ssrc = some other
        rw [find_without, if_neg hNe]
        exact hOther

theorem checkSource_own {times : CheckTimes} {srcdat : SourceData}
    (hRemoved : checkSource times srcdat = none) : srcdat.ownssrc = false := by
  cases hOwn : srcdat.ownssrc with
  | false => rfl
  | true =>
      rw [checkSource, hOwn] at hRemoved
      simp at hRemoved

/-- What the sources that stay have in common with those that are left without the others. -/
theorem map_entry_checkSource (times : CheckTimes) {sourcelist : List SourceData}
    (hNodup : (sourcelist.map SourceData.ssrc).Nodup) (ssrc : BitVec 32) :
    (KeyedList.find SourceData.ssrc ssrc (sourcelist.filterMap (checkSource times))).map
        SourceData.entry =
      (if ssrc ∈ (sourcelist.filter fun srcdat => (checkSource times srcdat).isNone).map
          SourceData.ssrc then none
        else KeyedList.find SourceData.ssrc ssrc sourcelist).map SourceData.entry := by
  rw [KeyedList.find_filterMap (ssrc_checkSource times) hNodup]
  cases hFind : KeyedList.find SourceData.ssrc ssrc sourcelist with
  | none => rw [ite_self, Option.bind_none]
  | some srcdat =>
      obtain ⟨hMem, rfl⟩ := (KeyedList.find_eq_some hNodup).mp hFind
      rw [Option.bind_some]
      cases hCheck : checkSource times srcdat with
      | none =>
          have hGone : srcdat.ssrc ∈ (sourcelist.filter fun srcdat =>
              (checkSource times srcdat).isNone).map SourceData.ssrc :=
            List.mem_map_of_mem (List.mem_filter.mpr ⟨hMem, by rw [hCheck]; rfl⟩)
          rw [if_pos hGone]
      | some kept =>
          have hStays : srcdat.ssrc ∉ (sourcelist.filter fun srcdat =>
              (checkSource times srcdat).isNone).map SourceData.ssrc := by
            intro hGone
            obtain ⟨other, hOther, hSame⟩ := List.mem_map.mp hGone
            obtain ⟨hThere, hNone⟩ := List.mem_filter.mp hOther
            have hFound := (KeyedList.find_eq_some hNodup).mpr ⟨hThere, hSame⟩
            obtain rfl := Option.some.inj (hFind.symm.trans hFound)
            rw [hCheck] at hNone
            cases hNone
          rw [if_neg hStays, Option.map_some, Option.map_some,
            entry_checkSource times srcdat kept hCheck]

theorem timedOut (h : Tracks start sources) (times : CheckTimes) :
    let removed := sources.sourcelist.filter fun srcdat => (checkSource times srcdat).isNone
    Tracks start ((sources.without (removed.map SourceData.ssrc)).notify
      (removed.map fun srcdat => .onRemoveSource srcdat.entry)) := by
  have hNodup : (sources.sourcelist.map SourceData.ssrc).Nodup := by
    obtain ⟨session, -, hFollows⟩ := h
    exact hFollows.nodup
  refine h.remove ((List.filter_sublist.map SourceData.ssrc).nodup hNodup) fun srcdat hMem => ?_
  obtain ⟨hThere, hNone⟩ := List.mem_filter.mp hMem
  exact ⟨(KeyedList.find_eq_some hNodup).mpr ⟨hThere, rfl⟩,
    checkSource_own (Option.isNone_iff_eq_none.mp hNone)⟩

theorem multipleTimeouts (h : Tracks start sources)
    (curtime sendertimeout byetimeout generaltimeout notetimeout : RTPTime) :
    Tracks start (sources.multipleTimeouts curtime sendertimeout byetimeout generaltimeout
      notetimeout) := by
  have hNodup : (sources.sourcelist.map SourceData.ssrc).Nodup := by
    obtain ⟨session, -, hFollows⟩ := h
    exact hFollows.nodup
  let times : CheckTimes := ⟨curtime.sub sendertimeout, curtime.sub byetimeout,
    curtime.sub generaltimeout, curtime.sub notetimeout⟩
  obtain ⟨session, hReaches, hFollows⟩ := h.timedOut times
  have hStays : Follows start (notify { sources with
      sourcelist := sources.sourcelist.filterMap (checkSource times) }
        ((sources.sourcelist.filter fun srcdat => (checkSource times srcdat).isNone).map
          fun srcdat => .onRemoveSource srcdat.entry)) session := by
    refine hFollows.same ?_ (fun ssrc => ?_) rfl id rfl
    · exact (KeyedList.map_key_filterMap_sublist (ssrc_checkSource times) _).nodup hNodup
    · have hLeft := find_without sources ((sources.sourcelist.filter fun srcdat =>
        (checkSource times srcdat).isNone).map SourceData.ssrc) ssrc
      refine (map_entry_checkSource times hNodup ssrc).trans ?_
      exact congrArg (Option.map SourceData.entry) hLeft.symm
  exact ⟨session, hReaches, hStays.counted _ _ _⟩

theorem deleteOwnSSRC_cases {next : RTPSources} (hDelete : sources.deleteOwnSSRC = some next) :
    ∃ ssrc owndata, sources.owndata = some ssrc ∧ sources.find ssrc = some owndata ∧
      next.probationtype = sources.probationtype ∧
      next.sourcelist = (sources.without [ssrc]).sourcelist ∧
      next.callbacks = sources.callbacks ++ [.onRemoveSource owndata.entry] := by
  unfold deleteOwnSSRC at hDelete
  cases hOwn : sources.owndata with
  | none =>
      rw [hOwn] at hDelete
      cases hDelete
  | some ssrc =>
      rw [hOwn] at hDelete
      obtain ⟨owndata, hFind, rfl⟩ := Option.map_eq_some_iff.mp hDelete
      have hKeep : (fun srcdat : SourceData => decide (srcdat.ssrc ≠ ssrc)) =
          fun srcdat => decide (srcdat.ssrc ∉ [ssrc]) := by
        funext srcdat
        rw [decide_eq_decide, List.mem_singleton]
      refine ⟨ssrc, owndata, rfl, hFind, rfl, ?_, rfl⟩
      exact congrArg (List.filter · sources.sourcelist) hKeep

theorem createOwnSSRC_cases {newssrc : BitVec 32} {next : RTPSources}
    (hCreate : sources.createOwnSSRC newssrc = some next) :
    next.sourcelist = sources.sourcelist ++ [.own newssrc sources.probationtype] ∧
      next.owndata = some newssrc ∧ next.owncollision = sources.owncollision ∧
      next.callbacks = sources.callbacks ++
        [.onNewSource (SourceData.own newssrc sources.probationtype).entry] := by
  unfold createOwnSSRC at hCreate
  split_ifs at hCreate
  obtain rfl := Option.some.inj hCreate
  exact ⟨rfl, rfl, rfl, rfl⟩

/-- The session's own entry is replaced. -/
theorem changeOwnSSRC (h : Tracks start sources) {newssrc : BitVec 32} {next : RTPSources}
    (hChange : sources.changeOwnSSRC newssrc = some next) : Tracks start next := by
  obtain ⟨session, hReaches, hFollows⟩ := h
  unfold RTPSources.changeOwnSSRC at hChange
  split_ifs at hChange with hFree
  obtain ⟨hCollision, hNone⟩ := hFree
  obtain ⟨deleted, hDelete, hCreate⟩ := Option.bind_eq_some_iff.mp hChange
  obtain ⟨ssrc, owndata, hOwn, hFind, hType, hDeleted, hRemoved⟩ := deleteOwnSSRC_cases hDelete
  obtain ⟨hList, hNew, hCleared, hCallbacks⟩ := createOwnSSRC_cases hCreate
  obtain rfl := Option.some.inj (hOwn.symm.trans hFollows.own)
  have hStep : session.step (.changeOwnSSRC newssrc) = some { session with
      sources := (session.sources.erase session.ownssrc).insert newssrc RTPSourceData.own
      ownssrc := newssrc
      owncollision := false } := by
    have hFree : session.sources.lookup newssrc = none := by
      rw [hFollows.lookup, hNone]
      rfl
    exact if_pos ⟨hFollows.collision hCollision, hFree⟩
  have hOld : owndata.entry.ownssrc = true :=
    (hFollows.ownssrc session.ownssrc owndata hFind).trans (decide_eq_true rfl)
  have hHeard : next.callbacks = sources.callbacks ++ [.onRemoveSource owndata.entry] ++
      [.onNewSource (SourceData.own newssrc deleted.probationtype).entry] :=
    hRemoved ▸ hCallbacks
  -- Neither callback is about a client.
  have hServed : (next.callbacks.foldl Session.hear start).served = session.served := by
    rw [hHeard, List.foldl_append, List.foldl_append, List.foldl_cons, List.foldl_cons,
      List.foldl_nil, List.foldl_nil, (Session.hear_own _ hOld).1, (Session.hear_own _ rfl).2]
    exact hFollows.served.symm
  exact hReaches.tracks hStep (hFollows.changeOwn hNone (hDeleted ▸ hList) hNew hCleared hServed)

/-- What happens to the table happens to the session. -/
theorem input (h : Tracks start sources) {input : Input} {next : RTPSources}
    (hStep : sources.step input = some next) : Tracks start next := by
  cases input with
  | rawPacket rawpack receivetime senderaddress =>
      obtain rfl := Option.some.inj hStep
      have hCleared : Tracks start { sources with owncollision := false } := by
        obtain ⟨session, hReaches, hFollows⟩ := h
        exact ⟨session, hReaches, hFollows.same hFollows.nodup (fun _ => rfl) rfl
          (fun hSome => absurd hSome Bool.false_ne_true) rfl⟩
      unfold processRawPacket
      split_ifs
      · cases RTPPacket.parseRawPacket rawpack with
        | none => exact hCleared
        | some rtppack => exact hCleared.processRTPPacket rtppack receivetime senderaddress
      · cases Rtcp.RTCPCompoundPacket.rtcppacklist rawpack.bytes with
        | none => exact hCleared
        | some packets =>
            exact hCleared.processRTCPCompoundPacket packets receivetime senderaddress
  | sentRTPPacket currenttime =>
      obtain rfl := Option.some.inj hStep
      exact h.sentRTPPacket currenttime
  | multipleTimeouts curtime sendertimeout byetimeout generaltimeout notetimeout =>
      obtain rfl := Option.some.inj hStep
      exact h.multipleTimeouts curtime sendertimeout byetimeout generaltimeout notetimeout
  | changeOwnSSRC newssrc => exact h.changeOwnSSRC hStep

end Tracks

theorem follows_create (probationtype : ProbationType) (ssrc : BitVec 32)
    (format : Option String) :
    Follows (Session.create ssrc format) (create probationtype ssrc)
      (Session.create ssrc format) := by
  have hFind (other : BitVec 32) : (create probationtype ssrc).find other =
      if ssrc = other then some (.own ssrc probationtype) else none :=
    KeyedList.find_cons (SourceData.own ssrc probationtype) []
  exact {
    nodup := List.nodup_singleton _
    lookup := fun other => by
      rw [hFind]
      exact lookup_insert_entry (.own ssrc probationtype) fun _ => AList.lookup_empty other
    own := rfl
    known := ⟨_, (hFind ssrc).trans (if_pos rfl)⟩
    ownssrc := fun other found hFound => by
      rw [hFind] at hFound
      split_ifs at hFound with hKey
      · obtain rfl := Option.some.inj hFound
        exact (decide_eq_true hKey.symm).symm
      · cases hFound
    collision := id
    served := rfl }

/-- Whatever datagrams a session receives, whatever it sends and forgets, it comes by the events of
`Session` to the sources of its table, to its own SSRC, and to the clients that the callbacks
add and remove. -/
theorem exists_run_of_run {probationtype : ProbationType} {ssrc : BitVec 32} {inputs : List Input}
    {sources : RTPSources}
    (hRun : Transition.run RTPSources.step (create probationtype ssrc) inputs = some sources)
    (format : Option String) :
    ∃ events session,
      Transition.run Session.step (Session.create ssrc format) events = some session ∧
        (∀ other, session.sources.lookup other = (sources.find other).map SourceData.entry) ∧
        sources.owndata = some session.ownssrc ∧
        (sources.owncollision = true → session.owncollision = true) ∧
        session.served =
          (sources.callbacks.foldl Session.hear (Session.create ssrc format)).served := by
  have hStart : Tracks (Session.create ssrc format) (create probationtype ssrc) :=
    ⟨_, ⟨[], rfl⟩, follows_create probationtype ssrc format⟩
  have hStep (sources : RTPSources) (input : Input) (next : RTPSources)
      (hTracks : Tracks (Session.create ssrc format) sources)
      (hNext : sources.step input = some next) : Tracks (Session.create ssrc format) next :=
    hTracks.input hNext
  obtain ⟨session, ⟨events, hEvents⟩, hFollows⟩ := Transition.run_keeps hStep hStart hRun
  exact ⟨events, session, hEvents, hFollows.lookup, hFollows.own, hFollows.collision,
    hFollows.served⟩

/-- Two sources behind one address: both are clients, and there is one destination. -/
theorem exists_run_of_run_mixerInputs : ∃ events session,
    Transition.run Session.step (Session.create 1 none) events = some session ∧
      session.sources.lookup 7 =
        some ⟨false, true, false, some (some ⟨1, 5004⟩), some (some ⟨1, 5005⟩)⟩ ∧
      session.ownssrc = 1 ∧ session.destinations = {⟨1, 5004⟩} ∧ session.connectedSources = 2 := by
  have hRun : Transition.run RTPSources.step (create .noProbation 1) mixerInputs =
      some mixerSources := rfl
  obtain ⟨events, session, hEvents, hLookup, hOwn, -, hServed⟩ := exists_run_of_run hRun none
  simp only [Session.served, Prod.mk.injEq] at hServed
  refine ⟨events, session, hEvents, (hLookup 7).trans (by decide +kernel), ?_,
    hServed.1.trans (by decide +kernel), hServed.2.1.trans (by decide +kernel)⟩
  exact (Option.some.inj hOwn).symm

end AudioSync.Sources
