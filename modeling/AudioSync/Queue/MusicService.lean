import AudioSync.Queue.QueueHelper

/-! `MusicService` as the owner of the playing queue: the callbacks that change the queue or the
current index, and the album art that is fetched for the item there. -/
namespace AudioSync.Queue

open Catalogue MediaIDHelper

/-- A search that is waiting for the catalogue. -/
structure Search where
  query : Option JavaString
  extras : Option SearchExtras

/-- `metadata` is that of the session. `withIcon` are the metadata objects that have an icon
bitmap, and `fetches` the track ids of the listeners that wait for album art. -/
structure MusicService where
  mMusicProvider : MusicProvider
  playing : PlayingQueue
  metadata : Option MediaMetadata
  withIcon : List Nat
  fetches : List JavaString
  searches : List Search

/-- What reaches the service on the main thread, and `retrieveMedia` on another one. `cached`
says that the album art of the item to be played is in the cache; an asynchronous fetch ends
later, with bitmaps or an error. -/
inductive Event where
  | onPlay (draws : Draws) (cached : Bool)
  | onSkipToQueueItem (queueId : Int) (cached : Bool)
  | onPlayFromMediaId (mediaId : JavaString) (cached : Bool)
  | onSkipToNext (cached : Bool)
  | onSkipToPrevious (cached : Bool)
  | onPlayFromSearch (search : Search) (draws : Draws) (cached : Bool)
  | onMusicCatalogReady (index : Nat) (draws : Draws) (cached : Bool)
  | onCompletion (cached : Bool)
  | onMetadataChanged (mediaId : JavaString) (cached : Bool)
  | updatePlaybackState
  | retrieveMedia (fetched : Fetched)
  | fetchEnds (index : Nat) (bitmaps : Bool)

/-- The index after an increment. A sum above the last index goes back to the start. -/
def next (playing : PlayingQueue) : PlayingQueue :=
  let index := playing.mCurrentIndexOnQueue + 1
  { playing with
    mCurrentIndexOnQueue := if playing.mPlayingQueue.any fun queue => queue.length ≤ index then 0
      else index }

def previous (playing : PlayingQueue) : PlayingQueue :=
  let index := playing.mCurrentIndexOnQueue - 1
  { playing with
    mCurrentIndexOnQueue := if playing.mPlayingQueue.isSome && index < 0 then 0 else index }

/-- `mPlayingQueue != null && !mPlayingQueue.isEmpty()`. -/
def hasItems (playing : PlayingQueue) : Bool := playing.mPlayingQueue.any fun queue => queue ≠ []

namespace MusicService

/-- After `onCreate`. -/
def initial : MusicService := ⟨MusicProvider.initial, ⟨some [], 0⟩, none, [], [], []⟩

variable (toLowerCase : JavaString → JavaString) (service : MusicService)

def isPlayable : Bool :=
  isIndexPlayable service.playing.mCurrentIndexOnQueue service.playing.mPlayingQueue

/-- `mPlayingQueue.get(mCurrentIndexOnQueue)`, which throws without a queue or outside of it. -/
def getItem : Option QueueItem :=
  service.playing.mPlayingQueue.bind fun queue =>
    if 0 ≤ service.playing.mCurrentIndexOnQueue then
      queue[service.playing.mCurrentIndexOnQueue.toNat]?
    else none

/-- `onFetched` of the listener for a track; `none` is an exception. The art is put into a new
metadata object. -/
def onFetched (trackId : JavaString) : Option MusicService :=
  service.getItem.bind fun queueItem =>
    (service.mMusicProvider.getMusic trackId).bind fun track =>
      let art := { track with object := service.mMusicProvider.objects }
      let built := { service.mMusicProvider with objects := service.mMusicProvider.objects + 1 }
      match built.updateMusic trackId art with
      | (_, some _) => none
      | (updated, none) =>
          let currentPlayingId := extractMusicIDFromMediaID queueItem.description.mediaId
          some { service with
            mMusicProvider := updated
            withIcon := art.object :: service.withIcon
            -- If we are still playing the same music.
            metadata := if currentPlayingId = some trackId then some art else service.metadata }

/-- `fetch` for the art of a track, which may call the listener at once. -/
def fetchArt (track : MediaMetadata) (trackId : JavaString) (cached : Bool) :
    Option MusicService :=
  if track.object ∉ service.withIcon ∧ track.albumArtUri ≠ none then
    if cached then service.onFetched trackId
    else some { service with fetches := service.fetches ++ [trackId] }
  else some service

/-- `updateMetadata`, which throws if the item's track is not in the catalogue under its id. -/
def updateMetadata (cached : Bool) : Option MusicService :=
  if service.isPlayable then
    service.getItem.bind fun queueItem =>
      (extractMusicIDFromMediaID queueItem.description.mediaId).bind fun musicId =>
        (service.mMusicProvider.getMusic musicId).bind fun track =>
          if track.mediaId = some musicId then
            { service with metadata := some track }.fetchArt track musicId cached
          else none
  else some service

/-- `handlePlayRequest`, up to the playback, which has its own models. -/
def handlePlayRequest (cached : Bool) : Option MusicService :=
  if service.isPlayable then service.updateMetadata cached else some service

/-- `updatePlaybackState`, which looks up the current track for its custom action. -/
def updatePlaybackState : Option MusicService :=
  if service.isPlayable then
    service.getItem.bind fun queueItem =>
      (extractMusicIDFromMediaID queueItem.description.mediaId).map fun _ => service
  else some service

def onPlay (draws : Draws) (cached : Bool) : Option MusicService :=
  let queued := if hasItems service.playing then service
    else { service with playing := ⟨some (getRandomQueue service.mMusicProvider draws), 0⟩ }
  if hasItems queued.playing then queued.handlePlayRequest cached else some queued

def onSkipToQueueItem (queueId : Int) (cached : Bool) : Option MusicService :=
  match service.playing.mPlayingQueue with
  | none => some service
  | some [] => some service
  | some queue =>
      { service with playing := ⟨some queue, getIndexOfQueueId queue queueId⟩ }.handlePlayRequest
        cached

def onPlayFromMediaId (mediaId : JavaString) (cached : Bool) : Option MusicService :=
  match service.mMusicProvider.onPlayFromMediaId toLowerCase mediaId service.playing with
  | .error _ => none
  | .ok (playing, true) => { service with playing := playing }.handlePlayRequest cached
  | .ok (playing, false) => some { service with playing := playing }

/-- An index that is not playable stops the service. -/
def onSkipToNext (cached : Bool) : Option MusicService :=
  let moved := { service with playing := next service.playing }
  if moved.isPlayable then moved.handlePlayRequest cached else some moved

def onSkipToPrevious (cached : Bool) : Option MusicService :=
  let moved := { service with playing := previous service.playing }
  if moved.isPlayable then moved.handlePlayRequest cached else some moved

/-- The callback of a search, once the catalogue is there. -/
def onMusicCatalogReady (search : Search) (draws : Draws) (cached : Bool) : Option MusicService :=
  match getPlayingQueueFromSearch toLowerCase service.mMusicProvider search.query search.extras
    draws with
  | .error _ => none
  | .ok [] => some { service with playing := { service.playing with mPlayingQueue := some [] } }
  | .ok queue => { service with playing := ⟨some queue, 0⟩ }.handlePlayRequest cached

def onPlayFromSearch (search : Search) (draws : Draws) (cached : Bool) : Option MusicService :=
  if service.mMusicProvider.isInitialized then
    service.onMusicCatalogReady toLowerCase search draws cached
  else some { service with searches := service.searches ++ [search] }

def onCompletion (cached : Bool) : Option MusicService :=
  if hasItems service.playing then
    { service with playing := next service.playing }.handlePlayRequest cached
  else some service

/-- Without a queue for the id, the search for its index throws. -/
def onMetadataChanged (mediaId : JavaString) (cached : Bool) : Option MusicService :=
  match service.mMusicProvider.getPlayingQueue toLowerCase mediaId with
  | .error _ => none
  | .ok none => none
  | .ok (some queue) =>
      let index := MusicProvider.getMusicIndexOnQueue queue mediaId
      if -1 < index then { service with playing := ⟨some queue, index⟩ }.updateMetadata cached
      else some service

/-- The asynchronous fetch with this number ends. -/
def fetchEnds (index : Nat) (bitmaps : Bool) : Option MusicService :=
  service.fetches[index]?.bind fun trackId =>
    let ended := { service with fetches := service.fetches.eraseIdx index }
    if bitmaps then ended.onFetched trackId else some ended

/-- `none` is an exception, which ends the process, or an event that cannot happen. -/
def step (service : MusicService) : Event → Option MusicService
  | .onPlay draws cached => service.onPlay draws cached
  | .onSkipToQueueItem queueId cached => service.onSkipToQueueItem queueId cached
  | .onPlayFromMediaId mediaId cached => service.onPlayFromMediaId toLowerCase mediaId cached
  | .onSkipToNext cached => service.onSkipToNext cached
  | .onSkipToPrevious cached => service.onSkipToPrevious cached
  | .onPlayFromSearch search draws cached =>
      service.onPlayFromSearch toLowerCase search draws cached
  | .onMusicCatalogReady index draws cached =>
      service.searches[index]?.bind fun search =>
        { service with searches := service.searches.eraseIdx index }.onMusicCatalogReady
          toLowerCase search draws cached
  | .onCompletion cached => service.onCompletion cached
  | .onMetadataChanged mediaId cached => service.onMetadataChanged toLowerCase mediaId cached
  | .updatePlaybackState => service.updatePlaybackState
  | .retrieveMedia fetched =>
      match service.mMusicProvider.retrieveMedia fetched with
      | (_, some _) => none
      | (provider, none) => some { service with mMusicProvider := provider }
  | .fetchEnds index bitmaps => service.fetchEnds index bitmaps

section Frame

variable {service} {result : MusicService} {cached : Bool}

/-- The art of a track changes nothing about the queue and the other fetches. -/
theorem onFetched_frame {trackId : JavaString}
    (hFetched : service.onFetched trackId = some result) :
    result.playing = service.playing ∧ result.fetches = service.fetches := by
  unfold onFetched at hFetched
  obtain ⟨queueItem, -, hFetched⟩ := Option.bind_eq_some_iff.mp hFetched
  obtain ⟨track, -, hFetched⟩ := Option.bind_eq_some_iff.mp hFetched
  dsimp only at hFetched
  split at hFetched
  · cases hFetched
  · cases hFetched
    exact ⟨rfl, rfl⟩

theorem fetchArt_frame {track : MediaMetadata} {trackId : JavaString}
    (hArt : service.fetchArt track trackId cached = some result) :
    result.playing = service.playing ∧
      (result.fetches = service.fetches ∨ result.fetches = service.fetches ++ [trackId]) := by
  unfold fetchArt at hArt
  split_ifs at hArt
  · obtain ⟨hPlaying, hFetches⟩ := onFetched_frame hArt
    exact ⟨hPlaying, Or.inl hFetches⟩
  · cases hArt
    exact ⟨rfl, Or.inr rfl⟩
  · cases hArt
    exact ⟨rfl, Or.inl rfl⟩

/-- Whatever is fetched, the item at the current index stays the same one; and nothing is
fetched unless there is one. -/
theorem updateMetadata_frame (hUpdate : service.updateMetadata cached = some result) :
    result.playing = service.playing ∧
      (result.fetches = service.fetches ∨ service.isPlayable = true) := by
  unfold updateMetadata at hUpdate
  split_ifs at hUpdate with hPlayable
  · obtain ⟨queueItem, -, hUpdate⟩ := Option.bind_eq_some_iff.mp hUpdate
    obtain ⟨musicId, -, hUpdate⟩ := Option.bind_eq_some_iff.mp hUpdate
    obtain ⟨track, -, hUpdate⟩ := Option.bind_eq_some_iff.mp hUpdate
    split_ifs at hUpdate
    exact ⟨(fetchArt_frame hUpdate).1, Or.inr hPlayable⟩
  · cases hUpdate
    exact ⟨rfl, Or.inl rfl⟩

/-- Only the queue and the index decide what is playable. -/
theorem isPlayable_congr (hPlaying : result.playing = service.playing) :
    result.isPlayable = service.isPlayable := by
  unfold isPlayable
  rw [hPlaying]

end Frame

section Steps

/-- The queue and the index that the results of a search leave. -/
def searched (search : Search) (draws : Draws) : Option PlayingQueue :=
  match getPlayingQueueFromSearch toLowerCase service.mMusicProvider search.query search.extras
    draws with
  | .error _ => none
  | .ok [] => some { service.playing with mPlayingQueue := some [] }
  | .ok queue => some ⟨some queue, 0⟩

/-- The queue and the index that an event leaves, if it does not throw. -/
def requeue : Event → Option PlayingQueue
  | .onPlay draws _ =>
      some (if hasItems service.playing then service.playing
        else ⟨some (getRandomQueue service.mMusicProvider draws), 0⟩)
  | .onSkipToQueueItem queueId _ =>
      match service.playing.mPlayingQueue with
      | none => some service.playing
      | some [] => some service.playing
      | some queue => some ⟨some queue, getIndexOfQueueId queue queueId⟩
  | .onPlayFromMediaId mediaId _ =>
      match service.mMusicProvider.onPlayFromMediaId toLowerCase mediaId service.playing with
      | .error _ => none
      | .ok (playing, _) => some playing
  | .onSkipToNext _ => some (next service.playing)
  | .onSkipToPrevious _ => some (previous service.playing)
  | .onPlayFromSearch search draws _ =>
      if service.mMusicProvider.isInitialized then service.searched toLowerCase search draws
      else some service.playing
  | .onMusicCatalogReady index draws _ =>
      service.searches[index]?.bind fun search => service.searched toLowerCase search draws
  | .onCompletion _ =>
      some (if hasItems service.playing then next service.playing else service.playing)
  | .onMetadataChanged mediaId _ =>
      match service.mMusicProvider.getPlayingQueue toLowerCase mediaId with
      | .error _ => none
      | .ok none => none
      | .ok (some queue) =>
          let index := MusicProvider.getMusicIndexOnQueue queue mediaId
          some (if -1 < index then ⟨some queue, index⟩ else service.playing)
  | .updatePlaybackState => some service.playing
  | .retrieveMedia _ => some service.playing
  | .fetchEnds _ _ => some service.playing

/-- What is left when the queue has been changed: the service as it is, or with the metadata of
the item at the current index. -/
def Shows (moved result : MusicService) : Prop :=
  result = moved ∨ ∃ cached, moved.updateMetadata cached = some result

variable {toLowerCase} {service} {result moved : MusicService} {cached : Bool}

theorem Shows.playing (h : Shows moved result) : result.playing = moved.playing := by
  rcases h with rfl | ⟨cached, hUpdate⟩
  · rfl
  · exact (updateMetadata_frame hUpdate).1

/-- A fetch starts only where there is an item. -/
theorem Shows.fetches (h : Shows moved result) :
    result.fetches = moved.fetches ∨ result.isPlayable = true := by
  rw [isPlayable_congr h.playing]
  rcases h with rfl | ⟨cached, hUpdate⟩
  · exact Or.inl rfl
  · exact (updateMetadata_frame hUpdate).2

theorem shows_of_play (hPlay : moved.handlePlayRequest cached = some result) :
    Shows moved result := by
  unfold handlePlayRequest at hPlay
  split at hPlay
  · exact Or.inr ⟨cached, hPlay⟩
  · cases hPlay
    exact Or.inl rfl

/-- Whether the request to play comes or not. -/
theorem shows_of_play_if {plays : Bool}
    (hPlay : (if plays then moved.handlePlayRequest cached else some moved) = some result) :
    Shows moved result := by
  cases plays with
  | true => exact shows_of_play hPlay
  | false =>
      cases hPlay
      exact Or.inl rfl

theorem shows_of_search {search : Search} {draws : Draws}
    (hReady : service.onMusicCatalogReady toLowerCase search draws cached = some result) :
    ∃ playing, service.searched toLowerCase search draws = some playing ∧
      Shows { service with playing := playing } result := by
  unfold onMusicCatalogReady at hReady
  unfold searched
  split at hReady
  · cases hReady
  · cases hReady
    exact ⟨_, rfl, Or.inl rfl⟩
  · exact ⟨_, rfl, shows_of_play hReady⟩

/-- An id is looked for if there are items. -/
theorem requeue_onSkipToQueueItem_cases {queueId : Int} {playing : PlayingQueue}
    (hRequeue : service.requeue toLowerCase (.onSkipToQueueItem queueId cached) = some playing) :
    (playing = service.playing ∧
        ∀ queue, service.playing.mPlayingQueue = some queue → queue = []) ∨
      ∃ queue, queue ≠ [] ∧ service.playing.mPlayingQueue = some queue ∧
        playing = ⟨some queue, getIndexOfQueueId queue queueId⟩ := by
  rw [requeue] at hRequeue
  match hQueue : service.playing.mPlayingQueue with
  | none =>
      rw [hQueue] at hRequeue
      cases hRequeue
      exact Or.inl ⟨rfl, fun queue hOther => nomatch hOther⟩
  | some [] =>
      rw [hQueue] at hRequeue
      cases hRequeue
      exact Or.inl ⟨rfl, fun queue hOther => (Option.some.inj hOther).symm⟩
  | some (item :: queue) =>
      rw [hQueue] at hRequeue
      cases hRequeue
      exact Or.inr ⟨item :: queue, List.cons_ne_nil item queue, rfl, rfl⟩

/-- The queue of the metadata replaces the one that is there if the item is found on it. -/
theorem requeue_onMetadataChanged_cases {mediaId : JavaString} {playing : PlayingQueue}
    (hRequeue : service.requeue toLowerCase (.onMetadataChanged mediaId cached) = some playing) :
    playing = service.playing ∨
      ∃ queue, service.mMusicProvider.getPlayingQueue toLowerCase mediaId = .ok (some queue) ∧
        InQueue (MusicProvider.getMusicIndexOnQueue queue mediaId) queue ∧
        playing = ⟨some queue, MusicProvider.getMusicIndexOnQueue queue mediaId⟩ := by
  rw [requeue] at hRequeue
  split at hRequeue
  · cases hRequeue
  · cases hRequeue
  · next queue hQueue =>
      cases hRequeue
      split
      · next hFound => exact Or.inr ⟨queue, hQueue, inQueue_of_nonneg hFound, rfl⟩
      · exact Or.inl rfl

variable (toLowerCase) in
/-- An event changes the queue and may show the item there, loads the catalogue, or ends a
fetch. -/
inductive StepCase (service result : MusicService) : Event → Prop where
  | shows {event : Event} (playing : PlayingQueue) (searches : List Search)
      (queued : service.requeue toLowerCase event = some playing)
      (shown : Shows { service with playing := playing, searches := searches } result) :
      StepCase service result event
  | loads (fetched : Fetched) (provider : MusicProvider)
      (loaded : service.mMusicProvider.retrieveMedia fetched = (provider, none))
      (rest : result = { service with mMusicProvider := provider }) :
      StepCase service result (.retrieveMedia fetched)
  | ends (index : Nat) (bitmaps : Bool) (ended : service.fetchEnds index bitmaps = some result) :
      StepCase service result (.fetchEnds index bitmaps)

theorem step_cases {event : Event} (hStep : service.step toLowerCase event = some result) :
    StepCase toLowerCase service result event := by
  cases event with
  | onPlay draws cached =>
      refine .shows _ service.searches rfl ?_
      by_cases hItems : hasItems service.playing
      · rw [if_pos hItems]
        simp only [step, onPlay, hItems, if_true] at hStep
        exact shows_of_play hStep
      · rw [if_neg hItems]
        simp only [step, onPlay, hItems] at hStep
        exact shows_of_play_if hStep
  | onSkipToQueueItem queueId cached =>
      simp only [step, onSkipToQueueItem] at hStep
      split at hStep
      · next hQueue =>
          cases hStep
          exact .shows service.playing service.searches (by simp [requeue, hQueue]) (Or.inl rfl)
      · next hQueue =>
          cases hStep
          exact .shows service.playing service.searches (by simp [requeue, hQueue]) (Or.inl rfl)
      · next queue hSome hQueue =>
          exact .shows _ service.searches (by simp [requeue, hQueue]) (shows_of_play hStep)
  | onPlayFromMediaId mediaId cached =>
      simp only [step, onPlayFromMediaId] at hStep
      split at hStep
      · cases hStep
      · next playing hOk =>
          exact .shows playing service.searches (by simp [requeue, hOk]) (shows_of_play hStep)
      · next playing hOk =>
          cases hStep
          exact .shows playing service.searches (by simp [requeue, hOk]) (Or.inl rfl)
  | onSkipToNext cached => exact .shows _ service.searches rfl (shows_of_play_if hStep)
  | onSkipToPrevious cached => exact .shows _ service.searches rfl (shows_of_play_if hStep)
  | onPlayFromSearch search draws cached =>
      simp only [step, onPlayFromSearch] at hStep
      split at hStep
      · next hReady =>
          obtain ⟨playing, hSearched, hShows⟩ := shows_of_search hStep
          exact .shows playing service.searches ((if_pos hReady).trans hSearched) hShows
      · next hReady =>
          cases hStep
          exact .shows service.playing _ (if_neg hReady) (Or.inl rfl)
  | onMusicCatalogReady index draws cached =>
      obtain ⟨search, hSearch, hReady⟩ := Option.bind_eq_some_iff.mp hStep
      obtain ⟨playing, hSearched, hShows⟩ := shows_of_search hReady
      exact .shows playing (service.searches.eraseIdx index)
        (Option.bind_eq_some_iff.mpr ⟨search, hSearch, hSearched⟩) hShows
  | onCompletion cached =>
      refine .shows _ service.searches rfl ?_
      by_cases hItems : hasItems service.playing
      · rw [if_pos hItems]
        simp only [step, onCompletion, hItems, if_true] at hStep
        exact shows_of_play hStep
      · rw [if_neg hItems]
        simp only [step, onCompletion, hItems] at hStep
        cases hStep
        exact Or.inl rfl
  | onMetadataChanged mediaId cached =>
      simp only [step, onMetadataChanged] at hStep
      split at hStep
      · cases hStep
      · cases hStep
      · next queue hQueue =>
          split at hStep
          · next hFound =>
              exact .shows _ service.searches (by simp [requeue, hQueue, hFound])
                (Or.inr ⟨cached, hStep⟩)
          · next hFound =>
              cases hStep
              exact .shows service.playing service.searches (by simp [requeue, hQueue, hFound])
                (Or.inl rfl)
  | updatePlaybackState =>
      refine .shows service.playing service.searches rfl (Or.inl ?_)
      simp only [step, updatePlaybackState] at hStep
      split at hStep
      · obtain ⟨queueItem, -, hState⟩ := Option.bind_eq_some_iff.mp hStep
        obtain ⟨musicId, -, rfl⟩ := Option.map_eq_some_iff.mp hState
        rfl
      · cases hStep
        rfl
  | retrieveMedia fetched =>
      simp only [step] at hStep
      split at hStep
      · cases hStep
      · next provider hLoaded =>
          cases hStep
          exact .loads fetched provider hLoaded rfl
  | fetchEnds index bitmaps => exact .ends index bitmaps hStep

/-- What is done to the queue and the index is known from the event. -/
theorem StepCase.requeue {event : Event} (h : StepCase toLowerCase service result event) :
    service.requeue toLowerCase event = some result.playing := by
  cases h with
  | shows playing searches hQueued hShown => rw [hQueued, hShown.playing]
  | loads fetched provider hLoaded hRest =>
      rw [hRest]
      rfl
  | ends index bitmaps hEnded =>
      obtain ⟨trackId, -, hEnds⟩ := Option.bind_eq_some_iff.mp hEnded
      cases bitmaps with
      | true => exact congrArg some (onFetched_frame hEnds).1.symm
      | false =>
          cases hEnds
          rfl

end Steps

end MusicService

end AudioSync.Queue
