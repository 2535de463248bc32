import AudioSync.Catalogue.Filing
import AudioSync.Queue.Position

/-! Album art that arrives late. Its listener reads the queue and the index of that moment, not
those of the moment in which the fetch was started. -/
namespace AudioSync.Queue

open Catalogue MediaIDHelper Transition

/-- The item was made from a track with an id. -/
def Described (item : QueueItem) : Prop :=
  ∃ categories musicId, item.description.track.mediaId = some musicId ∧
    item.description.mediaId = createMediaID (some musicId) categories

namespace MusicService

variable (toLowerCase : JavaString → JavaString)

/-- The id of the track at the current index. -/
def currentTrack (service : MusicService) : Option JavaString :=
  service.getItem.bind fun item => item.description.track.mediaId

/-- The moments at which a fetch that `updateMetadata` has started can complete, and the track it
was started for: when it has waited, or at once, for the item that an event has led to. -/
inductive Completion (service : MusicService) : MusicService → JavaString → Prop where
  | late (index : Nat) (trackId : JavaString) (waits : service.fetches[index]? = some trackId) :
      Completion service { service with fetches := service.fetches.eraseIdx index } trackId
  | atOnce (event : Event) (playing : PlayingQueue) (searches : List Search) (item : QueueItem)
      (trackId : JavaString) (track : MediaMetadata)
      (queued : service.requeue toLowerCase event = some playing)
      (current : { service with playing := playing, searches := searches }.getItem = some item)
      (named : extractMusicIDFromMediaID item.description.mediaId = some trackId)
      (known : service.mMusicProvider.getMusic trackId = some track) :
      Completion service
        { service with playing := playing, searches := searches, metadata := some track } trackId

/-- A completion does not throw, and the metadata of the session changes only for the track at the
current index. -/
def Harmless (service : MusicService) : Prop :=
  ∀ moment trackId, Completion toLowerCase service moment trackId →
    ∃ result, moment.onFetched trackId = some result ∧
      (result.metadata ≠ moment.metadata → moment.currentTrack = some trackId)

/-- What is searched for is found. -/
def Finds (service : MusicService) (search : Search) (draws : Draws) : Prop :=
  getPlayingQueueFromSearch toLowerCase service.mMusicProvider search.query search.extras draws ≠
    .ok []

/-- The event leaves a queue with items. -/
def FindsItems (service : MusicService) : Event → Prop
  | .onPlayFromMediaId mediaId _ =>
      ∃ queue, service.mMusicProvider.getPlayingQueue toLowerCase mediaId = .ok (some queue) ∧
        queue ≠ []
  | .onPlayFromSearch search draws _ =>
      service.mMusicProvider.isInitialized = true → service.Finds toLowerCase search draws
  | .onMusicCatalogReady index draws _ =>
      ∀ search ∈ service.searches[index]?, service.Finds toLowerCase search draws
  | _ => True

/-- As long as a fetch waits, there is an item at the current index. -/
def KeepsItem (service : MusicService) (event : Event) : Prop :=
  service.fetches ≠ [] →
    service.AsksForItem toLowerCase event ∧ service.FindsItems toLowerCase event

/-- The items of the queue were made from tracks, the tracks of the catalogue are filed, and art
is fetched for tracks that are among them. -/
structure Sound (service : MusicService) : Prop where
  catalogue : WellFiled service.mMusicProvider
  items : ∀ queue, service.playing.mPlayingQueue = some queue → ∀ item ∈ queue, Described item
  waiting : ∀ trackId ∈ service.fetches, service.mMusicProvider.visible trackId ≠ none

section Items

variable {toLowerCase} {provider : MusicProvider}

/-- Items that are made from tracks with ids. -/
theorem described_convertToQueue {tracks : List MediaMetadata}
    (hIds : ∀ track ∈ tracks, track.mediaId ≠ none) (categories : List JavaString) :
    ∀ item ∈ MusicProvider.convertToQueue tracks categories, Described item := by
  intro item hItem
  obtain ⟨index, hIndex, rfl⟩ := List.mem_mapIdx.mp hItem
  obtain ⟨musicId, hId⟩ := Option.ne_none_iff_exists'.mp (hIds _ (List.getElem_mem hIndex))
  refine ⟨categories, musicId, hId, ?_⟩
  rw [← hId]
  rfl

theorem mediaId_of_byGenre (hFiled : WellFiled provider) {genre : JavaString} :
    ∀ track ∈ provider.getMusicsByGenre genre, track.mediaId ≠ none := by
  intro track hTrack
  unfold MusicProvider.getMusicsByGenre at hTrack
  split at hTrack
  · exact hFiled.listed genre track hTrack
  · cases hTrack

theorem mediaId_of_metadatas (hFiled : WellFiled provider) {track : MediaMetadata}
    (hTrack : track ∈ provider.metadatas) : track.mediaId ≠ none := by
  obtain ⟨musicId, hMusic⟩ := MusicProvider.mem_metadatas.mp hTrack
  rw [(hFiled.tracks musicId track hMusic).mediaId]
  exact Option.some_ne_none musicId

/-- The loop of a search adds tracks it comes to. -/
theorem mem_of_searchLoop {metadataField : MediaMetadata → Option JavaString} {query : JavaString}
    {tracks result found : List MediaMetadata}
    (hFound : tracks.foldlM
      (fun result track =>
        match metadataField track with
        | none => Except.error JavaException.nullPointer
        | some value =>
            Except.ok (if (toLowerCase value).contains (toLowerCase query) then result ++ [track]
              else result)) result = Except.ok found) :
    ∀ track ∈ found, track ∈ result ∨ track ∈ tracks := by
  induction tracks generalizing result with
  | nil =>
      cases hFound
      exact fun track hTrack => Or.inl hTrack
  | cons first tracks ih =>
      rw [List.foldlM_cons] at hFound
      cases hField : metadataField first with
      | none =>
          rw [hField] at hFound
          cases hFound
      | some value =>
          rw [hField] at hFound
          intro track hTrack
          rcases ih hFound track hTrack with hResult | hLater
          · split at hResult
            · rcases List.mem_append.mp hResult with hOld | hNew
              · exact Or.inl hOld
              · rw [List.mem_singleton.mp hNew]
                exact Or.inr List.mem_cons_self
            · exact Or.inl hResult
          · exact Or.inr (List.mem_cons_of_mem first hLater)

theorem mediaId_of_searchMusic (hFiled : WellFiled provider)
    {metadataField : MediaMetadata → Option JavaString} {query : JavaString}
    {found : List MediaMetadata}
    (hFound : provider.searchMusic toLowerCase metadataField query = .ok found) :
    ∀ track ∈ found, track.mediaId ≠ none := by
  unfold MusicProvider.searchMusic at hFound
  split at hFound
  · intro track hTrack
    rcases mem_of_searchLoop hFound track hTrack with hNone | hListed
    · cases hNone
    · exact mediaId_of_metadatas hFiled hListed
  · cases hFound
    exact List.forall_mem_nil _

theorem described_getRandomQueue (hFiled : WellFiled provider) (draws : Draws) :
    ∀ item ∈ getRandomQueue provider draws, Described item := by
  apply described_convertToQueue
  intro track hTrack
  have hDrawn := (draws.isShuffle _).mem_iff.mp hTrack
  obtain ⟨numbered, hNumbered, rfl⟩ := List.mem_map.mp hDrawn
  have hListed := List.fst_mem_of_mem_zipIdx (List.mem_filter.mp hNumbered).1
  obtain ⟨genre, -, hGenre⟩ := List.mem_flatMap.mp hListed
  exact mediaId_of_byGenre hFiled _ hGenre

theorem described_getPlayingQueue (hFiled : WellFiled provider) {mediaId : JavaString}
    {queue : List QueueItem}
    (hQueue : provider.getPlayingQueue toLowerCase mediaId = .ok (some queue)) :
    ∀ item ∈ queue, Described item := by
  unfold MusicProvider.getPlayingQueue at hQueue
  split at hQueue
  · next categoryType categoryValue _ =>
      split_ifs at hQueue
      · cases hQueue
        exact described_convertToQueue (mediaId_of_byGenre hFiled) _
      · cases hSearch : provider.searchMusicBySongTitle toLowerCase categoryValue with
        | error exception =>
            rw [hSearch] at hQueue
            cases hQueue
        | ok found =>
            rw [hSearch] at hQueue
            cases hQueue
            exact described_convertToQueue (mediaId_of_searchMusic hFiled hSearch) _
      · cases hQueue
  · cases hQueue

theorem mediaId_of_searchMusicFor (hFiled : WellFiled provider)
    {metadataField : MediaMetadata → Option JavaString} {query : Option JavaString}
    {found : List MediaMetadata}
    (hFound : searchMusicFor toLowerCase provider metadataField query = .ok found) :
    ∀ track ∈ found, track.mediaId ≠ none := by
  cases query with
  | some query => exact mediaId_of_searchMusic hFiled hFound
  | none =>
      rw [searchMusicFor] at hFound
      split_ifs at hFound
      cases hFound
      exact List.forall_mem_nil _

theorem mediaId_of_searchFocused (hFiled : WellFiled provider) {params : VoiceSearchParams}
    {found : List MediaMetadata} (hFound : searchFocused toLowerCase provider params = .ok found) :
    ∀ track ∈ found, track.mediaId ≠ none := by
  cases params with
  | isAlbumFocus album => exact mediaId_of_searchMusicFor hFiled hFound
  | isArtistFocus artist => exact mediaId_of_searchMusicFor hFiled hFound
  | isSongFocus song => exact mediaId_of_searchMusicFor hFiled hFound
  | isGenreFocus genre =>
      cases hFound
      exact mediaId_of_byGenre hFiled
  | isAny =>
      cases hFound
      exact List.forall_mem_nil _
  | isUnstructured =>
      cases hFound
      exact List.forall_mem_nil _

theorem described_getPlayingQueueFromSearch (hFiled : WellFiled provider)
    {query : Option JavaString} {extras : Option SearchExtras} {draws : Draws}
    {queue : List QueueItem}
    (hQueue : getPlayingQueueFromSearch toLowerCase provider query extras draws = .ok queue) :
    ∀ item ∈ queue, Described item := by
  unfold getPlayingQueueFromSearch at hQueue
  split at hQueue
  · cases hQueue
    exact described_getRandomQueue hFiled draws
  · cases hQueue
    exact described_getRandomQueue hFiled draws
  · next query _ =>
      split at hQueue
      · cases hQueue
      · next extras =>
          cases hFocused : searchFocused toLowerCase provider
              (VoiceSearchParams.ofExtras query extras) with
          | error exception =>
              rw [hFocused] at hQueue
              cases hQueue
          | ok focused =>
              rw [hFocused] at hQueue
              by_cases hNone : focused = []
              · cases hTitles : provider.searchMusicBySongTitle toLowerCase query with
                | error exception =>
                    simp only [bind, Except.bind, hNone, if_true, hTitles] at hQueue
                    cases hQueue
                | ok found =>
                    simp only [bind, Except.bind, hNone, if_true, hTitles] at hQueue
                    cases hQueue
                    exact described_convertToQueue (mediaId_of_searchMusic hFiled hTitles) _
              · simp only [bind, Except.bind, hNone, if_false] at hQueue
                cases hQueue
                exact described_convertToQueue (mediaId_of_searchFocused hFiled hFocused) _

/-- The results of a search, or of a queue that was there before. -/
theorem described_searched {service : MusicService} {search : Search} {draws : Draws}
    {playing : PlayingQueue} (hFiled : WellFiled service.mMusicProvider)
    (hSearched : service.searched toLowerCase search draws = some playing) :
    ∀ queue, playing.mPlayingQueue = some queue → ∀ item ∈ queue, Described item := by
  intro queue hQueue
  unfold searched at hSearched
  split at hSearched
  · cases hSearched
  · cases hSearched
    cases hQueue
    exact List.forall_mem_nil _
  · next found _ hFound =>
      cases hSearched
      cases hQueue
      exact described_getPlayingQueueFromSearch hFiled hFound

end Items

section Steps

variable {toLowerCase} {service result : MusicService} {event : Event} {playing : PlayingQueue}

/-- All queues are made of described items. -/
theorem described_requeue (hSound : service.Sound)
    (hRequeue : service.requeue toLowerCase event = some playing) :
    ∀ queue, playing.mPlayingQueue = some queue → ∀ item ∈ queue, Described item := by
  cases event with
  | onPlay draws cached =>
      cases hRequeue
      split
      · exact hSound.items
      · intro queue hQueue
        cases hQueue
        exact described_getRandomQueue hSound.catalogue draws
  | onSkipToQueueItem queueId cached =>
      rcases requeue_onSkipToQueueItem_cases hRequeue with ⟨rfl, -⟩ | ⟨items, -, hItems, rfl⟩
      · exact hSound.items
      · exact fun queue hQueue => hSound.items queue (hItems.trans hQueue)
  | onPlayFromMediaId mediaId cached =>
      simp only [requeue] at hRequeue
      split at hRequeue
      · cases hRequeue
      · next hPlays =>
          cases hRequeue
          intro queue hQueue
          rcases onPlayFromMediaId_cases hPlays with ⟨items, -, hItems, rfl⟩ | ⟨hNone, -⟩
          · cases hQueue
            exact described_getPlayingQueue hSound.catalogue hItems
          · rw [hasItems, hQueue] at hNone
            have hEmpty : queue = [] := by simpa using hNone
            rw [hEmpty]
            exact List.forall_mem_nil _
  | onSkipToNext cached =>
      cases hRequeue
      exact hSound.items
  | onSkipToPrevious cached =>
      cases hRequeue
      exact hSound.items
  | onPlayFromSearch search draws cached =>
      simp only [requeue] at hRequeue
      split at hRequeue
      · exact described_searched hSound.catalogue hRequeue
      · cases hRequeue
        exact hSound.items
  | onMusicCatalogReady index draws cached =>
      obtain ⟨search, -, hSearched⟩ := Option.bind_eq_some_iff.mp hRequeue
      exact described_searched hSound.catalogue hSearched
  | onCompletion cached =>
      cases hRequeue
      split
      · exact hSound.items
      · exact hSound.items
  | onMetadataChanged mediaId cached =>
      rcases requeue_onMetadataChanged_cases hRequeue with rfl | ⟨items, hItems, -, rfl⟩
      · exact hSound.items
      · intro queue hQueue
        cases hQueue
        exact described_getPlayingQueue hSound.catalogue hItems
  | updatePlaybackState =>
      cases hRequeue
      exact hSound.items
  | retrieveMedia fetched =>
      cases hRequeue
      exact hSound.items
  | fetchEnds index bitmaps =>
      cases hRequeue
      exact hSound.items

/-- A playable index is one with an item. -/
theorem getItem_eq_some_iff :
    (∃ item, service.getItem = some item) ↔ service.isPlayable = true := by
  unfold getItem isPlayable
  cases service.playing.mPlayingQueue with
  | none => simp [isIndexPlayable]
  | some queue =>
      rw [isIndexPlayable_some, Option.bind_some]
      constructor
      · rintro ⟨item, hItem⟩
        split_ifs at hItem with hNonneg
        have hBound := (List.getElem?_eq_some_iff.mp hItem).1
        exact ⟨hNonneg, by omega⟩
      · intro hIn
        rw [if_pos hIn.1]
        exact hIn.getElem?

/-- The listener gets through where there is an item and the track is known. -/
theorem onFetched_of_item {item : QueueItem} {trackId : JavaString} {track : MediaMetadata}
    (hFiled : WellFiled service.mMusicProvider) (hItem : service.getItem = some item)
    (hTrack : service.mMusicProvider.getMusic trackId = some track) :
    ∃ art withIcon, service.onFetched trackId = some { service with
      mMusicProvider := service.mMusicProvider.call (.updateArt trackId)
      withIcon := withIcon
      metadata := if extractMusicIDFromMediaID item.description.mediaId = some trackId then some art
        else service.metadata } := by
  obtain ⟨held, hUpdate⟩ := MusicProvider.updateMusic_art hFiled hTrack
  refine ⟨{ track with object := service.mMusicProvider.objects },
    service.mMusicProvider.objects :: service.withIcon, ?_⟩
  rw [onFetched, hItem, Option.bind_some, hTrack, Option.bind_some, MusicProvider.call, hTrack]
  dsimp only
  rw [hUpdate]

/-- The id that the listener compares with is that of the item's track. -/
theorem mediaId_of_extracted {item : QueueItem} {trackId : JavaString} {track : MediaMetadata}
    (hFiled : WellFiled service.mMusicProvider) (hDescribed : Described item)
    (hTrack : service.mMusicProvider.getMusic trackId = some track)
    (hExtracted : extractMusicIDFromMediaID item.description.mediaId = some trackId) :
    item.description.track.mediaId = some trackId := by
  obtain ⟨categories, musicId, hId, hMediaId⟩ := hDescribed
  rw [hMediaId] at hExtracted
  rw [hId, extractMusicID_createMediaID hExtracted (hFiled.tracks trackId track hTrack).noLeaf]

theorem getItem_mem {item : QueueItem} (hItem : service.getItem = some item) :
    ∃ queue, service.playing.mPlayingQueue = some queue ∧ item ∈ queue := by
  obtain ⟨queue, hQueue, hGet⟩ := Option.bind_eq_some_iff.mp hItem
  split_ifs at hGet
  exact ⟨queue, hQueue, List.mem_of_getElem? hGet⟩

/-- A completion where there is an item is harmless. -/
theorem harmless_of_item {item : QueueItem} {trackId : JavaString} {track : MediaMetadata}
    (hFiled : WellFiled service.mMusicProvider) (hDescribed : Described item)
    (hItem : service.getItem = some item)
    (hTrack : service.mMusicProvider.getMusic trackId = some track) :
    ∃ result, service.onFetched trackId = some result ∧
      (result.metadata ≠ service.metadata → service.currentTrack = some trackId) := by
  obtain ⟨art, withIcon, hFetched⟩ := onFetched_of_item hFiled hItem hTrack
  refine ⟨_, hFetched, fun hChanged => ?_⟩
  rw [currentTrack, hItem, Option.bind_some]
  apply mediaId_of_extracted hFiled hDescribed hTrack
  by_contra hOther
  exact hChanged (if_neg hOther)

/-- Late art is harmless exactly as long as there is an item where it waits. -/
theorem harmless_iff (hSound : service.Sound) :
    service.Harmless toLowerCase ↔ (service.fetches ≠ [] → service.isPlayable = true) := by
  constructor
  · intro hHarmless hWaits
    obtain ⟨trackId, waiting, hFetches⟩ := List.exists_cons_of_ne_nil hWaits
    have hFirst : service.fetches[0]? = some trackId := by rw [hFetches]; rfl
    obtain ⟨result, hFetched, -⟩ := hHarmless _ trackId (.late 0 trackId hFirst)
    obtain ⟨item, hItem, -⟩ := Option.bind_eq_some_iff.mp hFetched
    exact getItem_eq_some_iff.mp ⟨item, hItem⟩
  · intro hPlayable moment trackId hCompletion
    cases hCompletion with
    | late index _ hWaits =>
        have hMem := List.mem_of_getElem? hWaits
        obtain ⟨item, hItem⟩ := getItem_eq_some_iff.mpr (hPlayable (List.ne_nil_of_mem hMem))
        obtain ⟨queue, hQueue, hIn⟩ := getItem_mem hItem
        obtain ⟨track, hTrack⟩ := MusicProvider.visible_ne_none_iff.mp (hSound.waiting trackId hMem)
        have hDescribed := hSound.items queue hQueue item hIn
        exact harmless_of_item hSound.catalogue hDescribed hItem hTrack
    | atOnce event playing searches item _ track hQueued hCurrent hNamed hKnown =>
        obtain ⟨queue, hQueue, hIn⟩ := getItem_mem hCurrent
        have hDescribed := described_requeue hSound hQueued queue hQueue item hIn
        exact harmless_of_item hSound.catalogue hDescribed hCurrent hKnown

/-- The art of an item's track. -/
theorem sound_onFetched {trackId : JavaString} (hSound : service.Sound)
    (hFetched : service.onFetched trackId = some result) : result.Sound := by
  obtain ⟨item, hItem, hRest⟩ := Option.bind_eq_some_iff.mp hFetched
  obtain ⟨track, hTrack, -⟩ := Option.bind_eq_some_iff.mp hRest
  obtain ⟨art, withIcon, hResult⟩ := onFetched_of_item hSound.catalogue hItem hTrack
  cases hFetched.symm.trans hResult
  exact ⟨MusicProvider.wellFiled_call hSound.catalogue (.updateArt trackId), hSound.items,
    fun other hOther => MusicProvider.known_call hSound.catalogue (.updateArt trackId)
      (hSound.waiting other hOther)⟩

theorem sound_updateMetadata {cached : Bool} (hSound : service.Sound)
    (hUpdate : service.updateMetadata cached = some result) : result.Sound := by
  unfold updateMetadata at hUpdate
  split_ifs at hUpdate
  · obtain ⟨item, hItem, hUpdate⟩ := Option.bind_eq_some_iff.mp hUpdate
    obtain ⟨musicId, -, hUpdate⟩ := Option.bind_eq_some_iff.mp hUpdate
    obtain ⟨track, hTrack, hUpdate⟩ := Option.bind_eq_some_iff.mp hUpdate
    split_ifs at hUpdate
    have hShown : Sound { service with metadata := some track } :=
      ⟨hSound.catalogue, hSound.items, hSound.waiting⟩
    unfold fetchArt at hUpdate
    split_ifs at hUpdate
    · exact sound_onFetched hShown hUpdate
    · cases hUpdate
      refine ⟨hShown.catalogue, hShown.items, ?_⟩
      intro trackId hWaits
      rcases List.mem_append.mp hWaits with hOld | hNew
      · exact hShown.waiting trackId hOld
      · rw [List.mem_singleton.mp hNew]
        exact MusicProvider.visible_ne_none_iff.mpr ⟨track, hTrack⟩
    · cases hUpdate
      exact hShown
  · cases hUpdate
    exact hSound

theorem sound_initial : initial.Sound where
  catalogue := MusicProvider.wellFiled_initial
  items queue hQueue := by
    cases hQueue
    exact List.forall_mem_nil _
  waiting := List.forall_mem_nil _

theorem sound_step (hSound : service.Sound)
    (hStep : service.step toLowerCase event = some result) : result.Sound := by
  cases step_cases hStep with
  | shows playing searches hQueued hShown =>
      have hMoved : Sound { service with playing := playing, searches := searches } :=
        ⟨hSound.catalogue, described_requeue hSound hQueued, hSound.waiting⟩
      rcases hShown with rfl | ⟨cached, hUpdate⟩
      · exact hMoved
      · exact sound_updateMetadata hMoved hUpdate
  | loads fetched provider hLoaded hRest =>
      have hProvider : service.mMusicProvider.call (.retrieveMedia fetched) = provider :=
        congrArg Prod.fst hLoaded
      rw [hRest, ← hProvider]
      exact ⟨MusicProvider.wellFiled_call hSound.catalogue (.retrieveMedia fetched), hSound.items,
        fun trackId hWaits => MusicProvider.known_call hSound.catalogue (.retrieveMedia fetched)
          (hSound.waiting trackId hWaits)⟩
  | ends index bitmaps hEnded =>
      obtain ⟨trackId, hWaits, hEnds⟩ := Option.bind_eq_some_iff.mp hEnded
      have hErased : Sound { service with fetches := service.fetches.eraseIdx index } :=
        ⟨hSound.catalogue, hSound.items, fun other hOther =>
          hSound.waiting other (List.mem_of_mem_eraseIdx hOther)⟩
      cases bitmaps with
      | true => exact sound_onFetched hErased hEnds
      | false =>
          cases hEnds
          exact hErased

/-- An index is playable in a queue with items exactly when it is valid there. -/
theorem isPlayable_iff : service.isPlayable = true ↔
    hasItems service.playing = true ∧ ValidPosition service.playing := by
  constructor
  · intro hPlayable
    cases hQueue : service.playing.mPlayingQueue with
    | none => simp [isPlayable, isIndexPlayable, hQueue] at hPlayable
    | some queue =>
        rw [isPlayable, hQueue, isIndexPlayable_some] at hPlayable
        have hSome : queue ≠ [] := by
          have hPositive : 0 < queue.length := Int.natCast_pos.mp (hPlayable.1.trans_lt hPlayable.2)
          exact List.ne_nil_of_length_pos hPositive
        refine ⟨by simp [hasItems, hQueue, hSome], ?_⟩
        intro other hOther _
        cases hQueue.symm.trans hOther
        exact hPlayable
  · rintro ⟨hItems, hValid⟩
    exact isPlayable_of_validPosition hValid hItems

theorem hasItems_searched_iff {search : Search} {draws : Draws}
    (hSearched : service.searched toLowerCase search draws = some playing) :
    hasItems playing = true ↔ service.Finds toLowerCase search draws := by
  unfold searched at hSearched
  unfold Finds
  split at hSearched
  · cases hSearched
  · next hFound =>
      cases hSearched
      rw [hFound]
      exact iff_of_false Bool.false_ne_true (not_not_intro rfl)
  · next queue hSome hFound =>
      cases hSearched
      rw [hFound]
      simp [hasItems]

/-- From a queue with items, an event leads to one with items exactly when it finds some. -/
theorem hasItems_requeue_iff (hItems : hasItems service.playing = true)
    (hRequeue : service.requeue toLowerCase event = some playing) :
    hasItems playing = true ↔ service.FindsItems toLowerCase event := by
  cases event with
  | onPlay draws cached =>
      cases hRequeue
      rw [if_pos hItems]
      exact iff_of_true hItems trivial
  | onSkipToQueueItem queueId cached =>
      refine iff_of_true ?_ trivial
      rcases requeue_onSkipToQueueItem_cases hRequeue with ⟨rfl, -⟩ | ⟨queue, hSome, -, rfl⟩
      · exact hItems
      · simp [hasItems, hSome]
  | onPlayFromMediaId mediaId cached =>
      simp only [requeue] at hRequeue
      split at hRequeue
      · cases hRequeue
      · next hPlays =>
          cases hRequeue
          rcases onPlayFromMediaId_cases hPlays with ⟨queue, hSome, hQueue, rfl⟩ | ⟨hNone, hEmpty⟩
          · exact iff_of_true (by simp [hasItems, hSome]) ⟨queue, hQueue, hSome⟩
          · apply iff_of_false
            · rw [hNone]
              exact Bool.false_ne_true
            · rintro ⟨queue, hQueue, hSome⟩
              exact hSome (hEmpty queue hQueue)
  | onSkipToNext cached =>
      cases hRequeue
      exact iff_of_true hItems trivial
  | onSkipToPrevious cached =>
      cases hRequeue
      exact iff_of_true hItems trivial
  | onPlayFromSearch search draws cached =>
      simp only [requeue] at hRequeue
      split at hRequeue
      · next hReady =>
          rw [hasItems_searched_iff hRequeue, FindsItems]
          exact ⟨fun hFinds _ => hFinds, fun hFinds => hFinds hReady⟩
      · next hReady =>
          cases hRequeue
          exact iff_of_true hItems fun hOther => absurd hOther hReady
  | onMusicCatalogReady index draws cached =>
      obtain ⟨search, hSearch, hSearched⟩ := Option.bind_eq_some_iff.mp hRequeue
      rw [hasItems_searched_iff hSearched, FindsItems, hSearch]
      simp
  | onCompletion cached =>
      cases hRequeue
      rw [if_pos hItems]
      exact iff_of_true hItems trivial
  | onMetadataChanged mediaId cached =>
      refine iff_of_true ?_ trivial
      rcases requeue_onMetadataChanged_cases hRequeue with rfl | ⟨queue, -, hIn, rfl⟩
      · exact hItems
      · have hPositive : 0 < queue.length := Int.natCast_pos.mp (hIn.1.trans_lt hIn.2)
        simp [hasItems, List.ne_nil_of_length_pos hPositive]
  | updatePlaybackState =>
      cases hRequeue
      exact iff_of_true hItems trivial
  | retrieveMedia fetched =>
      cases hRequeue
      exact iff_of_true hItems trivial
  | fetchEnds index bitmaps =>
      cases hRequeue
      exact iff_of_true hItems trivial

/-- A fetch that waits goes on waiting or ends, and a new one starts only where there is an
item. -/
theorem fetches_step (hStep : service.step toLowerCase event = some result) :
    result.fetches = service.fetches ∨ result.isPlayable = true ∨
      (result.playing = service.playing ∧
        ∃ index, result.fetches = service.fetches.eraseIdx index) := by
  cases step_cases hStep with
  | shows playing searches hQueued hShown =>
      rcases hShown.fetches with hSame | hPlayable
      · exact Or.inl hSame
      · exact Or.inr (Or.inl hPlayable)
  | loads fetched provider hLoaded hRest =>
      rw [hRest]
      exact Or.inl rfl
  | ends index bitmaps hEnded =>
      obtain ⟨trackId, -, hEnds⟩ := Option.bind_eq_some_iff.mp hEnded
      cases bitmaps with
      | true =>
          obtain ⟨hPlaying, hFetches⟩ := onFetched_frame hEnds
          exact Or.inr (Or.inr ⟨hPlaying, index, hFetches⟩)
      | false =>
          cases hEnds
          exact Or.inr (Or.inr ⟨rfl, index, rfl⟩)

/-- Under the standing invariant, one event keeps late art harmless exactly when it keeps an item
for it. -/
theorem harmless_step_iff (hSound : service.Sound) (hHarmless : service.Harmless toLowerCase)
    (hStep : service.step toLowerCase event = some result) :
    result.Harmless toLowerCase ↔ service.KeepsItem toLowerCase event := by
  have hFetches := fetches_step hStep
  rw [harmless_iff (sound_step hSound hStep)]
  by_cases hNone : service.fetches = []
  · -- Nothing has waited so far.
    apply iff_of_true
    · intro hWaits
      rcases hFetches with hSame | hPlayable | ⟨-, index, hErased⟩
      · exact absurd (hSame.trans hNone) hWaits
      · exact hPlayable
      · rw [hNone] at hErased
        exact absurd hErased hWaits
    · exact fun hWaits => absurd hNone hWaits
  · have hPlayable := (harmless_iff hSound).mp hHarmless hNone
    obtain ⟨hItems, hValid⟩ := isPlayable_iff.mp hPlayable
    have hRequeue := (step_cases hStep).requeue
    have hNext : result.isPlayable = true ↔
        service.AsksForItem toLowerCase event ∧ service.FindsItems toLowerCase event := by
      rw [isPlayable_iff, hasItems_requeue_iff hItems hRequeue,
        validPosition_requeue_iff hValid hRequeue, and_comm]
    rw [KeepsItem, ← hNext]
    constructor
    · intro hKeeps _
      rcases hFetches with hSame | hOwn | ⟨hPlaying, -⟩
      · exact hKeeps (hSame.trans_ne hNone)
      · exact hOwn
      · rw [isPlayable_congr hPlaying]
        exact hPlayable
    · exact fun hKeeps _ => hKeeps hNone

end Steps

/-- In every history late art is harmless in all states, if and only if every event keeps an item
at the current index while a fetch waits. -/
theorem always_harmless_iff (events : List Event) :
    Always (step toLowerCase) (Harmless toLowerCase) initial events ↔
      Meets (step toLowerCase) (KeepsItem toLowerCase) initial events :=
  always_iff_meets Sound (fun _ _ _ hSound hStep => sound_step hSound hStep)
    (fun _ _ _ hSound hHarmless hStep => harmless_step_iff hSound hHarmless hStep) sound_initial
    ((harmless_iff sound_initial).mpr fun hWaits => absurd rfl hWaits) events

/-- A track is played and its art is fetched; then a controller plays an id without a queue. -/
def playsUnknownId : List Event :=
  [.retrieveMedia .null, .onPlayFromMediaId
    (JavaString.literal "__BY_GENRE__/Testing|__local_metronom.mp3") false,
    .onPlayFromMediaId (JavaString.literal "__ROOT__") false]

/-- The listener finds no queue. -/
theorem not_always_harmless_unknownId :
    ¬ Always (step id) (Harmless id) initial playsUnknownId := by
  intro hAlways
  have hRuns : (run (step id) initial playsUnknownId).isSome = true := by decide +kernel
  have hLeft : (run (step id) initial playsUnknownId).all
      (fun service => !service.fetches.isEmpty && !service.isPlayable) = true := by decide +kernel
  obtain ⟨service, hRun⟩ := Option.isSome_iff_exists.mp hRuns
  rw [hRun, Option.all_some, Bool.and_eq_true, Bool.not_eq_true', Bool.not_eq_true'] at hLeft
  obtain ⟨trackId, waiting, hFetches⟩ :
      ∃ trackId waiting, service.fetches = trackId :: waiting := by
    apply List.exists_cons_of_ne_nil
    intro hNone
    rw [hNone] at hLeft
    exact absurd hLeft.1 (by decide)
  have hFirst : service.fetches[0]? = some trackId := by rw [hFetches]; rfl
  obtain ⟨result, hFetched, -⟩ := hAlways.of_run hRun _ trackId (.late 0 trackId hFirst)
  obtain ⟨item, hItem, -⟩ := Option.bind_eq_some_iff.mp hFetched
  have hPlayable := getItem_eq_some_iff.mp ⟨item, hItem⟩
  exact Bool.false_ne_true (hLeft.2.symm.trans hPlayable)

end MusicService

end AudioSync.Queue
