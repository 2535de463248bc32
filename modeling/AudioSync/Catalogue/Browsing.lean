import AudioSync.Catalogue.MediaIDHelper
import AudioSync.Catalogue.GenreIndex

/-! What `MusicService` lists for a browse id, and the queue it builds when one of the listed
ids is played. -/
namespace AudioSync.Catalogue

open MediaIDHelper

/-- The description of a copy of a track that has another media id. All else that is shown
is taken from the track. -/
structure MediaDescription where
  mediaId : JavaString
  track : MediaMetadata
  deriving DecidableEq

/-- The items of the browser, with the ids under which they are published. -/
inductive MediaItem where
  | browsable (mediaId : JavaString)
  | playable (description : MediaDescription)
  deriving DecidableEq

structure QueueItem where
  description : MediaDescription
  queueId : Nat
  deriving DecidableEq

/-- The queue of the service. -/
structure PlayingQueue where
  mPlayingQueue : Option (List QueueItem)
  mCurrentIndexOnQueue : Int
  deriving DecidableEq

namespace MusicProvider

/-- A track under the category it was found in. -/
def describe (categories : List JavaString) (track : MediaMetadata) : MediaDescription :=
  ⟨createMediaID track.mediaId categories, track⟩

/-- `loadChildrenImpl`. -/
def loadChildrenImpl (provider : MusicProvider) (parentMediaId : JavaString) :
    Except JavaException (List MediaItem) :=
  if parentMediaId = MEDIA_ID_ROOT then .ok [.browsable MEDIA_ID_MUSICS_BY_GENRE]
  else if parentMediaId = MEDIA_ID_MUSICS_BY_GENRE then
    .ok (provider.getGenres.map fun genre =>
      .browsable (createBrowseCategoryMediaID MEDIA_ID_MUSICS_BY_GENRE genre))
  else if parentMediaId.startsWith MEDIA_ID_MUSICS_BY_GENRE then
    match (getHierarchy parentMediaId)[1]? with
    | none => .error .indexOutOfBounds
    | some genre =>
        .ok ((provider.getMusicsByGenre genre).map fun track =>
          .playable (describe [MEDIA_ID_MUSICS_BY_GENRE, genre] track))
  else .ok []

/-- `onLoadChildren`. `none` means that the catalogue is fetched first. -/
def onLoadChildren (provider : MusicProvider) (parentMediaId : JavaString) :
    Option (Except JavaException (List MediaItem)) :=
  if provider.isInitialized then some (provider.loadChildrenImpl parentMediaId) else none

variable (toLowerCase : JavaString → JavaString)

/-- `searchMusic`, which throws at a track that does not have the field. -/
def searchMusic (metadataField : MediaMetadata → Option JavaString) (query : JavaString)
    (provider : MusicProvider) : Except JavaException (List MediaMetadata) :=
  if provider.mCurrentState = .initialized then
    provider.metadatas.foldlM
      (fun result track =>
        match metadataField track with
        | none => .error .nullPointer
        | some value =>
            .ok (if (toLowerCase value).contains (toLowerCase query) then result ++ [track]
              else result)) []
  else .ok []

def searchMusicBySongTitle (query : JavaString) (provider : MusicProvider) :
    Except JavaException (List MediaMetadata) :=
  provider.searchMusic toLowerCase MediaMetadata.title query

/-- The index in the queue is used as the id there. -/
def convertToQueue (tracks : List MediaMetadata) (categories : List JavaString) :
    List QueueItem :=
  tracks.mapIdx fun count track => ⟨describe categories track, count⟩

/-- `getPlayingQueue`; `none` is the null it returns for other ids. -/
def getPlayingQueue (mediaId : JavaString) (provider : MusicProvider) :
    Except JavaException (Option (List QueueItem)) :=
  match getHierarchy mediaId with
  | [categoryType, categoryValue] =>
      if categoryType = MEDIA_ID_MUSICS_BY_GENRE then
        .ok (some (convertToQueue (provider.getMusicsByGenre categoryValue)
          [categoryType, categoryValue]))
      else if categoryType = MEDIA_ID_MUSICS_BY_SEARCH then
        (provider.searchMusicBySongTitle toLowerCase categoryValue).map fun tracks =>
          some (convertToQueue tracks [categoryType, categoryValue])
      else .ok none
  | _ => .ok none

/-- `getMusicIndexOnQueue`, which is -1 if no item has the id. -/
def getMusicIndexOnQueue (queue : List QueueItem) (mediaId : JavaString) : Int :=
  match queue.findIdx? fun item => item.description.mediaId = mediaId with
  | some index => index
  | none => -1

/-- `onPlayFromMediaId`, with whether it goes on to play. -/
def onPlayFromMediaId (mediaId : JavaString) (provider : MusicProvider) (playing : PlayingQueue) :
    Except JavaException (PlayingQueue × Bool) := do
  let queue ← provider.getPlayingQueue toLowerCase mediaId
  match queue with
  | none => .ok ({ playing with mPlayingQueue := none }, false)
  | some [] => .ok ({ playing with mPlayingQueue := some [] }, false)
  | some items =>
      let index := getMusicIndexOnQueue items mediaId
      .ok (⟨some items, index⟩, 0 ≤ index)

section Loaded

/-- Every track has the id under which it is found. -/
def HasIds (provider : MusicProvider) : Prop :=
  ∀ musicId track, provider.getMusic musicId = some track → track.mediaId = some musicId

/-- A catalogue that has been loaded: the lists are those of its tracks. -/
structure Loaded (provider : MusicProvider) : Prop where
  ready : provider.mCurrentState = .initialized
  lists : provider.metadatas.foldlM addByGenre ∅ = some provider.mMusicListByGenre
  ids : provider.HasIds

variable {provider : MusicProvider} {genre : JavaString}

theorem Loaded.indexMirrors (hLoaded : provider.Loaded) : provider.IndexMirrors :=
  indexMirrors_of_built hLoaded.ready rfl hLoaded.lists

theorem Loaded.mem_getMusicsByGenre (hLoaded : provider.Loaded) {track : MediaMetadata} :
    track ∈ provider.getMusicsByGenre genre ↔
      track ∈ provider.currentMetadata ∧ track.genre = some genre := by
  rw [(hLoaded.indexMirrors.tracks genre).mem_iff, List.mem_filter, decide_eq_true_eq]

theorem Loaded.mediaId (hLoaded : provider.Loaded) {track : MediaMetadata}
    (hTrack : track ∈ provider.currentMetadata) : ∃ musicId, track.mediaId = some musicId := by
  obtain ⟨musicId, -, hMusic⟩ := List.mem_filterMap.mp hTrack
  exact ⟨musicId, hLoaded.ids musicId track hMusic⟩

end Loaded

section Load

theorem hasIds_put {provider : MusicProvider} (hIds : provider.HasIds) {musicId : JavaString}
    {metadata : MediaMetadata} (hId : metadata.mediaId = some musicId) :
    (provider.put musicId metadata).HasIds := by
  intro other track hTrack
  unfold put getMusic at hTrack
  by_cases hSame : other = musicId
  · subst hSame
    rw [AList.lookup_insert] at hTrack
    cases hTrack
    exact hId
  · rw [AList.lookup_insert_ne hSame] at hTrack
    exact hIds other track hTrack

theorem hasIds_initial : initial.HasIds := by
  have hLocal (provider : MusicProvider) (file : String) (hIds : provider.HasIds) :
      (provider.createLocal file).HasIds := hasIds_put hIds rfl
  have hNone : (⟨∅, ∅, .nonInitialized, 0⟩ : MusicProvider).HasIds := by
    intro musicId track hTrack
    cases hTrack
  exact hLocal _ _ (hLocal _ _ (hLocal _ _ (hLocal _ _ hNone)))

theorem hasIds_putTracks (entries : List (Option JSONTrack)) {provider : MusicProvider}
    (hIds : provider.HasIds) : (provider.putTracks entries).1.HasIds := by
  induction entries generalizing provider with
  | nil => exact hIds
  | cons entry entries ih =>
      unfold putTracks
      split
      · exact hIds
      · next item hItem =>
          split
          · exact hIds
          · next musicId hId => exact ih (hasIds_put hIds hId)

theorem loaded_finish {provider : MusicProvider} (hIds : provider.HasIds)
    (hReady : provider.finish.1.mCurrentState = .initialized) : provider.finish.1.Loaded := by
  obtain ⟨lists, hBuilt, hFinish⟩ := finish_of_ready hReady
  rw [hFinish]
  exact ⟨rfl, hBuilt, hIds⟩

/-- A `retrieveMedia` that makes the catalogue ready has loaded it. -/
theorem loaded_retrieveMedia {provider : MusicProvider} (hIds : provider.HasIds)
    (hBefore : provider.mCurrentState ≠ .initialized) (fetched : Fetched)
    (hReady : (provider.retrieveMedia fetched).1.mCurrentState = .initialized) :
    (provider.retrieveMedia fetched).1.Loaded := by
  unfold retrieveMedia at *
  cases hState : provider.mCurrentState with
  | initialized => exact absurd hState hBefore
  | initializing =>
      rw [hState] at hReady
      cases hReady
  | nonInitialized =>
      rw [hState] at hReady
      cases fetched with
      | null => exact loaded_finish hIds hReady
      | document music =>
          cases music with
          | none => exact absurd (hState.symm.trans hReady) (by decide)
          | some tracks =>
              have hFilled := hasIds_putTracks tracks hIds
              have hStill := putTracks_state tracks provider
              dsimp only at hReady ⊢
              generalize provider.putTracks tracks = put at *
              obtain ⟨filled, complete⟩ := put
              cases complete with
              | true => exact loaded_finish hFilled hReady
              | false => exact absurd ((hStill.trans hState).symm.trans hReady) (by decide)

end Load

section Browse

variable {provider : MusicProvider} {genre : JavaString}

/-- The browse id of a genre lists exactly its tracks. Playing a listed id builds a queue that
contains it, whatever was queued before, and the track's own id is found in it. -/
def BrowsesAndPlays (provider : MusicProvider) (genre : JavaString) : Prop :=
  ∃ listed : List MediaDescription,
    provider.onLoadChildren (createBrowseCategoryMediaID MEDIA_ID_MUSICS_BY_GENRE genre) =
        some (.ok (listed.map .playable)) ∧
      (listed.map MediaDescription.track).Perm
        (provider.currentMetadata.filter fun track => track.genre = some genre) ∧
      ∀ description ∈ listed,
        (∀ playing, ∃ next queue plays,
          provider.onPlayFromMediaId toLowerCase description.mediaId playing = .ok (next, plays) ∧
          next.mPlayingQueue = some queue ∧
          ∃ item ∈ queue, item.description.mediaId = description.mediaId) ∧
        extractMusicIDFromMediaID description.mediaId = description.track.mediaId

theorem loadChildrenImpl_genre (provider : MusicProvider) (genre : JavaString) :
    provider.loadChildrenImpl (createBrowseCategoryMediaID MEDIA_ID_MUSICS_BY_GENRE genre) =
      match (getHierarchy
        (createBrowseCategoryMediaID MEDIA_ID_MUSICS_BY_GENRE genre))[1]? with
      | none => .error .indexOutOfBounds
      | some found =>
          .ok ((provider.getMusicsByGenre found).map fun track =>
            .playable (describe [MEDIA_ID_MUSICS_BY_GENRE, found] track)) := by
  have hLength : MEDIA_ID_MUSICS_BY_GENRE.length <
      (createBrowseCategoryMediaID MEDIA_ID_MUSICS_BY_GENRE genre).length := by
    rw [createBrowseCategoryMediaID, List.length_append, List.length_cons]
    omega
  have hShort : MEDIA_ID_ROOT.length ≤ MEDIA_ID_MUSICS_BY_GENRE.length := by decide +kernel
  have hRoot : createBrowseCategoryMediaID MEDIA_ID_MUSICS_BY_GENRE genre ≠ MEDIA_ID_ROOT := by
    intro hSame
    rw [hSame] at hLength
    omega
  have hLonger : createBrowseCategoryMediaID MEDIA_ID_MUSICS_BY_GENRE genre ≠
      MEDIA_ID_MUSICS_BY_GENRE := by
    intro hSame
    rw [hSame] at hLength
    omega
  have hStarts : JavaString.startsWith (createBrowseCategoryMediaID MEDIA_ID_MUSICS_BY_GENRE genre)
      MEDIA_ID_MUSICS_BY_GENRE = true := by
    unfold JavaString.startsWith createBrowseCategoryMediaID
    rw [List.isPrefixOf_iff_prefix]
    exact List.prefix_append _ _
  unfold loadChildrenImpl
  rw [if_neg hRoot, if_neg hLonger, if_pos hStarts]

/-- Playing a track of a plain genre queues the genre. -/
theorem onPlayFromMediaId_genre (hPlain : Plain genre) {track : MediaMetadata}
    (hTrack : track ∈ provider.getMusicsByGenre genre) {musicId : JavaString}
    (hId : track.mediaId = some musicId) (playing : PlayingQueue) :
    ∃ next queue plays,
      provider.onPlayFromMediaId toLowerCase
        (describe [MEDIA_ID_MUSICS_BY_GENRE, genre] track).mediaId playing = .ok (next, plays) ∧
      next.mPlayingQueue = some queue ∧
      ∃ item ∈ queue,
        item.description.mediaId = (describe [MEDIA_ID_MUSICS_BY_GENRE, genre] track).mediaId := by
  have hQueue : provider.getPlayingQueue toLowerCase
      (describe [MEDIA_ID_MUSICS_BY_GENRE, genre] track).mediaId =
        .ok (some (convertToQueue (provider.getMusicsByGenre genre)
          [MEDIA_ID_MUSICS_BY_GENRE, genre])) := by
    unfold getPlayingQueue describe
    rw [hId, hPlain.getHierarchy_leaf]
    rfl
  obtain ⟨i, hi, hAt⟩ := List.getElem_of_mem hTrack
  have hItem : (⟨describe [MEDIA_ID_MUSICS_BY_GENRE, genre] track, i⟩ : QueueItem) ∈
      convertToQueue (provider.getMusicsByGenre genre) [MEDIA_ID_MUSICS_BY_GENRE, genre] :=
    List.mem_mapIdx.mpr ⟨i, hi, by rw [hAt]⟩
  unfold onPlayFromMediaId
  rw [hQueue]
  cases hItems : convertToQueue (provider.getMusicsByGenre genre)
      [MEDIA_ID_MUSICS_BY_GENRE, genre] with
  | nil =>
      rw [hItems] at hItem
      cases hItem
  | cons first more =>
      rw [hItems] at hItem
      exact ⟨_, first :: more, _, rfl, rfl, _, hItem, rfl⟩

theorem map_track_describe (categories : List JavaString) (tracks : List MediaMetadata) :
    (tracks.map (describe categories)).map MediaDescription.track = tracks := by
  rw [List.map_map]
  exact List.map_id tracks

/-- Browsing and playing agree for a genre exactly when it is neither empty nor has a separator
of media ids in it. -/
theorem browsesAndPlays_iff (hLoaded : provider.Loaded) (hGenre : genre ∈ provider.getGenres) :
    provider.BrowsesAndPlays toLowerCase genre ↔
      genre ≠ [] ∧ CATEGORY_SEPARATOR ∉ genre ∧ LEAF_SEPARATOR ∉ genre := by
  have hReady : provider.isInitialized = true := by simp [isInitialized, hLoaded.ready]
  have hMirrors := hLoaded.indexMirrors
  constructor
  · rintro ⟨listed, hListed, hTracks, -⟩
    obtain ⟨track, hTrack, hOf⟩ := (hMirrors.genres (some genre)).mp (List.mem_map_of_mem hGenre)
    rw [onLoadChildren, if_pos hReady, loadChildrenImpl_genre] at hListed
    cases hSecond : (getHierarchy
      (createBrowseCategoryMediaID MEDIA_ID_MUSICS_BY_GENRE genre))[1]? with
    | none =>
        rw [hSecond] at hListed
        cases hListed
    | some found =>
        -- The tracks of the genre that is read back are listed, so it is this one.
        rw [hSecond] at hListed
        have hItems : (provider.getMusicsByGenre found).map
            (describe [MEDIA_ID_MUSICS_BY_GENRE, found]) = listed := by
          have hMapped := Except.ok.inj (Option.some.inj hListed)
          have hInjective : Function.Injective MediaItem.playable :=
            fun _ _ hSame => MediaItem.playable.inj hSame
          apply List.map_injective_iff.mpr hInjective
          rw [List.map_map]
          exact hMapped
        rw [← hItems, map_track_describe] at hTracks
        have hFound : track ∈ provider.getMusicsByGenre found :=
          hTracks.mem_iff.mpr (List.mem_filter.mpr ⟨hTrack, by simp [hOf]⟩)
        have hSame := (hLoaded.mem_getMusicsByGenre.mp hFound).2
        obtain rfl := Option.some.inj (hOf.symm.trans hSame)
        have hPlain := plain_of_getHierarchy hSecond
        exact ⟨hPlain.nonempty, hPlain.noCategory, hPlain.noLeaf⟩
  · rintro ⟨hSome, hCategory, hLeaf⟩
    have hPlain : Plain genre := ⟨hSome, hCategory, hLeaf⟩
    refine ⟨(provider.getMusicsByGenre genre).map (describe [MEDIA_ID_MUSICS_BY_GENRE, genre]),
      ?_, ?_, ?_⟩
    · rw [onLoadChildren, if_pos hReady, loadChildrenImpl_genre, hPlain.getHierarchy,
        List.map_map]
      rfl
    · rw [map_track_describe]
      exact hMirrors.tracks genre
    · intro description hDescription
      obtain ⟨track, hTrack, rfl⟩ := List.mem_map.mp hDescription
      obtain ⟨musicId, hId⟩ := hLoaded.mediaId (hLoaded.mem_getMusicsByGenre.mp hTrack).1
      refine ⟨onPlayFromMediaId_genre toLowerCase hPlain hTrack hId, ?_⟩
      unfold describe
      rw [hId]
      exact hPlain.extractMusicID musicId

theorem browsesAndPlays_iff_testing :
    (initial.retrieveMedia .null).1.BrowsesAndPlays
        (List.map fun c => if 65 ≤ c ∧ c ≤ 90 then c + 32 else c) (JavaString.literal "Testing") ↔
      JavaString.literal "Testing" ≠ [] ∧ CATEGORY_SEPARATOR ∉ JavaString.literal "Testing" ∧
        LEAF_SEPARATOR ∉ JavaString.literal "Testing" := by
  apply browsesAndPlays_iff
  · exact loaded_retrieveMedia hasIds_initial (by decide +kernel) .null (by decide +kernel)
  · decide +kernel

/-- A catalogue with one track, of the genre R&B/Soul: nothing is listed for it. -/
theorem not_browsesAndPlays_slash :
    let music : JSONTrack := {
      title := some (JavaString.literal "Title")
      album := some (JavaString.literal "Album")
      artist := some (JavaString.literal "Artist")
      genre := some (JavaString.literal "R&B/Soul")
      source := some (JavaString.literal "a.mp3")
      image := some (JavaString.literal "a.jpg")
      trackNumber := some 1
      totalTrackCount := some 1
      duration := some 60 }
    let loaded := (initial.retrieveMedia (.document (some [some music]))).1
    loaded.Loaded ∧ JavaString.literal "R&B/Soul" ∈ loaded.getGenres ∧
      ¬ loaded.BrowsesAndPlays (List.map fun c => if 65 ≤ c ∧ c ≤ 90 then c + 32 else c)
        (JavaString.literal "R&B/Soul") := by
  refine ⟨?_, by decide +kernel, ?_⟩
  · exact loaded_retrieveMedia hasIds_initial (by decide +kernel) _ (by decide +kernel)
  · rintro ⟨listed, hListed, hTracks, -⟩
    have hNothing := hListed.symm.trans
      (by decide +kernel : _ = some (Except.ok ([] : List MediaItem)))
    have hNil : listed.map MediaItem.playable = [] := Except.ok.inj (Option.some.inj hNothing)
    rw [List.map_eq_nil_iff.mp hNil] at hTracks
    revert hTracks
    clear hListed hNothing hNil
    decide +kernel

end Browse

end MusicProvider

end AudioSync.Catalogue
