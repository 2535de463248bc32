import AudioSync.Queue.QueueHelper
import AudioSync.Catalogue.FailedLoad

/-! What a voice search finds, and the extras without which it throws. -/
namespace AudioSync.Queue

open Catalogue MediaIDHelper MusicProvider

/-- A catalogue that has been loaded. -/
structure InitialisedCatalogue where
  calls : List CatalogueCall
  ready : (afterCalls calls).mCurrentState = .initialized

/-- The fields that can be searched for text are there. -/
structure Searchable (track : MediaMetadata) : Prop where
  title : track.title ≠ none
  album : track.album ≠ none
  artist : track.artist ≠ none

def AllSearchable (provider : MusicProvider) : Prop :=
  ∀ musicId, ∀ track ∈ provider.visible musicId, Searchable track

/-- All that is visible can be searched, and is listed by genre when the catalogue is ready. -/
structure Indexed (provider : MusicProvider) : Prop where
  searchable : AllSearchable provider
  byGenre : provider.mCurrentState = .initialized → ∀ genre,
    ((provider.getMusicsByGenre genre).map MediaMetadata.content).Perm
      ((provider.metadatas.filter fun track => track.genre = some genre).map MediaMetadata.content)

section Catalogue

variable {provider : MusicProvider} {track : MediaMetadata}

theorem searchable_put (hAll : AllSearchable provider) (hTrack : Searchable track)
    (musicId : JavaString) : AllSearchable (provider.put musicId track) := by
  intro other found hFound
  rw [visible_put] at hFound
  split_ifs at hFound with hSame
  · cases hFound
    exact ⟨hTrack.title, hTrack.album, hTrack.artist⟩
  · exact hAll other found hFound

/-- A local track has all fields. -/
theorem searchable_createLocal (hAll : AllSearchable provider) (file : String) :
    AllSearchable (provider.createLocal file) :=
  searchable_put hAll ⟨Option.some_ne_none _, Option.some_ne_none _, Option.some_ne_none _⟩ _

theorem searchable_initial : AllSearchable initial := by
  have hLocal (files : List String) (provider : MusicProvider) (hAll : AllSearchable provider) :
      AllSearchable (files.foldl createLocal provider) := by
    induction files generalizing provider with
    | nil => exact hAll
    | cons file files ih => exact ih _ (searchable_createLocal hAll file)
  apply hLocal
  intro musicId track hTrack
  cases hTrack

/-- An entry without one of the fields is malformed. -/
theorem searchable_builtTracks {entries : List (Option JSONTrack)} :
    ∀ track ∈ builtTracks entries, Searchable track := by
  induction entries with
  | nil => exact List.forall_mem_nil _
  | cons entry entries ih =>
      rw [builtTracks]
      cases hEntry : entry.bind (buildFromJSON 0 catalogPath) with
      | none => exact List.forall_mem_nil _
      | some built =>
          refine List.forall_mem_cons.mpr ⟨?_, ih⟩
          obtain ⟨json, rfl, hBuilt⟩ := Option.bind_eq_some_iff.mp hEntry
          simp only [buildFromJSON, bind, Option.bind_eq_some_iff, Option.some.injEq] at hBuilt
          obtain ⟨title, -, album, -, artist, -, genre, -, source, -, iconUrl, -, trackNumber, -,
            totalTrackCount, -, duration, -, rfl⟩ := hBuilt
          exact ⟨Option.some_ne_none _, Option.some_ne_none _, Option.some_ne_none _⟩

theorem searchable_putTracks (hAll : AllSearchable provider) (entries : List (Option JSONTrack)) :
    AllSearchable (provider.putTracks entries).1 := by
  intro musicId track hTrack
  rw [visible_putTracks, Option.mem_def, Option.or_eq_some_iff] at hTrack
  rcases hTrack with hBuilt | ⟨-, hOld⟩
  · exact searchable_builtTracks track
      (List.mem_reverse.mp (List.mem_of_find?_eq_some hBuilt))
  · exact hAll musicId track hOld

/-- The lists that are built hold all tracks. -/
theorem indexed_finish (hFiled : WellFiled provider) (hAll : AllSearchable provider) :
    Indexed provider.finish.1 := by
  obtain ⟨lists, hFinish, hTracks, -⟩ := finish_eq hFiled
  rw [hFinish]
  refine ⟨hAll, fun _ genre => ?_⟩
  have hListed : (lists.lookup genre).getD [] =
      provider.metadatas.filter fun track => track.genre = some genre := hTracks genre
  exact List.Perm.of_eq (congrArg (List.map MediaMetadata.content) hListed)

/-- As long as the catalogue is not ready, nothing has to be listed. -/
theorem indexed_of_not_ready (hAll : AllSearchable provider)
    (hState : provider.mCurrentState = .nonInitialized) : Indexed provider :=
  ⟨hAll, fun hReady => absurd (hState.symm.trans hReady) ProviderState.noConfusion⟩

theorem indexed_retrieveMedia (hFiled : WellFiled provider) (hIndexed : Indexed provider)
    (fetched : Fetched) : Indexed (provider.retrieveMedia fetched).1 := by
  cases hState : provider.mCurrentState with
  | initializing => exact absurd hState hFiled.settled
  | initialized =>
      rw [retrieveMedia_initialized hState]
      exact hIndexed
  | nonInitialized =>
      match fetched with
      | .null =>
          rw [retrieveMedia_null hState]
          exact indexed_finish hFiled hIndexed.searchable
      | .document none =>
          rw [retrieveMedia_noMusic hState]
          exact hIndexed
      | .document (some entries) =>
          have hAll := searchable_putTracks hIndexed.searchable entries
          by_cases hMalformed : Malformed entries
          · rw [retrieveMedia_malformed hState hMalformed]
            apply indexed_of_not_ready hAll
            rw [putTracks_state, hState]
          · rw [retrieveMedia_wellFormed hState hMalformed]
            exact indexed_finish (wellFiled_putTracks entries hFiled) hAll

/-- Art changes neither what is visible nor the lists. -/
theorem indexed_updateArt (hFiled : WellFiled provider) (hIndexed : Indexed provider)
    (trackId : JavaString) : Indexed (provider.call (.updateArt trackId)) := by
  obtain ⟨byId, objects, hCall, hVisible⟩ := call_updateArt hFiled trackId
  constructor
  · intro musicId track hTrack
    rw [hVisible] at hTrack
    exact hIndexed.searchable musicId track hTrack
  · intro hReady genre
    have hPerm := (metadatas_perm hVisible).symm.filter fun track => track.genre = some genre
    rw [← map_content_filter, ← map_content_filter] at hPerm
    rw [hCall] at hReady hPerm ⊢
    exact (hIndexed.byGenre hReady genre).trans hPerm

theorem indexed_afterCalls (calls : List CatalogueCall) : Indexed (afterCalls calls) := by
  have hFrom (start : MusicProvider) (hFiled : WellFiled start) (hIndexed : Indexed start) :
      Indexed (calls.foldl call start) := by
    induction calls generalizing start with
    | nil => exact hIndexed
    | cons request calls ih =>
        apply ih _ (wellFiled_call hFiled request)
        cases request with
        | retrieveMedia fetched => exact indexed_retrieveMedia hFiled hIndexed fetched
        | updateArt trackId => exact indexed_updateArt hFiled hIndexed trackId
  exact hFrom initial wellFiled_initial (indexed_of_not_ready searchable_initial rfl)

theorem searchable_of_mem (hIndexed : Indexed provider) (hTrack : track ∈ provider.metadatas) :
    Searchable track := by
  obtain ⟨musicId, hMusic⟩ := mem_metadatas.mp hTrack
  have hVisible : provider.visible musicId = some track.content := by
    rw [visible, hMusic, Option.map_some]
  have hFields := hIndexed.searchable musicId _ hVisible
  exact ⟨hFields.title, hFields.album, hFields.artist⟩

end Catalogue

variable (toLowerCase : JavaString → JavaString)

/-- A field of the track contains the text, ignoring case. -/
def matchesText (metadataField : MediaMetadata → Option JavaString) (text : Option JavaString)
    (track : MediaMetadata) : Bool :=
  match metadataField track, text with
  | some value, some text => (toLowerCase value).contains (toLowerCase text)
  | _, _ => false

namespace VoiceSearchParams

/-- The track is of the genre, or the field in the focus contains its text. Without a focus, or
without the text, none fits. -/
def fits : VoiceSearchParams → MediaMetadata → Bool
  | isGenreFocus genre, track => track.genre = some genre
  | isArtistFocus artist, track => matchesText toLowerCase MediaMetadata.artist artist track
  | isAlbumFocus album, track => matchesText toLowerCase MediaMetadata.album album track
  | isSongFocus song, track => matchesText toLowerCase MediaMetadata.title song track
  | isAny, _ => false
  | isUnstructured, _ => false

/-- The text that is searched for is there. -/
def HasText : VoiceSearchParams → Prop
  | isArtistFocus artist => artist ≠ none
  | isAlbumFocus album => album ≠ none
  | isSongFocus song => song ≠ none
  | _ => True

end VoiceSearchParams

/-- The tracks that a search is about: those that fit the focus, or else those whose title contains
the query. -/
def wanted (provider : MusicProvider) (query : JavaString) (extras : SearchExtras) :
    List MediaMetadata :=
  let focused := provider.metadatas.filter
    ((VoiceSearchParams.ofExtras query extras).fits toLowerCase)
  if focused = [] then
    provider.metadatas.filter (matchesText toLowerCase MediaMetadata.title (some query))
  else focused

/-- The search answers with a queue, and for a query with the tracks that it is about, up to the
order in which a hash map yields them. -/
def SearchIsTotal (catalogue : InitialisedCatalogue) (query : Option JavaString)
    (extras : SearchExtras) : Prop :=
  ∀ draws, ∃ queue,
    getPlayingQueueFromSearch toLowerCase (afterCalls catalogue.calls) query (some extras) draws =
      .ok queue ∧
    ∀ text, query = some text → text ≠ [] →
      ∃ tracks, queue = convertToQueue tracks [MEDIA_ID_MUSICS_BY_SEARCH, text] ∧
        (tracks.map MediaMetadata.content).Perm
          ((wanted toLowerCase (afterCalls catalogue.calls) text extras).map MediaMetadata.content)

/-- The extra of a focus on an artist, an album or a song is there. A genre can be missing. -/
def FocusGiven (extras : SearchExtras) : Prop :=
  (extras.mediaFocus = some (entryContentType "artist") → extras.artist ≠ none) ∧
  (extras.mediaFocus = some (entryContentType "album") → extras.album ≠ none) ∧
  (extras.mediaFocus = some (entryContentType "audio") → extras.title ≠ none)

section Search

variable {toLowerCase} {provider : MusicProvider}
  {metadataField : MediaMetadata → Option JavaString}

/-- The kinds of a focus differ. -/
theorem hasText_ofExtras (query : JavaString) (extras : SearchExtras) :
    (VoiceSearchParams.ofExtras query extras).HasText ↔ FocusGiven extras := by
  obtain ⟨hGenreArtist, hGenreAlbum, hGenreAudio⟩ :
      entryContentType "genre" ≠ entryContentType "artist" ∧
        entryContentType "genre" ≠ entryContentType "album" ∧
        entryContentType "genre" ≠ entryContentType "audio" := by decide +kernel
  obtain ⟨hArtistAlbum, hArtistAudio, hAlbumAudio⟩ :
      entryContentType "artist" ≠ entryContentType "album" ∧
        entryContentType "artist" ≠ entryContentType "audio" ∧
        entryContentType "album" ≠ entryContentType "audio" := by decide +kernel
  unfold VoiceSearchParams.ofExtras FocusGiven
  split_ifs with hGenre hArtist hAlbum hAudio
  · rw [hGenre]
    split
    · simp [VoiceSearchParams.HasText, hGenreArtist, hGenreAlbum, hGenreAudio]
    · simp [VoiceSearchParams.HasText, hGenreArtist, hGenreAlbum, hGenreAudio]
    · simp [VoiceSearchParams.HasText, hGenreArtist, hGenreAlbum, hGenreAudio]
  · simp [VoiceSearchParams.HasText, hArtist, hArtistAlbum, hArtistAudio]
  · simp [VoiceSearchParams.HasText, hAlbum, hArtistAlbum.symm, hAlbumAudio]
  · simp [VoiceSearchParams.HasText, hAudio, hArtistAudio.symm, hAlbumAudio.symm]
  · simp [VoiceSearchParams.HasText, hArtist, hAlbum, hAudio]

/-- The loop of a search over tracks that have the field. -/
theorem searchLoop_ok {tracks : List MediaMetadata}
    (hFields : ∀ track ∈ tracks, metadataField track ≠ none) (query : JavaString)
    (result : List MediaMetadata) :
    tracks.foldlM
      (fun result track =>
        match metadataField track with
        | none => Except.error JavaException.nullPointer
        | some value =>
            Except.ok (if (toLowerCase value).contains (toLowerCase query) then result ++ [track]
              else result)) result =
      Except.ok (result ++ tracks.filter (matchesText toLowerCase metadataField (some query))) := by
  induction tracks generalizing result with
  | nil =>
      rw [List.filter_nil, List.append_nil]
      rfl
  | cons track tracks ih =>
      obtain ⟨value, hValue⟩ := Option.ne_none_iff_exists'.mp (hFields track List.mem_cons_self)
      have hLater := ih fun other hOther => hFields other (List.mem_cons_of_mem track hOther)
      have hMatches : matchesText toLowerCase metadataField (some query) track =
          (toLowerCase value).contains (toLowerCase query) := by
        unfold matchesText
        rw [hValue]
      rw [List.foldlM_cons, hValue, List.filter_cons, hMatches]
      show List.foldlM _ _ _ = _
      rw [hLater]
      split_ifs
      · rw [List.append_assoc, List.singleton_append]
      · rfl

theorem searchMusic_ok (hReady : provider.mCurrentState = .initialized)
    (hFields : ∀ track ∈ provider.metadatas, metadataField track ≠ none) (query : JavaString) :
    provider.searchMusic toLowerCase metadataField query =
      .ok (provider.metadatas.filter (matchesText toLowerCase metadataField (some query))) := by
  rw [searchMusic, if_pos hReady]
  exact searchLoop_ok hFields query []

theorem searchMusicFor_ok (hReady : provider.mCurrentState = .initialized)
    (hFields : ∀ track ∈ provider.metadatas, metadataField track ≠ none)
    {text : Option JavaString} (hText : text ≠ none) :
    searchMusicFor toLowerCase provider metadataField text =
      .ok (provider.metadatas.filter (matchesText toLowerCase metadataField text)) := by
  obtain ⟨query, rfl⟩ := Option.ne_none_iff_exists'.mp hText
  exact searchMusic_ok hReady hFields query

/-- A search without its text throws. -/
theorem searchFocused_error (hReady : provider.mCurrentState = .initialized)
    {params : VoiceSearchParams} (hMissing : ¬ params.HasText) :
    searchFocused toLowerCase provider params = .error .nullPointer := by
  have hNone (field : MediaMetadata → Option JavaString) :
      searchMusicFor toLowerCase provider field none = .error .nullPointer := by
    have hInitialized : provider.isInitialized = true := decide_eq_true hReady
    rw [searchMusicFor, if_pos hInitialized]
  cases params with
  | isArtistFocus artist =>
      obtain rfl : artist = none := not_not.mp hMissing
      exact hNone MediaMetadata.artist
  | isAlbumFocus album =>
      obtain rfl : album = none := not_not.mp hMissing
      exact hNone MediaMetadata.album
  | isSongFocus song =>
      obtain rfl : song = none := not_not.mp hMissing
      exact hNone MediaMetadata.title
  | isGenreFocus genre => exact absurd trivial hMissing
  | isAny => exact absurd trivial hMissing
  | isUnstructured => exact absurd trivial hMissing

/-- With its text a search finds what fits. -/
theorem searchFocused_ok (hReady : provider.mCurrentState = .initialized)
    (hIndexed : Indexed provider) {params : VoiceSearchParams} (hText : params.HasText) :
    ∃ focused, searchFocused toLowerCase provider params = .ok focused ∧
      (focused.map MediaMetadata.content).Perm
        ((provider.metadatas.filter (params.fits toLowerCase)).map MediaMetadata.content) := by
  have hFields (track : MediaMetadata) (hTrack : track ∈ provider.metadatas) :=
    searchable_of_mem hIndexed hTrack
  have hNothing : ([].map MediaMetadata.content).Perm
      ((provider.metadatas.filter fun _ => false).map MediaMetadata.content) := by
    rw [List.filter_false]
  cases params with
  | isGenreFocus genre => exact ⟨_, rfl, hIndexed.byGenre hReady genre⟩
  | isArtistFocus artist =>
      exact ⟨_, searchMusicFor_ok hReady (fun track h => (hFields track h).artist) hText, .refl _⟩
  | isAlbumFocus album =>
      exact ⟨_, searchMusicFor_ok hReady (fun track h => (hFields track h).album) hText, .refl _⟩
  | isSongFocus song =>
      exact ⟨_, searchMusicFor_ok hReady (fun track h => (hFields track h).title) hText, .refl _⟩
  | isAny => exact ⟨[], rfl, hNothing⟩
  | isUnstructured => exact ⟨[], rfl, hNothing⟩

/-- A query that is not empty is answered as soon as the focus is. -/
theorem search_of_focused (hReady : provider.mCurrentState = .initialized)
    (hIndexed : Indexed provider) {query : JavaString} (hQuery : query ≠ [])
    {extras : SearchExtras} {focused : List MediaMetadata}
    (hFocused : searchFocused toLowerCase provider (VoiceSearchParams.ofExtras query extras) =
      .ok focused) (draws : Draws) :
    getPlayingQueueFromSearch toLowerCase provider (some query) (some extras) draws =
      .ok (convertToQueue
        (if focused = [] then
          provider.metadatas.filter (matchesText toLowerCase MediaMetadata.title (some query))
        else focused) [MEDIA_ID_MUSICS_BY_SEARCH, query]) := by
  have hTitles : provider.searchMusic toLowerCase MediaMetadata.title query =
      .ok (provider.metadatas.filter (matchesText toLowerCase MediaMetadata.title (some query))) :=
    searchMusic_ok hReady (fun track hTrack => (searchable_of_mem hIndexed hTrack).title) query
  obtain ⟨first, rest, rfl⟩ := List.exists_cons_of_ne_nil hQuery
  simp only [getPlayingQueueFromSearch, hFocused, bind, Except.bind]
  split_ifs
  · rw [searchMusicBySongTitle, hTitles]
  · rfl

/-- A query that is not empty is not answered when the focus throws. -/
theorem search_of_error {query : JavaString} (hQuery : query ≠ []) {extras : SearchExtras}
    {exception : JavaException}
    (hFocused : searchFocused toLowerCase provider (VoiceSearchParams.ofExtras query extras) =
      .error exception) (draws : Draws) :
    getPlayingQueueFromSearch toLowerCase provider (some query) (some extras) draws =
      .error exception := by
  obtain ⟨first, rest, rfl⟩ := List.exists_cons_of_ne_nil hQuery
  simp only [getPlayingQueueFromSearch, hFocused, bind, Except.bind]

/-- The tracks of the answer are those that the search is about. -/
theorem perm_wanted {query : JavaString} {extras : SearchExtras} {focused : List MediaMetadata}
    (hFocused : (focused.map MediaMetadata.content).Perm
      ((provider.metadatas.filter ((VoiceSearchParams.ofExtras query extras).fits
        toLowerCase)).map MediaMetadata.content)) :
    ((if focused = [] then
        provider.metadatas.filter (matchesText toLowerCase MediaMetadata.title (some query))
      else focused).map MediaMetadata.content).Perm
        ((wanted toLowerCase provider query extras).map MediaMetadata.content) := by
  have hLengths := hFocused.length_eq
  rw [List.length_map, List.length_map] at hLengths
  have hNone : focused = [] ↔
      provider.metadatas.filter ((VoiceSearchParams.ofExtras query extras).fits toLowerCase) =
        [] := by
    rw [← List.length_eq_zero_iff, ← List.length_eq_zero_iff, hLengths]
  unfold wanted
  dsimp only
  by_cases hEmpty : focused = []
  · rw [if_pos hEmpty, if_pos (hNone.mp hEmpty)]
  · rw [if_neg hEmpty, if_neg fun h => hEmpty (hNone.mpr h)]
    exact hFocused

end Search

/-- For a query, the extra of its focus is there. -/
def ExtrasSuffice (query : Option JavaString) (extras : SearchExtras) : Prop :=
  ∀ text, query = some text → text ≠ [] → FocusGiven extras

/-- A search is total if and only if there is the artist, the album or the title that it focuses
on. Without an extra for the genre the query is taken, without the others a null is searched for. -/
theorem searchIsTotal_iff (catalogue : InitialisedCatalogue) (query : Option JavaString)
    (extras : SearchExtras) :
    SearchIsTotal toLowerCase catalogue query extras ↔ ExtrasSuffice query extras := by
  have hReady := catalogue.ready
  have hIndexed := indexed_afterCalls catalogue.calls
  constructor
  · rintro hTotal text rfl hNonempty
    obtain ⟨queue, hQueue, -⟩ := hTotal ⟨fun _ => false, id, fun _ => .refl _⟩
    by_contra hMissing
    rw [← hasText_ofExtras text] at hMissing
    rw [search_of_error hNonempty (searchFocused_error hReady hMissing)] at hQueue
    cases hQueue
  · intro hSuffices draws
    match query with
    | none => exact ⟨_, rfl, fun text hText => nomatch hText⟩
    | some [] =>
        refine ⟨_, rfl, fun text hText hNonempty => ?_⟩
        cases hText
        exact absurd rfl hNonempty
    | some (first :: rest) =>
        have hNonempty : first :: rest ≠ [] := List.cons_ne_nil first rest
        have hText := (hasText_ofExtras (first :: rest) extras).mpr
          (hSuffices _ rfl hNonempty)
        obtain ⟨focused, hFocused, hPerm⟩ := searchFocused_ok hReady hIndexed hText
        refine ⟨_, search_of_focused hReady hIndexed hNonempty hFocused draws, ?_⟩
        intro text hSame _
        cases hSame
        exact ⟨_, rfl, perm_wanted hPerm⟩

/-- The local tracks only. -/
def localCatalogue : InitialisedCatalogue := ⟨[.retrieveMedia .null], by decide +kernel⟩

/-- A search that focuses on an artist and does not say which. -/
theorem not_searchIsTotal_artist : ¬ SearchIsTotal id localCatalogue
    (some (JavaString.literal "queen"))
    ⟨some (entryContentType "artist"), none, none, none, none⟩ := by
  intro hTotal
  obtain ⟨queue, hQueue, -⟩ := hTotal ⟨fun _ => false, id, fun _ => .refl _⟩
  have hFocused : searchFocused id (afterCalls localCatalogue.calls)
      (VoiceSearchParams.ofExtras (JavaString.literal "queen")
        ⟨some (entryContentType "artist"), none, none, none, none⟩) = .error .nullPointer :=
    searchFocused_error localCatalogue.ready (by
      rw [hasText_ofExtras]
      exact fun hGiven => hGiven.1 rfl rfl)
  rw [search_of_error (by decide) hFocused] at hQueue
  cases hQueue

end AudioSync.Queue
