import AudioSync.Catalogue.Filing

/-! A load of the catalogue that fails. The tracks in front of the malformed entry have already
been put into the map. -/
namespace AudioSync.Catalogue

open KeyedTable

/-- An entry is malformed. -/
def Malformed (entries : List (Option JSONTrack)) : Prop :=
  ∃ entry ∈ entries, entry.bind (buildFromJSON 0 catalogPath) = none

instance (entries : List (Option JSONTrack)) : Decidable (Malformed entries) :=
  inferInstanceAs (Decidable (∃ entry ∈ entries, _ = none))

namespace MusicProvider

/-- The same tracks are visible, under their ids and by genre, up to the order in which a hash map
yields them. -/
structure SameCatalogue (provider other : MusicProvider) : Prop where
  tracks : ∀ musicId, provider.visible musicId = other.visible musicId
  genres : provider.getGenres.Perm other.getGenres
  byGenre : ∀ genre, ((provider.getMusicsByGenre genre).map MediaMetadata.content).Perm
    ((other.getMusicsByGenre genre).map MediaMetadata.content)

/-- A load that fails leaves the tracks as they are, and whatever comes later has the same
catalogue as without it. -/
def FailureHarmless (provider : MusicProvider) (fetched : Fetched) : Prop :=
  let failed := (provider.retrieveMedia fetched).1
  failed.mCurrentState ≠ .initialized →
    (∀ musicId, failed.visible musicId = provider.visible musicId) ∧
    ∀ calls : List CatalogueCall,
      SameCatalogue (calls.foldl call failed) (calls.foldl call provider)

/-- What stands in front of the first malformed entry of a document is already visible: the last
track of each id. -/
def RepeatsVisible (provider : MusicProvider) : Fetched → Prop
  | .document (some entries) => provider.mCurrentState ≠ .initialized → Malformed entries →
      ∀ musicId, ∀ track ∈ (builtTracks entries).reverse.find? (·.mediaId = some musicId),
        provider.visible musicId = some track
  | _ => True

/-- Two providers that a caller cannot tell apart, now or later. -/
structure Alike (provider other : MusicProvider) : Prop extends SameCatalogue provider other where
  filed : WellFiled provider
  filed' : WellFiled other
  state : provider.mCurrentState = other.mCurrentState

section Alike

variable {provider other : MusicProvider} {musicId : JavaString}

/-- Whether a document is taken depends on its entries only. -/
theorem putTracks_snd (entries : List (Option JSONTrack)) (provider : MusicProvider) :
    (provider.putTracks entries).2 = true ↔ ¬ Malformed entries := by
  induction entries generalizing provider with
  | nil => exact iff_of_true rfl fun hMalformed => absurd hMalformed.choose_spec.1 (by simp)
  | cons entry entries ih =>
      cases hEntry : entry.bind (buildFromJSON 0 catalogPath) with
      | none =>
          rw [putTracks_malformed entries hEntry]
          exact iff_of_false Bool.false_ne_true
            (not_not_intro ⟨entry, List.mem_cons_self, hEntry⟩)
      | some track =>
          obtain ⟨trackId, -, hPut⟩ := putTracks_built entries hEntry
          rw [hPut, ih, not_iff_not]
          constructor
          · rintro ⟨bad, hBad, hNone⟩
            exact ⟨bad, List.mem_cons_of_mem entry hBad, hNone⟩
          · rintro ⟨bad, hBad, hNone⟩
            rcases List.mem_cons.mp hBad with rfl | hLater
            · rw [hEntry] at hNone
              cases hNone
            · exact ⟨bad, hLater, hNone⟩

/-- A catalogue that has been loaded stays. -/
theorem retrieveMedia_initialized (hState : provider.mCurrentState = .initialized)
    (fetched : Fetched) : provider.retrieveMedia fetched = (provider, none) := by
  unfold retrieveMedia
  rw [hState]

/-- Without a document the lists are built of the tracks that there are. -/
theorem retrieveMedia_null (hState : provider.mCurrentState = .nonInitialized) :
    provider.retrieveMedia .null = provider.finish := by
  unfold retrieveMedia
  rw [hState]

theorem retrieveMedia_noMusic (hState : provider.mCurrentState = .nonInitialized) :
    provider.retrieveMedia (.document none) = (provider, none) := by
  unfold retrieveMedia
  rw [hState]

/-- A malformed document leaves behind what has been put. -/
theorem retrieveMedia_malformed {entries : List (Option JSONTrack)}
    (hState : provider.mCurrentState = .nonInitialized) (hMalformed : Malformed entries) :
    provider.retrieveMedia (.document (some entries)) = ((provider.putTracks entries).1, none) := by
  unfold retrieveMedia
  rw [hState]
  dsimp only
  split
  · next filled hEq =>
      have hTaken : (provider.putTracks entries).2 = true := by rw [hEq]
      exact absurd hMalformed ((putTracks_snd entries provider).mp hTaken)
  · next filled hEq => rw [hEq]

theorem retrieveMedia_wellFormed {entries : List (Option JSONTrack)}
    (hState : provider.mCurrentState = .nonInitialized) (hWellFormed : ¬ Malformed entries) :
    provider.retrieveMedia (.document (some entries)) = (provider.putTracks entries).1.finish := by
  have hTaken := (putTracks_snd entries provider).mpr hWellFormed
  unfold retrieveMedia
  rw [hState]
  dsimp only
  split
  · next filled hEq => rw [hEq]
  · next filled hEq =>
      rw [hEq] at hTaken
      cases hTaken

/-- The tracks of two providers with the same visible tracks. -/
theorem metadatas_perm (hVisible : ∀ musicId, provider.visible musicId = other.visible musicId) :
    (provider.metadatas.map MediaMetadata.content).Perm
      (other.metadatas.map MediaMetadata.content) := by
  have hValues := values_map_perm (m := provider.mMusicListById) (n := other.mMusicListById)
    (MediaMetadata.content ∘ MutableMediaMetadata.metadata) fun musicId => by
      have hSame := hVisible musicId
      unfold visible getMusic at hSame
      rwa [Option.map_map, Option.map_map] at hSame
  unfold metadatas
  rwa [List.map_map, List.map_map]

/-- The genre of a track belongs to what it holds. -/
theorem map_content_filter (tracks : List MediaMetadata) (genre : JavaString) :
    (tracks.filter fun track => track.genre = some genre).map MediaMetadata.content =
      (tracks.map MediaMetadata.content).filter fun track => track.genre = some genre := by
  rw [List.filter_map]
  rfl

theorem exists_genre_iff (tracks : List MediaMetadata) (genre : JavaString) :
    (∃ track ∈ tracks, track.genre = some genre) ↔
      some genre ∈ (tracks.map MediaMetadata.content).map MediaMetadata.genre := by
  rw [List.map_map, List.mem_map]
  rfl

theorem alike_finish (hFiled : WellFiled provider) (hFiled' : WellFiled other)
    (hVisible : ∀ musicId, provider.visible musicId = other.visible musicId) :
    Alike provider.finish.1 other.finish.1 := by
  have hPerm := metadatas_perm hVisible
  obtain ⟨lists, hFinish, hTracks, hKeys⟩ := finish_eq hFiled
  obtain ⟨lists', hFinish', hTracks', hKeys'⟩ := finish_eq hFiled'
  have hGenres : lists.keys.Perm lists'.keys := by
    apply (List.perm_ext_iff_of_nodup lists.keys_nodup lists'.keys_nodup).mpr
    intro genre
    rw [← AList.mem_keys, ← AList.mem_keys, hKeys, hKeys', exists_genre_iff, exists_genre_iff]
    exact (hPerm.map MediaMetadata.genre).mem_iff
  have hLists (genre : JavaString) : (((lists.lookup genre).getD []).map MediaMetadata.content).Perm
      (((lists'.lookup genre).getD []).map MediaMetadata.content) := by
    rw [hTracks, hTracks', map_content_filter, map_content_filter]
    exact hPerm.filter _
  have hFiled₁ := wellFiled_finish hFiled
  have hFiled₂ := wellFiled_finish hFiled'
  rw [hFinish] at hFiled₁ ⊢
  rw [hFinish'] at hFiled₂ ⊢
  exact ⟨⟨hVisible, hGenres, hLists⟩, hFiled₁, hFiled₂, rfl⟩

/-- No catalogue is listed before it has been loaded. -/
theorem alike_of_not_ready (hFiled : WellFiled provider) (hFiled' : WellFiled other)
    (hVisible : ∀ musicId, provider.visible musicId = other.visible musicId)
    (hState : provider.mCurrentState = other.mCurrentState)
    (hReady : provider.mCurrentState ≠ .initialized) : Alike provider other := by
  have hReady' : other.mCurrentState ≠ .initialized := hState ▸ hReady
  refine ⟨⟨hVisible, ?_, fun genre => ?_⟩, hFiled, hFiled', hState⟩
  · rw [getGenres, getGenres, if_neg hReady, if_neg hReady']
  · rw [getMusicsByGenre, getMusicsByGenre, if_neg hReady, if_neg hReady']

/-- The same load leads to the same catalogue. -/
theorem alike_retrieveMedia (hAlike : Alike provider other) (fetched : Fetched) :
    Alike (provider.retrieveMedia fetched).1 (other.retrieveMedia fetched).1 := by
  have hState' := hAlike.state
  cases hState : provider.mCurrentState with
  | initialized =>
      rw [retrieveMedia_initialized hState, retrieveMedia_initialized (hState' ▸ hState)]
      exact hAlike
  | initializing => exact absurd hState hAlike.filed.settled
  | nonInitialized =>
      rw [hState] at hState'
      match fetched with
      | .null =>
          rw [retrieveMedia_null hState, retrieveMedia_null hState'.symm]
          exact alike_finish hAlike.filed hAlike.filed' hAlike.tracks
      | .document none =>
          rw [retrieveMedia_noMusic hState, retrieveMedia_noMusic hState'.symm]
          exact hAlike
      | .document (some entries) =>
          have hFiled := wellFiled_putTracks entries hAlike.filed
          have hFiled' := wellFiled_putTracks entries hAlike.filed'
          have hVisible : ∀ musicId, (provider.putTracks entries).1.visible musicId =
              (other.putTracks entries).1.visible musicId := by
            intro musicId
            rw [visible_putTracks, visible_putTracks, hAlike.tracks]
          by_cases hMalformed : Malformed entries
          · rw [retrieveMedia_malformed hState hMalformed,
              retrieveMedia_malformed hState'.symm hMalformed]
            apply alike_of_not_ready hFiled hFiled' hVisible
            · rw [putTracks_state, putTracks_state, hAlike.state]
            · rw [putTracks_state, hState]
              exact ProviderState.noConfusion
          · rw [retrieveMedia_wellFormed hState hMalformed,
              retrieveMedia_wellFormed hState'.symm hMalformed]
            exact alike_finish hFiled hFiled' hVisible

/-- Art is put into the same track. -/
theorem alike_updateArt (hAlike : Alike provider other) (trackId : JavaString) :
    Alike (provider.call (.updateArt trackId)) (other.call (.updateArt trackId)) := by
  have hFiled := wellFiled_call hAlike.filed (.updateArt trackId)
  have hFiled' := wellFiled_call hAlike.filed' (.updateArt trackId)
  obtain ⟨byId, objects, hCall, hVisible⟩ := call_updateArt hAlike.filed trackId
  obtain ⟨byId', objects', hCall', hVisible'⟩ := call_updateArt hAlike.filed' trackId
  refine ⟨⟨fun musicId => ?_, ?_, ?_⟩, hFiled, hFiled', ?_⟩
  · rw [hVisible, hVisible', hAlike.tracks]
  · rw [hCall, hCall']
    exact hAlike.genres
  · rw [hCall, hCall']
    exact hAlike.byGenre
  · rw [hCall, hCall']
    exact hAlike.state

theorem alike_calls (calls : List CatalogueCall) (hAlike : Alike provider other) :
    Alike (calls.foldl call provider) (calls.foldl call other) := by
  induction calls generalizing provider other with
  | nil => exact hAlike
  | cons request calls ih =>
      apply ih
      cases request with
      | retrieveMedia fetched => exact alike_retrieveMedia hAlike fetched
      | updateArt trackId => exact alike_updateArt hAlike trackId

end Alike

section Failure

variable {provider : MusicProvider}

/-- What is found in front of what was there makes no difference, if it was there. -/
theorem visible_putTracks_iff (entries : List (Option JSONTrack)) (provider : MusicProvider)
    (musicId : JavaString) :
    (provider.putTracks entries).1.visible musicId = provider.visible musicId ↔
      ∀ track ∈ (builtTracks entries).reverse.find? (·.mediaId = some musicId),
        provider.visible musicId = some track := by
  rw [visible_putTracks]
  cases hFound : (builtTracks entries).reverse.find? (·.mediaId = some musicId) with
  | none => exact iff_of_true rfl fun track hTrack => nomatch hTrack
  | some track =>
      rw [Option.some_or]
      constructor
      · intro hSame other hOther
        cases hOther
        exact hSame.symm
      · exact fun hVisible => (hVisible track rfl).symm

/-- The catalogue is ready when its lists have been built. -/
theorem finish_ready (hFiled : WellFiled provider) :
    provider.finish.1.mCurrentState = .initialized := by
  obtain ⟨lists, hFinish, -⟩ := finish_eq hFiled
  rw [hFinish]

/-- A malformed document is harmless if and only if it only repeats what is visible. -/
theorem failureHarmless_malformed_iff (hFiled : WellFiled provider)
    (hState : provider.mCurrentState = .nonInitialized) {entries : List (Option JSONTrack)}
    (hMalformed : Malformed entries) :
    FailureHarmless provider (.document (some entries)) ↔
      RepeatsVisible provider (.document (some entries)) := by
  have hReady : provider.mCurrentState ≠ .initialized := by
    rw [hState]
    exact ProviderState.noConfusion
  have hFilled := wellFiled_putTracks entries hFiled
  have hState' := putTracks_state entries provider
  unfold FailureHarmless RepeatsVisible
  rw [retrieveMedia_malformed hState hMalformed]
  constructor
  · intro hHarmless _ _ musicId
    have hSame := (hHarmless (hState' ▸ hReady)).1 musicId
    exact (visible_putTracks_iff entries provider musicId).mp hSame
  · intro hRepeats failed _
    have hSame (musicId : JavaString) :=
      (visible_putTracks_iff entries provider musicId).mpr (hRepeats hReady hMalformed musicId)
    have hAlike := alike_of_not_ready hFilled hFiled hSame hState' (hState' ▸ hReady)
    exact ⟨hSame, fun later => (alike_calls later hAlike).toSameCatalogue⟩

/-- A failed load is harmless, in every state of the catalogue, if and only if it only repeats
what is visible. -/
theorem failureHarmless_iff (calls : List CatalogueCall) (fetched : Fetched) :
    FailureHarmless (afterCalls calls) fetched ↔ RepeatsVisible (afterCalls calls) fetched := by
  have hFiled := wellFiled_afterCalls calls
  generalize afterCalls calls = provider at hFiled
  cases hState : provider.mCurrentState with
  | initializing => exact absurd hState hFiled.settled
  | initialized =>
      apply iff_of_true
      · intro hFailed
        rw [retrieveMedia_initialized hState] at hFailed
        exact absurd hState hFailed
      · unfold RepeatsVisible
        split
        · exact fun hReady => absurd hState hReady
        · trivial
  | nonInitialized =>
      match fetched with
      | .null =>
          refine iff_of_true (fun hFailed => absurd ?_ hFailed) trivial
          rw [retrieveMedia_null hState]
          exact finish_ready hFiled
      | .document none =>
          -- Nothing has been put into the map yet.
          refine iff_of_true (fun hFailed => ?_) trivial
          rw [retrieveMedia_noMusic hState] at hFailed ⊢
          have hAlike := alike_of_not_ready hFiled hFiled (fun musicId => rfl) rfl hFailed
          exact ⟨fun musicId => rfl, fun later => (alike_calls later hAlike).toSameCatalogue⟩
      | .document (some entries) =>
          by_cases hMalformed : Malformed entries
          · exact failureHarmless_malformed_iff hFiled hState hMalformed
          · apply iff_of_true
            · intro hFailed
              rw [retrieveMedia_wellFormed hState hMalformed] at hFailed
              exact absurd (finish_ready (wellFiled_putTracks entries hFiled)) hFailed
            · exact fun _ hOther => absurd hOther hMalformed

end Failure

/-- A document with one track and then something else than an object. -/
def halfDocument : Fetched :=
  .document (some [some ⟨some (JavaString.literal "Jazz"), some [], some [], some [],
    some (JavaString.literal "a.mp3"), some [], some 1, some 1, some 100⟩, none])

/-- The track is visible after the failure. -/
theorem not_failureHarmless_halfDocument : ¬ FailureHarmless (afterCalls []) halfDocument := by
  intro hHarmless
  have hState : ((afterCalls []).retrieveMedia halfDocument).1.mCurrentState = .nonInitialized := by
    decide +kernel
  have hVisible := (hHarmless (by rw [hState]; exact ProviderState.noConfusion)).1
    (sourceId (catalogPath ++ JavaString.literal "a.mp3"))
  have hKnown := congrArg Option.isSome hVisible
  revert hKnown
  decide +kernel

end MusicProvider

end AudioSync.Catalogue
