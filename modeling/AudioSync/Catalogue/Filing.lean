import AudioSync.Catalogue.Browsing

/-! How tracks are filed: under ids of their own, which are numbers for those of a document and
begin with a prefix for the local ones. -/
namespace AudioSync.Catalogue

open KeyedTable MediaIDHelper

/-- A track can be found again under its id, which can be read back from a media id. -/
structure Filed (musicId : JavaString) (track : MediaMetadata) : Prop where
  mediaId : track.mediaId = some musicId
  genre : track.genre ≠ none
  noLeaf : LEAF_SEPARATOR ∉ musicId

/-- All tracks of the catalogue are filed, the ones listed by genre have ids, and no load is under
way. -/
structure WellFiled (provider : MusicProvider) : Prop where
  tracks : ∀ musicId track, provider.getMusic musicId = some track → Filed musicId track
  listed : ∀ genre, ∀ track ∈ (provider.mMusicListByGenre.lookup genre).getD [],
    track.mediaId ≠ none
  settled : provider.mCurrentState ≠ .initializing

/-- What reaches the provider from the outside: a load of the catalogue, and album art for a track,
which comes with a new metadata object. -/
inductive CatalogueCall where
  | retrieveMedia (fetched : Fetched)
  | updateArt (musicId : JavaString)

section Tracks

variable {object : Nat} {basePath musicId : JavaString} {json : JSONTrack} {track : MediaMetadata}

/-- The id of a track is read back only as a whole, or with a separator in it. -/
theorem extractMusicID_createMediaID {categories : List JavaString} {extracted : JavaString}
    (hExtracted : extractMusicIDFromMediaID (createMediaID (some musicId) categories) =
      some extracted) (hLeaf : LEAF_SEPARATOR ∉ extracted) : extracted = musicId := by
  have hPath : ∃ path, createMediaID (some musicId) categories =
      path ++ LEAF_SEPARATOR :: musicId := by
    unfold createMediaID
    exact ⟨_, rfl⟩
  obtain ⟨path, hPath⟩ := hPath
  have hDrop (front back : JavaString) (hFront : LEAF_SEPARATOR ∉ front) :
      extractMusicIDFromMediaID (front ++ LEAF_SEPARATOR :: back) = some back := by
    rw [extractMusicIDFromMediaID, JavaString.indexOf_append hFront, Option.map_some,
      ← List.drop_drop, List.drop_left]
    rfl
  rw [hPath] at hExtracted
  by_cases hMem : LEAF_SEPARATOR ∈ path
  · -- The first separator is in the category, the last one behind it.
    obtain ⟨front, back, rfl, hFront⟩ := List.eq_append_cons_of_mem hMem
    rw [List.append_assoc, List.cons_append, hDrop _ _ hFront, Option.some.injEq] at hExtracted
    rw [← hExtracted] at hLeaf
    exact absurd (List.mem_append_right back List.mem_cons_self) hLeaf
  · rw [hDrop _ _ hMem, Option.some.injEq] at hExtracted
    exact hExtracted.symm

/-- The id of a track with this source. -/
def sourceId (source : JavaString) : JavaString := JavaString.valueOf (JavaString.hashCode source)

theorem noLeaf_sourceId (source : JavaString) : LEAF_SEPARATOR ∉ sourceId source := by
  intro hMem
  have hLeaf : LEAF_SEPARATOR.toNat = 124 := rfl
  have hDigit := JavaString.mem_valueOf hMem
  omega

/-- A track that is built from a document has the fields of its entry. -/
theorem buildFromJSON_eq_some (hBuilt : buildFromJSON object basePath json = some track) :
    ∃ source genre, json.source = some source ∧ json.genre = some genre ∧
      track.mediaId = some (sourceId (resolve basePath source)) ∧
      track.source = some (resolve basePath source) ∧ track.genre = some genre := by
  simp only [buildFromJSON, bind, Option.bind_eq_some_iff, Option.some.injEq] at hBuilt
  obtain ⟨title, -, album, -, artist, -, genre, hGenre, source, hSource, iconUrl, -, trackNumber, -,
    totalTrackCount, -, duration, -, rfl⟩ := hBuilt
  exact ⟨source, genre, hSource, hGenre, rfl, rfl, rfl⟩

/-- Entries are built or not whatever was built before. -/
theorem buildFromJSON_object (object : Nat) (basePath : JavaString) (json : JSONTrack) :
    buildFromJSON object basePath json =
      (buildFromJSON 0 basePath json).map fun track => { track with object := object } := by
  simp only [buildFromJSON, bind, Option.map_bind, Function.comp_def, Option.map_some]

theorem filed_buildFromJSON (hBuilt : buildFromJSON object basePath json = some track)
    (hId : track.mediaId = some musicId) : Filed musicId track := by
  obtain ⟨source, genre, -, -, hSourceId, -, hGenre⟩ := buildFromJSON_eq_some hBuilt
  rw [hId, Option.some.injEq] at hSourceId
  refine ⟨hId, ?_, ?_⟩
  · rw [hGenre]
    exact Option.some_ne_none genre
  · rw [hSourceId]
    exact noLeaf_sourceId _

/-- What the tracks of a document hold, up to the first malformed entry. -/
def builtTracks : List (Option JSONTrack) → List MediaMetadata
  | [] => []
  | entry :: entries =>
      match entry.bind (buildFromJSON 0 catalogPath) with
      | none => []
      | some item => item :: builtTracks entries

/-- What a metadata object holds, whichever object it is. -/
def MediaMetadata.content (track : MediaMetadata) : MediaMetadata := { track with object := 0 }

end Tracks

namespace MusicProvider

/-- The catalogue after a call, which may have thrown in the end. -/
def call (provider : MusicProvider) : CatalogueCall → MusicProvider
  | .retrieveMedia fetched => (provider.retrieveMedia fetched).1
  | .updateArt musicId =>
      match provider.getMusic musicId with
      | none => provider
      | some track =>
          ({ provider with objects := provider.objects + 1 }.updateMusic musicId
            { track with object := provider.objects }).1

/-- The catalogue after some calls. -/
def afterCalls (calls : List CatalogueCall) : MusicProvider := calls.foldl call initial

section Filing

variable {provider : MusicProvider} {musicId : JavaString} {track : MediaMetadata}

theorem getMusic_put (provider : MusicProvider) (musicId other : JavaString)
    (track : MediaMetadata) :
    (provider.put musicId track).getMusic other =
      if other = musicId then some track else provider.getMusic other := by
  unfold put getMusic
  split_ifs with hSame
  · rw [hSame, AList.lookup_insert]
    rfl
  · rw [AList.lookup_insert_ne hSame]

theorem mem_metadatas :
    track ∈ provider.metadatas ↔ ∃ musicId, provider.getMusic musicId = some track := by
  rw [← currentMetadata_eq, currentMetadata, List.mem_filterMap]
  constructor
  · rintro ⟨musicId, -, hMusic⟩
    exact ⟨musicId, hMusic⟩
  · rintro ⟨musicId, hMusic⟩
    obtain ⟨found, hFound, -⟩ := Option.map_eq_some_iff.mp hMusic
    exact ⟨musicId, AList.mem_keys.mpr (AList.lookup_isSome.mp (by rw [hFound]; rfl)), hMusic⟩

theorem wellFiled_put (hFiled : WellFiled provider) (hTrack : Filed musicId track) :
    WellFiled (provider.put musicId track) where
  tracks other found hFound := by
    rw [getMusic_put] at hFound
    split_ifs at hFound with hSame
    · cases hFound
      rwa [hSame]
    · exact hFiled.tracks other found hFound
  listed := hFiled.listed
  settled := hFiled.settled

theorem wellFiled_createLocal (hFiled : WellFiled provider) (file : String)
    (hFile : LEAF_SEPARATOR ∉ LOCAL_PREFIX ++ JavaString.literal file) :
    WellFiled (provider.createLocal file) :=
  wellFiled_put hFiled ⟨rfl, Option.some_ne_none _, hFile⟩

theorem wellFiled_initial : WellFiled initial := by
  have hNone : WellFiled ⟨∅, ∅, .nonInitialized, 0⟩ :=
    { tracks := fun musicId track hTrack => nomatch hTrack
      listed := fun genre track hTrack => nomatch hTrack
      settled := nofun }
  have hFirst := wellFiled_createLocal hNone "bis_spaeter.mp3" (by decide +kernel)
  have hSecond := wellFiled_createLocal hFirst "background.mp3" (by decide +kernel)
  have hThird := wellFiled_createLocal hSecond "mandelsson.mp3" (by decide +kernel)
  exact wellFiled_createLocal hThird "metronom.mp3" (by decide +kernel)

/-- What is visible under an id. -/
def visible (provider : MusicProvider) (musicId : JavaString) : Option MediaMetadata :=
  (provider.getMusic musicId).map MediaMetadata.content

theorem visible_ne_none_iff :
    provider.visible musicId ≠ none ↔ ∃ track, provider.getMusic musicId = some track := by
  rw [visible, ne_eq, Option.map_eq_none_iff, ← ne_eq, Option.ne_none_iff_exists']

theorem bind_buildFromJSON (entry : Option JSONTrack) (object : Nat) :
    entry.bind (buildFromJSON object catalogPath) =
      (entry.bind (buildFromJSON 0 catalogPath)).map fun track =>
        { track with object := object } := by
  cases entry with
  | none => rfl
  | some json => exact buildFromJSON_object object catalogPath json

/-- A malformed entry ends the loop. -/
theorem putTracks_malformed {entry : Option JSONTrack} (entries : List (Option JSONTrack))
    (hEntry : entry.bind (buildFromJSON 0 catalogPath) = none) :
    provider.putTracks (entry :: entries) = (provider, false) := by
  rw [putTracks, bind_buildFromJSON, hEntry]
  rfl

theorem content_of_built {entry : Option JSONTrack}
    (hEntry : entry.bind (buildFromJSON 0 catalogPath) = some track) : track.content = track := by
  have hContent := bind_buildFromJSON entry 0
  rw [hEntry, Option.map_some, Option.some.injEq] at hContent
  exact hContent.symm

/-- Another entry is put under the id it has. -/
theorem putTracks_built {entry : Option JSONTrack} (entries : List (Option JSONTrack))
    (hEntry : entry.bind (buildFromJSON 0 catalogPath) = some track) :
    ∃ musicId, track.mediaId = some musicId ∧ provider.putTracks (entry :: entries) =
      (provider.put musicId { track with object := provider.objects }).putTracks entries := by
  obtain ⟨json, rfl, hBuilt⟩ := Option.bind_eq_some_iff.mp hEntry
  obtain ⟨source, genre, -, -, hId, -, -⟩ := buildFromJSON_eq_some hBuilt
  refine ⟨_, hId, ?_⟩
  rw [putTracks, bind_buildFromJSON, hEntry, Option.map_some]
  dsimp only
  rw [hId]

theorem visible_put (provider : MusicProvider) (musicId other : JavaString)
    (track : MediaMetadata) : (provider.put musicId track).visible other =
      if other = musicId then some track.content else provider.visible other := by
  unfold visible
  rw [getMusic_put]
  split_ifs
  · rfl
  · rfl

/-- The last entry of an id is visible, or what was visible before. -/
theorem visible_putTracks (entries : List (Option JSONTrack)) (provider : MusicProvider)
    (musicId : JavaString) : (provider.putTracks entries).1.visible musicId =
      ((builtTracks entries).reverse.find? fun track => track.mediaId = some musicId).or
        (provider.visible musicId) := by
  induction entries generalizing provider with
  | nil => rfl
  | cons entry entries ih =>
      cases hEntry : entry.bind (buildFromJSON 0 catalogPath) with
      | none =>
          rw [putTracks_malformed entries hEntry, builtTracks, hEntry]
          rfl
      | some track =>
          obtain ⟨trackId, hId, hPut⟩ := putTracks_built entries hEntry
          have hLast : (if musicId = trackId then
              some ({ track with object := provider.objects } : MediaMetadata).content
              else provider.visible musicId) =
              ([track].find? fun item => item.mediaId = some musicId).or
                (provider.visible musicId) := by
            rw [List.find?_singleton]
            by_cases hSame : musicId = trackId
            · rw [if_pos hSame, if_pos (decide_eq_true (hId.trans (congrArg some hSame.symm)))]
              exact congrArg some (content_of_built hEntry)
            · rw [if_neg hSame, if_neg]
              · rfl
              · intro hEqual
                exact hSame (Option.some.inj (hId.symm.trans (of_decide_eq_true hEqual))).symm
          rw [hPut, ih, builtTracks, hEntry, visible_put, List.reverse_cons, List.find?_append,
            Option.or_assoc, hLast]

theorem wellFiled_putTracks (entries : List (Option JSONTrack)) (hFiled : WellFiled provider) :
    WellFiled (provider.putTracks entries).1 := by
  induction entries generalizing provider with
  | nil => exact hFiled
  | cons entry entries ih =>
      rw [putTracks]
      split
      · exact hFiled
      · next item hItem =>
          obtain ⟨json, -, hBuilt⟩ := Option.bind_eq_some_iff.mp hItem
          split
          · exact hFiled
          · next musicId hId => exact ih (wellFiled_put hFiled (filed_buildFromJSON hBuilt hId))

/-- The lists by genre can be built of filed tracks, and hold them. -/
theorem finish_eq (hFiled : WellFiled provider) : ∃ lists,
    provider.finish = ({ provider with
      mMusicListByGenre := lists
      mCurrentState := .initialized }, none) ∧
    (∀ genre, (lists.lookup genre).getD [] =
      provider.metadatas.filter fun track => track.genre = some genre) ∧
    ∀ genre, genre ∈ lists ↔ ∃ track ∈ provider.metadatas, track.genre = some genre := by
  have hGenres : ∀ track ∈ provider.metadatas, track.genre ≠ none := by
    intro track hTrack
    obtain ⟨musicId, hMusic⟩ := mem_metadatas.mp hTrack
    exact (hFiled.tracks musicId track hMusic).genre
  obtain ⟨lists, hBuilt⟩ := foldlM_addByGenre_isSome hGenres ∅
  obtain ⟨-, hTracks, hKeys⟩ := foldlM_addByGenre hBuilt
  refine ⟨lists, ?_, fun genre => ?_, fun genre => ?_⟩
  · unfold finish buildListsByGenre
    rw [hBuilt]
  · rw [hTracks, AList.lookup_empty, Option.getD_none, List.nil_append]
  · rw [hKeys]
    exact or_iff_right (AList.notMem_empty genre)

theorem wellFiled_finish (hFiled : WellFiled provider) : WellFiled provider.finish.1 := by
  obtain ⟨lists, hFinish, hTracks, -⟩ := finish_eq hFiled
  rw [hFinish]
  refine ⟨hFiled.tracks, fun genre track hTrack => ?_, nofun⟩
  have hMem : track ∈ (lists.lookup genre).getD [] := hTrack
  rw [hTracks] at hMem
  obtain ⟨musicId, hMusic⟩ := mem_metadatas.mp (List.mem_filter.mp hMem).1
  rw [(hFiled.tracks musicId track hMusic).mediaId]
  exact Option.some_ne_none musicId

theorem visible_finish (hFiled : WellFiled provider) (musicId : JavaString) :
    provider.finish.1.visible musicId = provider.visible musicId := by
  obtain ⟨lists, hFinish, -⟩ := finish_eq hFiled
  rw [hFinish]
  rfl

/-- Whatever has been fetched, tracks may be put into the map, and the lists may be built then. -/
theorem retrieveMedia_cases (hSettled : provider.mCurrentState ≠ .initializing)
    (fetched : Fetched) :
    ∃ entries, provider.retrieveMedia fetched = ((provider.putTracks entries).1, none) ∨
      provider.retrieveMedia fetched = (provider.putTracks entries).1.finish := by
  unfold retrieveMedia
  cases hState : provider.mCurrentState with
  | initializing => exact absurd hState hSettled
  | initialized => exact ⟨[], Or.inl rfl⟩
  | nonInitialized =>
      match fetched with
      | .null => exact ⟨[], Or.inr rfl⟩
      | .document none => exact ⟨[], Or.inl rfl⟩
      | .document (some entries) =>
          refine ⟨entries, ?_⟩
          dsimp only
          split
          · next filled hPut =>
              rw [hPut]
              exact Or.inr rfl
          · next filled hPut =>
              rw [hPut]
              exact Or.inl rfl

theorem wellFiled_retrieveMedia (hFiled : WellFiled provider) (fetched : Fetched) :
    WellFiled (provider.retrieveMedia fetched).1 := by
  obtain ⟨entries, hEq | hEq⟩ := retrieveMedia_cases hFiled.settled fetched
  · rw [hEq]
    exact wellFiled_putTracks entries hFiled
  · rw [hEq]
    exact wellFiled_finish (wellFiled_putTracks entries hFiled)

/-- A load changes what is visible only by the tracks that it puts into the map. -/
theorem visible_retrieveMedia (hFiled : WellFiled provider) (fetched : Fetched) :
    ∃ entries, ∀ musicId, (provider.retrieveMedia fetched).1.visible musicId =
      (provider.putTracks entries).1.visible musicId := by
  obtain ⟨entries, hEq | hEq⟩ := retrieveMedia_cases hFiled.settled fetched
  · exact ⟨entries, fun musicId => by rw [hEq]⟩
  · refine ⟨entries, fun musicId => ?_⟩
    rw [hEq, visible_finish (wellFiled_putTracks entries hFiled)]

/-- An update with a new object that holds the same only replaces it. -/
theorem updateMusic_art (hFiled : WellFiled provider)
    (hTrack : provider.getMusic musicId = some track) :
    ∃ held, ({ provider with objects := provider.objects + 1 } : MusicProvider).updateMusic musicId
        { track with object := provider.objects } =
      (({ provider with objects := provider.objects + 1 } : MusicProvider).replaced musicId held
        { track with object := provider.objects }, none) := by
  obtain ⟨held, hHeld, rfl⟩ := Option.map_eq_some_iff.mp hTrack
  obtain ⟨genre, hGenre⟩ :=
    Option.ne_none_iff_exists'.mp (hFiled.tracks musicId held.metadata hTrack).genre
  have hKnown : ({ provider with objects := provider.objects + 1 } :
    MusicProvider).mMusicListById.lookup musicId = some held := hHeld
  refine ⟨held, ?_⟩
  rw [updateMusic_known hKnown hGenre, if_pos hGenre]

theorem getMusic_replaced (held : MutableMediaMetadata) (metadata : MediaMetadata)
    (other : JavaString) : (provider.replaced musicId held metadata).getMusic other =
      if other = musicId then some metadata else provider.getMusic other := by
  unfold replaced getMusic
  split_ifs with hSame
  · rw [hSame, AList.lookup_insert]
    rfl
  · rw [AList.lookup_insert_ne hSame]

theorem wellFiled_replaced (hFiled : WellFiled provider) (hTrack : Filed musicId track)
    (held : MutableMediaMetadata) : WellFiled (provider.replaced musicId held track) where
  tracks other found hFound := by
    rw [getMusic_replaced] at hFound
    split_ifs at hFound with hSame
    · cases hFound
      rwa [hSame]
    · exact hFiled.tracks other found hFound
  listed := hFiled.listed
  settled := hFiled.settled

/-- No track is removed. -/
theorem known_retrieveMedia (hFiled : WellFiled provider) (fetched : Fetched)
    (hKnown : provider.visible musicId ≠ none) :
    (provider.retrieveMedia fetched).1.visible musicId ≠ none := by
  obtain ⟨entries, hVisible⟩ := visible_retrieveMedia hFiled fetched
  rw [hVisible, visible_putTracks]
  intro hNone
  exact hKnown (Option.or_eq_none_iff.mp hNone).2

/-- Art changes nothing but the object. -/
theorem call_updateArt (hFiled : WellFiled provider) (trackId : JavaString) :
    ∃ byId objects, provider.call (.updateArt trackId) =
        { provider with mMusicListById := byId, objects := objects } ∧
      ∀ musicId,
        (provider.call (.updateArt trackId)).visible musicId = provider.visible musicId := by
  rw [call]
  cases hTrack : provider.getMusic trackId with
  | none => exact ⟨_, _, rfl, fun musicId => rfl⟩
  | some track =>
      obtain ⟨held, hUpdate⟩ := updateMusic_art hFiled hTrack
      dsimp only
      rw [hUpdate]
      refine ⟨_, _, rfl, fun musicId => ?_⟩
      rw [visible, getMusic_replaced]
      split_ifs with hSame
      · rw [hSame, visible, hTrack]
        rfl
      · rfl

theorem known_call (hFiled : WellFiled provider) (request : CatalogueCall)
    (hKnown : provider.visible musicId ≠ none) :
    (provider.call request).visible musicId ≠ none := by
  cases request with
  | retrieveMedia fetched => exact known_retrieveMedia hFiled fetched hKnown
  | updateArt trackId =>
      obtain ⟨byId, objects, -, hVisible⟩ := call_updateArt hFiled trackId
      rwa [hVisible]

theorem wellFiled_call (hFiled : WellFiled provider) (request : CatalogueCall) :
    WellFiled (provider.call request) := by
  cases request with
  | retrieveMedia fetched => exact wellFiled_retrieveMedia hFiled fetched
  | updateArt musicId =>
      rw [call]
      split
      · exact hFiled
      · next track hTrack =>
          obtain ⟨held, hUpdate⟩ := updateMusic_art hFiled hTrack
          have hOld := hFiled.tracks musicId track hTrack
          have hCopy : Filed musicId { track with object := provider.objects } :=
            ⟨hOld.mediaId, hOld.genre, hOld.noLeaf⟩
          have hBuilt : WellFiled { provider with objects := provider.objects + 1 } :=
            ⟨hFiled.tracks, hFiled.listed, hFiled.settled⟩
          rw [hUpdate]
          exact wellFiled_replaced hBuilt hCopy held

theorem wellFiled_afterCalls (calls : List CatalogueCall) : WellFiled (afterCalls calls) := by
  have hFrom : ∀ start, WellFiled start → WellFiled (calls.foldl call start) := by
    induction calls with
    | nil => exact fun start hStart => hStart
    | cons request calls ih => exact fun start hStart => ih _ (wellFiled_call hStart request)
  exact hFrom initial wellFiled_initial

end Filing

end MusicProvider

end AudioSync.Catalogue
