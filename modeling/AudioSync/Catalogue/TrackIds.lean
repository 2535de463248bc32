import AudioSync.Catalogue.FailedLoad

/-! The ids of tracks: a document's tracks get the hash codes of their sources. -/
namespace AudioSync.Catalogue

open KeyedTable

/-- A well-formed document, whose tracks have different sources. -/
structure TrackDocument where
  entries : List (Option JSONTrack)
  wellFormed : ¬ Malformed entries
  distinct : ((builtTracks entries).map MediaMetadata.source).Nodup

/-- The local demo tracks. -/
def localFiles : List String :=
  ["bis_spaeter.mp3", "background.mp3", "mandelsson.mp3", "metronom.mp3"]

namespace MusicProvider

/-- The track is found under its id with its own source, and its genre lists it once. -/
def Keeps (provider : MusicProvider) (track : MediaMetadata) : Prop :=
  ∀ musicId genre, track.mediaId = some musicId → track.genre = some genre →
    (∃ found, provider.getMusic musicId = some found ∧ found.source = track.source) ∧
    ((provider.getMusicsByGenre genre).filter (·.mediaId = some musicId)).map
      MediaMetadata.content = [track.content]

/-- After the document has been loaded, all of its tracks and the local ones are kept, whatever
was loaded, or failed to be, before. -/
def LosesNone (document : TrackDocument) : Prop :=
  ∀ calls, (afterCalls calls).mCurrentState ≠ .initialized →
    let loaded := ((afterCalls calls).retrieveMedia (.document (some document.entries))).1
    (∀ track ∈ builtTracks document.entries, loaded.Keeps track) ∧
    ∀ file ∈ localFiles, ∀ track ∈ ((⟨∅, ∅, .nonInitialized, 0⟩ : MusicProvider).createLocal
      file).getMusic (LOCAL_PREFIX ++ JavaString.literal file), loaded.Keeps track

/-- The hash codes of the sources differ. -/
def HashesDiffer (document : TrackDocument) : Prop :=
  ((builtTracks document.entries).map fun track =>
    track.source.map JavaString.hashCode).Nodup

section Kept

variable {provider : MusicProvider} {musicId genre : JavaString} {track : MediaMetadata}

theorem mem_values {κ α : Type*} [DecidableEq κ] {m : Table κ α} {v : α} :
    v ∈ values m ↔ ∃ k, m.lookup k = some v := by
  rw [← filterMap_lookup_keys m, List.mem_filterMap]
  constructor
  · rintro ⟨k, -, hLookup⟩
    exact ⟨k, hLookup⟩
  · rintro ⟨k, hLookup⟩
    exact ⟨k, AList.mem_keys.mp (AList.lookup_isSome.mp (by rw [hLookup]; rfl)), hLookup⟩

/-- There is only one track with an id. -/
theorem metadatas_filter_id (hFiled : WellFiled provider)
    (hTrack : provider.getMusic musicId = some track) :
    provider.metadatas.filter (·.mediaId = some musicId) = [track] := by
  obtain ⟨held, hHeld, rfl⟩ := Option.map_eq_some_iff.mp hTrack
  have hOthers : ∀ other ∈ values (provider.mMusicListById.erase musicId),
      ¬ other.metadata.mediaId = some musicId := by
    intro other hOther hSame
    obtain ⟨otherId, hLookup⟩ := mem_values.mp hOther
    by_cases hKey : otherId = musicId
    · rw [hKey, AList.lookup_erase] at hLookup
      cases hLookup
    · rw [AList.lookup_erase_ne hKey] at hLookup
      have hMusic : provider.getMusic otherId = some other.metadata := by
        rw [getMusic, hLookup]
        rfl
      have hOwn := (hFiled.tracks otherId _ hMusic).mediaId
      exact hKey (Option.some.inj (hOwn.symm.trans hSame))
  have hHead (others : List MediaMetadata) : (held.metadata :: others).filter
      (·.mediaId = some musicId) = held.metadata :: others.filter (·.mediaId = some musicId) :=
    List.filter_cons_of_pos (decide_eq_true (hFiled.tracks musicId _ hTrack).mediaId)
  have hNone : ((values (provider.mMusicListById.erase musicId)).map
      MutableMediaMetadata.metadata).filter (·.mediaId = some musicId) = [] := by
    rw [List.filter_eq_nil_iff]
    intro track hMem
    obtain ⟨other, hOther, rfl⟩ := List.mem_map.mp hMem
    exact fun hSame => hOthers other hOther (of_decide_eq_true hSame)
  have hPerm := ((values_perm_of_lookup hHeld).map MutableMediaMetadata.metadata).filter
    (·.mediaId = some musicId)
  rw [List.map_cons, hHead, hNone] at hPerm
  exact List.perm_singleton.mp hPerm

/-- What is visible under an id when the catalogue has been loaded is also listed once. -/
theorem keeps_finish_of_visible (hFiled : WellFiled provider)
    (hVisible : ∀ musicId, track.mediaId = some musicId →
      provider.visible musicId = some track.content) : provider.finish.1.Keeps track := by
  intro musicId genre hId hGenre
  obtain ⟨found, hFound, hContent⟩ := Option.map_eq_some_iff.mp (hVisible musicId hId)
  obtain ⟨lists, hFinish, hTracks, -⟩ := finish_eq hFiled
  have hListed : provider.finish.1.getMusicsByGenre genre =
      provider.metadatas.filter fun track => track.genre = some genre := by
    rw [hFinish, ← hTracks]
    rfl
  have hFoundGenre : found.genre = some genre := by
    have hSame : found.content.genre = track.content.genre := by rw [hContent]
    exact hSame.trans hGenre
  constructor
  · refine ⟨found, ?_, ?_⟩
    · rw [hFinish]
      exact hFound
    · have hSame : found.content.source = track.content.source := by rw [hContent]
      exact hSame
  · rw [hListed, List.filter_comm, metadatas_filter_id hFiled hFound, ← hContent]
    simp [hFoundGenre]

/-- Tracks that are kept have different ids or the same source. -/
theorem source_eq_of_keeps {other : MediaMetadata} (hKeeps : provider.Keeps track)
    (hOther : provider.Keeps other) (hId : track.mediaId = some musicId)
    (hSame : other.mediaId = some musicId) (hGenre : track.genre ≠ none)
    (hGenre' : other.genre ≠ none) : track.source = other.source := by
  obtain ⟨genre, hGenre⟩ := Option.ne_none_iff_exists'.mp hGenre
  obtain ⟨genre', hGenre'⟩ := Option.ne_none_iff_exists'.mp hGenre'
  obtain ⟨found, hFound, hSource⟩ := (hKeeps musicId genre hId hGenre).1
  obtain ⟨found', hFound', hSource'⟩ := (hOther musicId genre' hSame hGenre').1
  cases hFound.symm.trans hFound'
  exact hSource.symm.trans hSource'

end Kept

section Ids

variable {provider : MusicProvider} {musicId : JavaString} {track : MediaMetadata}

/-- A track of a document, with the id that its source gives it. -/
theorem mem_builtTracks {entries : List (Option JSONTrack)} (hMem : track ∈ builtTracks entries) :
    track.content = track ∧ ∃ source genre, track.source = some source ∧
      track.genre = some genre ∧ track.mediaId = some (sourceId source) := by
  induction entries with
  | nil => cases hMem
  | cons entry entries ih =>
      rw [builtTracks] at hMem
      cases hEntry : entry.bind (buildFromJSON 0 catalogPath) with
      | none =>
          rw [hEntry] at hMem
          cases hMem
      | some built =>
          rw [hEntry] at hMem
          rcases List.mem_cons.mp hMem with rfl | hLater
          · have hContent := content_of_built hEntry
            obtain ⟨json, rfl, hBuilt⟩ := Option.bind_eq_some_iff.mp hEntry
            obtain ⟨source, genre, -, -, hId, hSource, hGenre⟩ := buildFromJSON_eq_some hBuilt
            exact ⟨hContent, _, genre, hSource, hGenre, hId⟩
          · exact ih hLater

/-- The ids are equal exactly when the hash codes are. -/
theorem sourceId_inj {source other : JavaString} :
    sourceId source = sourceId other ↔ JavaString.hashCode source = JavaString.hashCode other :=
  JavaString.valueOf_injective.eq_iff

/-- An item of a list that is the only one with its key. -/
theorem find?_eq_some_of_unique {α : Type*} {items : List α} {p : α → Bool} {item : α}
    (hMem : item ∈ items) (hHolds : p item = true)
    (hUnique : ∀ other ∈ items, p other = true → other = item) : items.find? p = some item := by
  cases hFound : items.find? p with
  | none => exact absurd hHolds (List.find?_eq_none.mp hFound item hMem)
  | some other =>
      rw [hUnique other (List.mem_of_find?_eq_some hFound) (List.find?_some hFound)]

/-- The hash codes differ when no two tracks of the document have the same one. -/
theorem hashesDiffer_iff (document : TrackDocument) : HashesDiffer document ↔
    ∀ track ∈ builtTracks document.entries, ∀ other ∈ builtTracks document.entries,
      track.mediaId = other.mediaId → track = other := by
  have hNodup := List.Nodup.of_map MediaMetadata.source document.distinct
  have hSame : ∀ track ∈ builtTracks document.entries, ∀ other ∈ builtTracks document.entries,
      (track.source.map JavaString.hashCode = other.source.map JavaString.hashCode ↔
        track.mediaId = other.mediaId) := by
    intro track hTrack other hOther
    obtain ⟨-, source, genre, hSource, -, hId⟩ := mem_builtTracks hTrack
    obtain ⟨-, source', genre', hSource', -, hId'⟩ := mem_builtTracks hOther
    rw [hSource, hSource', hId, hId', Option.map_some, Option.map_some, Option.some.injEq,
      Option.some.injEq, sourceId_inj]
  rw [HashesDiffer, List.nodup_map_iff_inj_on hNodup]
  constructor
  · intro hInj track hTrack other hOther hId
    exact hInj track hTrack other hOther ((hSame track hTrack other hOther).mpr hId)
  · intro hInj track hTrack other hOther hHash
    exact hInj track hTrack other hOther ((hSame track hTrack other hOther).mp hHash)

/-- The id of a local track is no number. -/
theorem sourceId_ne_local (source file : JavaString) : sourceId source ≠ LOCAL_PREFIX ++ file := by
  intro hSame
  have hPrefix : (95 : UInt16) ∈ LOCAL_PREFIX := by decide +kernel
  have hMem : (95 : UInt16) ∈ sourceId source := by
    rw [hSame]
    exact List.mem_append_left file hPrefix
  have hDigit := JavaString.mem_valueOf hMem
  have hUnderscore : (95 : UInt16).toNat = 95 := rfl
  omega

/-- No load touches a local track. -/
theorem visible_local_putTracks (entries : List (Option JSONTrack)) (provider : MusicProvider)
    (file : JavaString) : (provider.putTracks entries).1.visible (LOCAL_PREFIX ++ file) =
      provider.visible (LOCAL_PREFIX ++ file) := by
  rw [visible_putTracks_iff]
  intro track hFound
  have hMem := List.mem_reverse.mp (List.mem_of_find?_eq_some hFound)
  obtain ⟨-, source, genre, -, -, hId⟩ := mem_builtTracks hMem
  have hOwn : track.mediaId = some (LOCAL_PREFIX ++ file) := of_decide_eq_true (List.find?_some
    (p := fun track : MediaMetadata => decide (track.mediaId = some (LOCAL_PREFIX ++ file))) hFound)
  rw [hId, Option.some.injEq] at hOwn
  exact absurd hOwn (sourceId_ne_local source file)

theorem visible_local_call (hFiled : WellFiled provider) (request : CatalogueCall)
    (file : JavaString) : (provider.call request).visible (LOCAL_PREFIX ++ file) =
      provider.visible (LOCAL_PREFIX ++ file) := by
  cases request with
  | updateArt trackId =>
      obtain ⟨byId, objects, -, hVisible⟩ := call_updateArt hFiled trackId
      exact hVisible _
  | retrieveMedia fetched =>
      obtain ⟨entries, hVisible⟩ := visible_retrieveMedia hFiled fetched
      rw [call, hVisible]
      exact visible_local_putTracks entries provider file

theorem visible_local_afterCalls (calls : List CatalogueCall) (file : JavaString) :
    (afterCalls calls).visible (LOCAL_PREFIX ++ file) = initial.visible (LOCAL_PREFIX ++ file) := by
  have hFrom : ∀ start, WellFiled start → (calls.foldl call start).visible (LOCAL_PREFIX ++ file) =
      start.visible (LOCAL_PREFIX ++ file) := by
    induction calls with
    | nil => exact fun start hStart => rfl
    | cons request calls ih =>
        intro start hStart
        rw [List.foldl_cons, ih _ (wellFiled_call hStart request),
          visible_local_call hStart request]
  exact hFrom initial wellFiled_initial

/-- What a local track holds depends on its file only. -/
theorem visible_createLocal (provider : MusicProvider) (file other : String) :
    (provider.createLocal file).visible (LOCAL_PREFIX ++ JavaString.literal other) =
      if JavaString.literal other = JavaString.literal file then
        ((⟨∅, ∅, .nonInitialized, 0⟩ : MusicProvider).createLocal other).visible
          (LOCAL_PREFIX ++ JavaString.literal other)
      else provider.visible (LOCAL_PREFIX ++ JavaString.literal other) := by
  have hAppend (front : String) : JavaString.literal (front ++ file) =
      JavaString.literal front ++ JavaString.literal file := by simp [JavaString.literal]
  have hAppend' (front : String) : JavaString.literal (front ++ other) =
      JavaString.literal front ++ JavaString.literal other := by simp [JavaString.literal]
  unfold visible createLocal
  rw [getMusic_put, getMusic_put, if_pos rfl]
  simp only [List.append_cancel_left_eq]
  split_ifs with hSame
  · rw [hAppend, hAppend', hSame]
    rfl
  · rfl

theorem visible_createLocals (files : List String) (provider : MusicProvider) (other : String) :
    (files.foldl createLocal provider).visible (LOCAL_PREFIX ++ JavaString.literal other) =
      if JavaString.literal other ∈ files.map JavaString.literal then
        ((⟨∅, ∅, .nonInitialized, 0⟩ : MusicProvider).createLocal other).visible
          (LOCAL_PREFIX ++ JavaString.literal other)
      else provider.visible (LOCAL_PREFIX ++ JavaString.literal other) := by
  induction files generalizing provider with
  | nil => rfl
  | cons file files ih =>
      rw [List.foldl_cons, ih, visible_createLocal provider file other, List.map_cons]
      by_cases hLater : JavaString.literal other ∈ files.map JavaString.literal
      · rw [if_pos hLater, if_pos (List.mem_cons_of_mem _ hLater)]
      · simp only [hLater, List.mem_cons, or_false, if_false]

theorem visible_local_initial {file : String} (hFile : file ∈ localFiles) :
    initial.visible (LOCAL_PREFIX ++ JavaString.literal file) =
      ((⟨∅, ∅, .nonInitialized, 0⟩ : MusicProvider).createLocal file).visible
        (LOCAL_PREFIX ++ JavaString.literal file) := by
  have hInitial : initial = localFiles.foldl createLocal ⟨∅, ∅, .nonInitialized, 0⟩ := rfl
  rw [hInitial, visible_createLocals, if_pos (List.mem_map_of_mem hFile)]

/-- A local track is visible after any load, as it was made. -/
theorem visible_local (calls : List CatalogueCall) (entries : List (Option JSONTrack))
    {file : String} (hFile : file ∈ localFiles)
    (hTrack : track ∈ ((⟨∅, ∅, .nonInitialized, 0⟩ : MusicProvider).createLocal file).getMusic
      (LOCAL_PREFIX ++ JavaString.literal file)) :
    track.mediaId = some (LOCAL_PREFIX ++ JavaString.literal file) ∧
      ((afterCalls calls).putTracks entries).1.visible (LOCAL_PREFIX ++ JavaString.literal file) =
        some track.content := by
  constructor
  · unfold createLocal at hTrack
    rw [getMusic_put, if_pos rfl] at hTrack
    cases hTrack
    rfl
  · rw [visible_local_putTracks, visible_local_afterCalls, visible_local_initial hFile,
      visible, hTrack]
    rfl

end Ids

/-- No track is lost if and only if the hash codes of the document's sources differ. -/
theorem losesNone_iff (document : TrackDocument) :
    LosesNone document ↔ HashesDiffer document := by
  rw [hashesDiffer_iff]
  constructor
  · intro hKept track hTrack other hOther hId
    have hAll := (hKept [] (by decide +kernel)).1
    obtain ⟨-, source, genre, -, hGenre, hOwn⟩ := mem_builtTracks hTrack
    obtain ⟨-, source', genre', -, hGenre', -⟩ := mem_builtTracks hOther
    have hSource := source_eq_of_keeps (hAll track hTrack) (hAll other hOther) hOwn
      (hId.symm.trans hOwn) (by rw [hGenre]; exact Option.some_ne_none genre)
      (by rw [hGenre']; exact Option.some_ne_none genre')
    exact List.inj_on_of_nodup_map document.distinct hTrack hOther hSource
  · intro hInj calls hReady
    have hFiled := wellFiled_afterCalls calls
    have hFilled := wellFiled_putTracks document.entries hFiled
    cases hState : (afterCalls calls).mCurrentState with
    | initialized => exact absurd hState hReady
    | initializing => exact absurd hState hFiled.settled
    | nonInitialized =>
        rw [retrieveMedia_wellFormed hState document.wellFormed]
        constructor
        · intro track hTrack
          apply keeps_finish_of_visible hFilled
          intro musicId hId
          have hFound : (builtTracks document.entries).reverse.find?
              (·.mediaId = some musicId) = some track := by
            apply find?_eq_some_of_unique (List.mem_reverse.mpr hTrack) (decide_eq_true hId)
            intro other hOther hSame
            exact hInj other (List.mem_reverse.mp hOther) track hTrack
              ((of_decide_eq_true hSame).trans hId.symm)
          rw [visible_putTracks, hFound, (mem_builtTracks hTrack).1]
          rfl
        · intro file hFile track hTrack
          apply keeps_finish_of_visible hFilled
          intro musicId hId
          obtain ⟨hOwn, hVisible⟩ := visible_local calls document.entries hFile hTrack
          rw [← Option.some.inj (hOwn.symm.trans hId)]
          exact hVisible

/-- Two tracks whose sources differ and have the same hash code. -/
def collidingDocument : TrackDocument where
  entries := ["Aa", "BB"].map fun source => some ⟨some (JavaString.literal source), some [],
    some [], some (JavaString.literal "Jazz"), some (JavaString.literal source), some [], some 1,
    some 1, some 100⟩
  wellFormed := by decide +kernel
  distinct := by decide +kernel

/-- One of them is lost. -/
theorem not_losesNone_colliding : ¬ LosesNone collidingDocument := by
  intro hKept
  have hAll := (hKept [] (by decide +kernel)).1
  have hPair : ∃ track ∈ builtTracks collidingDocument.entries,
      ∃ other ∈ builtTracks collidingDocument.entries, track.mediaId = other.mediaId ∧
        track.genre ≠ none ∧ other.genre ≠ none ∧ track.source ≠ other.source := by
    decide +kernel
  obtain ⟨track, hTrack, other, hOther, hId, hGenre, hGenre', hSource⟩ := hPair
  obtain ⟨-, source, -, -, -, hOwn⟩ := mem_builtTracks hTrack
  exact hSource (source_eq_of_keeps (hAll track hTrack) (hAll other hOther) hOwn
    (hId.symm.trans hOwn) hGenre hGenre')

end MusicProvider

end AudioSync.Catalogue
