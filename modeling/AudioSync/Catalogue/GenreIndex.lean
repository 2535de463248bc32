import AudioSync.Catalogue.MusicProvider
import AudioSync.Lib.Transition
import Mathlib.Data.Multiset.ZeroCons

/-! The lists by genre hold the metadata objects that were current when they were built,
while `getMusic` yields the ones that are current now. -/
namespace AudioSync.Catalogue

open KeyedTable Transition

/-- The synchronized methods that change the catalogue. -/
inductive ProviderCall where
  | retrieveMedia (fetched : Fetched)
  | updateMusic (musicId : JavaString) (metadata : MediaMetadata)

namespace MusicProvider

/-- A call also has its effect when it throws in the end. -/
def step (provider : MusicProvider) : ProviderCall → Option MusicProvider
  | .retrieveMedia fetched => some (provider.retrieveMedia fetched).1
  | .updateMusic musicId metadata => some (provider.updateMusic musicId metadata).1

/-- What `getMusic` returns for the tracks of the catalogue. -/
def currentMetadata (provider : MusicProvider) : List MediaMetadata :=
  provider.mMusicListById.keys.filterMap provider.getMusic

/-- Each genre has the current metadata objects of its tracks, and the genres are those of
the tracks. -/
structure IndexMirrors (provider : MusicProvider) : Prop where
  tracks : ∀ genre : JavaString, (provider.getMusicsByGenre genre).Perm
    (provider.currentMetadata.filter fun metadata => metadata.genre = some genre)
  genres : ∀ genre : Option JavaString, genre ∈ provider.getGenres.map some ↔
    ∃ metadata ∈ provider.currentMetadata, metadata.genre = genre

def MirrorsCatalogue (provider : MusicProvider) : Prop :=
  provider.mCurrentState = .initialized → provider.IndexMirrors

/-- Once the catalogue is ready, an update of a track comes with the very object the track
has, or with another genre. -/
def KeepsIndex (provider : MusicProvider) : ProviderCall → Prop
  | .retrieveMedia _ => True
  | .updateMusic musicId metadata => provider.mCurrentState = .initialized →
      ∀ current, provider.getMusic musicId = some current →
        metadata = current ∨ (metadata.genre ≠ none ∧ metadata.genre ≠ current.genre)

theorem currentMetadata_eq (provider : MusicProvider) :
    provider.currentMetadata = provider.metadatas := by
  have hKeys := congrArg (List.map MutableMediaMetadata.metadata)
    (filterMap_lookup_keys provider.mMusicListById)
  rw [List.map_filterMap] at hKeys
  exact hKeys

section Build

/-- The loop adds each track to the list of its genre, and it throws when one has none. -/
theorem foldlM_addByGenre {tracks : List MediaMetadata}
    {lists built : Table JavaString (List MediaMetadata)}
    (hBuilt : tracks.foldlM addByGenre lists = some built) :
    (∀ track ∈ tracks, track.genre ≠ none) ∧
      (∀ genre, (built.lookup genre).getD [] =
        (lists.lookup genre).getD [] ++ tracks.filter fun track => track.genre = some genre) ∧
      ∀ genre, genre ∈ built ↔ genre ∈ lists ∨ ∃ track ∈ tracks, track.genre = some genre := by
  induction tracks generalizing lists with
  | nil =>
      cases hBuilt
      simp
  | cons track tracks ih =>
      rw [List.foldlM_cons] at hBuilt
      obtain ⟨added, hAdded, hRest⟩ := Option.bind_eq_some_iff.mp hBuilt
      obtain ⟨genre, hGenre, rfl⟩ := Option.map_eq_some_iff.mp hAdded
      obtain ⟨hSome, hLists, hKeys⟩ := ih hRest
      refine ⟨?_, ?_, ?_⟩
      · intro other hOther
        rcases List.mem_cons.mp hOther with rfl | hLater
        · rw [hGenre]
          exact Option.some_ne_none genre
        · exact hSome other hLater
      · intro other
        rw [hLists other, lookup_addTo, List.append_assoc, List.filter_cons, hGenre]
        by_cases hSame : other = genre
        · subst hSame
          simp
        · simp [hSame, Ne.symm hSame]
      · intro other
        rw [hKeys other, mem_addTo, List.exists_mem_cons_iff, hGenre, Option.some_inj]
        tauto

theorem foldlM_addByGenre_isSome {tracks : List MediaMetadata}
    (hGenres : ∀ track ∈ tracks, track.genre ≠ none)
    (lists : Table JavaString (List MediaMetadata)) :
    ∃ built, tracks.foldlM addByGenre lists = some built := by
  induction tracks generalizing lists with
  | nil => exact ⟨lists, rfl⟩
  | cons track tracks ih =>
      obtain ⟨genre, hGenre⟩ := Option.ne_none_iff_exists'.mp (hGenres track List.mem_cons_self)
      have hRest : ∀ other ∈ tracks, other.genre ≠ none :=
        fun other hOther => hGenres other (List.mem_cons_of_mem _ hOther)
      obtain ⟨built, hBuilt⟩ := ih hRest (addTo lists genre track)
      refine ⟨built, ?_⟩
      rw [List.foldlM_cons, addByGenre, hGenre]
      exact hBuilt

/-- Lists that have just been built mirror the catalogue. -/
theorem indexMirrors_of_built {provider : MusicProvider}
    {lists : Table JavaString (List MediaMetadata)}
    (hReady : provider.mCurrentState = .initialized)
    (hLists : provider.mMusicListByGenre = lists)
    (hBuilt : provider.metadatas.foldlM addByGenre ∅ = some lists) : provider.IndexMirrors := by
  obtain ⟨hSome, hTracks, hKeys⟩ := foldlM_addByGenre hBuilt
  constructor
  · intro genre
    rw [getMusicsByGenre, if_pos hReady, hLists, hTracks, currentMetadata_eq, AList.lookup_empty]
    exact List.Perm.refl _
  · intro genre
    rw [getGenres, if_pos hReady, hLists, currentMetadata_eq]
    cases genre with
    | none =>
        apply iff_of_false
        · simp
        · rintro ⟨track, hTrack, hNone⟩
          exact hSome track hTrack hNone
    | some genre =>
        rw [List.mem_map_of_injective (Option.some_injective _), ← AList.mem_keys, hKeys]
        simp [AList.notMem_empty]

end Build

section Steps

variable {provider : MusicProvider} {musicId : JavaString} {metadata : MediaMetadata}

/-- The same metadata objects with the same lists. -/
theorem IndexMirrors.of_perm {next : MusicProvider} (hMirrors : provider.IndexMirrors)
    (hReady : next.mCurrentState = provider.mCurrentState)
    (hLists : next.mMusicListByGenre = provider.mMusicListByGenre)
    (hTracks : next.metadatas.Perm provider.metadatas) : next.IndexMirrors := by
  constructor
  · intro genre
    have hFiltered := hTracks.filter fun track => track.genre = some genre
    rw [getMusicsByGenre, hReady, hLists, currentMetadata_eq]
    refine (hMirrors.tracks genre).trans ?_
    rw [currentMetadata_eq]
    exact hFiltered.symm
  · intro genre
    rw [getGenres, hReady, hLists, currentMetadata_eq]
    refine (hMirrors.genres genre).trans ?_
    rw [currentMetadata_eq]
    simp only [hTracks.mem_iff]

theorem IndexMirrors.genre_ne_none (hMirrors : provider.IndexMirrors) {track : MediaMetadata}
    (hTrack : track ∈ provider.metadatas) : track.genre ≠ none := by
  intro hNone
  rw [← currentMetadata_eq] at hTrack
  have hGenre := (hMirrors.genres none).mpr ⟨track, hTrack, hNone⟩
  simp at hGenre

/-- The catalogue is ready only when the lists have been built. -/
theorem finish_of_ready {provider : MusicProvider}
    (hReady : provider.finish.1.mCurrentState = .initialized) :
    ∃ lists, provider.metadatas.foldlM addByGenre ∅ = some lists ∧
      provider.finish.1 =
        { provider with mMusicListByGenre := lists, mCurrentState := .initialized } := by
  unfold finish buildListsByGenre at *
  cases hBuilt : provider.metadatas.foldlM addByGenre ∅ with
  | none =>
      rw [hBuilt] at hReady
      cases hReady
  | some lists => exact ⟨lists, rfl, rfl⟩

theorem mirrorsCatalogue_finish (provider : MusicProvider) :
    provider.finish.1.MirrorsCatalogue := by
  intro hReady
  obtain ⟨lists, hBuilt, hFinish⟩ := finish_of_ready hReady
  rw [hFinish]
  exact indexMirrors_of_built rfl rfl hBuilt

@[simp]
theorem putTracks_state (entries : List (Option JSONTrack)) (provider : MusicProvider) :
    (provider.putTracks entries).1.mCurrentState = provider.mCurrentState := by
  induction entries generalizing provider with
  | nil => rfl
  | cons entry entries ih =>
      unfold putTracks
      split
      · rfl
      · split
        · rfl
        · exact ih _

/-- A catalogue that is not ready has nothing to mirror. -/
theorem mirrorsCatalogue_of_not_ready (hState : provider.mCurrentState ≠ .initialized) :
    provider.MirrorsCatalogue := fun hReady => absurd hReady hState

theorem mirrorsCatalogue_retrieveMedia (hMirrors : provider.MirrorsCatalogue)
    (fetched : Fetched) : (provider.retrieveMedia fetched).1.MirrorsCatalogue := by
  unfold retrieveMedia
  cases hState : provider.mCurrentState with
  | initialized => exact hMirrors
  | initializing => exact mirrorsCatalogue_of_not_ready (fun hReady => nomatch hReady)
  | nonInitialized =>
      cases fetched with
      | null => exact mirrorsCatalogue_finish provider
      | document music =>
          cases music with
          | none => exact hMirrors
          | some tracks =>
              dsimp only
              cases hPut : provider.putTracks tracks with
              | mk filled complete =>
                  cases complete with
                  | true => exact mirrorsCatalogue_finish filled
                  | false =>
                      have hFilled : filled.mCurrentState = provider.mCurrentState := by
                        rw [← putTracks_state tracks provider, hPut]
                      apply mirrorsCatalogue_of_not_ready
                      show filled.mCurrentState ≠ .initialized
                      rw [hFilled, hState]
                      exact nofun

/-- The track as an update leaves it, before the lists are looked at. -/
def replaced (musicId : JavaString) (track : MutableMediaMetadata) (metadata : MediaMetadata)
    (provider : MusicProvider) : MusicProvider :=
  { provider with
    mMusicListById :=
      provider.mMusicListById.insert musicId { track with metadata := metadata } }

/-- The metadata of one track, and that of the others. -/
theorem metadatas_replaced {track : MutableMediaMetadata}
    (hTrack : provider.mMusicListById.lookup musicId = some track) (metadata : MediaMetadata) :
    ∃ others, provider.metadatas.Perm (track.metadata :: others) ∧
      (provider.replaced musicId track metadata).metadatas = metadata :: others := by
  refine ⟨(values (provider.mMusicListById.erase musicId)).map MutableMediaMetadata.metadata,
    (values_perm_of_lookup hTrack).map MutableMediaMetadata.metadata, ?_⟩
  unfold metadatas replaced
  rw [values_insert]
  rfl

/-- An update with the same genre leaves the lists alone. -/
theorem indexMirrors_replaced_iff {track : MutableMediaMetadata} (hMirrors : provider.IndexMirrors)
    (hTrack : provider.mMusicListById.lookup musicId = some track)
    (hGenre : metadata.genre = track.metadata.genre) :
    (provider.replaced musicId track metadata).IndexMirrors ↔ metadata = track.metadata := by
  obtain ⟨others, hBefore, hAfter⟩ := metadatas_replaced hTrack metadata
  constructor
  · intro hNext
    have hOld : track.metadata ∈ provider.metadatas := hBefore.mem_iff.mpr List.mem_cons_self
    obtain ⟨genre, hSome⟩ := Option.ne_none_iff_exists'.mp (hMirrors.genre_ne_none hOld)
    have hLeft := hMirrors.tracks genre
    have hRight := hNext.tracks genre
    have hSame : (provider.replaced musicId track metadata).getMusicsByGenre genre =
      provider.getMusicsByGenre genre := rfl
    rw [currentMetadata_eq] at hLeft hRight
    rw [hSame, hAfter, List.filter_cons_of_pos (by simp [hGenre, hSome])] at hRight
    have hFiltered := hBefore.filter fun other => decide (other.genre = some genre)
    rw [List.filter_cons_of_pos (by simp [hSome])] at hFiltered
    have hHeads := (hRight.symm.trans hLeft).trans hFiltered
    rw [← Multiset.coe_eq_coe, ← Multiset.cons_coe, ← Multiset.cons_coe] at hHeads
    exact (Multiset.cons_inj_left _).mp hHeads
  · rintro rfl
    have hPerm : (provider.replaced musicId track track.metadata).metadatas.Perm
        provider.metadatas := by
      rw [hAfter]
      exact hBefore.symm
    exact hMirrors.of_perm rfl rfl hPerm

@[simp]
theorem metadatas_buildListsByGenre (provider : MusicProvider) :
    provider.buildListsByGenre.1.metadatas = provider.metadatas := by
  unfold buildListsByGenre
  split <;> rfl

@[simp]
theorem state_buildListsByGenre (provider : MusicProvider) :
    provider.buildListsByGenre.1.mCurrentState = provider.mCurrentState := by
  unfold buildListsByGenre
  split <;> rfl

/-- When the lists are built again, all that matters is that the new metadata has a genre. -/
theorem indexMirrors_rebuilt_iff {track : MutableMediaMetadata}
    (hReady : provider.mCurrentState = .initialized) (hMirrors : provider.IndexMirrors)
    (hTrack : provider.mMusicListById.lookup musicId = some track) (metadata : MediaMetadata) :
    (provider.replaced musicId track metadata).buildListsByGenre.1.IndexMirrors ↔
      metadata.genre ≠ none := by
  obtain ⟨others, hBefore, hAfter⟩ := metadatas_replaced hTrack metadata
  constructor
  · intro hNext
    apply hNext.genre_ne_none
    rw [metadatas_buildListsByGenre, hAfter]
    exact List.mem_cons_self
  · intro hSome
    have hGenres : ∀ other ∈ (provider.replaced musicId track metadata).metadatas,
        other.genre ≠ none := by
      intro other hOther
      rw [hAfter] at hOther
      rcases List.mem_cons.mp hOther with rfl | hOld
      · exact hSome
      · exact hMirrors.genre_ne_none (hBefore.mem_iff.mpr (List.mem_cons_of_mem _ hOld))
    obtain ⟨lists, hBuilt⟩ := foldlM_addByGenre_isSome hGenres ∅
    unfold buildListsByGenre
    rw [hBuilt]
    exact indexMirrors_of_built hReady rfl hBuilt

theorem updateMusic_known {track : MutableMediaMetadata} {genre : JavaString}
    (hTrack : provider.mMusicListById.lookup musicId = some track)
    (hGenre : track.metadata.genre = some genre) :
    provider.updateMusic musicId metadata =
      if metadata.genre = some genre then (provider.replaced musicId track metadata, none)
      else (provider.replaced musicId track metadata).buildListsByGenre := by
  unfold updateMusic
  rw [hTrack]
  dsimp only
  rw [hGenre]
  rfl

theorem keepsIndex_known_iff {track : MutableMediaMetadata}
    (hReady : provider.mCurrentState = .initialized)
    (hTrack : provider.mMusicListById.lookup musicId = some track) :
    provider.KeepsIndex (.updateMusic musicId metadata) ↔ metadata = track.metadata ∨
      (metadata.genre ≠ none ∧ metadata.genre ≠ track.metadata.genre) := by
  have hKnown : provider.getMusic musicId = some track.metadata := by rw [getMusic, hTrack]; rfl
  constructor
  · intro hKeeps
    exact hKeeps hReady track.metadata hKnown
  · intro hUpdate _ current hCurrent
    obtain rfl := Option.some.inj (hKnown.symm.trans hCurrent)
    exact hUpdate

/-- An update of a known track, once the catalogue is ready. -/
theorem indexMirrors_updateMusic_iff {track : MutableMediaMetadata}
    (hReady : provider.mCurrentState = .initialized) (hMirrors : provider.IndexMirrors)
    (hTrack : provider.mMusicListById.lookup musicId = some track) :
    (provider.updateMusic musicId metadata).1.IndexMirrors ↔
      provider.KeepsIndex (.updateMusic musicId metadata) := by
  obtain ⟨others, hBefore, -⟩ := metadatas_replaced hTrack metadata
  have hOld : track.metadata ∈ provider.metadatas := hBefore.mem_iff.mpr List.mem_cons_self
  obtain ⟨genre, hGenre⟩ := Option.ne_none_iff_exists'.mp (hMirrors.genre_ne_none hOld)
  rw [keepsIndex_known_iff hReady hTrack, updateMusic_known hTrack hGenre, hGenre]
  by_cases hSame : metadata.genre = some genre
  · rw [if_pos hSame, indexMirrors_replaced_iff hMirrors hTrack (hSame.trans hGenre.symm)]
    simp [hSame]
  · rw [if_neg hSame, indexMirrors_rebuilt_iff hReady hMirrors hTrack]
    constructor
    · intro hSome
      exact Or.inr ⟨hSome, hSame⟩
    · rintro (rfl | ⟨hSome, -⟩)
      · exact absurd hGenre hSame
      · exact hSome

@[simp]
theorem state_updateMusic (provider : MusicProvider) (musicId : JavaString)
    (metadata : MediaMetadata) :
    (provider.updateMusic musicId metadata).1.mCurrentState = provider.mCurrentState := by
  unfold updateMusic
  split
  · rfl
  · split
    · rfl
    · dsimp only
      split_ifs
      · rfl
      · exact state_buildListsByGenre _

/-- One call keeps the index exactly when it is no update behind the index's back. -/
theorem mirrorsCatalogue_step_iff {next : MusicProvider} {call : ProviderCall}
    (hMirrors : provider.MirrorsCatalogue) (hStep : provider.step call = some next) :
    next.MirrorsCatalogue ↔ provider.KeepsIndex call := by
  cases call with
  | retrieveMedia fetched =>
      cases hStep
      exact iff_of_true (mirrorsCatalogue_retrieveMedia hMirrors fetched) trivial
  | updateMusic musicId metadata =>
      cases hStep
      by_cases hReady : provider.mCurrentState = .initialized
      · have hNext : (provider.updateMusic musicId metadata).1.mCurrentState = .initialized := by
          rw [state_updateMusic, hReady]
        cases hTrack : provider.mMusicListById.lookup musicId with
        | none =>
            have hUnknown : provider.updateMusic musicId metadata = (provider, none) := by
              unfold updateMusic
              rw [hTrack]
            have hNone : provider.getMusic musicId = none := by rw [getMusic, hTrack]; rfl
            rw [hUnknown]
            refine iff_of_true hMirrors fun _ current hCurrent => ?_
            rw [hNone] at hCurrent
            cases hCurrent
        | some track =>
            rw [← indexMirrors_updateMusic_iff hReady (hMirrors hReady) hTrack]
            exact ⟨fun hIndex => hIndex hNext, fun hIndex _ => hIndex⟩
      · refine iff_of_true (mirrorsCatalogue_of_not_ready ?_) fun hNow => absurd hNow hReady
        rw [state_updateMusic]
        exact hReady

end Steps

/-- The genre index mirrors the catalogue in every state of a history exactly when every
update of a ready catalogue comes with the object the track has or with another genre. -/
theorem always_mirrorsCatalogue_iff (calls : List ProviderCall) :
    Always step MirrorsCatalogue initial calls ↔ Meets step KeepsIndex initial calls :=
  always_iff_meets (fun _ => True) (fun _ _ _ _ _ => trivial)
    (fun _ _ _ _ hMirrors hStep => mirrorsCatalogue_step_iff hMirrors hStep) trivial
    (mirrorsCatalogue_of_not_ready (by decide +kernel)) calls

/-- The album art of a local track has been loaded: the genre still has the object without
it. -/
theorem not_always_mirrorsCatalogue_art :
    ∃ track, initial.getMusic (LOCAL_PREFIX ++ JavaString.literal "metronom.mp3") = some track ∧
      ¬ Always step MirrorsCatalogue initial [.retrieveMedia .null,
        .updateMusic (LOCAL_PREFIX ++ JavaString.literal "metronom.mp3")
          { track with object := 4 }] := by
  have hKnown : (initial.getMusic
      (LOCAL_PREFIX ++ JavaString.literal "metronom.mp3")).isSome := by decide +kernel
  refine ⟨_, (Option.some_get hKnown).symm, ?_⟩
  intro hAlways
  have hTracks := fun hReady =>
    ((hAlways.2 _ rfl).2 _ rfl hReady).tracks (JavaString.literal "Testing")
  clear hAlways
  revert hTracks
  decide +kernel +revert

end MusicProvider

end AudioSync.Catalogue
