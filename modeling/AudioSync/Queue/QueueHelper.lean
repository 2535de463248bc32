import AudioSync.Catalogue.Browsing

/-! `QueueHelper`: the queues that are built from the catalogue, and the places of items in
them. -/
namespace AudioSync.Queue

open Catalogue MediaIDHelper MusicProvider

/-- The strings of a voice search that are read from its extras. -/
structure SearchExtras where
  mediaFocus : Option JavaString
  genre : Option JavaString
  artist : Option JavaString
  album : Option JavaString
  title : Option JavaString

/-- `VoiceSearchParams`: what is searched for first. -/
inductive VoiceSearchParams where
  | isAny
  | isGenreFocus (genre : JavaString)
  | isArtistFocus (artist : Option JavaString)
  | isAlbumFocus (album : Option JavaString)
  | isSongFocus (song : Option JavaString)
  | isUnstructured

/-- The choices of the random number generator: which tracks to take, and their order. -/
structure Draws where
  nextBoolean : Nat → Bool
  shuffle : List MediaMetadata → List MediaMetadata
  isShuffle : ∀ tracks, (shuffle tracks).Perm tracks

/-- The type of a content URI of the media store. -/
def entryContentType (kind : String) : JavaString :=
  JavaString.literal ("vnd.android.cursor.item/" ++ kind)

namespace VoiceSearchParams

/-- The constructor, for a query that is not empty. A platform may send the genre as the query
only. -/
def ofExtras (query : JavaString) (extras : SearchExtras) : VoiceSearchParams :=
  if extras.mediaFocus = some (entryContentType "genre") then
    match extras.genre with
    | none => isGenreFocus query
    | some [] => isGenreFocus query
    | some genre => isGenreFocus genre
  else if extras.mediaFocus = some (entryContentType "artist") then isArtistFocus extras.artist
  else if extras.mediaFocus = some (entryContentType "album") then isAlbumFocus extras.album
  else if extras.mediaFocus = some (entryContentType "audio") then isSongFocus extras.title
  else isUnstructured

end VoiceSearchParams

variable (toLowerCase : JavaString → JavaString) (provider : MusicProvider)

/-- `searchMusic` for a string that may be missing. -/
def searchMusicFor (metadataField : MediaMetadata → Option JavaString) :
    Option JavaString → Except JavaException (List MediaMetadata)
  | some query => provider.searchMusic toLowerCase metadataField query
  | none => if provider.isInitialized then .error .nullPointer else .ok []

/-- `getRandomQueue`: some tracks of all genres. -/
def getRandomQueue (draws : Draws) : List QueueItem :=
  let tracks := provider.getGenres.flatMap provider.getMusicsByGenre
  let result := (tracks.zipIdx.filter fun track => draws.nextBoolean track.2).map Prod.fst
  convertToQueue (draws.shuffle result) [MEDIA_ID_MUSICS_BY_SEARCH, JavaString.literal "random"]

/-- The tracks that fit what the search focuses on. Without a focus there are none. -/
def searchFocused : VoiceSearchParams → Except JavaException (List MediaMetadata)
  | .isAlbumFocus album => searchMusicFor toLowerCase provider MediaMetadata.album album
  | .isGenreFocus genre => .ok (provider.getMusicsByGenre genre)
  | .isArtistFocus artist => searchMusicFor toLowerCase provider MediaMetadata.artist artist
  | .isSongFocus song => searchMusicFor toLowerCase provider MediaMetadata.title song
  | .isAny => .ok []
  | .isUnstructured => .ok []

/-- `getPlayingQueueFromSearch`. Where nothing fits, the titles are searched for the query. -/
def getPlayingQueueFromSearch (query : Option JavaString) (extras : Option SearchExtras)
    (draws : Draws) : Except JavaException (List QueueItem) :=
  match query with
  | none => .ok (getRandomQueue provider draws)
  | some [] => .ok (getRandomQueue provider draws)
  | some query =>
      match extras with
      | none => .error .nullPointer
      | some extras => do
          let focused ← searchFocused toLowerCase provider (VoiceSearchParams.ofExtras query extras)
          let result ← if focused = [] then provider.searchMusicBySongTitle toLowerCase query
            else .ok focused
          .ok (convertToQueue result [MEDIA_ID_MUSICS_BY_SEARCH, query])

/-- The index of the first item that is looked for, or -1. -/
def placeOf (queue : List QueueItem) (p : QueueItem → Bool) : Int :=
  match queue.findIdx? p with
  | some index => index
  | none => -1

/-- `getMusicIndexOnQueue` for an id in the queue. -/
def getIndexOfQueueId (queue : List QueueItem) (queueId : Int) : Int :=
  placeOf queue fun item => item.queueId = queueId

def isIndexPlayable (index : Int) : Option (List QueueItem) → Bool
  | none => false
  | some queue => 0 ≤ index && index < queue.length

section Places

variable {queue : List QueueItem} {index : Int}

/-- The index lies in the queue. -/
def InQueue (index : Int) (queue : List QueueItem) : Prop := 0 ≤ index ∧ index < queue.length

theorem isIndexPlayable_some : isIndexPlayable index (some queue) = true ↔ InQueue index queue := by
  simp [isIndexPlayable, InQueue]

/-- There is such an item, at the place, or the place is -1. -/
theorem placeOf_cases (queue : List QueueItem) (p : QueueItem → Bool) :
    (InQueue (placeOf queue p) queue ∧ ∃ item ∈ queue, p item = true) ∨
      (placeOf queue p = -1 ∧ ∀ item ∈ queue, p item = false) := by
  unfold placeOf
  cases hFound : queue.findIdx? p with
  | none => exact Or.inr ⟨rfl, List.findIdx?_eq_none_iff.mp hFound⟩
  | some index =>
      obtain ⟨hBound, hHolds, -⟩ := List.findIdx?_eq_some_iff_getElem.mp hFound
      exact Or.inl ⟨⟨Int.natCast_nonneg index, Int.ofNat_lt.mpr hBound⟩, _,
        List.getElem_mem hBound, hHolds⟩

theorem inQueue_placeOf (queue : List QueueItem) (p : QueueItem → Bool) :
    InQueue (placeOf queue p) queue ↔ ∃ item ∈ queue, p item = true := by
  rcases placeOf_cases queue p with ⟨hIn, hItem⟩ | ⟨hPlace, hNone⟩
  · exact iff_of_true hIn hItem
  · apply iff_of_false
    · rw [hPlace]
      rintro ⟨hNonneg, -⟩
      omega
    · rintro ⟨item, hItem, hHolds⟩
      rw [hNone item hItem] at hHolds
      cases hHolds

theorem inQueue_getMusicIndexOnQueue (mediaId : JavaString) :
    InQueue (getMusicIndexOnQueue queue mediaId) queue ↔
      ∃ item ∈ queue, item.description.mediaId = mediaId := by
  have hPlace := inQueue_placeOf queue fun item => item.description.mediaId = mediaId
  simp only [decide_eq_true_eq] at hPlace
  exact hPlace

theorem inQueue_getIndexOfQueueId (queueId : Int) :
    InQueue (getIndexOfQueueId queue queueId) queue ↔ ∃ item ∈ queue, item.queueId = queueId := by
  have hPlace := inQueue_placeOf queue fun item => item.queueId = queueId
  simp only [decide_eq_true_eq] at hPlace
  exact hPlace

/-- An index that is not -1 lies in the queue. -/
theorem inQueue_of_nonneg {mediaId : JavaString}
    (hFound : -1 < getMusicIndexOnQueue queue mediaId) :
    InQueue (getMusicIndexOnQueue queue mediaId) queue := by
  rcases placeOf_cases queue fun item => item.description.mediaId = mediaId with
    ⟨hIn, -⟩ | ⟨hPlace, -⟩
  · exact hIn
  · have hMinus : getMusicIndexOnQueue queue mediaId = -1 := hPlace
    omega

/-- A playable index leads to an item. -/
theorem InQueue.getElem? (h : InQueue index queue) : ∃ item, queue[index.toNat]? = some item := by
  obtain ⟨hNonneg, hBound⟩ := h
  exact ⟨_, List.getElem?_eq_getElem (by omega)⟩

end Places

end AudioSync.Queue
