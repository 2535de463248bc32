import AudioSync.Basic
import AudioSync.Lib.JavaString
import AudioSync.Lib.KeyedTable

/-! `MusicProvider`, which holds the tracks of the catalogue by their ids and by genre. -/
namespace AudioSync.Catalogue

open KeyedTable

/-- The strings and numbers of a `MediaMetadata` that a track has. Such an object is
immutable; `object` tells those apart that hold the same. -/
structure MediaMetadata where
  object : Nat
  mediaId : Option JavaString
  source : Option JavaString
  assetFile : Option JavaString
  album : Option JavaString
  artist : Option JavaString
  duration : Int
  genre : Option JavaString
  albumArtUri : Option JavaString
  title : Option JavaString
  trackNumber : Int
  numTracks : Int
  deriving DecidableEq

/-- The metadata of the holder can be replaced without a rebuild of the map it is in. -/
structure MutableMediaMetadata where
  trackId : JavaString
  metadata : MediaMetadata
  deriving DecidableEq

/-- `MusicProvider.State`. -/
inductive ProviderState where
  | nonInitialized
  | initializing
  | initialized
  deriving DecidableEq, Repr

/-- `objects` counts the metadata objects that have been built. A `ConcurrentHashMap` does
not say in which order it yields its values. -/
structure MusicProvider where
  mMusicListByGenre : Table JavaString (List MediaMetadata)
  mMusicListById : Table JavaString MutableMediaMetadata
  mCurrentState : ProviderState
  objects : Nat

/-- An entry of the catalogue, as the accessors of `JSONObject` yield it. `none` is a
`JSONException`. -/
structure JSONTrack where
  title : Option JavaString
  album : Option JavaString
  artist : Option JavaString
  genre : Option JavaString
  source : Option JavaString
  image : Option JavaString
  trackNumber : Option Int
  totalTrackCount : Option Int
  duration : Option Int
  deriving DecidableEq

/-- What `fetchJSONFromUrl` returns. In a document, the array of tracks can be missing and an
entry of it can be something else than an object. -/
inductive Fetched where
  | null
  | document (music : Option (List (Option JSONTrack)))
  deriving DecidableEq

def CATALOG_URL : JavaString :=
  JavaString.literal "http://storage.googleapis.com/automotive-media/music.json"

def LOCAL_PREFIX : JavaString := JavaString.literal "__local_"

/-- The catalogue's URL up to its last slash. -/
def catalogPath : JavaString := CATALOG_URL.rdropWhile (· ≠ '/'.toNat.toUInt16)

/-- Media is stored relative to the catalogue. -/
def resolve (basePath address : JavaString) : JavaString :=
  if JavaString.startsWith address (JavaString.literal "http") then address
  else basePath ++ address

/-- `none` is a `JSONException`. -/
def buildFromJSON (object : Nat) (basePath : JavaString) (json : JSONTrack) :
    Option MediaMetadata := do
  let title ← json.title
  let album ← json.album
  let artist ← json.artist
  let genre ← json.genre
  let source ← json.source
  let iconUrl ← json.image
  let trackNumber ← json.trackNumber
  let totalTrackCount ← json.totalTrackCount
  let duration ← json.duration
  let source := resolve basePath source
  some {
    object := object
    mediaId := some (JavaString.valueOf (JavaString.hashCode source))
    source := some source
    assetFile := none
    album := some album
    artist := some artist
    duration := MachineInt.toSigned 32 (duration * 1000)
    genre := some genre
    albumArtUri := some (resolve basePath iconUrl)
    title := some title
    trackNumber := trackNumber
    numTracks := totalTrackCount }

namespace MusicProvider

/-- A new track, under the media id of its metadata. -/
def put (musicId : JavaString) (metadata : MediaMetadata) (provider : MusicProvider) :
    MusicProvider :=
  { provider with
    mMusicListById := provider.mMusicListById.insert musicId ⟨musicId, metadata⟩
    objects := provider.objects + 1 }

def createLocal (provider : MusicProvider) (file : String) : MusicProvider :=
  let musicId := LOCAL_PREFIX ++ JavaString.literal file
  provider.put musicId {
    object := provider.objects
    mediaId := some musicId
    source := some (JavaString.literal ("https://dl.dropboxusercontent.com/u/58908793/" ++ file))
    assetFile := some (JavaString.literal file)
    album := some (JavaString.literal "Demo")
    artist := some (JavaString.literal "Simon G")
    duration := 304000
    genre := some (JavaString.literal "Testing")
    albumArtUri := some (JavaString.literal
      "https://upload.wikimedia.org/wikipedia/commons/0/02/Metr%C3%B3nomo_digital_Korg_MA-30.jpg")
    title := some (JavaString.literal file)
    trackNumber := 1
    numTracks := 1 }

/-- The constructor, which adds the local tracks. -/
def initial : MusicProvider :=
  ["bis_spaeter.mp3", "background.mp3", "mandelsson.mp3", "metronom.mp3"].foldl createLocal
    ⟨∅, ∅, .nonInitialized, 0⟩

variable (provider : MusicProvider)

/-- The metadata objects of `mMusicListById.values()`. -/
def metadatas : List MediaMetadata :=
  (values provider.mMusicListById).map MutableMediaMetadata.metadata

def getGenres : List JavaString :=
  if provider.mCurrentState = .initialized then provider.mMusicListByGenre.keys else []

def getMusicsByGenre (genre : JavaString) : List MediaMetadata :=
  if provider.mCurrentState = .initialized then (provider.mMusicListByGenre.lookup genre).getD []
  else []

def getMusic (musicId : JavaString) : Option MediaMetadata :=
  (provider.mMusicListById.lookup musicId).map MutableMediaMetadata.metadata

def isInitialized : Bool := provider.mCurrentState = .initialized

/-- One round of the loop of `buildListsByGenre`. A `ConcurrentHashMap` throws when it is
asked for a null key. -/
def addByGenre (lists : Table JavaString (List MediaMetadata)) (metadata : MediaMetadata) :
    Option (Table JavaString (List MediaMetadata)) :=
  metadata.genre.map fun genre => addTo lists genre metadata

/-- `buildListsByGenre`, which throws when a track has no genre. The old lists stay then. -/
def buildListsByGenre : MusicProvider × Option JavaException :=
  match provider.metadatas.foldlM addByGenre ∅ with
  | none => (provider, some .nullPointer)
  | some lists => ({ provider with mMusicListByGenre := lists }, none)

def updateMusic (musicId : JavaString) (metadata : MediaMetadata) :
    MusicProvider × Option JavaException :=
  match provider.mMusicListById.lookup musicId with
  | none => (provider, none)
  | some track =>
      let updated := { provider with
        mMusicListById :=
          provider.mMusicListById.insert musicId { track with metadata := metadata } }
      match track.metadata.genre with
      -- The metadata has been replaced when `equals` is called on null.
      | none => (updated, some .nullPointer)
      | some oldGenre =>
          -- If the genre has changed, the lists by genre have to be built again.
          if metadata.genre = some oldGenre then (updated, none) else updated.buildListsByGenre

/-- The loop over the tracks of a document; `false` when an entry is malformed. -/
def putTracks : List (Option JSONTrack) → MusicProvider → MusicProvider × Bool
  | [], provider => (provider, true)
  | entry :: entries, provider =>
      match entry.bind (buildFromJSON provider.objects catalogPath) with
      | none => (provider, false)
      | some item =>
          match item.mediaId with
          | none => (provider, false)
          | some musicId => putTracks entries (provider.put musicId item)

/-- The lists are built and the catalogue is ready. -/
def finish : MusicProvider × Option JavaException :=
  match provider.buildListsByGenre with
  | (built, none) => ({ built with mCurrentState := .initialized }, none)
  | (built, some exception) => ({ built with mCurrentState := .nonInitialized }, some exception)

/-- `retrieveMedia`. A `JSONException` is caught; whatever goes wrong, the state goes back to
`NON_INITIALIZED`. -/
def retrieveMedia (fetched : Fetched) : MusicProvider × Option JavaException :=
  match provider.mCurrentState with
  | .initialized => (provider, none)
  | .initializing => ({ provider with mCurrentState := .nonInitialized }, none)
  | .nonInitialized =>
      match fetched with
      | .null => provider.finish
      | .document none => (provider, none)
      | .document (some tracks) =>
          match provider.putTracks tracks with
          | (filled, true) => filled.finish
          | (filled, false) => (filled, none)

end MusicProvider

end AudioSync.Catalogue
