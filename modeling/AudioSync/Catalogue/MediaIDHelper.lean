import AudioSync.Basic
import AudioSync.Lib.JavaString

/-! `MediaIDHelper`: media ids with the place in the browser at which a track is found. -/
namespace AudioSync.Catalogue.MediaIDHelper

open JavaString

def MEDIA_ID_ROOT : JavaString := literal "__ROOT__"

def MEDIA_ID_MUSICS_BY_GENRE : JavaString := literal "__BY_GENRE__"

def MEDIA_ID_MUSICS_BY_SEARCH : JavaString := literal "__BY_SEARCH__"

def CATEGORY_SEPARATOR : UInt16 := '/'.toNat.toUInt16

def LEAF_SEPARATOR : UInt16 := '|'.toNat.toUInt16

/-- `<categoryType>/<categoryValue>|<musicUniqueId>`. -/
def createMediaID (musicID : Option JavaString) (categories : List JavaString) : JavaString :=
  let path :=
    match categories with
    | [] => []
    | first :: more => more.foldl (fun sb category => sb ++ CATEGORY_SEPARATOR :: category) first
  match musicID with
  | none => path
  | some musicID => path ++ LEAF_SEPARATOR :: musicID

def createBrowseCategoryMediaID (categoryType categoryValue : JavaString) : JavaString :=
  categoryType ++ CATEGORY_SEPARATOR :: categoryValue

def extractMusicIDFromMediaID (mediaID : JavaString) : Option JavaString :=
  (mediaID.indexOf LEAF_SEPARATOR).map fun pos => mediaID.drop (pos + 1)

def getHierarchy (mediaID : JavaString) : List JavaString :=
  let path :=
    match mediaID.indexOf LEAF_SEPARATOR with
    | some pos => mediaID.take pos
    | none => mediaID
  split path CATEGORY_SEPARATOR

/-- The part of a media id in front of its first leaf separator. -/
def browsePath (mediaID : JavaString) : JavaString := mediaID.takeWhile (· ≠ LEAF_SEPARATOR)

theorem getHierarchy_eq (mediaID : JavaString) :
    getHierarchy mediaID = split (browsePath mediaID) CATEGORY_SEPARATOR :=
  congrArg (split · CATEGORY_SEPARATOR) (take_indexOf mediaID LEAF_SEPARATOR)

section Genre

variable {genre : JavaString}

/-- Neither separator is in the name of the category. -/
theorem not_mem_byGenre :
    CATEGORY_SEPARATOR ∉ MEDIA_ID_MUSICS_BY_GENRE ∧ LEAF_SEPARATOR ∉ MEDIA_ID_MUSICS_BY_GENRE := by
  decide +kernel

/-- Behind a prefix without leaf separators, the browse path goes on. -/
theorem browsePath_append {front : JavaString} (hFront : LEAF_SEPARATOR ∉ front)
    (rest : JavaString) : browsePath (front ++ rest) = front ++ browsePath rest := by
  apply List.takeWhile_append_of_pos
  intro c hc
  simpa using ne_of_mem_of_not_mem hc hFront

theorem browsePath_genre (genre : JavaString) :
    browsePath (createBrowseCategoryMediaID MEDIA_ID_MUSICS_BY_GENRE genre) =
      MEDIA_ID_MUSICS_BY_GENRE ++ CATEGORY_SEPARATOR :: browsePath genre := by
  unfold createBrowseCategoryMediaID
  rw [browsePath_append not_mem_byGenre.2]
  rfl

/-- A genre that is written into an id as it is, and read back from it. -/
structure Plain (genre : JavaString) : Prop where
  nonempty : genre ≠ []
  noCategory : CATEGORY_SEPARATOR ∉ genre
  noLeaf : LEAF_SEPARATOR ∉ genre

theorem Plain.getHierarchy (hPlain : Plain genre) :
    getHierarchy (createBrowseCategoryMediaID MEDIA_ID_MUSICS_BY_GENRE genre) =
      [MEDIA_ID_MUSICS_BY_GENRE, genre] := by
  rw [getHierarchy_eq, browsePath_genre, browsePath, takeWhile_of_not_mem hPlain.noLeaf]
  exact split_two not_mem_byGenre.1 hPlain.noCategory hPlain.nonempty

/-- Only a plain genre is read back from its browse id. -/
theorem plain_of_getHierarchy
    (hSecond : (MediaIDHelper.getHierarchy
      (createBrowseCategoryMediaID MEDIA_ID_MUSICS_BY_GENRE genre))[1]? = some genre) :
    Plain genre := by
  rw [getHierarchy_eq, browsePath_genre] at hSecond
  rcases split_second not_mem_byGenre.1 (browsePath genre) with hNone | hFirst
  · rw [hNone] at hSecond
    cases hSecond
  · have hGenre : (browsePath genre).takeWhile (· ≠ CATEGORY_SEPARATOR) = genre :=
      Option.some.inj (hFirst.symm.trans hSecond)
    refine ⟨?_, fun hMem => ?_, fun hMem => ?_⟩
    · rintro rfl
      have hEnd : (split (MEDIA_ID_MUSICS_BY_GENRE ++ [CATEGORY_SEPARATOR])
        CATEGORY_SEPARATOR)[1]? = none := split_end not_mem_byGenre.1
      exact Option.some_ne_none _ (hSecond.symm.trans hEnd)
    · rw [← hGenre] at hMem
      simpa using List.mem_takeWhile_imp hMem
    · rw [← hGenre] at hMem
      have hPath : LEAF_SEPARATOR ∈ browsePath genre := (List.takeWhile_prefix _).subset hMem
      simpa using List.mem_takeWhile_imp hPath

section Leaf

theorem createMediaID_genre (genre musicID : JavaString) :
    createMediaID (some musicID) [MEDIA_ID_MUSICS_BY_GENRE, genre] =
      createBrowseCategoryMediaID MEDIA_ID_MUSICS_BY_GENRE genre ++ LEAF_SEPARATOR :: musicID := rfl

theorem Plain.not_mem_browseID (hPlain : Plain genre) :
    LEAF_SEPARATOR ∉ createBrowseCategoryMediaID MEDIA_ID_MUSICS_BY_GENRE genre := by
  intro hMem
  rcases List.mem_append.mp hMem with hFront | hBack
  · exact not_mem_byGenre.2 hFront
  · rcases List.mem_cons.mp hBack with hSame | hGenre
    · exact absurd hSame (by decide)
    · exact hPlain.noLeaf hGenre

/-- A track's own id is found again, whatever it is. -/
theorem Plain.extractMusicID (hPlain : Plain genre) (musicID : JavaString) :
    extractMusicIDFromMediaID (createMediaID (some musicID) [MEDIA_ID_MUSICS_BY_GENRE, genre]) =
      some musicID := by
  unfold extractMusicIDFromMediaID
  rw [createMediaID_genre, indexOf_append hPlain.not_mem_browseID, Option.map_some,
    ← List.drop_drop, List.drop_left]
  rfl

/-- The id of a track leads to the place its genre leads to. -/
theorem Plain.getHierarchy_leaf (hPlain : Plain genre) (musicID : JavaString) :
    MediaIDHelper.getHierarchy (createMediaID (some musicID) [MEDIA_ID_MUSICS_BY_GENRE, genre]) =
      [MEDIA_ID_MUSICS_BY_GENRE, genre] := by
  have hPath : browsePath (createMediaID (some musicID) [MEDIA_ID_MUSICS_BY_GENRE, genre]) =
      createBrowseCategoryMediaID MEDIA_ID_MUSICS_BY_GENRE genre := by
    rw [createMediaID_genre]
    exact takeWhile_append hPlain.not_mem_browseID musicID
  rw [getHierarchy_eq, hPath]
  exact split_two not_mem_byGenre.1 hPlain.noCategory hPlain.nonempty

end Leaf

end Genre

end AudioSync.Catalogue.MediaIDHelper
