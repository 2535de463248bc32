import AudioSync.Queue.MusicService

/-! The current index of the playing queue. It stays inside of the queue as long as only items
of the queue are asked for. -/
namespace AudioSync.Queue

open Catalogue Transition

/-- A queue with items has one at the current index. -/
def ValidPosition (playing : PlayingQueue) : Prop :=
  ∀ queue, playing.mPlayingQueue = some queue → queue ≠ [] →
    InQueue playing.mCurrentIndexOnQueue queue

namespace MusicService

variable (toLowerCase : JavaString → JavaString)

/-- An id that is to be played is found on the queue that is there, or that is built for it. -/
def AsksForItem (service : MusicService) : Event → Prop
  | .onSkipToQueueItem queueId _ => ∀ queue, service.playing.mPlayingQueue = some queue →
      queue ≠ [] → ∃ item ∈ queue, item.queueId = queueId
  | .onPlayFromMediaId mediaId _ => ∀ queue,
      service.mMusicProvider.getPlayingQueue toLowerCase mediaId = .ok (some queue) →
        queue ≠ [] → ∃ item ∈ queue, item.description.mediaId = mediaId
  | _ => True

section Position

variable {toLowerCase} {service : MusicService} {playing : PlayingQueue} {queue : List QueueItem}

theorem validPosition_some {index : Int} (hSome : queue ≠ []) :
    ValidPosition ⟨some queue, index⟩ ↔ InQueue index queue := by
  constructor
  · intro hValid
    exact hValid queue rfl hSome
  · intro hIn other hOther _
    cases hOther
    exact hIn

/-- A queue without items, and a missing one, have no position to be valid. -/
theorem validPosition_of_noItems (hNone : hasItems playing = false) : ValidPosition playing := by
  intro queue hQueue hSome
  rw [hasItems, hQueue] at hNone
  simp [hSome] at hNone

/-- A queue that is played from its start. -/
theorem validPosition_zero (queue : List QueueItem) : ValidPosition ⟨some queue, 0⟩ := by
  intro other hOther hSome
  cases hOther
  exact ⟨le_refl _, Int.natCast_pos.mpr (List.length_pos_iff.mpr hSome)⟩

theorem validPosition_next (hValid : ValidPosition playing) : ValidPosition (next playing) := by
  intro queue hQueue hSome
  have hBefore : playing.mPlayingQueue = some queue := hQueue
  obtain ⟨hNonneg, hBound⟩ := hValid queue hBefore hSome
  have hLength := List.length_pos_iff.mpr hSome
  unfold next InQueue
  rw [hBefore]
  dsimp only [Option.any_some]
  split_ifs with hWraps
  · omega
  · simp only [decide_eq_true_eq, not_le] at hWraps
    omega

theorem validPosition_previous (hValid : ValidPosition playing) :
    ValidPosition (previous playing) := by
  intro queue hQueue hSome
  have hBefore : playing.mPlayingQueue = some queue := hQueue
  obtain ⟨hNonneg, hBound⟩ := hValid queue hBefore hSome
  unfold previous InQueue
  rw [hBefore]
  dsimp only [Option.isSome_some]
  split_ifs with hWraps
  · omega
  · simp only [Bool.true_and, decide_eq_true_eq, not_lt] at hWraps
    omega

theorem validPosition_searched {search : Search} {draws : Draws}
    (hSearched : service.searched toLowerCase search draws = some playing) :
    ValidPosition playing := by
  unfold searched at hSearched
  split at hSearched
  · cases hSearched
  · cases hSearched
    exact validPosition_of_noItems rfl
  · cases hSearched
    exact validPosition_zero _

/-- What is left of the queue that was there, when a media id is played. -/
theorem onPlayFromMediaId_cases {mediaId : JavaString} {plays : Bool}
    (hPlays : service.mMusicProvider.onPlayFromMediaId toLowerCase mediaId service.playing =
      .ok (playing, plays)) :
    (∃ queue, queue ≠ [] ∧
        service.mMusicProvider.getPlayingQueue toLowerCase mediaId = .ok (some queue) ∧
        playing = ⟨some queue, MusicProvider.getMusicIndexOnQueue queue mediaId⟩) ∨
      (hasItems playing = false ∧ ∀ queue,
        service.mMusicProvider.getPlayingQueue toLowerCase mediaId = .ok (some queue) →
          queue = []) := by
  unfold MusicProvider.onPlayFromMediaId at hPlays
  cases hQueue : service.mMusicProvider.getPlayingQueue toLowerCase mediaId with
  | error exception =>
      rw [hQueue] at hPlays
      cases hPlays
  | ok built =>
      rw [hQueue] at hPlays
      match built with
      | none =>
          cases hPlays
          exact Or.inr ⟨rfl, fun queue hOther => by cases hOther⟩
      | some [] =>
          cases hPlays
          refine Or.inr ⟨rfl, fun queue hOther => ?_⟩
          cases hOther
          rfl
      | some (item :: queue) =>
          cases hPlays
          exact Or.inl ⟨item :: queue, List.cons_ne_nil item queue, rfl, rfl⟩

theorem validPosition_play_iff {mediaId : JavaString} {plays cached : Bool}
    (hPlays : service.mMusicProvider.onPlayFromMediaId toLowerCase mediaId service.playing =
      .ok (playing, plays)) :
    ValidPosition playing ↔
      service.AsksForItem toLowerCase (.onPlayFromMediaId mediaId cached) := by
  rcases onPlayFromMediaId_cases hPlays with ⟨queue, hSome, hQueue, rfl⟩ | ⟨hNone, hEmpty⟩
  · rw [validPosition_some hSome, inQueue_getMusicIndexOnQueue]
    constructor
    · intro hItem other hOther _
      cases hQueue.symm.trans hOther
      exact hItem
    · intro hAsks
      exact hAsks queue hQueue hSome
  · exact iff_of_true (validPosition_of_noItems hNone)
      fun queue hQueue hSome => absurd (hEmpty queue hQueue) hSome

theorem validPosition_skip_iff {queueId : Int} {cached : Bool}
    (hValid : ValidPosition service.playing)
    (hSkips : service.requeue toLowerCase (.onSkipToQueueItem queueId cached) = some playing) :
    ValidPosition playing ↔
      service.AsksForItem toLowerCase (.onSkipToQueueItem queueId cached) := by
  rcases requeue_onSkipToQueueItem_cases hSkips with ⟨rfl, hEmpty⟩ | ⟨queue, hSome, hQueue, rfl⟩
  · exact iff_of_true hValid fun queue hQueue hSome => absurd (hEmpty queue hQueue) hSome
  · rw [validPosition_some hSome, inQueue_getIndexOfQueueId]
    constructor
    · intro hItem other hOther _
      cases hQueue.symm.trans hOther
      exact hItem
    · intro hAsks
      exact hAsks queue hQueue hSome

/-- One event keeps the position valid exactly when it asks for an item. -/
theorem validPosition_requeue_iff {event : Event} (hValid : ValidPosition service.playing)
    (hRequeue : service.requeue toLowerCase event = some playing) :
    ValidPosition playing ↔ service.AsksForItem toLowerCase event := by
  cases event with
  | onSkipToQueueItem queueId cached => exact validPosition_skip_iff hValid hRequeue
  | onPlayFromMediaId mediaId cached =>
      simp only [requeue] at hRequeue
      split at hRequeue
      · cases hRequeue
      · next hPlays =>
          cases hRequeue
          exact validPosition_play_iff hPlays
  | onPlay draws cached =>
      cases hRequeue
      refine iff_of_true ?_ trivial
      split
      · exact hValid
      · exact validPosition_zero _
  | onSkipToNext cached =>
      cases hRequeue
      exact iff_of_true (validPosition_next hValid) trivial
  | onSkipToPrevious cached =>
      cases hRequeue
      exact iff_of_true (validPosition_previous hValid) trivial
  | onPlayFromSearch search draws cached =>
      simp only [requeue] at hRequeue
      split at hRequeue
      · exact iff_of_true (validPosition_searched hRequeue) trivial
      · cases hRequeue
        exact iff_of_true hValid trivial
  | onMusicCatalogReady index draws cached =>
      obtain ⟨search, -, hSearched⟩ := Option.bind_eq_some_iff.mp hRequeue
      exact iff_of_true (validPosition_searched hSearched) trivial
  | onCompletion cached =>
      cases hRequeue
      refine iff_of_true ?_ trivial
      split
      · exact validPosition_next hValid
      · exact hValid
  | onMetadataChanged mediaId cached =>
      refine iff_of_true ?_ trivial
      rcases requeue_onMetadataChanged_cases hRequeue with rfl | ⟨queue, -, hIn, rfl⟩
      · exact hValid
      · intro other hOther _
        cases hOther
        exact hIn
  | updatePlaybackState =>
      cases hRequeue
      exact iff_of_true hValid trivial
  | retrieveMedia fetched =>
      cases hRequeue
      exact iff_of_true hValid trivial
  | fetchEnds index bitmaps =>
      cases hRequeue
      exact iff_of_true hValid trivial

theorem validPosition_step_iff {result : MusicService} {event : Event}
    (hValid : ValidPosition service.playing)
    (hStep : service.step toLowerCase event = some result) :
    ValidPosition result.playing ↔ service.AsksForItem toLowerCase event :=
  validPosition_requeue_iff hValid (step_cases hStep).requeue

end Position

/-- A valid position of a queue with items is playable. -/
theorem isPlayable_of_validPosition {service : MusicService}
    (hValid : ValidPosition service.playing) (hItems : hasItems service.playing = true) :
    service.isPlayable = true := by
  obtain ⟨queue, hQueue, hSome⟩ := (Option.any_eq_true _ _).mp hItems
  rw [isPlayable, hQueue, isIndexPlayable_some]
  exact hValid queue hQueue (by simpa using hSome)

/-- In every history the position is valid in all states, if and only if each id that is to be
played belongs to an item. -/
theorem always_validPosition_iff (events : List Event) :
    Always (step toLowerCase) (fun service => ValidPosition service.playing) initial events ↔
      Meets (step toLowerCase) (AsksForItem toLowerCase) initial events :=
  always_iff_meets (fun _ => True) (fun _ _ _ _ _ => trivial)
    (fun _ _ _ _ hValid hStep => validPosition_step_iff hValid hStep) trivial
    (validPosition_of_noItems rfl) events

/-- A queue is played, and a controller skips to an id behind its end. -/
def skipsBehindEnd : List Event :=
  [.retrieveMedia .null, .onPlayFromMediaId
    (JavaString.literal "__BY_GENRE__/Testing|__local_metronom.mp3") false,
    .onSkipToQueueItem 4 false]

/-- The index is -1 then. -/
theorem not_always_validPosition_behindEnd :
    ¬ Always (step id) (fun service => ValidPosition service.playing) initial skipsBehindEnd := by
  intro hAlways
  have hRuns : (run (step id) initial skipsBehindEnd).isSome = true := by decide +kernel
  have hLeft : (run (step id) initial skipsBehindEnd).all
      (fun service => hasItems service.playing && !service.isPlayable) = true := by decide +kernel
  obtain ⟨service, hRun⟩ := Option.isSome_iff_exists.mp hRuns
  rw [hRun, Option.all_some, Bool.and_eq_true, Bool.not_eq_true'] at hLeft
  have hPlayable := isPlayable_of_validPosition (hAlways.of_run hRun) hLeft.1
  rw [hLeft.2] at hPlayable
  cases hPlayable

end MusicService

end AudioSync.Queue
