import AudioSync.Lib.Transition

/-! A first-in first-out queue between one writer and one reader. The calls of the two overlap
freely. A call takes effect when it returns, and it need not see what the other side did since it
began: a writer is sure only of the room there was, a reader of the elements there were. -/

/-- The queue, with the calls that are under way. -/
structure SharedQueue (α : Type*) where
  contents : List α
  /-- The block that is offered, and how much the queue held when the call began. -/
  offered : Option (List α × Nat)
  /-- How many elements are asked for, and how many there were when the call began. -/
  asked : Option (Nat × Nat)

namespace SharedQueue

open Transition

variable {α : Type*}

def empty : SharedQueue α := ⟨[], none, none⟩

/-- Calls and their answers. A call to look answers what a call to take would. -/
inductive Event (α : Type*)
  | offer (block : List α)
  | accept (block : List α)
  | ask (count : Nat)
  | give (block : List α)
  | show (block : List α)
deriving DecidableEq

/-- An answer of the writer's side: the first part of what was offered, and all that there was
room for from the beginning. -/
def Accepts (capacity fill : Nat) (offered accepted : List α) : Prop :=
  accepted <+: offered ∧ min (capacity - fill) offered.length ≤ accepted.length

/-- An answer of the reader's side: the first elements, and all that were there from the
beginning, up to the number asked for. -/
def Gives (count fill : Nat) (contents given : List α) : Prop :=
  given <+: contents ∧ given.length ≤ count ∧ min fill count ≤ given.length

section Step

variable [DecidableEq α]

instance (capacity fill : Nat) (offered accepted : List α) :
    Decidable (Accepts capacity fill offered accepted) :=
  inferInstanceAs (Decidable (_ ∧ _))

instance (count fill : Nat) (contents given : List α) :
    Decidable (Gives count fill contents given) :=
  inferInstanceAs (Decidable (_ ∧ _))

/-- `capacity` elements always find room; more may. -/
def step (capacity : Nat) (queue : SharedQueue α) : Event α → Option (SharedQueue α)
  | .offer block =>
      match queue.offered with
      | none => some { queue with offered := some (block, queue.contents.length) }
      | some _ => none
  | .accept block =>
      match queue.offered with
      | none => none
      | some (offered, fill) =>
          if Accepts capacity fill offered block then
            some { queue with contents := queue.contents ++ block, offered := none }
          else none
  | .ask count =>
      match queue.asked with
      | none => some { queue with asked := some (count, queue.contents.length) }
      | some _ => none
  | .give block =>
      match queue.asked with
      | none => none
      | some (count, fill) =>
          if Gives count fill queue.contents block then
            some { queue with contents := queue.contents.drop block.length, asked := none }
          else none
  | .show block =>
      match queue.asked with
      | none => none
      | some (count, fill) =>
          if Gives count fill queue.contents block then some { queue with asked := none } else none

end Step

/-- What went into the queue, in order. -/
def accepted : List (Event α) → List α
  | [] => []
  | .accept block :: events => block ++ accepted events
  | _ :: events => accepted events

/-- What came out of the queue, in order. -/
def given : List (Event α) → List α
  | [] => []
  | .give block :: events => block ++ given events
  | _ :: events => given events

theorem accepted_cons (event : Event α) (events : List (Event α)) :
    accepted (event :: events) = accepted [event] ++ accepted events := by
  cases event <;> simp [accepted]

theorem given_cons (event : Event α) (events : List (Event α)) :
    given (event :: events) = given [event] ++ given events := by
  cases event <;> simp [given]

/-- While a call is under way the other side only works in its favour. -/
structure Fair (queue : SharedQueue α) : Prop where
  room : ∀ block fill, queue.offered = some (block, fill) → queue.contents.length ≤ fill
  fill : ∀ count fill, queue.asked = some (count, fill) → fill ≤ queue.contents.length

theorem fair_empty : (empty : SharedQueue α).Fair :=
  ⟨fun _ _ hOffered => (nomatch hOffered), fun _ _ hAsked => nomatch hAsked⟩

section Runs

variable [DecidableEq α] {capacity : Nat} {queue next : SharedQueue α} {event : Event α}

/-- One event moves elements from the writer to the queue, or from the queue to the reader. -/
theorem given_append_contents_step (hStep : step capacity queue event = some next) :
    given [event] ++ next.contents = queue.contents ++ accepted [event] := by
  cases event with
  | offer block =>
      rw [step] at hStep
      split at hStep <;> cases hStep
      simp [given, accepted]
  | accept block =>
      rw [step] at hStep
      split at hStep
      · cases hStep
      · split at hStep <;> cases hStep
        simp [given, accepted]
  | ask count =>
      rw [step] at hStep
      split at hStep <;> cases hStep
      simp [given, accepted]
  | give block =>
      rw [step] at hStep
      split at hStep
      · cases hStep
      · split at hStep
        · next hGives =>
            cases hStep
            obtain ⟨rest, hContents⟩ := hGives.1
            simp [given, accepted, ← hContents]
        · cases hStep
  | «show» block =>
      rw [step] at hStep
      split at hStep
      · cases hStep
      · split at hStep <;> cases hStep
        simp [given, accepted]

/-- The reader gets what the writer put in, in the same order, and the rest is still there. -/
theorem given_append_contents {events : List (Event α)}
    (hRun : run (step capacity) queue events = some next) :
    given events ++ next.contents = queue.contents ++ accepted events := by
  induction events generalizing queue with
  | nil =>
      cases hRun
      simp [given, accepted]
  | cons event events ih =>
      obtain ⟨middle, hFirst, hRest⟩ := run_cons_eq_some.mp hRun
      calc given (event :: events) ++ next.contents
          = given [event] ++ (given events ++ next.contents) := by
            rw [given_cons, List.append_assoc]
        _ = given [event] ++ (middle.contents ++ accepted events) := by rw [ih hRest]
        _ = queue.contents ++ (accepted [event] ++ accepted events) := by
            rw [← List.append_assoc, given_append_contents_step hFirst, List.append_assoc]
        _ = queue.contents ++ accepted (event :: events) := by rw [← accepted_cons]

theorem Fair.step (h : queue.Fair) (hStep : step capacity queue event = some next) :
    next.Fair := by
  cases event with
  | offer block =>
      rw [SharedQueue.step] at hStep
      split at hStep <;> cases hStep
      refine ⟨fun block fill hOffered => ?_, h.fill⟩
      cases hOffered
      exact Nat.le_refl _
  | accept block =>
      rw [SharedQueue.step] at hStep
      split at hStep
      · cases hStep
      · split at hStep <;> cases hStep
        refine ⟨fun block fill hOffered => (nomatch hOffered), fun count fill hAsked => ?_⟩
        rw [List.length_append]
        exact (h.fill count fill hAsked).trans (Nat.le_add_right _ _)
  | ask count =>
      rw [SharedQueue.step] at hStep
      split at hStep <;> cases hStep
      refine ⟨h.room, fun count fill hAsked => ?_⟩
      cases hAsked
      exact Nat.le_refl _
  | give block =>
      rw [SharedQueue.step] at hStep
      split at hStep
      · cases hStep
      · split at hStep <;> cases hStep
        refine ⟨fun block fill hOffered => ?_, fun count fill hAsked => nomatch hAsked⟩
        rw [List.length_drop]
        exact (Nat.sub_le _ _).trans (h.room block fill hOffered)
  | «show» block =>
      rw [SharedQueue.step] at hStep
      split at hStep
      · cases hStep
      · split at hStep <;> cases hStep
        exact ⟨h.room, fun count fill hAsked => nomatch hAsked⟩

end Runs

end SharedQueue
