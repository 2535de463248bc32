import Mathlib.Data.List.Infix

/-! Deterministic systems driven by a list of events. The environment's choices
are carried by the events, so a partial step function is enough: `none` means
that the event cannot happen in that state. -/
namespace Transition

variable {σ ε : Type*}

/-- Execute the events from left to right. -/
def run (step : σ → ε → Option σ) (s : σ) : List ε → Option σ
  | [] => some s
  | e :: es => (step s e).bind fun t => run step t es

/-- The property holds in every state the run passes through, the first and the
last included. A run that gets stuck is followed up to that point. -/
def Always (step : σ → ε → Option σ) (p : σ → Prop) (s : σ) : List ε → Prop
  | [] => p s
  | e :: es => p s ∧ ∀ t, step s e = some t → Always step p t es

/-- Every step the run takes meets `ok` in the state it is taken from. -/
def Meets (step : σ → ε → Option σ) (ok : σ → ε → Prop) (s : σ) : List ε → Prop
  | [] => True
  | e :: es => ∀ t, step s e = some t → ok s e ∧ Meets step ok t es

variable {step : σ → ε → Option σ} {p : σ → Prop} {ok : σ → ε → Prop}

/-- A run splits at its first event. -/
theorem run_cons_eq_some {s u : σ} {e : ε} {es : List ε} :
    run step s (e :: es) = some u ↔ ∃ t, step s e = some t ∧ run step t es = some u := by
  simp [run, Option.bind_eq_some_iff]

/-- A run's steps are admitted one after the other. -/
theorem meets_cons_of_step {s t : σ} {e : ε} {es : List ε} (hFirst : step s e = some t)
    (hOk : ok s e) (hLater : Meets step ok t es) : Meets step ok s (e :: es) := by
  intro u hStep
  rw [hFirst] at hStep
  cases hStep
  exact ⟨hOk, hLater⟩

/-- Whether a run's steps are admitted is found out by following it. -/
instance decidableMeets [∀ s e, Decidable (ok s e)] :
    (s : σ) → (es : List ε) → Decidable (Meets step ok s es)
  | _, [] => isTrue trivial
  | s, e :: es =>
      match hFirst : step s e with
      | none => isTrue fun _ hStep => nomatch hFirst.symm.trans hStep
      | some t =>
          have := decidableMeets t es
          decidable_of_iff (ok s e ∧ Meets step ok t es)
            ⟨fun hBoth => meets_cons_of_step hFirst hBoth.1 hBoth.2, fun hMeets => hMeets t hFirst⟩

theorem Always.head {s : σ} {es : List ε} (h : Always step p s es) : p s := by
  cases es with
  | nil => exact h
  | cons e es => exact h.1

/-- The states a run passes through are the ends of its prefixes. -/
theorem always_iff_prefix_ends (s : σ) (es : List ε) :
    Always step p s es ↔ ∀ fs, fs <+: es → ∀ t, run step s fs = some t → p t := by
  induction es generalizing s with
  | nil =>
      constructor
      · intro h fs hPrefix t hRun
        rw [List.prefix_nil.mp hPrefix] at hRun
        exact Option.some.inj hRun ▸ h
      · intro h
        exact h [] (List.prefix_refl _) s rfl
  | cons e es ih =>
      constructor
      · rintro ⟨hHead, hTail⟩ fs hFs t hRun
        rcases List.prefix_cons_iff.mp hFs with rfl | ⟨gs, rfl, hPrefix⟩
        · exact Option.some.inj hRun ▸ hHead
        · obtain ⟨middle, hFirst, hRest⟩ := run_cons_eq_some.mp hRun
          exact (ih middle).mp (hTail middle hFirst) gs hPrefix t hRest
      · intro h
        refine ⟨h [] List.nil_prefix s rfl, fun middle hFirst => (ih middle).mpr ?_⟩
        intro gs hPrefix t hRest
        exact h (e :: gs) ((List.prefix_cons_inj e).mpr hPrefix) t
          (run_cons_eq_some.mpr ⟨middle, hFirst, hRest⟩)

theorem Always.imp {q : σ → Prop} (hImp : ∀ s, p s → q s) {s : σ} {es : List ε}
    (h : Always step p s es) : Always step q s es := by
  rw [always_iff_prefix_ends] at h ⊢
  exact fun fs hPrefix t hRun => hImp t (h fs hPrefix t hRun)

/-- The end of a run is one of the states it passes through. -/
theorem Always.of_run {s t : σ} {es : List ε} (h : Always step p s es)
    (hRun : run step s es = some t) : p t :=
  (always_iff_prefix_ends s es).mp h es (List.prefix_refl _) t hRun

/-- An invariant that every admitted step keeps holds throughout a run whose
steps are all admitted. -/
theorem always_of_meets (hStep : ∀ s e t, p s → ok s e → step s e = some t → p t)
    {s : σ} {es : List ε} (hInit : p s) (hMeets : Meets step ok s es) :
    Always step p s es := by
  induction es generalizing s with
  | nil => exact hInit
  | cons e es ih =>
      refine ⟨hInit, fun t hFirst => ?_⟩
      obtain ⟨hOk, hLater⟩ := hMeets t hFirst
      exact ih (hStep s e t hInit hOk hFirst) hLater

/-- Events that are admitted in any state are admitted wherever the run takes them. -/
theorem meets_of_forall_mem {s : σ} {es : List ε} (hOk : ∀ e ∈ es, ∀ t, ok t e) :
    Meets step ok s es := by
  induction es generalizing s with
  | nil => trivial
  | cons e es ih =>
      intro t hFirst
      exact ⟨hOk e (List.mem_cons_self ..) s, ih fun f hf => hOk f (List.mem_cons_of_mem e hf)⟩

/-- What every step keeps, a run keeps. -/
theorem run_keeps (hStep : ∀ s e t, p s → step s e = some t → p t) {s t : σ} {es : List ε}
    (hInit : p s) (hRun : run step s es = some t) : p t := by
  have hMeets : Meets step (fun _ _ => True) s es := meets_of_forall_mem fun _ _ _ => trivial
  exact (always_of_meets (fun s e t hs _ => hStep s e t hs) hInit hMeets).of_run hRun

/-- Where, under a standing invariant, a step keeps the property exactly when it is
admitted, the property holds throughout a run exactly when all of its steps are
admitted. -/
theorem always_iff_meets (inv : σ → Prop)
    (hInv : ∀ s e t, inv s → step s e = some t → inv t)
    (hStep : ∀ s e t, inv s → p s → step s e = some t → (p t ↔ ok s e))
    {s : σ} (hStanding : inv s) (hInit : p s) (es : List ε) :
    Always step p s es ↔ Meets step ok s es := by
  induction es generalizing s with
  | nil => exact iff_of_true hInit trivial
  | cons e es ih =>
      constructor
      · rintro ⟨-, hLater⟩ t hFirst
        have hNext := (hLater t hFirst).head
        exact ⟨(hStep s e t hStanding hInit hFirst).mp hNext,
          (ih (hInv s e t hStanding hFirst) hNext).mp (hLater t hFirst)⟩
      · intro hMeets
        refine ⟨hInit, fun t hFirst => ?_⟩
        obtain ⟨hOk, hLater⟩ := hMeets t hFirst
        exact (ih (hInv s e t hStanding hFirst)
          ((hStep s e t hStanding hInit hFirst).mpr hOk)).mpr hLater

/-- Steps that are admitted twice. -/
theorem Meets.and {ok' : σ → ε → Prop} {s : σ} {es : List ε} (h : Meets step ok s es)
    (h' : Meets step ok' s es) : Meets step (fun s e => ok s e ∧ ok' s e) s es := by
  induction es generalizing s with
  | nil => trivial
  | cons e es ih =>
      intro t hFirst
      obtain ⟨hOk, hLater⟩ := h t hFirst
      obtain ⟨hOk', hLater'⟩ := h' t hFirst
      exact ⟨⟨hOk, hOk'⟩, ih hLater hLater'⟩

/-- Where admitted steps keep an invariant under which they are good, the steps of a run are
good when they are admitted. -/
theorem meets_of_inv {good : σ → ε → Prop}
    (hStep : ∀ s e t, p s → ok s e → step s e = some t → good s e ∧ p t) {s : σ} {es : List ε}
    (hInit : p s) (hMeets : Meets step ok s es) : Meets step good s es := by
  induction es generalizing s with
  | nil => trivial
  | cons e es ih =>
      intro t hFirst
      obtain ⟨hOk, hLater⟩ := hMeets t hFirst
      obtain ⟨hGood, hNext⟩ := hStep s e t hInit hOk hFirst
      exact ⟨hGood, ih hNext hLater⟩

/-- Under an invariant, two conditions that agree on each step agree on whole runs. -/
theorem meets_congr {good : σ → ε → Prop} (hStep : ∀ s e t, p s → step s e = some t → p t)
    (hSame : ∀ s e, p s → (ok s e ↔ good s e)) {s : σ} (hInit : p s) (es : List ε) :
    Meets step ok s es ↔ Meets step good s es := by
  induction es generalizing s with
  | nil => exact Iff.rfl
  | cons e es ih =>
      constructor
      · intro hMeets t hFirst
        obtain ⟨hOk, hLater⟩ := hMeets t hFirst
        exact ⟨(hSame s e hInit).mp hOk, (ih (hStep s e t hInit hFirst)).mp hLater⟩
      · intro hMeets t hFirst
        obtain ⟨hGood, hLater⟩ := hMeets t hFirst
        exact ⟨(hSame s e hInit).mpr hGood, (ih (hStep s e t hInit hFirst)).mpr hLater⟩

/-- A run goes on from where its first part ends. -/
theorem run_append {s t : σ} {es fs : List ε} (hRun : run step s es = some t) :
    run step s (es ++ fs) = run step t fs := by
  induction es generalizing s with
  | nil =>
      cases hRun
      rfl
  | cons e es ih =>
      obtain ⟨middle, hFirst, hRest⟩ := run_cons_eq_some.mp hRun
      rw [List.cons_append, run, hFirst]
      exact ih hRest

/-- Where every step of one system is matched by a block of steps of another, so is a run. -/
theorem run_flatMap {τ κ : Type*} {step' : τ → κ → Option τ} (block : ε → List κ)
    (rel : σ → τ → Prop)
    (hStep : ∀ s e t s', rel s s' → step s e = some t →
      ∃ t', run step' s' (block e) = some t' ∧ rel t t')
    {s t : σ} {s' : τ} (hRel : rel s s') {es : List ε} (hRun : run step s es = some t) :
    ∃ t', run step' s' (es.flatMap block) = some t' ∧ rel t t' := by
  induction es generalizing s s' with
  | nil =>
      cases hRun
      exact ⟨s', rfl, hRel⟩
  | cons e es ih =>
      obtain ⟨middle, hFirst, hRest⟩ := run_cons_eq_some.mp hRun
      obtain ⟨middle', hFirst', hNext⟩ := hStep s e middle s' hRel hFirst
      obtain ⟨t', hRest', hLast⟩ := ih hNext hRest
      refine ⟨t', ?_, hLast⟩
      rw [List.flatMap_cons, run_append hFirst']
      exact hRest'

/-- The steps of a run and of its continuation. -/
theorem meets_append {s t : σ} {es fs : List ε} (hRun : run step s es = some t) :
    Meets step ok s (es ++ fs) ↔ Meets step ok s es ∧ Meets step ok t fs := by
  induction es generalizing s with
  | nil =>
      cases hRun
      exact (iff_of_eq (true_and _)).symm
  | cons e es ih =>
      obtain ⟨middle, hFirst, hRest⟩ := run_cons_eq_some.mp hRun
      constructor
      · intro hMeets
        obtain ⟨hOk, hLater⟩ := hMeets middle hFirst
        obtain ⟨hBefore, hAfter⟩ := (ih hRest).mp hLater
        exact ⟨meets_cons_of_step hFirst hOk hBefore, hAfter⟩
      · rintro ⟨hBefore, hAfter⟩
        obtain ⟨hOk, hLater⟩ := hBefore middle hFirst
        exact meets_cons_of_step hFirst hOk ((ih hRest).mpr ⟨hLater, hAfter⟩)

/-- Every event can happen where the run comes to it, and the property holds in every state. -/
def Completes (step : σ → ε → Option σ) (p : σ → Prop) (s : σ) : List ε → Prop
  | [] => p s
  | e :: es => p s ∧ ∃ t, step s e = some t ∧ Completes step p t es

/-- Every event is admitted in the state where the run comes to it, whether it can happen there
or not. -/
def Admits (step : σ → ε → Option σ) (ok : σ → ε → Prop) (s : σ) : List ε → Prop
  | [] => True
  | e :: es => ok s e ∧ ∀ t, step s e = some t → Admits step ok t es

/-- Whether the events are admitted is found out by following the run. -/
instance decidableAdmits [∀ s e, Decidable (ok s e)] :
    (s : σ) → (es : List ε) → Decidable (Admits step ok s es)
  | _, [] => isTrue trivial
  | s, e :: es =>
      match hFirst : step s e with
      | none => decidable_of_iff (ok s e)
          ⟨fun hOk => ⟨hOk, fun _ hStep => nomatch hFirst.symm.trans hStep⟩, And.left⟩
      | some t =>
          have := decidableAdmits t es
          decidable_of_iff (ok s e ∧ Admits step ok t es)
            ⟨fun hBoth => ⟨hBoth.1, fun u hStep => by
              cases hFirst.symm.trans hStep
              exact hBoth.2⟩, fun hAdmits => ⟨hAdmits.1, hAdmits.2 t hFirst⟩⟩

/-- Where an event can happen and keep the property exactly when it is admitted, a run completes
exactly when all of its events are admitted. -/
theorem completes_iff_admits (inv : σ → Prop)
    (hInv : ∀ s e t, inv s → step s e = some t → inv t)
    (hStep : ∀ s e, inv s → p s → ((∃ t, step s e = some t ∧ p t) ↔ ok s e))
    {s : σ} (hStanding : inv s) (hInit : p s) (es : List ε) :
    Completes step p s es ↔ Admits step ok s es := by
  induction es generalizing s with
  | nil => exact iff_of_true hInit trivial
  | cons e es ih =>
      constructor
      · rintro ⟨-, t, hFirst, hLater⟩
        have hNext : p t := by
          cases es with
          | nil => exact hLater
          | cons f fs => exact hLater.1
        refine ⟨(hStep s e hStanding hInit).mp ⟨t, hFirst, hNext⟩, fun u hSame => ?_⟩
        cases hFirst.symm.trans hSame
        exact (ih (hInv s e t hStanding hFirst) hNext).mp hLater
      · rintro ⟨hOk, hLater⟩
        obtain ⟨t, hFirst, hNext⟩ := (hStep s e hStanding hInit).mpr hOk
        exact ⟨hInit, t, hFirst, (ih (hInv s e t hStanding hFirst) hNext).mpr (hLater t hFirst)⟩

/-- Two systems in lockstep: where their steps are admitted, related states have related
steps. Then runs whose steps are all admitted end in related states. -/
theorem run_rel {τ : Type*} {step' : τ → ε → Option τ} {ok' : τ → ε → Prop} (rel : σ → τ → Prop)
    (hStep : ∀ s s' e, rel s s' → ((step s e).isSome → ok s e) →
      ((step' s' e).isSome → ok' s' e) → Option.Rel rel (step s e) (step' s' e))
    {s : σ} {s' : τ} (hRel : rel s s') {es : List ε} (hMeets : Meets step ok s es)
    (hMeets' : Meets step' ok' s' es) : Option.Rel rel (run step s es) (run step' s' es) := by
  induction es generalizing s s' with
  | nil => exact Option.Rel.some hRel
  | cons e es ih =>
      have hOk : (step s e).isSome → ok s e := by
        intro hSome
        obtain ⟨t, hFirst⟩ := Option.isSome_iff_exists.mp hSome
        exact (hMeets t hFirst).1
      have hOk' : (step' s' e).isSome → ok' s' e := by
        intro hSome
        obtain ⟨t', hFirst'⟩ := Option.isSome_iff_exists.mp hSome
        exact (hMeets' t' hFirst').1
      have hBoth := hStep s s' e hRel hOk hOk'
      show Option.Rel rel ((step s e).bind _) ((step' s' e).bind _)
      cases hFirst : step s e with
      | none =>
          cases hFirst' : step' s' e with
          | none => exact Option.Rel.none
          | some t' =>
              rw [hFirst, hFirst'] at hBoth
              cases hBoth
      | some t =>
          cases hFirst' : step' s' e with
          | none =>
              rw [hFirst, hFirst'] at hBoth
              cases hBoth
          | some t' =>
              rw [hFirst, hFirst'] at hBoth
              cases hBoth with
              | some hNext => exact ih hNext (hMeets t hFirst).2 (hMeets' t' hFirst').2

/-- The events are admitted by two conditions exactly when each of them admits them. -/
theorem admits_and {ok' : σ → ε → Prop} (s : σ) (es : List ε) :
    Admits step (fun s e => ok s e ∧ ok' s e) s es ↔ Admits step ok s es ∧ Admits step ok' s es := by
  induction es generalizing s with
  | nil => exact (iff_of_eq (true_and _)).symm
  | cons e es ih =>
      constructor
      · rintro ⟨⟨hOk, hOk'⟩, hLater⟩
        exact ⟨⟨hOk, fun t hFirst => ((ih t).mp (hLater t hFirst)).1⟩,
          hOk', fun t hFirst => ((ih t).mp (hLater t hFirst)).2⟩
      · rintro ⟨⟨hOk, hLater⟩, hOk', hLater'⟩
        exact ⟨⟨hOk, hOk'⟩, fun t hFirst => (ih t).mpr ⟨hLater t hFirst, hLater' t hFirst⟩⟩

section Labels

variable {κ : Type*}

/-- The labels of the events that a run comes to, where they have one. -/
def labels (step : σ → ε → Option σ) (label : σ → ε → Option κ) (s : σ) : List ε → List κ
  | [] => []
  | e :: es => (label s e).toList ++ ((step s e).map fun t => labels step label t es).getD []

/-- Where a state tells of its past only what the last label was, the events of a run are all
admitted exactly when each label may follow the one before. -/
theorem admits_iff_isChain {label : σ → ε → Option κ} {follows : κ → κ → Prop}
    (last : σ → κ → Prop)
    (hOk : ∀ s e k, last s k → (ok s e ↔ ∀ l ∈ label s e, follows k l))
    (hStep : ∀ s e t k, last s k → step s e = some t → last t ((label s e).getD k))
    {s : σ} {k : κ} (hLast : last s k) (es : List ε) :
    Admits step ok s es ↔ (k :: labels step label s es).IsChain follows := by
  induction es generalizing s k with
  | nil => exact iff_of_true trivial (List.IsChain.singleton k)
  | cons e es ih =>
      have hLater : (∀ t, step s e = some t → Admits step ok t es) ↔
          ((label s e).getD k ::
            ((step s e).map fun t => labels step label t es).getD []).IsChain follows := by
        cases hFirst : step s e with
        | none => exact iff_of_true (fun t hSome => nomatch hSome) (List.IsChain.singleton _)
        | some t =>
            rw [Option.map_some, Option.getD_some, ← ih (hStep s e t k hLast hFirst)]
            constructor
            · intro hAll
              exact hAll t rfl
            · intro hAdmits u hSame
              cases hSame
              exact hAdmits
      rw [Admits, hLater, hOk s e k hLast, labels]
      cases label s e with
      | none => exact and_iff_right fun l hNone => nomatch hNone
      | some l =>
          rw [Option.toList_some, List.singleton_append, Option.getD_some, List.isChain_cons_cons]
          simp

/-- Forward simulation: where every step of one system is matched by its label in another, the
labels of a run are a run of the other. -/
theorem run_labels {τ : Type*} {step' : τ → κ → Option τ} {label : σ → ε → Option κ}
    (rel : σ → τ → Prop)
    (hStep : ∀ s e t s', rel s s' → step s e = some t →
      ∃ t', run step' s' (label s e).toList = some t' ∧ rel t t')
    {s t : σ} {s' : τ} (hRel : rel s s') {es : List ε} (hRun : run step s es = some t) :
    ∃ t', run step' s' (labels step label s es) = some t' ∧ rel t t' := by
  induction es generalizing s s' with
  | nil =>
      cases hRun
      exact ⟨s', rfl, hRel⟩
  | cons e es ih =>
      obtain ⟨middle, hFirst, hRest⟩ := run_cons_eq_some.mp hRun
      obtain ⟨middle', hFirst', hNext⟩ := hStep s e middle s' hRel hFirst
      obtain ⟨t', hRest', hLast⟩ := ih hNext hRest
      refine ⟨t', ?_, hLast⟩
      rw [labels, hFirst, run_append hFirst']
      exact hRest'

end Labels

end Transition
