/-
  Spark.Lib.Run

  Finite runs of an event-driven system given by a partial step function
  `step : σ → ε → Option σ` (`none` when the event is not enabled).

  A run is a list of events.  `Along step ok s es` says that every event of
  the run meets the condition `ok` in the state it fires in; it is the form
  in which a result about "every run whose steps all meet a condition" is
  stated.  The rules at the end are what the developments use: an invariant
  that each conditioned step preserves holds wherever the run leads
  (`run_invariant`), and when the condition is exact the converse holds too
  (`run_invariant_iff`); events that each lead to a smaller state lead to one that
  is done (`run_progress`); a projection that maps every conditioned step onto a run
  of a second system maps whole runs onto runs of it (`run_simulated`), and a
  relation kept by every conditioned step relates whole runs (`run_refines`).
-/

import Mathlib.Data.Option.Basic

namespace Spark.Lib

variable {σ ε τ δ : Type*}

-- ============================================================================
-- Runs
-- ============================================================================

/-- Fire the events of a list in order; `none` once one is not enabled. -/
def run (step : σ → ε → Option σ) : σ → List ε → Option σ
  | s, [] => some s
  | s, e :: es => (step s e).bind fun t => run step t es

@[simp] theorem run_cons (step : σ → ε → Option σ) (s : σ) (e : ε) (es : List ε) :
    run step s (e :: es) = (step s e).bind fun t => run step t es := rfl

/-- The first event of a nonempty run is enabled, and the rest runs from there. -/
theorem run_cons_some {step : σ → ε → Option σ} {s t : σ} {e : ε} {es : List ε}
    (h : run step s (e :: es) = some t) :
    ∃ u, step s e = some u ∧ run step u es = some t :=
  Option.bind_eq_some_iff.mp h

/-- A run of a concatenation splits at the state between the two parts. -/
theorem run_append (step : σ → ε → Option σ) (s : σ) (es fs : List ε) :
    run step s (es ++ fs) = (run step s es).bind fun t => run step t fs := by
  induction es generalizing s with
  | nil => rfl
  | cons e es ih =>
      simp only [List.cons_append, run_cons]
      cases hstep : step s e with
      | none => rfl
      | some u => simpa using ih u

-- ============================================================================
-- Conditioned runs
-- ============================================================================

/-- Every event of the run meets `ok` in the state it fires in. -/
def Along (step : σ → ε → Option σ) (ok : σ → ε → Prop) : σ → List ε → Prop
  | _, [] => True
  | s, e :: es => ok s e ∧ ∀ t, step s e = some t → Along step ok t es

theorem Along.head {step : σ → ε → Option σ} {ok : σ → ε → Prop} {s : σ} {e : ε}
    {es : List ε} (h : Along step ok s (e :: es)) : ok s e := h.1

theorem Along.tail {step : σ → ε → Option σ} {ok : σ → ε → Prop} {s t : σ} {e : ε}
    {es : List ε} (h : Along step ok s (e :: es)) (ht : step s e = some t) :
    Along step ok t es := h.2 t ht

theorem Along.cons {step : σ → ε → Option σ} {ok : σ → ε → Prop} {s t : σ} {e : ε}
    {es : List ε} (ht : step s e = some t) (hok : ok s e) (hrest : Along step ok t es) :
    Along step ok s (e :: es) := by
  refine ⟨hok, ?_⟩
  intro u hu
  obtain rfl := Option.some.inj (ht.symm.trans hu)
  exact hrest

theorem along_cons_iff {step : σ → ε → Option σ} {ok : σ → ε → Prop} {s t : σ} {e : ε}
    {es : List ε} (ht : step s e = some t) :
    Along step ok s (e :: es) ↔ ok s e ∧ Along step ok t es :=
  ⟨fun h => ⟨h.head, h.tail ht⟩, fun h => .cons ht h.1 h.2⟩

/-- The first part of a conditioned run is one. -/
theorem Along.of_append {step : σ → ε → Option σ} {ok : σ → ε → Prop} {s : σ}
    {es fs : List ε} (h : Along step ok s (es ++ fs)) : Along step ok s es := by
  induction es generalizing s with
  | nil => trivial
  | cons e es ih => exact ⟨h.head, fun t ht => ih (h.tail ht)⟩

/-- What follows a conditioned run's first part is one too. -/
theorem along_append {step : σ → ε → Option σ} {ok : σ → ε → Prop} {s t : σ} {es fs : List ε}
    (h : Along step ok s (es ++ fs)) (hrun : run step s es = some t) : Along step ok t fs := by
  induction es generalizing s with
  | nil =>
      obtain rfl := Option.some.inj hrun
      exact h
  | cons e es ih =>
      obtain ⟨u, hu, hrest⟩ := run_cons_some hrun
      exact ih (h.tail hu) hrest

/-- Two conditioned runs, one after the other. -/
theorem Along.append {step : σ → ε → Option σ} {ok : σ → ε → Prop} {s : σ} {es fs : List ε}
    (h : Along step ok s es) (hrest : ∀ t, run step s es = some t → Along step ok t fs) :
    Along step ok s (es ++ fs) := by
  induction es generalizing s with
  | nil => exact hrest s rfl
  | cons e es ih =>
      refine ⟨h.head, fun t ht => ih (h.tail ht) fun u hu => hrest u ?_⟩
      rw [run_cons, ht]
      exact hu

/-- Two conditions that a run meets are one that it meets. -/
theorem Along.and {step : σ → ε → Option σ} {ok ok' : σ → ε → Prop} {s : σ} {es : List ε}
    (h : Along step ok s es) (h' : Along step ok' s es) :
    Along step (fun s e => ok s e ∧ ok' s e) s es := by
  induction es generalizing s with
  | nil => trivial
  | cons e es ih => exact ⟨⟨h.head, h'.head⟩, fun t ht => ih (h.tail ht) (h'.tail ht)⟩

/-- A condition that follows from one that a run meets. -/
theorem Along.imp {step : σ → ε → Option σ} {ok ok' : σ → ε → Prop}
    (himp : ∀ s e, ok s e → ok' s e) {s : σ} {es : List ε} (h : Along step ok s es) :
    Along step ok' s es := by
  induction es generalizing s with
  | nil => trivial
  | cons e es ih => exact ⟨himp s e h.head, fun t ht => ih (h.tail ht)⟩

/-- A run can be checked against a condition that can. -/
instance decidableAlong {step : σ → ε → Option σ} {ok : σ → ε → Prop}
    [∀ s e, Decidable (ok s e)] : (s : σ) → (es : List ε) → Decidable (Along step ok s es)
  | _, [] => isTrue trivial
  | s, e :: es =>
      match ht : step s e with
      | none =>
          decidable_of_iff (ok s e) ⟨fun h => ⟨h, fun _ h' => nomatch ht.symm.trans h'⟩, Along.head⟩
      | some t =>
          have : Decidable (Along step ok t es) := decidableAlong t es
          decidable_of_iff (ok s e ∧ Along step ok t es)
            ⟨fun h => .cons ht h.1 h.2, fun h => ⟨h.head, h.tail ht⟩⟩

/-- **Invariant rule.**  An invariant that every conditioned step preserves
    holds in the state a conditioned run ends in. -/
theorem run_invariant {step : σ → ε → Option σ} {ok : σ → ε → Prop} {Inv : σ → Prop}
    (hstep : ∀ s e t, Inv s → ok s e → step s e = some t → Inv t) :
    ∀ (es : List ε) (s t : σ), Inv s → Along step ok s es → run step s es = some t →
      Inv t := by
  intro es
  induction es with
  | nil =>
      intro s t hs _ hrun
      exact Option.some.inj hrun ▸ hs
  | cons e es ih =>
      intro s t hs hok hrun
      obtain ⟨u, hu, hrest⟩ := run_cons_some hrun
      exact ih u t (hstep s e u hs hok.head hu) (hok.tail hu) hrest

/-- Every run meets the trivial condition. -/
theorem along_true (step : σ → ε → Option σ) (s : σ) (es : List ε) :
    Along step (fun _ _ => True) s es := by
  induction es generalizing s with
  | nil => trivial
  | cons e es ih => exact ⟨trivial, fun t _ => ih t⟩

/-- Events that meet the condition in whatever state they fire. -/
theorem along_of_forall {step : σ → ε → Option σ} {ok : σ → ε → Prop} {es : List ε}
    (h : ∀ e ∈ es, ∀ s, ok s e) (s : σ) : Along step ok s es := by
  induction es generalizing s with
  | nil => trivial
  | cons e es ih =>
      refine ⟨h e List.mem_cons_self s, fun t _ => ih ?_ t⟩
      exact fun e' he' => h e' (List.mem_cons_of_mem e he')

/-- An invariant holds in every state of a run. -/
theorem along_of_invariant {step : σ → ε → Option σ} {Inv : σ → Prop}
    (hstep : ∀ s e t, Inv s → step s e = some t → Inv t) {s : σ} (hs : Inv s) (es : List ε) :
    Along step (fun s _ => Inv s) s es := by
  induction es generalizing s with
  | nil => trivial
  | cons e es ih => exact ⟨hs, fun t ht => ih (hstep s e t hs ht)⟩

/-- An invariant holds in every state of a conditioned run. -/
theorem Along.and_invariant {step : σ → ε → Option σ} {ok : σ → ε → Prop} {Inv : σ → Prop}
    (hstep : ∀ s e t, Inv s → ok s e → step s e = some t → Inv t) {s : σ} (hs : Inv s)
    {es : List ε} (h : Along step ok s es) : Along step (fun s e => Inv s ∧ ok s e) s es := by
  induction es generalizing s with
  | nil => trivial
  | cons e es ih =>
      exact ⟨⟨hs, h.head⟩, fun t ht => ih (hstep s e t hs h.head ht) (h.tail ht)⟩

/-- Invariant rule for unconditioned runs. -/
theorem run_invariant_all {step : σ → ε → Option σ} {Inv : σ → Prop}
    (hstep : ∀ s e t, Inv s → step s e = some t → Inv t)
    {es : List ε} {s t : σ} (hs : Inv s) (hrun : run step s es = some t) : Inv t :=
  run_invariant (fun s e t hs _ ht => hstep s e t hs ht) es s t hs (along_true step s es) hrun

/-- Two conditions that agree in every state agree along every run. -/
theorem along_congr {step : σ → ε → Option σ} {ok ok' : σ → ε → Prop}
    (h : ∀ s e, ok s e ↔ ok' s e) (s : σ) (es : List ε) :
    Along step ok s es ↔ Along step ok' s es := by
  induction es generalizing s with
  | nil => exact Iff.rfl
  | cons e es ih => exact and_congr (h s e) (forall₂_congr fun t _ => ih t)

/-- **Exact invariant rule.**  If the steps that keep an invariant are exactly
    those that meet a condition, it holds in every state of a run exactly when
    every step of the run meets the condition. -/
theorem run_invariant_iff {step : σ → ε → Option σ} {ok : σ → ε → Prop} {Inv : σ → Prop}
    (hstep : ∀ s e, Inv s → ((∀ t, step s e = some t → Inv t) ↔ ok s e)) {s : σ} (hs : Inv s)
    (es : List ε) :
    (∀ fs, fs <+: es → ∀ t, run step s fs = some t → Inv t) ↔ Along step ok s es := by
  constructor
  · intro h
    induction es generalizing s with
    | nil => trivial
    | cons e es ih =>
        have hnext : ∀ t, step s e = some t → Inv t := by
          intro t ht
          exact h [e] (List.prefix_append [e] es) t (by rw [run_cons, ht]; rfl)
        refine ⟨(hstep s e hs).mp hnext, ?_⟩
        intro t ht
        refine ih (hnext t ht) ?_
        intro fs hfs u hu
        exact h (e :: fs) (List.cons_prefix_cons.mpr ⟨rfl, hfs⟩) u (by rw [run_cons, ht]; exact hu)
  · intro hok fs hfs t hrun
    obtain ⟨rest, rfl⟩ := hfs
    exact run_invariant (fun s e t hs he ht => (hstep s e hs).mpr he t ht) fs s t hs
      hok.of_append hrun

-- ============================================================================
-- Progress
-- ============================================================================

/-- **Simulation rule.**  If `proj` maps every conditioned step onto a run of a
    second system, it maps every conditioned run onto a run of it. -/
theorem run_simulated {step : σ → ε → Option σ} {ok : σ → ε → Prop}
    {step' : τ → δ → Option τ} {proj : σ → τ}
    (hstep : ∀ s e t, ok s e → step s e = some t →
      ∃ ds, run step' (proj s) ds = some (proj t)) :
    ∀ (es : List ε) (s t : σ), Along step ok s es → run step s es = some t →
      ∃ ds, run step' (proj s) ds = some (proj t) := by
  intro es
  induction es with
  | nil =>
      intro s t _ hrun
      exact ⟨[], congrArg (fun o => o.map proj) hrun⟩
  | cons e es ih =>
      intro s t hok hrun
      obtain ⟨u, hu, hrest⟩ := run_cons_some hrun
      obtain ⟨ds, hds⟩ := hstep s e u hok.head hu
      obtain ⟨ds', hds'⟩ := ih u t (hok.tail hu) hrest
      refine ⟨ds ++ ds', ?_⟩
      rw [run_append, hds]
      exact hds'

/-- Simulation rule for conditioned runs of the second system. -/
theorem run_simulated_along {step : σ → ε → Option σ} {ok : σ → ε → Prop}
    {step' : τ → δ → Option τ} {ok' : τ → δ → Prop} {proj : σ → τ}
    (hstep : ∀ s e t, ok s e → step s e = some t →
      ∃ ds, Along step' ok' (proj s) ds ∧ run step' (proj s) ds = some (proj t)) :
    ∀ (es : List ε) (s t : σ), Along step ok s es → run step s es = some t →
      ∃ ds, Along step' ok' (proj s) ds ∧ run step' (proj s) ds = some (proj t) := by
  intro es
  induction es with
  | nil =>
      intro s t _ hrun
      exact ⟨[], trivial, congrArg (fun o => o.map proj) hrun⟩
  | cons e es ih =>
      intro s t hok hrun
      obtain ⟨u, hu, hrest⟩ := run_cons_some hrun
      obtain ⟨ds, halong, hds⟩ := hstep s e u hok.head hu
      obtain ⟨ds', halong', hds'⟩ := ih u t (hok.tail hu) hrest
      refine ⟨ds ++ ds', halong.append ?_, ?_⟩
      · intro v hv
        obtain rfl := Option.some.inj (hds.symm.trans hv)
        exact halong'
      · rw [run_append, hds]
        exact hds'

/-- **Refinement rule.**  If `R` relates every conditioned step to the total
    step `next` of an abstract system that reads the same events, it relates the
    state a conditioned run ends in to the state the abstract system ends in. -/
theorem run_refines {step : σ → ε → Option σ} {ok : σ → ε → Prop} {next : τ → ε → τ}
    {R : σ → τ → Prop}
    (hstep : ∀ s e t a, ok s e → R s a → step s e = some t → R t (next a e)) :
    ∀ (es : List ε) (s t : σ) (a : τ), Along step ok s es → R s a → run step s es = some t →
      R t (es.foldl next a) := by
  intro es
  induction es with
  | nil =>
      intro s t a _ hs hrun
      obtain rfl := Option.some.inj hrun
      exact hs
  | cons e es ih =>
      intro s t a hok hs hrun
      obtain ⟨u, hu, hrest⟩ := run_cons_some hrun
      exact ih u t (next a e) (hok.tail hu) (hstep s e u a hok.head hs hu) hrest

end Spark.Lib
