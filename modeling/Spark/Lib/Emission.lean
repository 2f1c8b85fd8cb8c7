/-
  Spark.Lib.Emission

  What the steps of a run put out.  `emitted step out s es` lists it in order.

  The rules say what a run has put out when each step does its part.  A log grows
  by what was put out (`run_log`); what every step takes from the front of a queue
  and adds at its back makes up what the run took and added, in order
  (`run_queue`), and so for a stock without an order (`run_balance`); a register
  that the steps put on show holds what was shown last (`run_register`); and if
  what each step puts out is a run of a second system, so is all of it
  (`run_emitted`).
-/

import Mathlib.Data.Multiset.OrderedMonoid
import Spark.Lib.Run

namespace Spark.Lib

variable {σ ε α τ : Type*}

/-- What the steps of a run put out, in order. -/
def emitted (step : σ → ε → Option σ) (out : σ → ε → List α) : σ → List ε → List α
  | _, [] => []
  | s, e :: es => out s e ++ ((step s e).map fun t => emitted step out t es).getD []

@[simp] theorem emitted_nil (step : σ → ε → Option σ) (out : σ → ε → List α) (s : σ) :
    emitted step out s [] = [] := rfl

theorem emitted_cons {step : σ → ε → Option σ} {s t : σ} {e : ε} (ht : step s e = some t)
    (out : σ → ε → List α) (es : List ε) :
    emitted step out s (e :: es) = out s e ++ emitted step out t es := by
  rw [emitted, ht]
  rfl

/-- What the events of a run put out by themselves. -/
theorem emitted_event {step : σ → ε → Option σ} {s t : σ} {es : List ε}
    (hrun : run step s es = some t) (out : ε → List α) :
    emitted step (fun _ e => out e) s es = es.flatMap out := by
  induction es generalizing s with
  | nil => rfl
  | cons e es ih =>
      obtain ⟨u, hu, hrest⟩ := run_cons_some hrun
      rw [emitted_cons hu, ih hrest, List.flatMap_cons]

/-- **Log rule.**  A log to which every step appends what it puts out. -/
theorem run_log {step : σ → ε → Option σ} {ok : σ → ε → Prop} {log : σ → List α}
    {out : σ → ε → List α}
    (hstep : ∀ s e t, ok s e → step s e = some t → log t = log s ++ out s e) :
    ∀ (es : List ε) (s t : σ), Along step ok s es → run step s es = some t →
      log t = log s ++ emitted step out s es := by
  intro es
  induction es with
  | nil =>
      intro s t _ hrun
      obtain rfl := Option.some.inj hrun
      exact (List.append_nil _).symm
  | cons e es ih =>
      intro s t hok hrun
      obtain ⟨u, hu, hrest⟩ := run_cons_some hrun
      rw [ih u t (hok.tail hu) hrest, hstep s e u hok.head hu, emitted_cons hu, List.append_assoc]

/-- **Queue rule.**  What every step takes from the front of a queue and adds at
    its back: over a whole run, what was taken and what is left are what there
    was and what was added, in order. -/
theorem run_queue {step : σ → ε → Option σ} {ok : σ → ε → Prop} {queue : σ → List α}
    {taken added : σ → ε → List α}
    (hstep : ∀ s e t, ok s e → step s e = some t → taken s e ++ queue t = queue s ++ added s e) :
    ∀ (es : List ε) (s t : σ), Along step ok s es → run step s es = some t →
      emitted step taken s es ++ queue t = queue s ++ emitted step added s es := by
  intro es
  induction es with
  | nil =>
      intro s t _ hrun
      obtain rfl := Option.some.inj hrun
      exact (List.append_nil _).symm
  | cons e es ih =>
      intro s t hok hrun
      obtain ⟨u, hu, hrest⟩ := run_cons_some hrun
      have hhead := hstep s e u hok.head hu
      have htail := ih u t (hok.tail hu) hrest
      calc emitted step taken s (e :: es) ++ queue t
          = taken s e ++ (emitted step taken u es ++ queue t) := by
            rw [emitted_cons hu, List.append_assoc]
        _ = (taken s e ++ queue u) ++ emitted step added u es := by
            rw [htail, List.append_assoc]
        _ = queue s ++ emitted step added s (e :: es) := by
            rw [hhead, emitted_cons hu, List.append_assoc]

/-- **Balance rule.**  What every step takes out of a stock and puts into it: over
    a whole run, what was taken out and what is left are what there was and what
    was put in. -/
theorem run_balance {step : σ → ε → Option σ} {ok : σ → ε → Prop} {stock : σ → Multiset α}
    {taken added : σ → ε → List α}
    (hstep : ∀ s e t, ok s e → step s e = some t →
      (taken s e : Multiset α) + stock t = stock s + added s e) :
    ∀ (es : List ε) (s t : σ), Along step ok s es → run step s es = some t →
      (emitted step taken s es : Multiset α) + stock t = stock s + emitted step added s es := by
  intro es
  induction es with
  | nil =>
      intro s t _ hrun
      obtain rfl := Option.some.inj hrun
      rw [emitted_nil, emitted_nil, add_comm]
  | cons e es ih =>
      intro s t hok hrun
      obtain ⟨u, hu, hrest⟩ := run_cons_some hrun
      have hhead := hstep s e u hok.head hu
      have htail := ih u t (hok.tail hu) hrest
      calc (emitted step taken s (e :: es) : Multiset α) + stock t
          = taken s e + (emitted step taken u es + stock t) := by
            rw [emitted_cons hu, ← Multiset.coe_add, add_assoc]
        _ = (taken s e + stock u) + emitted step added u es := by
            rw [htail, add_assoc]
        _ = stock s + emitted step added s (e :: es) := by
            rw [hhead, emitted_cons hu, ← Multiset.coe_add, add_assoc]

/-- A run puts out nothing exactly when no step of it does. -/
theorem emitted_eq_nil_iff {step : σ → ε → Option σ} {out : σ → ε → List α} {s t : σ}
    {es : List ε} (hrun : run step s es = some t) :
    emitted step out s es = [] ↔ Along step (fun s e => out s e = []) s es := by
  induction es generalizing s with
  | nil => exact iff_of_true rfl trivial
  | cons e es ih =>
      obtain ⟨u, hu, hrest⟩ := run_cons_some hrun
      rw [emitted_cons hu, List.append_eq_nil_iff, ih hrest, along_cons_iff hu]

/-- **Register rule.**  A register that every step leaves at the last value it
    puts out, if it puts one out, holds the last value that a run has put out. -/
theorem run_register {step : σ → ε → Option σ} {value : σ → Option α} {out : σ → ε → List α}
    (hstep : ∀ s e t, step s e = some t → value t = (out s e).getLast?.or (value s)) :
    ∀ (es : List ε) (s t : σ), run step s es = some t →
      value t = (emitted step out s es).getLast?.or (value s) := by
  intro es
  induction es with
  | nil =>
      intro s t hrun
      obtain rfl := Option.some.inj hrun
      rfl
  | cons e es ih =>
      intro s t hrun
      obtain ⟨u, hu, hrest⟩ := run_cons_some hrun
      rw [ih u t hrest, hstep s e u hu, emitted_cons hu, List.getLast?_append, Option.or_assoc]

/-- **Trace rule.**  If what each conditioned step puts out is a run of a second
    system, from the projection of its state to that of the next, then what a
    conditioned run puts out is one. -/
theorem run_emitted {step : σ → ε → Option σ} {ok : σ → ε → Prop} {step' : τ → α → Option τ}
    {proj : σ → τ} {out : σ → ε → List α}
    (hstep : ∀ s e t, ok s e → step s e = some t →
      run step' (proj s) (out s e) = some (proj t)) :
    ∀ (es : List ε) (s t : σ), Along step ok s es → run step s es = some t →
      run step' (proj s) (emitted step out s es) = some (proj t) := by
  intro es
  induction es with
  | nil =>
      intro s t _ hrun
      obtain rfl := Option.some.inj hrun
      rfl
  | cons e es ih =>
      intro s t hok hrun
      obtain ⟨u, hu, hrest⟩ := run_cons_some hrun
      rw [emitted_cons hu, run_append, hstep s e u hok.head hu]
      exact ih u t (hok.tail hu) hrest

end Spark.Lib
