/-
  Spark.Lib.SerialQueue

  A queue that runs its tasks one at a time in the order they were enqueued: a
  task that has started keeps the others waiting until it completes, however
  long that takes.
-/

import Mathlib.Data.List.Basic

namespace Spark.Lib

variable {τ : Type*}

/-- The task that has started and those that wait, oldest first. -/
structure SerialQueue (τ : Type*) where
  running : Option τ := none
  waiting : List τ := []

namespace SerialQueue

def enqueue (q : SerialQueue τ) (task : τ) : SerialQueue τ :=
  { q with waiting := q.waiting ++ [task] }

/-- The oldest waiting task starts, unless one has not completed. -/
def start (q : SerialQueue τ) : Option (τ × SerialQueue τ) :=
  match q.running, q.waiting with
  | none, task :: waiting => some (task, { running := some task, waiting })
  | _, _ => none

def complete (q : SerialQueue τ) : SerialQueue τ :=
  { q with running := none }

/-- The tasks that have not completed, oldest first. -/
def tasks (q : SerialQueue τ) : List τ :=
  q.running.toList ++ q.waiting

@[simp] theorem tasks_enqueue (q : SerialQueue τ) (task : τ) :
    (q.enqueue task).tasks = q.tasks ++ [task] := by
  rw [tasks, enqueue, tasks, List.append_assoc]

@[simp] theorem running_enqueue (q : SerialQueue τ) (task : τ) :
    (q.enqueue task).running = q.running := rfl

@[simp] theorem running_complete (q : SerialQueue τ) : q.complete.running = none := rfl

/-- A task that starts was the oldest, and no other had started. -/
theorem start_some {q q' : SerialQueue τ} {task : τ} (h : q.start = some (task, q')) :
    q.running = none ∧ q.tasks = task :: q'.waiting ∧ q'.running = some task ∧
      q'.tasks = q.tasks := by
  obtain ⟨running, waiting⟩ := q
  match running, waiting, h with
  | none, _ :: _, h =>
      obtain ⟨rfl, rfl⟩ := Prod.mk.inj (Option.some.inj h)
      exact ⟨rfl, rfl, rfl, rfl⟩

/-- The queue moves on unless it is empty or a task has not completed. -/
theorem exists_start {q : SerialQueue τ} (hrunning : q.running = none) (htasks : q.tasks ≠ []) :
    ∃ task q', q.start = some (task, q') := by
  obtain ⟨running, waiting⟩ := q
  obtain rfl : running = none := hrunning
  cases waiting with
  | nil => exact absurd rfl htasks
  | cons task waiting => exact ⟨task, _, rfl⟩

theorem tasks_complete {q : SerialQueue τ} {task : τ} (h : q.running = some task) :
    q.tasks = task :: q.complete.tasks := by
  rw [tasks, h]
  rfl

end SerialQueue

end Spark.Lib
