/-
  Spark.Lib.Deferred

  A register that is written only by deferred completions, delivered in the
  order the writes were requested.  Between request and delivery the register
  still shows an old value; `settled` is the value it will show once nothing
  is pending, and it is what an invariant about the rest state speaks of.
-/

import Mathlib.Data.List.Basic

namespace Spark.Lib

variable {α : Type*}

/-- A register and the writes requested but not yet delivered, oldest first. -/
structure Deferred (α : Type*) where
  value : α
  pending : List α := []
  deriving DecidableEq, Repr

namespace Deferred

/-- Request that the register be set to `a`. -/
def request (d : Deferred α) (a : α) : Deferred α :=
  { d with pending := d.pending ++ [a] }

/-- Deliver the oldest requested write, if there is one. -/
def deliver (d : Deferred α) : Option (Deferred α) :=
  match d.pending with
  | [] => none
  | a :: rest => some { value := a, pending := rest }

/-- The value the register shows once every pending write is delivered. -/
def settled (d : Deferred α) : α := d.pending.getLast?.getD d.value

@[simp] theorem settled_request (d : Deferred α) (a : α) : (d.request a).settled = a := by
  simp [settled, request]

/-- Delivering a write does not change what the register settles to. -/
theorem settled_deliver {d d' : Deferred α} (h : d.deliver = some d') :
    d'.settled = d.settled := by
  unfold deliver at h
  split at h
  · cases h
  · next a rest hpending =>
      obtain rfl := Option.some.inj h
      simp only [settled, hpending]
      cases rest with
      | nil => rfl
      | cons b rest => simp [List.getLast?_cons]

/-- With nothing pending the register shows what it settles to. -/
theorem settled_of_pending_nil {d : Deferred α} (h : d.pending = []) : d.settled = d.value := by
  simp [settled, h]

end Deferred

end Spark.Lib
