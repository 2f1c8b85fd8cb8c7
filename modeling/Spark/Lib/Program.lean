/-
  Spark.Lib.Program

  Programs that print, throw and trap.  A run has printed some lines and has
  returned a value, thrown an error or trapped; `doCatch` goes on after an error
  and after nothing else, so a trap ends the whole program.

  `force` unwraps an optional and traps on `none`.  It carries chains of
  optionals to chains of programs (`force_bind`): a chain of forced steps traps
  exactly when the chain of optionals breaks, and the two can be compared
  without following the steps.
-/

import Mathlib.Data.List.Basic

namespace Spark.Lib

universe u

/-- How a run ends. -/
inductive Outcome (ε α : Type u)
  | returned (a : α)
  | thrown (error : ε)
  | trapped
  deriving DecidableEq, Repr

/-- What a run has printed, and how it ends. -/
structure Program (ω ε α : Type u) where
  output : List ω
  outcome : Outcome ε α
  deriving DecidableEq, Repr

namespace Program

variable {ω ε α β : Type u}

/-- What follows a program that returned prints after it. -/
def bind (p : Program ω ε α) (f : α → Program ω ε β) : Program ω ε β :=
  match p.outcome with
  | .returned a => ⟨p.output ++ (f a).output, (f a).outcome⟩
  | .thrown error => ⟨p.output, .thrown error⟩
  | .trapped => ⟨p.output, .trapped⟩

instance : Monad (Program ω ε) where
  pure a := ⟨[], .returned a⟩
  bind := bind

/-- Print a line. -/
def print (line : ω) : Program ω ε PUnit := ⟨[line], .returned ⟨⟩⟩

def trap : Program ω ε α := ⟨[], .trapped⟩

/-- A call that throws. -/
def attempt : Except ε α → Program ω ε α
  | .ok a => pure a
  | .error error => ⟨[], .thrown error⟩

/-- A forced unwrap. -/
def force : Option α → Program ω ε α
  | some a => pure a
  | none => trap

/-- Go on with `handler` after an error; a trap is not caught. -/
def doCatch (p : Program ω ε α) (handler : ε → Program ω ε α) : Program ω ε α :=
  match p.outcome with
  | .thrown error => ⟨p.output ++ (handler error).output, (handler error).outcome⟩
  | _ => p

-- ============================================================================
-- Sequencing
-- ============================================================================

theorem bind_returned (p : Program ω ε α) : (p >>= fun a => pure a) = p := by
  obtain ⟨output, outcome⟩ := p
  cases outcome with
  | returned a => exact congrArg (Program.mk · _) (List.append_nil output)
  | thrown error => rfl
  | trapped => rfl

theorem bind_bind {γ : Type u} (p : Program ω ε α) (f : α → Program ω ε β)
    (g : β → Program ω ε γ) : p >>= f >>= g = p >>= fun a => f a >>= g := by
  obtain ⟨output, outcome⟩ := p
  cases outcome with
  | returned a =>
      cases hf : (f a).outcome <;> simp [Bind.bind, bind, hf, List.append_assoc]
  | thrown error => rfl
  | trapped => rfl

instance : LawfulMonad (Program ω ε) :=
  LawfulMonad.mk' (Program ω ε) bind_returned (fun _ _ => rfl) bind_bind

theorem force_some (a : α) : (force (some a) : Program ω ε α) = pure a := rfl

theorem attempt_ok (a : α) : (attempt (.ok a) : Program ω ε α) = pure a := rfl

/-- Unwrapping a chain of optionals unwraps its first one and then the others. -/
theorem force_bind (o : Option α) (f : α → Option β) :
    (force (o >>= f) : Program ω ε β) = force o >>= fun a => force (f a) := by
  cases o with
  | none => rfl
  | some a => rfl

end Program

end Spark.Lib
