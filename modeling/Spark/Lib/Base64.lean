/-
  Spark.Lib.Base64

  Base-64 over any alphabet of sixty-four symbols and a padding symbol.

  Three bytes are four symbols (`encode`); one or two bytes at the end are two or
  three symbols and padding.  `decode` reads groups of four symbols and takes
  padding in the last group only.  What has been encoded is decoded
  (`decode_encode`), also when it has lost its padding and is padded again
  (`encode_eq_append_pad`).
-/

import Mathlib.Data.List.Basic

namespace Spark.Lib

/-- Sixty-four symbols with their values, and the padding, which has none. -/
structure Base64 (α : Type) where
  symbol : Nat → α
  value : α → Option Nat
  pad : α
  value_symbol : ∀ d < 64, value (symbol d) = some d
  value_pad : value pad = none

namespace Base64

variable {α : Type} (c : Base64 α)

-- ============================================================================
-- Groups
-- ============================================================================

/-- The digits of a number of 24 bits. -/
def digits (n : Nat) : List Nat := [n / 262144 % 64, n / 4096 % 64, n / 64 % 64, n % 64]

/-- The bytes of a number of 24 bits. -/
def bytes (n : Nat) : List UInt8 :=
  [UInt8.ofNat (n / 65536), UInt8.ofNat (n / 256), UInt8.ofNat n]

/-- The number that bytes are the first ones of. -/
def ofBytes (a b c : UInt8) : Nat := a.toNat * 65536 + b.toNat * 256 + c.toNat

def ofDigits (d₁ d₂ d₃ d₄ : Nat) : Nat := d₁ * 262144 + d₂ * 4096 + d₃ * 64 + d₄

theorem digits_lt {n d : Nat} (h : d ∈ digits n) : d < 64 := by
  simp only [digits, List.mem_cons, List.not_mem_nil, or_false] at h
  omega

theorem bytes_ofBytes (a b c : UInt8) : bytes (ofBytes a b c) = [a, b, c] := by
  have ha := a.toNat_lt
  have hb := b.toNat_lt
  have hc := c.toNat_lt
  have h₁ : ofBytes a b c / 65536 = a.toNat := by rw [ofBytes]; omega
  have h₂ : (ofBytes a b c / 256) % 256 = b.toNat := by rw [ofBytes]; omega
  have h₃ : ofBytes a b c % 256 = c.toNat := by rw [ofBytes]; omega
  have hmod : ∀ n : Nat, UInt8.ofNat n = UInt8.ofNat (n % 256) := by
    intro n
    apply UInt8.toNat_inj.mp
    simp
  rw [bytes, hmod (ofBytes a b c / 256), hmod (ofBytes a b c), h₁, h₂, h₃]
  simp

/-- The digits of a number give it back. -/
theorem ofDigits_digits {n : Nat} (h : n < 16777216) :
    ofDigits (n / 262144 % 64) (n / 4096 % 64) (n / 64 % 64) (n % 64) = n := by
  rw [ofDigits]
  omega

theorem ofBytes_lt (a b c : UInt8) : ofBytes a b c < 16777216 := by
  have ha := a.toNat_lt
  have hb := b.toNat_lt
  have hc := c.toNat_lt
  rw [ofBytes]
  omega

-- ============================================================================
-- Encoding and decoding
-- ============================================================================

def encode : List UInt8 → List α
  | [] => []
  | [x] => ((digits (ofBytes x 0 0)).take 2).map c.symbol ++ [c.pad, c.pad]
  | [x, y] => ((digits (ofBytes x y 0)).take 3).map c.symbol ++ [c.pad]
  | x :: y :: z :: rest => (digits (ofBytes x y z)).map c.symbol ++ encode rest

variable [DecidableEq α]

def decode : List α → Option (List UInt8)
  | [] => some []
  | s₁ :: s₂ :: s₃ :: s₄ :: rest =>
      match c.value s₁, c.value s₂ with
      | some d₁, some d₂ =>
          if rest = [] ∧ s₃ = c.pad ∧ s₄ = c.pad then some ((bytes (ofDigits d₁ d₂ 0 0)).take 1)
          else
            match c.value s₃ with
            | none => none
            | some d₃ =>
                if rest = [] ∧ s₄ = c.pad then some ((bytes (ofDigits d₁ d₂ d₃ 0)).take 2)
                else
                  match c.value s₄, decode rest with
                  | some d₄, some more => some (bytes (ofDigits d₁ d₂ d₃ d₄) ++ more)
                  | _, _ => none
      | _, _ => none
  | _ => none

variable {c}

omit [DecidableEq α] in
theorem symbol_ne_pad {d : Nat} (h : d < 64) : c.symbol d ≠ c.pad := by
  intro heq
  have hvalue := c.value_symbol d h
  rw [heq, c.value_pad] at hvalue
  cases hvalue

omit [DecidableEq α] in
theorem value_digit (n k : Nat) : c.value (c.symbol (n / k % 64)) = some (n / k % 64) :=
  c.value_symbol _ (Nat.mod_lt _ (by decide))

/-- **What has been encoded is decoded.** -/
theorem decode_encode (l : List UInt8) : c.decode (c.encode l) = some l := by
  fun_induction encode c l with
  | case1 => rfl
  | case2 x =>
      have hx := x.toNat_lt
      have hzero : ofBytes x 0 0 / 64 % 64 = 0 ∧ ofBytes x 0 0 % 64 = 0 := by
        simp only [ofBytes, UInt8.toNat_zero]
        omega
      have hn := ofDigits_digits (ofBytes_lt x 0 0)
      rw [hzero.1, hzero.2] at hn
      simp [digits, decode, value_digit, hn, bytes_ofBytes]
  | case3 x y =>
      have hx := x.toNat_lt
      have hy := y.toNat_lt
      have hzero : ofBytes x y 0 % 64 = 0 := by
        simp only [ofBytes, UInt8.toNat_zero]
        omega
      have hn := ofDigits_digits (ofBytes_lt x y 0)
      rw [hzero] at hn
      have hpad : c.symbol (ofBytes x y 0 / 64 % 64) ≠ c.pad :=
        symbol_ne_pad (Nat.mod_lt _ (by decide))
      simp [digits, decode, value_digit, hn, bytes_ofBytes, hpad]
  | case4 x y z rest ih =>
      have hn := ofDigits_digits (ofBytes_lt x y z)
      have hpad : c.symbol (ofBytes x y z % 64) ≠ c.pad :=
        symbol_ne_pad (Nat.mod_lt _ (by decide))
      have hlast : c.value (c.symbol (ofBytes x y z % 64)) = some (ofBytes x y z % 64) :=
        c.value_symbol _ (Nat.mod_lt _ (by decide))
      simp [digits, decode, value_digit, hlast, hpad, ih, hn, bytes_ofBytes]

omit [DecidableEq α] in
theorem mem_encode {l : List UInt8} {s : α} (h : s ∈ c.encode l) :
    s = c.pad ∨ ∃ d < 64, s = c.symbol d := by
  have hsymbol : ∀ {n k : Nat}, s ∈ ((digits n).take k).map c.symbol → ∃ d < 64, s = c.symbol d := by
    intro n k hs
    obtain ⟨d, hd, rfl⟩ := List.mem_map.mp hs
    exact ⟨d, digits_lt (List.mem_of_mem_take hd), rfl⟩
  fun_induction encode c l with
  | case1 => cases h
  | case2 x =>
      rcases List.mem_append.mp h with h | h
      · exact .inr (hsymbol h)
      · exact .inl (by simpa using h)
  | case3 x y =>
      rcases List.mem_append.mp h with h | h
      · exact .inr (hsymbol h)
      · exact .inl (by simpa using h)
  | case4 x y z rest ih =>
      rcases List.mem_append.mp h with h | h
      · exact .inr (hsymbol (n := ofBytes x y z) (k := 4) h)
      · exact ih h

/-- The symbols without the padding. -/
def unpadded (l : List α) (pad : α) : List α := l.filter fun s => s ≠ pad

/-- **The padding can be put back.**  It makes up the last group of four. -/
theorem encode_eq_append_pad (l : List UInt8) :
    c.encode l =
      unpadded (c.encode l) c.pad ++
        List.replicate ((4 - (unpadded (c.encode l) c.pad).length % 4) % 4) c.pad := by
  have hsymbols : ∀ n k : Nat, unpadded (((digits n).take k).map c.symbol) c.pad =
      ((digits n).take k).map c.symbol := by
    intro n k
    refine List.filter_eq_self.mpr ?_
    intro s hs
    obtain ⟨d, hd, rfl⟩ := List.mem_map.mp hs
    simpa using symbol_ne_pad (digits_lt (List.mem_of_mem_take hd))
  fun_induction encode c l with
  | case1 => simp [unpadded]
  | case2 x =>
      have hpads : unpadded [c.pad, c.pad] c.pad = [] := by simp [unpadded]
      rw [unpadded, List.filter_append, ← unpadded, ← unpadded, hsymbols, hpads]
      rfl
  | case3 x y =>
      have hpads : unpadded [c.pad] c.pad = [] := by simp [unpadded]
      rw [unpadded, List.filter_append, ← unpadded, ← unpadded, hsymbols, hpads]
      rfl
  | case4 x y z rest ih =>
      have hgroup := hsymbols (ofBytes x y z) 4
      rw [List.take_of_length_le (Nat.le_refl 4)] at hgroup
      rw [unpadded, List.filter_append, ← unpadded, ← unpadded, hgroup, List.length_append]
      have hlength : ((digits (ofBytes x y z)).map c.symbol).length = 4 := rfl
      rw [hlength, Nat.add_mod_left, List.append_assoc, ← ih]

end Base64

end Spark.Lib
