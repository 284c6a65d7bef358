import Mathlib.Data.List.Basic
import Mathlib.Algebra.Group.Nat.Basic
/-!
# Padding, in `usize`

`padding(size, mtu)` rounds `size` up to a multiple of
`MESSAGE_PADDING_MULTIPLE` and caps it at the MTU, computing the minimum
branch-free as `a * m + (1 - m) * b`. The model runs every step in
checked `usize` arithmetic, `none` standing for the panic of a debug
build; where no step overflows, a release build's wrapping arithmetic
computes the same value.

`MESSAGE_PADDING_MULTIPLE` lives in a module outside this excerpt, so it
is a parameter. Every step is in range as soon as the rounded-up size is
(`padding_eq`); the value is then `min(mtu, roundUp size)`.
-/

namespace WireguardRs

/-- `usize::MAX` on the 64-bit hosts the bind targets. -/
def USIZE_MAX : Nat := 2 ^ 64 - 1

namespace Usize

/-- A result of `usize` arithmetic: `none` past `usize::MAX`. -/
def checked (r : Nat) : Option Nat := if r ≤ USIZE_MAX then some r else none

/-- `a + b`. -/
def add (a b : Nat) : Option Nat := checked (a + b)

/-- `a * b`. -/
def mul (a b : Nat) : Option Nat := checked (a * b)

/-- `a - b`: `none` below zero. -/
def sub (a b : Nat) : Option Nat := if b ≤ a then some (a - b) else none

/-- `a % b`: `none` for a zero divisor. -/
def rem (a b : Nat) : Option Nat := if b = 0 then none else some (a % b)

variable {a b : Nat}

theorem checked_of_le (h : a ≤ USIZE_MAX) : checked a = some a := if_pos h

theorem add_of_le (h : a + b ≤ USIZE_MAX) : add a b = some (a + b) := checked_of_le h

theorem mul_of_le (h : a * b ≤ USIZE_MAX) : mul a b = some (a * b) := checked_of_le h

theorem sub_of_le (h : b ≤ a) : sub a b = some (a - b) := if_pos h

theorem rem_of_pos (h : 0 < b) : rem a b = some (a % b) := if_neg (Nat.pos_iff_ne_zero.1 h)

end Usize

/-- `min` inside `padding`: `m = (a < b) as usize; a * m + (1 - m) * b`. -/
def paddingMin (a b : Nat) : Option Nat := do
  let m := if a < b then 1 else 0
  let x ← Usize.mul a m
  let y ← Usize.sub 1 m
  let z ← Usize.mul y b
  Usize.add x z

/-- The branch-free minimum is the minimum, with no step out of range. -/
theorem paddingMin_eq {a b : Nat} (ha : a ≤ USIZE_MAX) (hb : b ≤ USIZE_MAX) :
    paddingMin a b = some (min a b) := by
  by_cases h : a < b
  · simp [paddingMin, h, Usize.mul_of_le, Usize.sub_of_le, Usize.add_of_le, ha, Nat.min_eq_left h.le]
  · simp [paddingMin, h, Usize.mul_of_le, Usize.sub_of_le, Usize.add_of_le, hb,
      Nat.min_eq_right (Nat.le_of_not_lt h)]

section

variable (MESSAGE_PADDING_MULTIPLE : Nat)

/-- `padding(size, mtu)`. -/
def padding (size mtu : Nat) : Option Nat := do
  let pad := MESSAGE_PADDING_MULTIPLE
  let r ← Usize.rem size pad
  let d ← Usize.sub pad r
  let d ← Usize.rem d pad
  let s ← Usize.add size d
  paddingMin mtu s

/-- `P * ceil(size / P)`: the least multiple of `P` not below `size`. -/
def roundUp (size : Nat) : Nat :=
  MESSAGE_PADDING_MULTIPLE * ((size + MESSAGE_PADDING_MULTIPLE - 1) / MESSAGE_PADDING_MULTIPLE)

end

section

variable {P : Nat} (hP : 0 < P)
include hP

/-- The code's rounding, `size + (P - size % P) % P`, is `roundUp`. -/
theorem add_sub_mod_eq_roundUp (size : Nat) : size + (P - size % P) % P = roundUp P size := by
  have hsize := Nat.div_add_mod size P
  have hr := Nat.mod_lt size hP
  unfold roundUp
  rcases Nat.eq_zero_or_pos (size % P) with h0 | hpos
  · have hdiv : (size + P - 1) / P = size / P := by
      have : size + P - 1 = P * (size / P) + (P - 1) := by omega
      rw [this, Nat.mul_add_div hP, Nat.div_eq_of_lt (show P - 1 < P by omega), Nat.add_zero]
    rw [h0, Nat.sub_zero, Nat.mod_self, Nat.add_zero, hdiv]
    omega
  · have hdiv : (size + P - 1) / P = size / P + 1 := by
      have : size + P - 1 = P * (size / P) + (size % P + P - 1) := by omega
      rw [this, Nat.mul_add_div hP, Nat.div_eq_of_lt_le (show 1 * P ≤ size % P + P - 1 by omega)
        (show size % P + P - 1 < (1 + 1) * P by omega)]
    rw [Nat.mod_eq_of_lt (by omega : P - size % P < P), hdiv, Nat.mul_succ]
    omega

theorem le_roundUp (size : Nat) : size ≤ roundUp P size := by
  rw [← add_sub_mod_eq_roundUp hP]
  omega

theorem roundUp_le (size : Nat) : roundUp P size ≤ size + (P - 1) := by
  rw [← add_sub_mod_eq_roundUp hP]
  have := Nat.mod_lt (P - size % P) hP
  omega

omit hP in
theorem roundUp_mod (size : Nat) : roundUp P size % P = 0 := Nat.mul_mod_right _ _

/-- `roundUp` is the least multiple of `P` not below `size`. -/
theorem roundUp_le_of_mod {size m : Nat} (hm : m % P = 0) (h : size ≤ m) : roundUp P size ≤ m := by
  have hmq := Nat.div_add_mod m P
  rw [hm, Nat.add_zero] at hmq
  have hq : (size + P - 1) / P < m / P + 1 := by
    rw [Nat.div_lt_iff_lt_mul hP, Nat.succ_mul, Nat.mul_comm (m / P) P, hmq]
    omega
  calc roundUp P size = P * ((size + P - 1) / P) := rfl
    _ ≤ P * (m / P) := Nat.mul_le_mul_left P (Nat.le_of_lt_succ hq)
    _ = m := hmq

/-- A multiple of `P` rounds to itself. -/
theorem roundUp_of_mod {m : Nat} (hm : m % P = 0) : roundUp P m = m :=
  Nat.le_antisymm (roundUp_le_of_mod hP hm le_rfl) (le_roundUp hP m)

/-- **`padding` computes `min(mtu, P * ceil(size / P))`** with no step
out of range, as long as the rounded-up size fits in `usize`. -/
theorem padding_eq {size mtu : Nat} (hs : roundUp P size ≤ USIZE_MAX) (hm : mtu ≤ USIZE_MAX) :
    padding P size mtu = some (min mtu (roundUp P size)) := by
  have hr := Nat.mod_lt size hP
  simp only [padding, Usize.rem_of_pos hP, Option.bind_eq_bind, Option.some_bind,
    Usize.sub_of_le hr.le, Usize.add_of_le ((add_sub_mod_eq_roundUp hP size).symm ▸ hs),
    add_sub_mod_eq_roundUp hP size]
  exact paddingMin_eq hm hs

/-- **`padding` is idempotent**: its result pads to itself. -/
theorem padding_min_roundUp {size mtu : Nat} (hs : roundUp P size ≤ USIZE_MAX)
    (hm : mtu ≤ USIZE_MAX) :
    padding P (min mtu (roundUp P size)) mtu = some (min mtu (roundUp P size)) := by
  rcases Nat.le_total mtu (roundUp P size) with h | h
  · have hr : roundUp P mtu ≤ roundUp P size := roundUp_le_of_mod hP (roundUp_mod size) h
    rw [Nat.min_eq_left h, padding_eq hP (by omega) hm, Nat.min_eq_left (le_roundUp hP mtu)]
  · rw [Nat.min_eq_right h, padding_eq hP (by rwa [roundUp_of_mod hP (roundUp_mod size)]) hm,
      roundUp_of_mod hP (roundUp_mod size), Nat.min_eq_right h]

end

end WireguardRs
