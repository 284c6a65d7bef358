import Mathlib.Data.List.Basic
import Mathlib.Algebra.Group.Nat.Basic
/-!
# Host byte order

The Linux bind stores integers in C structures that the kernel reads as
bytes, so whether a field holds the right value depends on the host's
byte order. This file fixes the vocabulary: the `w` bytes of an integer
least significant first (`leBytes`) or most significant first
(`beBytes`), the integer a host reads back from memory
(`Endian.ofNeBytes`), and Rust's `to_be` (`Endian.toBe`; `from_be` is
the same map).

The laws are the round trips (`ofLeBytes_leBytes`, `leBytes_ofLeBytes`)
and the fact every later proof about addresses uses: the memory of
`x.to_be()` is the big-endian encoding of `x` on either host
(`toNeBytes_toBe`).
-/

namespace WireguardRs

/-! ## Byte strings of an integer -/

/-- The `w` bytes of `x`, least significant first: `x.to_le_bytes()` for a
`w`-byte integer. Bits above `8 * w` are dropped. -/
def leBytes : Nat → Nat → List UInt8
  | 0, _ => []
  | w + 1, x => UInt8.ofNat x :: leBytes w (x / 256)

/-- The integer whose little-endian bytes are `bs`: `from_le_bytes`. -/
def ofLeBytes : List UInt8 → Nat
  | [] => 0
  | b :: bs => b.toNat + 256 * ofLeBytes bs

/-- The `w` bytes of `x`, most significant first: `x.to_be_bytes()`, which
is also network byte order. -/
def beBytes (w x : Nat) : List UInt8 := (leBytes w x).reverse

/-- The integer whose big-endian bytes are `bs`: `from_be_bytes`. -/
def ofBeBytes (bs : List UInt8) : Nat := ofLeBytes bs.reverse

@[simp] theorem toNat_uInt8_ofNat (x : Nat) : (UInt8.ofNat x).toNat = x % 256 := rfl

@[simp] theorem length_leBytes (w x : Nat) : (leBytes w x).length = w := by
  induction w generalizing x with
  | zero => rfl
  | succ w ih => simp [leBytes, ih]

@[simp] theorem length_beBytes (w x : Nat) : (beBytes w x).length = w := by
  simp [beBytes]

theorem ofLeBytes_leBytes (w x : Nat) : ofLeBytes (leBytes w x) = x % 256 ^ w := by
  induction w generalizing x with
  | zero => simp [leBytes, ofLeBytes, Nat.mod_one]
  | succ w ih => rw [leBytes, ofLeBytes, ih, toNat_uInt8_ofNat, Nat.pow_succ', Nat.mod_mul]

theorem ofLeBytes_lt (bs : List UInt8) : ofLeBytes bs < 256 ^ bs.length := by
  induction bs with
  | nil => simp [ofLeBytes]
  | cons b bs ih =>
    have hb : b.toNat < 256 := b.toNat_lt_size
    rw [ofLeBytes, List.length_cons, Nat.pow_succ]
    omega

theorem leBytes_ofLeBytes (bs : List UInt8) : leBytes bs.length (ofLeBytes bs) = bs := by
  induction bs with
  | nil => rfl
  | cons b bs ih =>
    have hb : b.toNat < 256 := b.toNat_lt_size
    have hdiv : (b.toNat + 256 * ofLeBytes bs) / 256 = ofLeBytes bs := by omega
    rw [List.length_cons, leBytes, ofLeBytes, hdiv, ih]
    exact congrArg (· :: bs) (UInt8.toNat.inj (by simp only [toNat_uInt8_ofNat]; omega))

theorem ofBeBytes_beBytes (w x : Nat) : ofBeBytes (beBytes w x) = x % 256 ^ w := by
  simp [ofBeBytes, beBytes, ofLeBytes_leBytes]

theorem ofBeBytes_lt (bs : List UInt8) : ofBeBytes bs < 256 ^ bs.length := by
  simpa [ofBeBytes] using ofLeBytes_lt bs.reverse

theorem beBytes_ofBeBytes (bs : List UInt8) : beBytes bs.length (ofBeBytes bs) = bs := by
  simpa [beBytes, ofBeBytes] using congrArg List.reverse (leBytes_ofLeBytes bs.reverse)

/-- Reading little-endian bytes as big-endian ones reverses them. -/
theorem beBytes_ofLeBytes (bs : List UInt8) : beBytes bs.length (ofLeBytes bs) = bs.reverse := by
  rw [beBytes, leBytes_ofLeBytes]

/-! ## The host -/

/-- The byte order of the host the bind runs on. -/
inductive Endian where
  | little
  | big
  deriving DecidableEq, Repr

namespace Endian

/-- The bytes a `w`-byte integer occupies in memory: `x.to_ne_bytes()`. -/
def toNeBytes : Endian → Nat → Nat → List UInt8
  | little, w, x => leBytes w x
  | big, w, x => beBytes w x

/-- The integer a host reads from bytes in memory: `from_ne_bytes`. -/
def ofNeBytes : Endian → List UInt8 → Nat
  | little, bs => ofLeBytes bs
  | big, bs => ofBeBytes bs

/-- `x.to_be()` for a `w`-byte integer, and equally `from_be`: the identity
on a big-endian host, a byte swap on a little-endian one. -/
def toBe : Endian → Nat → Nat → Nat
  | little, w, x => ofLeBytes (beBytes w x)
  | big, _, x => x

variable (e : Endian) {w x : Nat}

@[simp] theorem length_toNeBytes : (e.toNeBytes w x).length = w := by
  cases e <;> simp [toNeBytes]

theorem ofNeBytes_toNeBytes : e.ofNeBytes (e.toNeBytes w x) = x % 256 ^ w := by
  cases e
  · exact ofLeBytes_leBytes w x
  · exact ofBeBytes_beBytes w x

theorem ofNeBytes_lt (bs : List UInt8) : e.ofNeBytes bs < 256 ^ bs.length := by
  cases e
  · exact ofLeBytes_lt bs
  · exact ofBeBytes_lt bs

theorem toNeBytes_ofNeBytes (bs : List UInt8) : e.toNeBytes bs.length (e.ofNeBytes bs) = bs := by
  cases e
  · exact leBytes_ofLeBytes bs
  · exact beBytes_ofBeBytes bs

theorem toBe_lt (hx : x < 256 ^ w) : e.toBe w x < 256 ^ w := by
  cases e
  · simpa using ofLeBytes_lt (beBytes w x)
  · exact hx

/-- **`to_be` puts an integer in network byte order**: in memory, on either
host, `x.to_be()` is the big-endian encoding of `x`. -/
theorem toNeBytes_toBe : e.toNeBytes w (e.toBe w x) = beBytes w x := by
  cases e
  · simpa [toNeBytes, toBe] using leBytes_ofLeBytes (beBytes w x)
  · rfl

/-- A host reading network-order bytes gets `to_be` of their value. -/
theorem ofNeBytes_beBytes (hx : x < 256 ^ w) : e.ofNeBytes (beBytes w x) = e.toBe w x := by
  cases e
  · rfl
  · simpa [ofNeBytes, toBe] using (ofBeBytes_beBytes w x).trans (Nat.mod_eq_of_lt hx)

/-- `from_be` undoes `to_be`. -/
theorem toBe_toBe (hx : x < 256 ^ w) : e.toBe w (e.toBe w x) = x := by
  cases e
  · have h := beBytes_ofLeBytes (beBytes w x)
    rw [length_beBytes] at h
    show ofLeBytes (beBytes w (ofLeBytes (beBytes w x))) = x
    rw [h, beBytes, List.reverse_reverse, ofLeBytes_leBytes, Nat.mod_eq_of_lt hx]
  · rfl

/-! ## `u16` and `u32` fields

Each is the width-`w` operation above at its type's width. -/

/-- `u16::to_be`, and equally `u16::from_be`. -/
def toBe16 (x : UInt16) : UInt16 := UInt16.ofNat (e.toBe 2 x.toNat)

/-- `u32::to_be`, and equally `u32::from_be`. -/
def toBe32 (x : UInt32) : UInt32 := UInt32.ofNat (e.toBe 4 x.toNat)

/-- The two bytes a `u16` field occupies in memory. -/
def bytes16 (x : UInt16) : List UInt8 := e.toNeBytes 2 x.toNat

/-- The four bytes a `u32` field occupies in memory. -/
def bytes32 (x : UInt32) : List UInt8 := e.toNeBytes 4 x.toNat

/-- The `u16` a host reads from two bytes of memory. -/
def read16 (bs : List UInt8) : UInt16 := UInt16.ofNat (e.ofNeBytes bs)

/-- The `u32` a host reads from four bytes of memory. -/
def read32 (bs : List UInt8) : UInt32 := UInt32.ofNat (e.ofNeBytes bs)

variable {e}

@[simp] theorem toNat_uInt16_ofNat (x : Nat) : (UInt16.ofNat x).toNat = x % 256 ^ 2 := rfl

@[simp] theorem toNat_uInt32_ofNat (x : Nat) : (UInt32.ofNat x).toNat = x % 256 ^ 4 := rfl

theorem toNat_lt16 (x : UInt16) : x.toNat < 256 ^ 2 := x.toNat_lt_size

theorem toNat_lt32 (x : UInt32) : x.toNat < 256 ^ 4 := x.toNat_lt_size

@[simp] theorem uInt16_ofNat_toNat (x : UInt16) : UInt16.ofNat x.toNat = x :=
  UInt16.toNat.inj (Nat.mod_eq_of_lt x.toNat_lt_size)

@[simp] theorem uInt32_ofNat_toNat (x : UInt32) : UInt32.ofNat x.toNat = x :=
  UInt32.toNat.inj (Nat.mod_eq_of_lt x.toNat_lt_size)

@[simp] theorem length_bytes16 (x : UInt16) : (e.bytes16 x).length = 2 := by simp [bytes16]

@[simp] theorem length_bytes32 (x : UInt32) : (e.bytes32 x).length = 4 := by simp [bytes32]

@[simp] theorem read16_bytes16 (x : UInt16) : e.read16 (e.bytes16 x) = x := by
  rw [read16, bytes16, ofNeBytes_toNeBytes, Nat.mod_eq_of_lt (toNat_lt16 x), uInt16_ofNat_toNat]

@[simp] theorem read32_bytes32 (x : UInt32) : e.read32 (e.bytes32 x) = x := by
  rw [read32, bytes32, ofNeBytes_toNeBytes, Nat.mod_eq_of_lt (toNat_lt32 x), uInt32_ofNat_toNat]

/-- The memory of `x.to_be()` is `x` in network byte order. -/
@[simp] theorem bytes16_toBe16 (x : UInt16) : e.bytes16 (e.toBe16 x) = beBytes 2 x.toNat := by
  rw [bytes16, toBe16, toNat_uInt16_ofNat, Nat.mod_eq_of_lt (e.toBe_lt (toNat_lt16 x)),
    toNeBytes_toBe]

@[simp] theorem bytes32_toBe32 (x : UInt32) : e.bytes32 (e.toBe32 x) = beBytes 4 x.toNat := by
  rw [bytes32, toBe32, toNat_uInt32_ofNat, Nat.mod_eq_of_lt (e.toBe_lt (toNat_lt32 x)),
    toNeBytes_toBe]

/-- `u16::from_be(x.to_be()) == x`. -/
@[simp] theorem toBe16_toBe16 (x : UInt16) : e.toBe16 (e.toBe16 x) = x := by
  rw [toBe16, toBe16, toNat_uInt16_ofNat, Nat.mod_eq_of_lt (e.toBe_lt (toNat_lt16 x)),
    toBe_toBe e (toNat_lt16 x), uInt16_ofNat_toNat]

/-- A `u16` stored without `to_be` is, in network byte order, the value
`x.to_be()`. -/
theorem bytes16_eq_beBytes (x : UInt16) : e.bytes16 x = beBytes 2 (e.toBe16 x).toNat := by
  conv_lhs => rw [← @toBe16_toBe16 e x]
  exact bytes16_toBe16 _

/-- A host reading a network-order `u16` gets `to_be` of its value. -/
theorem read16_beBytes (x : UInt16) : e.read16 (beBytes 2 x.toNat) = e.toBe16 x := by
  rw [read16, ofNeBytes_beBytes e (toNat_lt16 x), toBe16]

/-- A host reading a network-order `u32` gets `to_be` of its value. -/
theorem read32_beBytes (x : UInt32) : e.read32 (beBytes 4 x.toNat) = e.toBe32 x := by
  rw [read32, ofNeBytes_beBytes e (toNat_lt32 x), toBe32]

@[simp] theorem toBe16_big (x : UInt16) : big.toBe16 x = x := uInt16_ofNat_toNat x

@[simp] theorem toBe32_big (x : UInt32) : big.toBe32 x = x := uInt32_ofNat_toNat x

end Endian

end WireguardRs
