import Mathlib.Data.Fin.Basic
import Mathlib.Data.List.Induction
import Mathlib.Tactic.Ring

/-!
# Byte buffers

A model of the part of a byte-buffer library that framing code is written in: reading and
splitting a buffer from the front, and appending to it.

A buffer is the list of its readable bytes.  Reading past the end of a buffer is not an error
value in such a library, it is a panic, so every reading operation here answers an `Option` and
`none` is the panic.  What a caller has to show is that it never meets one.

Integers of a given number of bytes are big endian: `beBytes v n` keeps the `n` low-order bytes
of `v`, most significant first, and drops the rest of `v` without a word.  `beNat` reads them
back, so that `beNat (beBytes v n)` is `v % 256 ^ n` (`beNat_beBytes`) and not `v`.
-/

set_option autoImplicit false

/-- An unsigned byte. -/
abbrev U8 := Fin 256

/-- The readable bytes of a buffer. -/
abbrev Bytes := List U8

/-- There are bytes, so a number has a low-order byte and `0` is a byte. -/
instance neZeroBytes : NeZero 256 := ⟨by decide⟩

namespace Bytes

/-! ## Big endian integers -/

/-- The `n` low-order bytes of `v`, most significant byte first. -/
def beBytes (v : ℕ) : ℕ → Bytes
  | 0 => []
  | n + 1 => beBytes (v / 256) n ++ [Fin.ofNat 256 v]

/-- The number a big endian byte string denotes. -/
def beNat (b : Bytes) : ℕ := b.foldl (fun acc x ↦ acc * 256 + x.val) 0

@[simp] theorem length_beBytes (v n : ℕ) : (beBytes v n).length = n := by
  induction n generalizing v with
  | zero => rfl
  | succ n ih => rw [beBytes, List.length_append, ih, List.length_singleton]

theorem beNat_append_singleton (b : Bytes) (x : U8) : beNat (b ++ [x]) = beNat b * 256 + x.val := by
  rw [beNat, List.foldl_append]
  rfl

/-- **What is written is read back modulo the width.** -/
theorem beNat_beBytes (v n : ℕ) : beNat (beBytes v n) = v % 256 ^ n := by
  induction n generalizing v with
  | zero => rw [pow_zero, Nat.mod_one]; rfl
  | succ n ih =>
    rw [beBytes, beNat_append_singleton, ih, Fin.val_ofNat, pow_succ', Nat.mod_mul, mul_comm,
      add_comm]

/-- **What was read is written back**: a byte string is determined by its length and the number
it denotes. -/
theorem beBytes_beNat (b : Bytes) : beBytes (beNat b) b.length = b := by
  induction b using List.reverseRecOn with
  | nil => rfl
  | append_singleton b x ih =>
    have hx := x.isLt
    rw [beNat_append_singleton, List.length_append, List.length_singleton, beBytes,
      show (beNat b * 256 + x.val) / 256 = beNat b by omega, ih]
    congr 2
    exact Fin.ext (by rw [Fin.val_ofNat]; omega)

/-! ## Reading from the front

`none` is the panic of a read that would pass the end. -/

/-- `Buf::get_u8`: the first byte, and the rest. -/
def getU8 : Bytes → Option (U8 × Bytes)
  | [] => none
  | x :: rest => some (x, rest)

/-- `Buf::advance`: drop the first `n` bytes. -/
def advance (n : ℕ) (src : Bytes) : Option Bytes :=
  if n ≤ src.length then some (src.drop n) else none

/-- `Buf::get_uint`: the unsigned integer in the first `n` bytes, and the rest. -/
def getUint (n : ℕ) (src : Bytes) : Option (ℕ × Bytes) :=
  if n ≤ src.length then some (beNat (src.take n), src.drop n) else none

/-- `BytesMut::split_to`: the first `n` bytes, and what stays in the buffer. -/
def splitTo (n : ℕ) (src : Bytes) : Option (Bytes × Bytes) :=
  if n ≤ src.length then some (src.take n, src.drop n) else none

/-- `BytesMut::split_off`: what stays in the buffer, and everything after the first `n` bytes. -/
def splitOff (n : ℕ) (src : Bytes) : Option (Bytes × Bytes) :=
  if n ≤ src.length then some (src.take n, src.drop n) else none

theorem advance_of_le {n : ℕ} {src : Bytes} (h : n ≤ src.length) :
    advance n src = some (src.drop n) := if_pos h

theorem getUint_of_le {n : ℕ} {src : Bytes} (h : n ≤ src.length) :
    getUint n src = some (beNat (src.take n), src.drop n) := if_pos h

theorem splitTo_of_le {n : ℕ} {src : Bytes} (h : n ≤ src.length) :
    splitTo n src = some (src.take n, src.drop n) := if_pos h

/-! ## Appending at the end -/

/-- `BufMut::put_uint`: append the `n` low-order bytes of `v`. -/
def putUint (dst : Bytes) (v n : ℕ) : Bytes := dst ++ beBytes v n

/-- `BufMut::put_u8`. -/
def putU8 (dst : Bytes) (x : U8) : Bytes := dst ++ [x]

/-- `BytesMut::extend_from_slice`. -/
def extendFromSlice (dst src : Bytes) : Bytes := dst ++ src

end Bytes
