/-
# `SmartManager.Libc.Conv` — the C library conversions the program relies on.

`strtol` and `strtoul` read the numeric fields of hostapd's `STATUS` reply.  They are modelled
as the C standard gives them for base 10 on the LP64 targets the program runs on (`long` and
`unsigned long` are 64 bits): leading white space is skipped, an optional sign is read, then the
longest run of decimal digits; no digits reads as zero, and an overflow saturates.  A leading
minus sign in `strtoul` negates the value in `unsigned long`.

The conversions C applies on assignment (`(int32_t)`, `(int)`, `(uint32_t)`, `(uint16_t)`,
`(uint8_t)`) reduce modulo the width, two's complement for the signed ones.
-/
import Mathlib.Data.Nat.Digits

namespace SmartManager.Libc

/-! ## §1 — integer conversions -/

/-- Conversion to `int32_t` or `int`: the two's complement wrap to `[-2^31, 2^31)`. -/
def toInt32 (v : Int) : Int := v.bmod (2 ^ 32)

/-- Conversion to `uint32_t`. -/
def u32OfInt (v : Int) : UInt32 := UInt32.ofNat (v % 2 ^ 32).toNat

/-- Conversion to `uint16_t`. -/
def u16OfInt (v : Int) : UInt16 := UInt16.ofNat (v % 2 ^ 16).toNat

/-- Conversion to `uint8_t`. -/
def u8OfInt (v : Int) : UInt8 := UInt8.ofNat (v % 2 ^ 8).toNat

theorem toInt32_of_mem {v : Int} (lo : -2 ^ 31 ≤ v) (hi : v < 2 ^ 31) : toInt32 v = v := by
  rw [toInt32, Int.bmod_def]; split <;> omega

theorem uint32_eq_iff_toNat_eq {a b : UInt32} : a = b ↔ a.toNat = b.toNat :=
  ⟨congrArg _, fun h => UInt32.eq_of_toBitVec_eq (BitVec.eq_of_toNat_eq h)⟩

theorem uint32_lt_iff_toNat_lt {a b : UInt32} : a < b ↔ a.toNat < b.toNat := Iff.rfl

theorem uint32_toNat_ofNat (n : Nat) : (UInt32.ofNat n).toNat = n % 2 ^ 32 := rfl

theorem uint8_toNat_toUInt32 (x : UInt8) : x.toUInt32.toNat = x.toNat := rfl

theorem uint32_toNat_add (a b : UInt32) : (a + b).toNat = (a.toNat + b.toNat) % 2 ^ 32 := by
  show (a.toBitVec + b.toBitVec).toNat = _
  rw [BitVec.toNat_add]; rfl

theorem uint32_toNat_mul (a b : UInt32) : (a * b).toNat = a.toNat * b.toNat % 2 ^ 32 := by
  show (a.toBitVec * b.toBitVec).toNat = _
  rw [BitVec.toNat_mul]; rfl

/-- Multiplication in `int`: `none` when the product leaves `[-2^31, 2^31)`, where C leaves the
behaviour undefined. -/
def intMul (a b : Int) : Option Int :=
  if -2 ^ 31 ≤ a * b ∧ a * b < 2 ^ 31 then some (a * b) else none

theorem intMul_of_mem {a b : Int} (lo : -2 ^ 31 ≤ a * b) (hi : a * b < 2 ^ 31) :
    intMul a b = some (a * b) := if_pos ⟨lo, hi⟩

theorem intMul_of_le {a b : Int} (h : 2 ^ 31 ≤ a * b) : intMul a b = none := if_neg (by omega)

theorem intMul_eq_some {a b c : Int} (h : intMul a b = some c) : c = a * b := by
  unfold intMul at h
  split_ifs at h
  exact (Option.some.inj h).symm

/-! ## §2 — `strtol` and `strtoul` in base 10 -/

/-- `isspace` in the C locale. -/
def isSpace (c : Char) : Bool :=
  c = ' ' || c = '\t' || c = '\n' || c = '\x0B' || c = '\x0C' || c = '\r'

/-- `isdigit`. -/
def isDigit (c : Char) : Bool := '0' ≤ c && c ≤ '9'

/-- The value of a run of decimal digits, most significant first. -/
def digitsValue (ds : List Char) : Nat :=
  ds.foldl (fun n c => n * 10 + (c.toNat - '0'.toNat)) 0

/-- The optional sign of a number: whether it is a minus, the text after it, and whether a sign
was read. -/
def scanSign : List Char → Bool × List Char × Bool
  | '-' :: r => (true, r, true)
  | '+' :: r => (false, r, true)
  | r => (false, r, false)

/-- What the base-10 conversions read after the white space: whether a minus sign was given,
and the run of digits that follows the sign. -/
def scanSigned (s : List Char) : Bool × List Char :=
  let (neg, r, _) := scanSign (s.dropWhile isSpace)
  (neg, r.takeWhile isDigit)

/-- `LONG_MAX` for a 64-bit `long`. -/
def longMax : Int := 2 ^ 63 - 1

/-- `ULONG_MAX` for a 64-bit `unsigned long`. -/
def ulongMax : Nat := 2 ^ 64 - 1

/-- The value `strtol` gives a sign and a run of digits: saturated to the range of `long`. -/
def strtolOf (neg : Bool) (ds : List Char) : Int :=
  if neg then max (-(digitsValue ds : Int)) (-longMax - 1) else min (digitsValue ds) longMax

/-- The value `strtoul` gives a sign and a run of digits: `ULONG_MAX` on overflow, negated in
`unsigned long` after a minus sign. -/
def strtoulOf (neg : Bool) (ds : List Char) : Nat :=
  if ulongMax < digitsValue ds then ulongMax
  else if neg then (2 ^ 64 - digitsValue ds) % 2 ^ 64 else digitsValue ds

/-- `strtol(s, NULL, 10)`. -/
def strtol (s : List Char) : Int := strtolOf (scanSigned s).1 (scanSigned s).2

/-- `strtoul(s, NULL, 10)`. -/
def strtoul (s : List Char) : Nat := strtoulOf (scanSigned s).1 (scanSigned s).2

/-- The C string a value buffer holds: its bytes up to the first `NUL`. -/
def cString (b : List UInt8) : List Char :=
  (b.takeWhile (· ≠ 0)).map fun x => Char.ofNat x.toNat

end SmartManager.Libc
