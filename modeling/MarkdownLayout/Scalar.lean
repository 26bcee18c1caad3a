/-!
Lengths and sizes are single-precision numbers. Nothing here computes with them: they are read,
compared and printed, so a number is its bit pattern.
-/

namespace MarkdownLayout

/-- A single-precision number in the usual interchange layout: sign, eight exponent bits, 23 fraction bits. -/
structure Scalar where
  bits : UInt32
  deriving DecidableEq, Repr, Inhabited

namespace Scalar

def zero : Scalar := ⟨0⟩

def infinity : Scalar := ⟨0x7f800000⟩

def negativeInfinity : Scalar := ⟨0xff800000⟩

def nan : Scalar := ⟨0x7fc00000⟩

def isNegative (x : Scalar) : Bool :=
  Nat.pow 2 31 ≤ x.bits.toNat

def exponentField (x : Scalar) : Nat :=
  x.bits.toNat / Nat.pow 2 23 % 256

def fraction (x : Scalar) : Nat :=
  x.bits.toNat % Nat.pow 2 23

def isFinite (x : Scalar) : Bool :=
  x.exponentField != 255

def isNaN (x : Scalar) : Bool :=
  x.exponentField == 255 && x.fraction != 0

def isZero (x : Scalar) : Bool :=
  x.exponentField == 0 && x.fraction == 0

/-- Numerical equality: not-a-number differs from everything, and the two zeros are equal. -/
def agrees (x y : Scalar) : Bool :=
  !x.isNaN && !y.isNaN && (x == y || x.isZero && y.isZero)

/-- The magnitude of a finite number is `significand * 2 ^ unit`. -/
def significand (x : Scalar) : Nat :=
  if x.exponentField = 0 then x.fraction else Nat.pow 2 23 + x.fraction

def unit (x : Scalar) : Int :=
  if x.exponentField = 0 then -149 else (x.exponentField : Int) - 150

theorem agrees_comm (x y : Scalar) : x.agrees y = y.agrees x := by
  simp only [agrees]
  rw [Bool.and_comm (!x.isNaN), Bool.and_comm x.isZero, BEq.comm (a := x)]

theorem agrees_self_iff (x : Scalar) : x.agrees x = true ↔ x.isNaN = false := by
  simp [agrees]

end Scalar

end MarkdownLayout
