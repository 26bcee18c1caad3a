import MarkdownLayout.Scalar

/-!
Rounding of exact quotients to binary formats. A decimal with a fraction or an exponent is rounded to double
precision first and to single precision after that; an integer goes to single precision directly.
-/

namespace MarkdownLayout

/-- A binary format: significands have at most `precision` bits, units are at least `2 ^ lowest`, and
magnitudes stay below `2 ^ limit`. -/
structure BinaryFormat where
  precision : Nat
  lowest : Int
  limit : Int

namespace BinaryFormat

def single : BinaryFormat := ⟨24, -149, 128⟩

def double : BinaryFormat := ⟨53, -1074, 1024⟩

end BinaryFormat

namespace Rounding

def halfEven (num den : Nat) : Nat :=
  let quotient := num / den
  let rest := 2 * (num % den)
  if den < rest || rest == den && quotient % 2 == 1 then quotient + 1 else quotient

def scaled (num den : Nat) (unit : Int) : Nat × Nat :=
  if unit < 0 then (num * Nat.pow 2 unit.natAbs, den) else (num, den * Nat.pow 2 unit.natAbs)

def binaryExponent (num den : Nat) : Int :=
  let guess : Int := (Nat.log2 num : Int) - Nat.log2 den
  let (n, d) := scaled num den guess
  if n < d then guess - 1 else guess

def nearest (format : BinaryFormat) (num den : Nat) : Option (Nat × Int) :=
  if num = 0 then some (0, format.lowest)
  else
    let unit := max format.lowest (binaryExponent num den - ((format.precision : Int) - 1))
    let (n, d) := scaled num den unit
    let significand := halfEven n d
    if (Nat.log2 significand : Int) + unit < format.limit then some (significand, unit) else none

end Rounding

namespace Scalar

def magnitudeBits (significand : Nat) (unit : Int) : Nat :=
  if significand < Nat.pow 2 23 then significand
  else if significand < Nat.pow 2 24 then (unit + 150).toNat * Nat.pow 2 23 + (significand - Nat.pow 2 23)
  else (unit + 151).toNat * Nat.pow 2 23

def ofMagnitudeBits (negative : Bool) (bits : Nat) : Scalar :=
  ⟨UInt32.ofNat (if negative then Nat.pow 2 31 + bits else bits)⟩

def ofRounded (negative : Bool) : Option (Nat × Int) → Scalar
  | some (significand, unit) => ofMagnitudeBits negative (magnitudeBits significand unit)
  | none => if negative then negativeInfinity else infinity

def ofNat (negative : Bool) (n : Nat) : Scalar :=
  ofRounded negative (Rounding.nearest .single n 1)

def whole (n : Nat) : Scalar :=
  ofNat false n

theorem whole_zero : whole 0 = zero := by decide

def ofInt (n : Int) : Scalar :=
  ofNat (n < 0) n.natAbs

def ofRatio (negative : Bool) (num den : Nat) : Scalar :=
  match Rounding.nearest .double num den with
  | none => ofRounded negative none
  | some (significand, unit) =>
    let (n, d) := Rounding.scaled significand 1 (-unit)
    ofRounded negative (Rounding.nearest .single n d)

/-- The number `digits * 10 ^ exponent`. Exponents far outside the double range are cut off before any power
is computed. -/
def ofDecimal (negative : Bool) (digits : Nat) (exponent : Int) : Scalar :=
  let magnitude : Int := (Nat.toDigits 10 digits).length + exponent
  if digits = 0 || magnitude < -400 then ofMagnitudeBits negative 0
  else if 400 < magnitude then ofRounded negative none
  else if exponent < 0 then ofRatio negative digits (Nat.pow 10 exponent.natAbs)
  else ofRatio negative (digits * Nat.pow 10 exponent.natAbs) 1

end Scalar

end MarkdownLayout
