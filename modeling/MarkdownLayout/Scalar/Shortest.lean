import MarkdownLayout.Scalar.Rounding

/-!
The shortest decimal that reads back as a given number, and the two ways to lay its digits out: plain
positional text for outlines, and number literals that always show a fraction or an exponent.
-/

namespace MarkdownLayout.Scalar

structure RoundingInterval where
  low : Nat
  value : Nat
  high : Nat
  den : Nat
  closed : Bool

/-- Halfway to the neighbours on both sides; just above a power of two the lower neighbour is nearer. -/
def roundingInterval (x : Scalar) : RoundingInterval :=
  let m := x.significand
  let below := if m = Nat.pow 2 23 && 1 < x.exponentField then 4 * m - 1 else 4 * m - 2
  let unit := x.unit - 2
  let scale := if unit < 0 then 1 else Nat.pow 2 unit.natAbs
  { low := below * scale
    value := 4 * m * scale
    high := (4 * m + 2) * scale
    den := if unit < 0 then Nat.pow 2 unit.natAbs else 1
    closed := m % 2 == 0 }

namespace RoundingInterval

def holds (r : RoundingInterval) (num den' : Nat) : Bool :=
  let x := num * r.den
  if r.closed then r.low * den' ≤ x && x ≤ r.high * den' else r.low * den' < x && x < r.high * den'

def decimalExponent (r : RoundingInterval) : Int :=
  let guess : Int := (Nat.toDigits 10 r.value).length - (Nat.toDigits 10 r.den).length
  if guess < 0 then
    if r.value * Nat.pow 10 guess.natAbs < r.den then guess - 1 else guess
  else if r.value < r.den * Nat.pow 10 guess.natAbs then guess - 1 else guess

/-- The multiple of `10 ^ exponent` in the interval that is nearest to the value, if there is one. Of two
equally near ones the even one is taken. -/
def onGrid (r : RoundingInterval) (exponent : Int) : Option (Nat × Int) :=
  let up := if exponent < 0 then 1 else Nat.pow 10 exponent.natAbs
  let down := if exponent < 0 then Nat.pow 10 exponent.natAbs else 1
  let floor := r.value * down / (r.den * up)
  let rest := r.value * down % (r.den * up)
  let hits (d : Nat) : Bool := r.holds (d * up) down
  let lowerIsNearer := 2 * rest < r.den * up || 2 * rest == r.den * up && floor % 2 == 0
  if floor != 0 && hits floor && (lowerIsNearer || !hits (floor + 1)) then some (floor, exponent)
  else if hits (floor + 1) then some (floor + 1, exponent)
  else none

end RoundingInterval

/-- Digits `d` and exponent `e` such that `d * 10 ^ e` is the shortest decimal that rounds to the magnitude
of `x`. Nine digits always suffice in single precision, and rounding up may gain a place. -/
def shortest (x : Scalar) : Nat × Int :=
  if x.isZero then (0, 0)
  else
    let r := x.roundingInterval
    let top := r.decimalExponent
    ((List.range 10).findSome? fun (n : Nat) => r.onGrid (top + 1 - n)).getD (0, 0)

def signText (x : Scalar) : String :=
  if x.isNegative then "-" else ""

def zeros (n : Nat) : String :=
  String.ofList (List.replicate n '0')

def positional (digits : Nat) (exponent : Int) : String :=
  let text := toString digits
  if 0 ≤ exponent then text ++ zeros exponent.toNat
  else
    let places := exponent.natAbs
    let padded := zeros (places + 1 - text.length) ++ text
    let whole := padded.toList.take (padded.length - places)
    let rest := padded.toList.drop (padded.length - places)
    String.ofList whole ++ "." ++ String.ofList rest

def display (x : Scalar) : String :=
  if x.isNaN then "NaN"
  else if !x.isFinite then x.signText ++ "inf"
  else
    let (digits, exponent) := x.shortest
    x.signText ++ positional digits exponent

/-- Leading digits are written positionally from `10 ^ -5` up to `10 ^ 15`. -/
def literalLowest : Int := -5

def literalHighest : Int := 15

def literal (x : Scalar) : String :=
  let (digits, exponent) := x.shortest
  let text := toString digits
  let leading : Int := exponent + text.length - 1
  if digits = 0 then x.signText ++ "0.0"
  else if literalLowest ≤ leading && leading ≤ literalHighest then
    x.signText ++ positional digits exponent ++ (if 0 ≤ exponent then ".0" else "")
  else
    let tail := String.ofList (text.toList.drop 1)
    let mantissa := String.ofList (text.toList.take 1) ++ (if tail = "" then "" else "." ++ tail)
    x.signText ++ mantissa ++ "e" ++ (if leading < 0 then "-" else "+") ++ toString leading.natAbs

end MarkdownLayout.Scalar
