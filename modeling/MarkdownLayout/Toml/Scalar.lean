import MarkdownLayout.Data
import MarkdownLayout.Scalar.Rounding
import MarkdownLayout.Toml.Lexeme

/-!
Values of TOML that are written without quotes: booleans, numbers, dates and times.
-/

namespace MarkdownLayout.Toml

def isDigitOf (base : Nat) (c : Char) : Bool :=
  (Text.hexValue? c).any (· < base)

/-- Digits without the underscores, which may stand between two digits only. -/
def digits? (base : Nat) : List Char → Option (List Char)
  | [] => none
  | [c] => if isDigitOf base c then some [c] else none
  | c :: '_' :: rest => if isDigitOf base c then (digits? base rest).map (c :: ·) else none
  | c :: rest => if isDigitOf base c then (digits? base rest).map (c :: ·) else none

def digitsValue (base : Nat) (digits : List Char) : Nat :=
  digits.foldl (fun n c => base * n + (Text.hexValue? c).getD 0) 0

def wholeDigits? (cs : List Char) : Option (List Char) :=
  (digits? 10 cs).bind fun digits => if 1 < digits.length ∧ digits.head? = some '0' then none else some digits

def splitSign : List Char → Bool × List Char
  | '-' :: rest => (true, rest)
  | '+' :: rest => (false, rest)
  | cs => (false, cs)

def exponent? (cs : List Char) : Option Int :=
  let (negative, rest) := splitSign cs
  (digits? 10 rest).map fun digits =>
    let value : Int := digitsValue 10 digits
    if negative then -value else value

def overflows (digits : Nat) (exponent : Int) : Bool :=
  let magnitude : Int := (Nat.toDigits 10 digits).length + exponent
  if digits = 0 || magnitude < 300 then false
  else if 400 < magnitude then true
  else
    let (num, den) :=
      if exponent < 0 then (digits, Nat.pow 10 exponent.natAbs) else (digits * Nat.pow 10 exponent.natAbs, 1)
    (Rounding.nearest .double num den).isNone

def float? (negative : Bool) (cs : List Char) : Option Data := do
  let isMark (c : Char) : Bool := c == 'e' || c == 'E'
  let mantissa := cs.takeWhile (!isMark ·)
  let exponent ← match cs.dropWhile (!isMark ·) with
    | [] => some 0
    | _ :: rest => exponent? rest
  let whole ← wholeDigits? (mantissa.takeWhile (· != '.'))
  let fraction ← match mantissa.dropWhile (· != '.') with
    | [] => some []
    | _ :: rest => digits? 10 rest
  let value := digitsValue 10 (whole ++ fraction)
  let exponent := exponent - (fraction.length : Int)
  if overflows value exponent then none else some (.real (.ofDecimal negative value exponent))

def prefixed? : List Char → Option Data
  | '0' :: 'x' :: rest => (digits? 16 rest).map fun digits => .integer (digitsValue 16 digits)
  | '0' :: 'o' :: rest => (digits? 8 rest).map fun digits => .integer (digitsValue 8 digits)
  | '0' :: 'b' :: rest => (digits? 2 rest).map fun digits => .integer (digitsValue 2 digits)
  | _ => none

def number? (cs : List Char) : Option Data :=
  let (negative, rest) := splitSign cs
  if rest = ['i', 'n', 'f'] then some (.real (if negative then .negativeInfinity else .infinity))
  else if rest = ['n', 'a', 'n'] then some (.real .nan)
  else
    match prefixed? cs with
    | some value => some value
    | none =>
      match wholeDigits? rest with
      | some digits =>
        let value : Int := digitsValue 10 digits
        some (.integer (if negative then -value else value))
      | none => float? negative rest

/-! Dates and times -/

def field? (count low high : Nat) (cs : List Char) : Option (Nat × List Char) :=
  let digits := cs.take count
  let value := digitsValue 10 digits
  if digits.length = count ∧ digits.all Char.isDigit ∧ low ≤ value ∧ value ≤ high then some (value, cs.drop count)
  else none

def isLeapYear (year : Nat) : Bool :=
  year % 4 == 0 && (year % 100 != 0 || year % 400 == 0)

def daysOf (year month : Nat) : Nat :=
  if month = 2 then (if isLeapYear year then 29 else 28)
  else if [4, 6, 9, 11].contains month then 30
  else 31

def afterChar? (c : Char) : List Char → Option (List Char)
  | d :: rest => if d = c then some rest else none
  | [] => none

def afterDate? (cs : List Char) : Option (List Char) := do
  let (year, rest) ← field? 4 0 9999 cs
  let (month, rest) ← field? 2 1 12 (← afterChar? '-' rest)
  let (_, rest) ← field? 2 1 (daysOf year month) (← afterChar? '-' rest)
  pure rest

def afterFraction? : List Char → Option (List Char)
  | '.' :: rest => if rest.head?.any Char.isDigit then some (rest.dropWhile Char.isDigit) else none
  | cs => some cs

def afterTime? (cs : List Char) : Option (List Char) := do
  let (_, rest) ← field? 2 0 23 cs
  let (_, rest) ← field? 2 0 59 (← afterChar? ':' rest)
  match rest with
  | ':' :: rest =>
    let (_, rest) ← field? 2 0 60 rest
    afterFraction? rest
  | rest => pure rest

def isOffset (cs : List Char) : Bool :=
  match cs with
  | [] | ['Z'] | ['z'] => true
  | c :: rest =>
    (c == '+' || c == '-') && ((do
      let (_, rest) ← field? 2 0 23 rest
      let (_, rest) ← field? 2 0 59 (← afterChar? ':' rest)
      pure rest.isEmpty : Option Bool).getD false)

def isDate (cs : List Char) : Bool :=
  (afterDate? cs).any List.isEmpty

def isDateTime (cs : List Char) : Bool :=
  match afterDate? cs with
  | some [] => true
  | some (c :: rest) => (c == 'T' || c == 't' || c == ' ') && (afterTime? rest).any isOffset
  | none => (afterTime? cs).any List.isEmpty

/-- A moment is read as a record that no style has a field for. -/
def moment (cs : List Char) : Data :=
  .record [("moment", .text (String.ofList cs))]

def word? (cs : List Char) : Option Data :=
  if cs = "true".toList then some (.bool true)
  else if cs = "false".toList then some (.bool false)
  else if isDateTime cs then some (moment cs)
  else number? cs

def isWordChar (c : Char) : Bool :=
  !(isBlank c || c == '\n' || c == '\r' || c == '#' || c == ',' || c == '[' || c == ']' || c == '\x7b' ||
    c == '\x7d' || c == '=' || isQuote c)

/-- Reads a word. A date and a time with a space in between are one word. -/
def readWord (cs : List Char) : Option (Data × List Char) :=
  let word := cs.takeWhile isWordChar
  let rest := cs.dropWhile isWordChar
  let time := (rest.drop 1).takeWhile isWordChar
  if isDate word && rest.head? == some ' ' && time.head?.any Char.isDigit then
    (word? (word ++ ' ' :: time)).map fun value => (value, (rest.drop 1).dropWhile isWordChar)
  else (word? word).map fun value => (value, rest)

end MarkdownLayout.Toml
