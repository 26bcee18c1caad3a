import MarkdownLayout.Data
import MarkdownLayout.Scalar.Rounding
import MarkdownLayout.Text.Character

/-!
Reading JSON text. Objects keep the order of their keys; of a repeated key the last value counts.
-/

namespace MarkdownLayout.Json

def isBlank (c : Char) : Bool :=
  c == ' ' || c == '\t' || c == '\n' || c == '\r'

def skipBlanks (cs : List Char) : List Char :=
  cs.dropWhile isBlank

def readUnit : List Char → Option (Nat × List Char)
  | a :: b :: c :: d :: rest => do
    let value ← [a, b, c, d].foldlM (fun n x => (Text.hexValue? x).map (16 * n + ·)) 0
    pure (value, rest)
  | _ => none

def readCodePoint (cs : List Char) : Option (Char × List Char) := do
  let (high, rest) ← readUnit cs
  if 0xd800 ≤ high && high ≤ 0xdbff then
    match rest with
    | '\x5c' :: 'u' :: rest =>
      let (low, rest) ← readUnit rest
      if 0xdc00 ≤ low && low ≤ 0xdfff then
        some (Char.ofNat (0x10000 + (high - 0xd800) * 0x400 + (low - 0xdc00)), rest)
      else none
    | _ => none
  else if 0xdc00 ≤ high && high ≤ 0xdfff then none
  else some (Char.ofNat high, rest)

def unescaped? (c : Char) : Option Char :=
  match c with
  | '\x22' => some '\x22'
  | '\x5c' => some '\x5c'
  | '/' => some '/'
  | 'b' => some '\x08'
  | 'f' => some '\x0c'
  | 'n' => some '\n'
  | 'r' => some '\r'
  | 't' => some '\t'
  | _ => none

def readStringRest : Nat → List Char → List Char → Option (String × List Char)
  | 0, _, _ => none
  | fuel + 1, acc, cs =>
    match cs with
    | [] => none
    | '\x22' :: rest => some (String.ofList acc.reverse, rest)
    | '\x5c' :: 'u' :: rest => do
      let (c, rest) ← readCodePoint rest
      readStringRest fuel (c :: acc) rest
    | '\x5c' :: c :: rest => do
      let c ← unescaped? c
      readStringRest fuel (c :: acc) rest
    | c :: rest => if c.toNat < 0x20 then none else readStringRest fuel (c :: acc) rest

def readString (cs : List Char) : Option (String × List Char) :=
  match cs with
  | '\x22' :: rest => readStringRest (rest.length + 1) [] rest
  | _ => none

def digitsValue (cs : List Char) : Nat :=
  cs.foldl (fun n c => 10 * n + (c.toNat - 0x30)) 0

def readDigits (cs : List Char) : Option (List Char × List Char) :=
  match cs.takeWhile Char.isDigit with
  | [] => none
  | digits => some (digits, cs.dropWhile Char.isDigit)

def readFraction (cs : List Char) : Option (List Char × List Char) :=
  match cs with
  | '.' :: rest => readDigits rest
  | _ => some ([], cs)

def readExponent (cs : List Char) : Option (Option Int × List Char) :=
  match cs with
  | e :: rest =>
    if e == 'e' || e == 'E' then
      match rest with
      | '+' :: rest => (readDigits rest).map fun (ds, rest) => (some (digitsValue ds : Int), rest)
      | '-' :: rest => (readDigits rest).map fun (ds, rest) => (some (-(digitsValue ds : Int)), rest)
      | _ => (readDigits rest).map fun (ds, rest) => (some (digitsValue ds : Int), rest)
    else some (none, cs)
  | [] => some (none, cs)

/-- A number without fraction and exponent is an integer if it fits 64 bits; the negative zero is not one. -/
def numberData (negative : Bool) (whole fraction : List Char) (exponent : Option Int) : Data :=
  let digits := digitsValue (whole ++ fraction)
  let value : Int := if negative then -(digits : Int) else digits
  if fraction.isEmpty && exponent.isNone && !(negative && digits == 0) && -0x8000000000000000 ≤ value && value < 0x10000000000000000 then
    .integer value
  else .real (Scalar.ofDecimal negative digits (exponent.getD 0 - fraction.length))

def readNumber (cs : List Char) : Option (Data × List Char) := do
  let (negative, cs) := match cs with
    | '-' :: rest => (true, rest)
    | _ => (false, cs)
  let (whole, cs) ← match cs with
    | '0' :: rest => some (['0'], rest)
    | _ => readDigits cs
  let (fraction, cs) ← readFraction cs
  let (exponent, cs) ← readExponent cs
  pure (numberData negative whole fraction exponent, cs)

mutual

def readValue : Nat → List Char → Option (Data × List Char)
  | 0, _ => none
  | fuel + 1, cs =>
    match skipBlanks cs with
    | 'n' :: 'u' :: 'l' :: 'l' :: rest => some (.null, rest)
    | 't' :: 'r' :: 'u' :: 'e' :: rest => some (.bool true, rest)
    | 'f' :: 'a' :: 'l' :: 's' :: 'e' :: rest => some (.bool false, rest)
    | '\x22' :: rest => (readString ('\x22' :: rest)).map fun (s, rest) => (.text s, rest)
    | '[' :: rest =>
      match skipBlanks rest with
      | ']' :: rest => some (.list [], rest)
      | rest => readItems fuel [] rest
    | '\x7b' :: rest =>
      match skipBlanks rest with
      | '\x7d' :: rest => some (.record [], rest)
      | rest => readFields fuel [] rest
    | rest => readNumber rest

def readItems : Nat → List Data → List Char → Option (Data × List Char)
  | 0, _, _ => none
  | fuel + 1, acc, cs => do
    let (value, rest) ← readValue fuel cs
    match skipBlanks rest with
    | ',' :: rest => readItems fuel (value :: acc) rest
    | ']' :: rest => some (.list (value :: acc).reverse, rest)
    | _ => none

def readFields : Nat → List (String × Data) → List Char → Option (Data × List Char)
  | 0, _, _ => none
  | fuel + 1, fields, cs => do
    let (name, rest) ← readString (skipBlanks cs)
    match skipBlanks rest with
    | ':' :: rest =>
      let (value, rest) ← readValue fuel rest
      let fields := Data.setField name value fields
      match skipBlanks rest with
      | ',' :: rest => readFields fuel fields rest
      | '\x7d' :: rest => some (.record fields, rest)
      | _ => none
    | _ => none

end

def read (s : String) : Option Data := do
  let cs := s.toList
  let (value, rest) ← readValue (2 * cs.length + 2) cs
  if (skipBlanks rest).isEmpty then some value else none

end MarkdownLayout.Json
