import MarkdownLayout.Text.CaseFold
import MarkdownLayout.Text.Character
import MarkdownLayout.Url
import MarkdownLayout.Url.Percent
import MarkdownLayout.Url.Punycode

/-!
Reading the host of a URL: names above ASCII, addresses of both kinds, and the characters no host may hold.
-/

namespace MarkdownLayout.Host

def forbidden (c : Char) : Bool :=
  ['\x00', '\t', '\n', '\r', ' ', '#', '/', ':', '<', '>', '?', '@', '[', '\x5c', ']', '^', '|'].contains c

def forbiddenInName (c : Char) : Bool :=
  forbidden c || c.toNat < 0x20 || c == '%' || c.toNat == 0x7f

def isIgnored (c : Char) : Bool :=
  [0xad, 0x200b, 0x2060, 0xfeff].contains c.toNat || 0xfe00 ≤ c.toNat && c.toNat ≤ 0xfe0f

/-- White space above ASCII, control characters, and code points that stand for no character of their own: no
name holds them. -/
def isRefused (c : Char) : Bool :=
  let n := c.toNat
  0x80 ≤ n && (n < 0xa0 || Text.isBlank c || 0xe000 ≤ n && n ≤ 0xf8ff || 0xfdd0 ≤ n && n ≤ 0xfdef ||
    0xfff9 ≤ n && n ≤ 0xffff || 0xfffe ≤ n % 0x10000 || 0xe0000 ≤ n)

/-- Letters that a change of case would turn into others, and that names keep apart: the sharp s, the final
sigma. -/
def keptLetters : List Nat := [0xdf, 0x3c2]

def normalizeChar (c : Char) : List Char :=
  if isIgnored c then []
  else if [0x3002, 0xff0e, 0xff61].contains c.toNat then ['.']
  else if 0xff01 ≤ c.toNat && c.toNat ≤ 0xff5e then Text.foldChar (Char.ofNat (c.toNat - 0xfee0))
  else if c.toNat == 0x1e9e then ['\u00df']
  else if keptLetters.contains c.toNat then [c]
  else Text.foldChar c

def splitOn (separator : Char) (cs : List Char) : List (List Char) :=
  cs.foldr (fun c parts =>
    if c = separator then [] :: parts
    else match parts with
      | [] => [[c]]
      | part :: rest => (c :: part) :: rest) [[]]

/-- A label above ASCII is encoded; one that claims to be encoded must decode to something above ASCII, in the
form that names are compared in. -/
def asciiLabel? (label : List Char) : Option (List Char) :=
  if label.all fun c => c.toNat < 0x80 then
    match label with
    | 'x' :: 'n' :: '-' :: '-' :: encoded =>
      match Punycode.decode? encoded with
      | some decoded =>
        if (decoded.any fun c => 0x80 ≤ c.toNat) && !decoded.any isRefused &&
            decoded.flatMap normalizeChar == decoded then some label
        else none
      | none => none
    | _ => some label
  else some (['x', 'n', '-', '-'] ++ Punycode.encode label)

def asciiName? (cs : List Char) : Option (List Char) :=
  if cs.any fun c => isRefused c && !isIgnored c then none
  else do
    let labels ← (splitOn '.' (cs.flatMap normalizeChar)).mapM asciiLabel?
    pure ((labels.intersperse ['.']).flatten)

def valueInBase (base : Nat) (cs : List Char) : Option Nat :=
  cs.foldlM (fun n c =>
    match Text.hexValue? c with
    | some d => if d < base then some (base * n + d) else none
    | none => none) 0

/-- A part of an address: hexadecimal after `0x`, octal after `0`, else decimal. -/
def addressPart? (cs : List Char) : Option Nat :=
  match cs with
  | [] => none
  | '0' :: 'x' :: digits => valueInBase 16 digits
  | '0' :: 'X' :: digits => valueInBase 16 digits
  | '0' :: d :: digits => valueInBase 8 (d :: digits)
  | digits => valueInBase 10 digits

def nameParts (cs : List Char) : List (List Char) :=
  match (splitOn '.' cs).reverse with
  | [] :: part :: rest => (part :: rest).reverse
  | parts => parts.reverse

def endsInNumber (cs : List Char) : Bool :=
  match (nameParts cs).getLast? with
  | none => false
  | some [] => false
  | some part => part.all Char.isDigit || ((part.take 2 == ['0', 'x'] || part.take 2 == ['0', 'X']) &&
      (addressPart? part).isSome)

/-- All parts but the last are bytes; the last one fills the bytes that are left. -/
def ipv4? (cs : List Char) : Option Nat := do
  let parts := nameParts cs
  if 4 < parts.length then none
  else do
    let numbers ← parts.mapM addressPart?
    let last ← numbers.getLast?
    let leading := numbers.dropLast
    if leading.any (255 < ·) || Nat.pow 256 (4 - leading.length) ≤ last then none
    else
      let high := (leading.zipIdx.map fun (n, i) => n * Nat.pow 256 (3 - i)).foldr (· + ·) 0
      pure (high + last)

def ipv6Piece? (cs : List Char) : Option Nat :=
  if cs.isEmpty || 4 < cs.length then none else valueInBase 16 cs

def byte? (cs : List Char) : Option Nat :=
  match cs with
  | [] => none
  | '0' :: _ :: _ => none
  | _ => (valueInBase 10 cs).bind fun n => if n ≤ 255 then some n else none

def ipv6Pieces? (dottedAllowed : Bool) (cs : List Char) : Option (List Nat) :=
  if cs.isEmpty then some []
  else do
    let parts := splitOn ':' cs
    let last ← parts.getLast?
    let leading ← parts.dropLast.mapM ipv6Piece?
    if last.contains '.' then
      if dottedAllowed then
        match ← (splitOn '.' last).mapM byte? with
        | [a, b, c, d] => pure (leading ++ [256 * a + b, 256 * c + d])
        | _ => none
      else none
    else pure (leading ++ [← ipv6Piece? last])

def splitAtDoubleColon : List Char → Option (List Char × List Char)
  | ':' :: ':' :: rest => some ([], rest)
  | c :: rest => (splitAtDoubleColon rest).map fun (before, after) => (c :: before, after)
  | [] => none

/-- Eight pieces, of which a run of one or more zeros may be left out once. -/
def ipv6? (cs : List Char) : Option (List Nat) :=
  match splitAtDoubleColon cs with
  | some (before, after) => do
    let high ← ipv6Pieces? false before
    let low ← ipv6Pieces? true after
    if high.length + low.length < 8 then
      pure (high ++ List.replicate (8 - high.length - low.length) 0 ++ low)
    else none
  | none => do
    let pieces ← ipv6Pieces? true cs
    if pieces.length = 8 then pure pieces else none

def parseName? (cs : List Char) : Option Host := do
  let decoded ← Percent.decodeText? cs
  let ascii ← asciiName? decoded.toList
  if ascii.isEmpty || ascii.any forbiddenInName then none
  else if endsInNumber ascii then (ipv4? ascii).map .ipv4
  else pure (.name (String.ofList ascii))

def parseOpaque? (cs : List Char) : Option Host :=
  if cs.any forbidden then none else some (.name (Percent.encode Percent.controls cs))

def parse? (special : Bool) (cs : List Char) : Option Host :=
  match cs with
  | '[' :: rest =>
    match rest.getLast? with
    | some ']' => (ipv6? rest.dropLast).map .ipv6
    | _ => none
  | _ => if special then parseName? cs else parseOpaque? cs

end MarkdownLayout.Host
