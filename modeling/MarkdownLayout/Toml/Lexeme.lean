import MarkdownLayout.Text.Character

/-!
Blanks, comments, keys and strings of TOML. Readers answer with what they read and the rest of the text.
-/

namespace MarkdownLayout.Toml

def isBlank (c : Char) : Bool :=
  c == ' ' || c == '\t'

def isControl (c : Char) : Bool :=
  c.toNat < 0x20 && c != '\t' || c.toNat == 0x7f

def skipBlanks (cs : List Char) : List Char :=
  cs.dropWhile isBlank

def afterNewline? : List Char → Option (List Char)
  | '\n' :: rest => some rest
  | '\r' :: '\n' :: rest => some rest
  | _ => none

def afterComment? : List Char → Option (List Char)
  | '#' :: rest =>
    match rest.dropWhile (!isControl ·) with
    | [] => some []
    | stop => if (afterNewline? stop).isSome then some stop else none
  | cs => some cs

def skipLines? : Nat → List Char → Option (List Char)
  | 0, cs => some cs
  | fuel + 1, cs => do
    let rest ← afterComment? (skipBlanks cs)
    match afterNewline? rest with
    | some next => skipLines? fuel next
    | none => some rest

/-! Strings -/

def hexNumber? (digits : List Char) : Option Nat :=
  digits.foldlM (fun n c => (Text.hexValue? c).map (16 * n + ·)) 0

def readCodePoint (count : Nat) (cs : List Char) : Option (Char × List Char) := do
  let digits := cs.take count
  let value ← hexNumber? digits
  if digits.length = count ∧ value.isValidChar then some (Char.ofNat value, cs.drop count) else none

def readEscape : List Char → Option (Char × List Char)
  | c :: rest =>
    match c with
    | 'b' => some ('\x08', rest)
    | 't' => some ('\t', rest)
    | 'n' => some ('\n', rest)
    | 'f' => some ('\x0c', rest)
    | 'r' => some ('\r', rest)
    | 'e' => some ('\x1b', rest)
    | '\x22' => some ('\x22', rest)
    | '\\' => some ('\\', rest)
    | 'x' => readCodePoint 2 rest
    | 'u' => readCodePoint 4 rest
    | 'U' => readCodePoint 8 rest
    | _ => none
  | [] => none

def readLineString (quote : Char) : Nat → List Char → List Char → Option (String × List Char)
  | 0, _, _ => none
  | _, _, [] => none
  | fuel + 1, content, c :: rest =>
    if c = quote then some (String.ofList content.reverse, rest)
    else if c = '\\' ∧ quote = '\x22' then do
      let (escaped, rest) ← readEscape rest
      readLineString quote fuel (escaped :: content) rest
    else if isControl c then none
    else readLineString quote fuel (c :: content) rest

/-- A backslash at the end of a line drops all white space up to the next text. -/
def afterLineJoin? (cs : List Char) : Option (List Char) :=
  (afterNewline? (skipBlanks cs)).map fun rest =>
    rest.dropWhile fun c => isBlank c || c == '\n' || c == '\r'

/-- The rest of a string over several lines, up to three quotes; one or two quotes more belong to it. -/
def readLongString (quote : Char) : Nat → List Char → List Char → Option (String × List Char)
  | 0, _, _ => none
  | _, _, [] => none
  | fuel + 1, content, c :: rest =>
    if c = quote then
      let quotes := (c :: rest).takeWhile (· = quote)
      if quotes.length < 3 then readLongString quote fuel (c :: content) rest
      else
        let own := min 2 (quotes.length - 3)
        some (String.ofList (content.reverse ++ List.replicate own quote), rest.drop (own + 2))
    else if c = '\\' ∧ quote = '\x22' then
      match afterLineJoin? rest with
      | some next => readLongString quote fuel content next
      | none => do
        let (escaped, rest) ← readEscape rest
        readLongString quote fuel (escaped :: content) rest
    else
      match afterNewline? (c :: rest) with
      | some next => readLongString quote fuel (((c :: rest).take ((c :: rest).length - next.length)).reverse ++ content) next
      | none => if isControl c then none else readLongString quote fuel (c :: content) rest

def isQuote (c : Char) : Bool :=
  c == '\x22' || c == '\x27'

def readString (quote : Char) (rest : List Char) : Option (String × List Char) :=
  match rest with
  | q :: q' :: long =>
    if q = quote ∧ q' = quote then
      readLongString quote (long.length + 1) [] ((afterNewline? long).getD long)
    else readLineString quote (rest.length + 1) [] rest
  | _ => readLineString quote (rest.length + 1) [] rest

/-! Keys -/

def isBareKeyChar (c : Char) : Bool :=
  c.isAlphanum || c == '_' || c == '-'

def readSimpleKey (cs : List Char) : Option (String × List Char) :=
  match cs with
  | c :: rest =>
    if isQuote c then readLineString c (rest.length + 1) [] rest
    else
      match cs.takeWhile isBareKeyChar with
      | [] => none
      | key => some (String.ofList key, cs.dropWhile isBareKeyChar)
  | [] => none

def readKey : Nat → List Char → Option (List String × List Char)
  | 0, _ => none
  | fuel + 1, cs => do
    let (key, rest) ← readSimpleKey (skipBlanks cs)
    match skipBlanks rest with
    | '.' :: rest =>
      let (keys, rest) ← readKey fuel rest
      pure (key :: keys, rest)
    | rest => pure ([key], rest)

end MarkdownLayout.Toml
