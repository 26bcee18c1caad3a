import MarkdownLayout.Text.Character

/-!
Percent-encoding: bytes that a part of a URL may not hold are written as `%` and two hexadecimal digits.
-/

namespace MarkdownLayout.Percent

/-- ASCII characters that one part of a URL encodes. Everything above ASCII is encoded in every part. -/
abbrev EncodeSet := Char → Bool

def controls : EncodeSet := fun c => c.toNat < 0x20 || c.toNat == 0x7f

def fragment : EncodeSet := fun c => controls c || [' ', '\x22', '<', '>', '\x60'].contains c

def query : EncodeSet := fun c => controls c || [' ', '\x22', '#', '<', '>'].contains c

def specialQuery : EncodeSet := fun c => query c || c == '\x27'

def path : EncodeSet := fun c => fragment c || ['#', '?', '\x7b', '\x7d'].contains c

def credentials : EncodeSet := fun c => path c || ['/', ':', ';', '=', '@', '[', '\x5c', ']', '^', '|'].contains c

/-- A path component of a file name: separators and the percent sign itself are data. -/
def fileComponent : EncodeSet := fun c => path c || ['/', '%', '\x5c'].contains c

def encodeByte (byte : Nat) : List Char :=
  ['%', (Text.hexDigit (byte / 16)).toUpper, (Text.hexDigit (byte % 16)).toUpper]

def encodeChar (encodeSet : EncodeSet) (c : Char) : List Char :=
  if c.toNat < 0x80 && !encodeSet c then [c]
  else (String.utf8EncodeChar c).flatMap fun byte => encodeByte byte.toNat

def encode (encodeSet : EncodeSet) (cs : List Char) : String :=
  String.ofList (cs.flatMap (encodeChar encodeSet))

def decode : List Char → List UInt8
  | [] => []
  | '%' :: a :: b :: rest =>
    match Text.hexValue? a, Text.hexValue? b with
    | some high, some low => UInt8.ofNat (16 * high + low) :: decode rest
    | _, _ => 0x25 :: decode (a :: b :: rest)
  | c :: rest => String.utf8EncodeChar c ++ decode rest

def decodeText? (cs : List Char) : Option String :=
  String.fromUTF8? (ByteArray.mk (decode cs).toArray)

end MarkdownLayout.Percent
