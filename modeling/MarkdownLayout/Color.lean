import MarkdownLayout.Text.Quoted

/-!
Colours, written `#rrggbb` or `#rrggbbaa`.
-/

namespace MarkdownLayout

structure Color where
  red : UInt8
  green : UInt8
  blue : UInt8
  alpha : UInt8
  deriving DecidableEq, Repr, Inhabited

namespace Color

def opaqueColor (red green blue : UInt8) : Color :=
  ⟨red, green, blue, 255⟩

/-- A channel is two hexadecimal digits, or a plus sign and one digit. -/
def channel? (first second : Char) : Option UInt8 := do
  let low ← Text.hexValue? second
  if first = '+' then pure (UInt8.ofNat low)
  else
    let high ← Text.hexValue? first
    pure (UInt8.ofNat (16 * high + low))

def ofChars? : List Char → Option Color
  | ['#', r, r', g, g', b, b'] => do
    pure ⟨← channel? r r', ← channel? g g', ← channel? b b', 255⟩
  | ['#', r, r', g, g', b, b', a, a'] => do
    pure ⟨← channel? r r', ← channel? g g', ← channel? b b', ← channel? a a'⟩
  | _ => none

def parse? (s : String) : Option Color :=
  ofChars? s.toList

def channelText (channel : UInt8) : List Char :=
  [Text.hexDigit (channel.toNat / 16), Text.hexDigit (channel.toNat % 16)]

/-- Lower case; a colour that is not transparent leaves its alpha out. -/
def text (c : Color) : String :=
  String.ofList ('#' :: channelText c.red ++ channelText c.green ++ channelText c.blue ++
    if c.alpha = 255 then [] else channelText c.alpha)

def invalidMessage (s : String) : String :=
  "invalid color " ++ Text.quoted s ++ ": expected #rrggbb or #rrggbbaa"

end Color

end MarkdownLayout
