import MarkdownLayout.Style.Block

/-!
Formatting profiles: the style of every kind of element. A profile replaces another as a whole. The neutral
profile is what a profile file leaves unset; the standard one is used when no file is given.
-/

namespace MarkdownLayout

structure BlockFormat where
  text : TextStyle := {}
  block : BlockStyle := {}
  deriving Repr, Inhabited

structure RuleStyle where
  width : Option Scalar := none
  height : Scalar := .whole 1
  color : Option Color := none
  deriving DecidableEq, Repr, Inhabited

namespace RuleStyle

def node (rule : RuleStyle) : Node :=
  .divider rule.width (some rule.height) rule.color

end RuleStyle

/-- `itemSpacing` separates a list marker from its item, and top-level blocks from each other. -/
structure Profile where
  itemSpacing : Scalar := .whole 8
  h1 : BlockFormat := {}
  h2 : BlockFormat := {}
  h3 : BlockFormat := {}
  h4 : BlockFormat := {}
  h5 : BlockFormat := {}
  h6 : BlockFormat := {}
  paragraph : BlockFormat := {}
  bold : TextStyle := {}
  italic : TextStyle := {}
  hyperlink : TextStyle := {}
  strikethrough : TextStyle := {}
  code : TextStyle := {}
  codeBlock : BlockFormat := {}
  quote : BlockFormat := {}
  image : BlockStyle := {}
  list : BlockFormat := {}
  listItem : BlockFormat := {}
  rule : RuleStyle := {}
  deriving Repr, Inhabited

namespace Profile

/-- Levels other than two to six have the format of level one. -/
def header (profile : Profile) (level : UInt8) : BlockFormat :=
  match level.toNat with
  | 2 => profile.h2
  | 3 => profile.h3
  | 4 => profile.h4
  | 5 => profile.h5
  | 6 => profile.h6
  | _ => profile.h1

def neutral : Profile := {}

def headerFormat (size : Nat) : BlockFormat :=
  { text := { font := { size := .whole size, weight := .medium } } }

def shade : Color := ⟨0, 0, 0, 0x1a⟩

def codeFont : Font := { family := "Menlo", size := .whole 11 }

def quoteBar : Node :=
  .decorated (.divider (some (.whole 8)) none (some shade)) { inset := { right := .whole 8 } }

def standard : Profile :=
  { h1 := headerFormat 36
    h2 := headerFormat 30
    h3 := headerFormat 24
    h4 := headerFormat 18
    h5 := headerFormat 14
    h6 := headerFormat 13
    bold := { font := { weight := .bold } }
    italic := { font := { italic := true } }
    hyperlink := { color := some (.opaqueColor 0x1a 0x4f 0x8b) }
    strikethrough := { strikethrough := true }
    code := { font := codeFont, background := some shade }
    codeBlock :=
      { text := { font := codeFont }
        block :=
          { background := some shade
            cornerRadius := some (.whole 4)
            border := some ⟨.whole 1, .opaqueColor 0xaa 0xaa 0xaa⟩
            padding := some ⟨.whole 8, .whole 8, .whole 8, .whole 8⟩ } }
    quote := { block := { accessories := { left := some quoteBar } } }
    list := { block := { margin := some { left := .whole 16 } } }
    rule := { width := some (.whole 275), color := some (.opaqueColor 0xaa 0xaa 0xaa) } }

end Profile

end MarkdownLayout
