import MarkdownLayout.Text.Character
import MarkdownLayout.Text.GraphemeExtend
import MarkdownLayout.Text.Unprintable

/-!
Quoted text: one line between double quotes, in which everything that would not show is escaped.
-/

namespace MarkdownLayout.Text

/-- Unprintable and combining characters are written by code point; a single quote needs no escape. -/
def quotedChar (c : Char) : String :=
  match c with
  | '\x00' => "\\0"
  | '\t' => "\\t"
  | '\r' => "\\r"
  | '\n' => "\\n"
  | '\x5c' => "\\\\"
  | '\x22' => "\\\""
  | _ =>
    if isUnprintable c || extendsGrapheme c then "\\u\x7b" ++ hexadecimal c.toNat ++ "\x7d"
    else c.toString

def quoted (s : String) : String :=
  "\"" ++ String.join (s.toList.map quotedChar) ++ "\""

end MarkdownLayout.Text
