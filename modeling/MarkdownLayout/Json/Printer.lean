import MarkdownLayout.Data
import MarkdownLayout.Scalar.Shortest
import MarkdownLayout.Text.Quoted

/-!
Writing JSON text, on one line or indented. Numbers that are not finite have no literal and become null.
-/

namespace MarkdownLayout.Json

def escapedChar (c : Char) : String :=
  match c with
  | '\x22' => "\\\""
  | '\x5c' => "\\\\"
  | '\x08' => "\\b"
  | '\x0c' => "\\f"
  | '\n' => "\\n"
  | '\r' => "\\r"
  | '\t' => "\\t"
  | _ =>
    if c.toNat < 0x20 then
      let digits := Text.hexadecimal c.toNat
      "\\u" ++ String.ofList (List.replicate (4 - digits.length) '0') ++ digits
    else c.toString

def stringLiteral (s : String) : String :=
  "\"" ++ String.join (s.toList.map escapedChar) ++ "\""

def realLiteral (x : Scalar) : String :=
  if x.isFinite then x.literal else "null"

mutual

def compact : Data → String
  | .null => "null"
  | .bool b => if b then "true" else "false"
  | .integer n => toString n
  | .real x => realLiteral x
  | .text s => stringLiteral s
  | .list items => "[" ++ String.intercalate "," (compactItems items) ++ "]"
  | .record fields => "\x7b" ++ String.intercalate "," (compactFields fields) ++ "\x7d"

def compactItems : List Data → List String
  | [] => []
  | item :: rest => compact item :: compactItems rest

def compactFields : List (String × Data) → List String
  | [] => []
  | (name, value) :: rest => (stringLiteral name ++ ":" ++ compact value) :: compactFields rest

end

def indentation (depth : Nat) : String :=
  String.ofList (List.replicate (2 * depth) ' ')

/-- Lines between brackets, one deeper than the brackets themselves; an empty container stays on one line. -/
def bracketed (opening closing : String) (depth : Nat) (lines : List String) : String :=
  if lines.isEmpty then opening ++ closing
  else
    let deeper := indentation (depth + 1)
    opening ++ "\n" ++ String.intercalate ",\n" (lines.map (deeper ++ ·)) ++ "\n" ++ indentation depth ++ closing

mutual

def indented (depth : Nat) : Data → String
  | .list items => bracketed "[" "]" depth (indentedItems (depth + 1) items)
  | .record fields => bracketed "\x7b" "\x7d" depth (indentedFields (depth + 1) fields)
  | .null => "null"
  | .bool b => if b then "true" else "false"
  | .integer n => toString n
  | .real x => realLiteral x
  | .text s => stringLiteral s

def indentedItems (depth : Nat) : List Data → List String
  | [] => []
  | item :: rest => indented depth item :: indentedItems depth rest

def indentedFields (depth : Nat) : List (String × Data) → List String
  | [] => []
  | (name, value) :: rest => (stringLiteral name ++ ": " ++ indented depth value) :: indentedFields depth rest

end

def pretty (value : Data) : String :=
  indented 0 value

end MarkdownLayout.Json
