/-!
Front matter: metadata between two dashed fences at the head of a text.
-/

namespace MarkdownLayout.FrontMatter

def fence : List Char := ['-', '-', '-']

/-- What follows the first line that begins with a fence. The text given starts inside a line, which does not
count. -/
def afterFence? : List Char → Option (List Char)
  | [] => none
  | c :: cs => if c = '\n' ∧ fence.isPrefixOf cs then some (cs.drop fence.length) else afterFence? cs

/-- The text behind its front matter, newlines at its start dropped; a text without a fenced head is kept. -/
def stripChars (cs : List Char) : List Char :=
  if fence.isPrefixOf cs then
    match afterFence? (cs.drop fence.length) with
    | some rest => rest.dropWhile (· = '\n')
    | none => cs
  else cs

def strip (s : String) : String :=
  String.ofList (stripChars s.toList)

end MarkdownLayout.FrontMatter
