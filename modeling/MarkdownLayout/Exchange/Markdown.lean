import MarkdownLayout.Exchange.Record
import MarkdownLayout.Markdown

/-!
The exchange form of reading options. Each of them may be missing and then has its usual value. Other fields are passed
over; depths are counted with 64 bits.
-/

namespace MarkdownLayout.MarkdownOptions

open Exchange

def ofData (data : Data) : Reading MarkdownOptions := do
  let fields ← fieldsOf .refused ["strip_frontmatter", "max_depth"] 0 data
  let maxDepth ← field? count fields "max_depth"
  let stripsFrontMatter ← field? bool fields "strip_frontmatter"
  let standard : MarkdownOptions := {}
  pure {
    stripsFrontMatter := stripsFrontMatter.getD standard.stripsFrontMatter
    maxDepth := maxDepth.getD standard.maxDepth }

def toData (options : MarkdownOptions) : Data :=
  .record [("strip_frontmatter", .bool options.stripsFrontMatter), ("max_depth", .integer options.maxDepth)]

end MarkdownLayout.MarkdownOptions
