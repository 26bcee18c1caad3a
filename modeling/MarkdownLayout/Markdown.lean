import MarkdownLayout.Assembly
import MarkdownLayout.FrontMatter
import MarkdownLayout.Markdown.Reading
import MarkdownLayout.Rendering

/-!
From Markdown text to documents and renderings.
-/

namespace MarkdownLayout

structure MarkdownOptions where
  stripsFrontMatter : Bool := true
  maxDepth : Nat := 128
  deriving DecidableEq, Repr, Inhabited

def Document.ofMarkdown? (options : MarkdownOptions) (markdown : String) : Except AssemblyError Document :=
  let source := if options.stripsFrontMatter then FrontMatter.strip markdown else markdown
  ofEvents? source options.maxDepth (Markdown.events source)

structure RenderOptions where
  parsing : MarkdownOptions := {}
  base : Option Url := none
  deriving DecidableEq, Repr, Inhabited

def Rendering.ofMarkdown? (options : RenderOptions) (profile : Profile) (markdown : String) :
    Except AssemblyError Rendering :=
  match Document.ofMarkdown? options.parsing markdown with
  | .ok document => .ok (document.render profile options.base)
  | .error e => .error e

def AssemblyError.report (e : AssemblyError) : String :=
  "failed to parse markdown: " ++ e.message

end MarkdownLayout
