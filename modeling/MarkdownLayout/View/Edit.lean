import MarkdownLayout.View

/-!
Changes of a view in place. Each statement of a change writes to the view at once; a change that fails is not
undone, and what it wrote until then stays.
-/

namespace MarkdownLayout

abbrev ViewEdit := ExceptT AssemblyError (StateM View)

namespace ViewEdit

variable {α : Type}

def applyTo (edit : ViewEdit α) (view : View) : Except AssemblyError α × View :=
  StateT.run (ExceptT.run edit) view

def render (profile : Profile) (markdown : String) : ViewEdit Rendering := do
  let view ← get
  ExceptT.mk (pure (Rendering.ofMarkdown? view.options profile markdown))

def replaceRendering (rendering : Rendering) : ViewEdit Unit := do
  modify View.invalidate
  modify fun view => { view with progress := .ofRendering rendering, edition := view.edition + 1 }
  modify fun view => { view with rendering }

def redraw (profile : Profile) (markdown : String) (write : View → View) : ViewEdit Unit := do
  let rendering ← render profile markdown
  modify write
  replaceRendering rendering

def setMarkdown (markdown : String) : ViewEdit Unit := do
  let view ← get
  redraw view.profile markdown fun view => { view with markdown }

def setProfile (profile : Profile) : ViewEdit Unit := do
  let view ← get
  redraw profile view.markdown fun view => { view with profile }

end ViewEdit

end MarkdownLayout
