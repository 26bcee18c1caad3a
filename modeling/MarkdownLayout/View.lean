import MarkdownLayout.Loading.Board
import MarkdownLayout.Markdown

/-!
A view of one Markdown text. A change of text or profile renders at once, and what earlier renderings or
loaders still have in flight falls silent. The images of a rendering are asked for once per loader.
-/

namespace MarkdownLayout

structure Listeners where
  image : Option Nat := none
  allImages : Option Nat := none
  link : Option Nat := none
  deriving DecidableEq, Repr, Inhabited

inductive Notice where
  | image (listener : Nat) (id : Nat) (data : Option ImageData)
  | allImages (listener : Nat)
  | link (listener : Nat) (destination : String)
  deriving DecidableEq, Inhabited

def Listeners.notice? (listeners : Listeners) : LoadReport → Option Notice
  | .image id data => listeners.image.map fun listener => .image listener id data
  | .allLoaded => listeners.allImages.map .allImages

structure LoadProgress where
  loaded : List Bool
  isComplete : Bool := false
  dispatched : Option Generation := none
  deriving DecidableEq, Repr, Inhabited

namespace LoadProgress

def ofRendering (rendering : Rendering) : LoadProgress :=
  { loaded := rendering.images.map fun _ => false }

def record (progress : LoadProgress) : LoadReport → LoadProgress
  | .image id _ => { progress with loaded := progress.loaded.set id true }
  | .allLoaded => { progress with isComplete := true }

end LoadProgress

structure LoadRequest where
  edition : Nat
  listeners : Listeners
  deriving DecidableEq, Repr, Inhabited

/-- The board holds one dispatch for each request, and all of them watch its only counter. Renderings are
counted as editions. -/
structure View where
  markdown : String
  profile : Profile
  options : RenderOptions
  rendering : Rendering
  progress : LoadProgress
  edition : Nat := 0
  loader : Option Nat := none
  listeners : Listeners := {}
  board : DispatchBoard := { counters := [.first] }
  requests : List LoadRequest := []
  deriving Inhabited

namespace View

def ofMarkdown? (options : RenderOptions) (profile : Profile) (markdown : String) :
    Except AssemblyError View :=
  (Rendering.ofMarkdown? options profile markdown).map fun rendering =>
    { markdown, profile, options, rendering, progress := .ofRendering rendering }

def generation (view : View) : Generation :=
  view.board.generation 0

def invalidate (view : View) : View :=
  { view with board := view.board.invalidate 0 }

def images (view : View) : List PendingImage :=
  (view.rendering.images.zip view.progress.loaded).map fun (image, loaded) => { image with loaded }

def imagesLoaded (view : View) : Bool :=
  view.progress.isComplete

def replaceRendering (view : View) (rendering : Rendering) : View :=
  { view.invalidate with rendering, progress := .ofRendering rendering, edition := view.edition + 1 }

def setMarkdown? (view : View) (markdown : String) : Except AssemblyError View :=
  (Rendering.ofMarkdown? view.options view.profile markdown).map fun rendering =>
    { view.replaceRendering rendering with markdown }

def setProfile? (view : View) (profile : Profile) : Except AssemblyError View :=
  (Rendering.ofMarkdown? view.options profile view.markdown).map fun rendering =>
    { view.replaceRendering rendering with profile }

/-- Images that the loader before this one completed stay loaded. -/
def setLoader (view : View) (loader : Nat) : View :=
  { view.invalidate with loader := some loader }

def setListeners (view : View) (listeners : Listeners) : View :=
  { view with listeners }

def isDispatched (view : View) : Bool :=
  view.progress.dispatched == some view.generation

/-- Asks for the images that are not loaded: the dispatch gets the number that the board gives next. Nothing is
asked without a loader, twice of one loader, or once all images are loaded. -/
def loadImages? (view : View) : Option View :=
  if view.loader.isNone || view.isDispatched || view.imagesLoaded then none
  else
    some { view with
      progress := { view.progress with dispatched := some view.generation }
      board := view.board.post 0 view.images
      requests := view.requests ++ [⟨view.edition, view.listeners⟩] }

/-- What a dispatch reports counts for the rendering that it was made for. -/
def record (view : View) (request : LoadRequest) (reports : List LoadReport) : View :=
  if request.edition = view.edition then
    { view with progress := reports.foldl LoadProgress.record view.progress }
  else view

def move (view : View) (m : DispatchMove) : View × List Notice :=
  let (board, reports) := view.board.move m
  let moved := { view with board }
  match view.requests[m.number]? with
  | none => (moved, [])
  | some request => (moved.record request reports, reports.filterMap request.listeners.notice?)

def run (view : View) : List DispatchMove → View × List Notice
  | [] => (view, [])
  | m :: rest =>
    let (moved, notices) := view.move m
    let (final, later) := moved.run rest
    (final, notices ++ later)

def activateLink (view : View) (block : TextBlock) (offset : Nat) : Bool × List Notice :=
  match block.linkAt offset with
  | some destination => (true, (view.listeners.link.map fun listener => .link listener destination).toList)
  | none => (false, [])

end View

end MarkdownLayout
