import MarkdownLayout.Loading.Cache
import MarkdownLayout.Node

/-!
One dispatch of image loads. It belongs to the generation in which it was made and reports each image that it
waited for once, and that all are loaded after the last one. A dispatch that finds itself in a later
generation when a completion arrives stops without a word. Generations are counted with 64 bits, and the count starts
again after its last value.
-/

namespace MarkdownLayout

structure Generation where
  number : UInt64
  deriving DecidableEq, Repr, Inhabited

namespace Generation

def first : Generation := ⟨0⟩

def next (generation : Generation) : Generation :=
  ⟨generation.number + 1⟩

end Generation

inductive LoadReport where
  | image (id : Nat) (data : Option ImageData)
  | allLoaded
  deriving DecidableEq, Inhabited

structure Completion where
  slot : Nat
  outcome : LoadOutcome
  deriving Inhabited

inductive DispatchStage where
  | starting
  | waiting (remaining : Nat)
  | finished
  deriving DecidableEq, Repr, Inhabited

structure Dispatch where
  generation : Generation
  images : List PendingImage
  stage : DispatchStage := .starting
  deriving DecidableEq, Repr, Inhabited

namespace PendingImage

def reported (image : PendingImage) : PendingImage :=
  { image with loaded := true }

end PendingImage

namespace Dispatch

def isFinished (dispatch : Dispatch) : Bool :=
  dispatch.stage == .finished

def outstanding (dispatch : Dispatch) : Nat :=
  dispatch.images.countP fun image => !image.loaded

def wanted (dispatch : Dispatch) : List (Nat × Url) :=
  (dispatch.images.zipIdx.filter fun (image, _) => !image.loaded).map fun (image, slot) => (slot, image.url)

/-- The first run. With nothing to wait for, all images are loaded, in whatever generation. -/
def begin (dispatch : Dispatch) : Dispatch × List LoadReport :=
  match dispatch.stage with
  | .starting =>
    if dispatch.outstanding = 0 then ({ dispatch with stage := .finished }, [.allLoaded])
    else ({ dispatch with stage := .waiting dispatch.outstanding }, [])
  | _ => (dispatch, [])

def receive (current : Generation) (dispatch : Dispatch) (completion : Completion) :
    Dispatch × List LoadReport :=
  match dispatch.stage with
  | .waiting remaining =>
    if dispatch.generation ≠ current then ({ dispatch with stage := .finished }, [])
    else
      match dispatch.images[completion.slot]? with
      | none => (dispatch, [])
      | some image =>
        if image.loaded then (dispatch, [])
        else
          let images := dispatch.images.set completion.slot image.reported
          let report := LoadReport.image image.id completion.outcome.toOption
          if remaining ≤ 1 then
            ({ dispatch with images, stage := .finished }, [report, .allLoaded])
          else ({ dispatch with images, stage := .waiting (remaining - 1) }, [report])
  | _ => (dispatch, [])

def fetchInTurn {m : Type → Type} [Monad m] (load : ImageCache → Url → m (ImageCache × LoadOutcome))
    (cache : ImageCache) (dispatch : Dispatch) : List (Nat × Url) → m (List LoadReport)
  | [] => pure []
  | (slot, url) :: rest => do
    let (cache, outcome) ← load cache url
    let (dispatch, reports) := dispatch.receive dispatch.generation ⟨slot, outcome⟩
    let later ← fetchInTurn load cache dispatch rest
    pure (reports ++ later)

def runInTurn {m : Type → Type} [Monad m] (load : ImageCache → Url → m (ImageCache × LoadOutcome))
    (dispatch : Dispatch) : m (List LoadReport) := do
  let (started, first) := dispatch.begin
  let later ← fetchInTurn load {} started started.wanted
  pure (first ++ later)

end Dispatch

end MarkdownLayout
