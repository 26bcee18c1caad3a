import MarkdownLayout.Loading.Fetches
import MarkdownLayout.View

/-!
A view together with the loaders that it has been given.
-/

namespace MarkdownLayout

structure ViewDesk where
  view : View
  fetches : Fetches := {}
  deriving Inhabited

namespace ViewDesk

def addLoader (desk : ViewDesk) (isCached : Bool) : ViewDesk :=
  { view := desk.view.setLoader desk.fetches.caches.length
    fetches := desk.fetches.addLoader isCached }

def loadImages? (desk : ViewDesk) : Option (ViewDesk × List Notice) :=
  match desk.view.loader, desk.view.loadImages? with
  | some loader, some view =>
    let number := desk.view.requests.length
    let wanted := Dispatch.wanted { generation := desk.view.generation, images := desk.view.images }
    let (fetches, hits) := desk.fetches.requestAll loader number wanted
    let (view, notices) := view.run (.begin number :: hits)
    some ({ view, fetches }, notices)
  | _, _ => none

def complete (desk : ViewDesk) (numbers : List Nat) (outcome : Except LoadError ByteArray) :
    ViewDesk × List Bool × List Notice :=
  let (fetches, answered, deliveries) := desk.fetches.answerAll outcome numbers
  let (view, notices) := desk.view.run (DispatchMove.gathered deliveries)
  ({ view, fetches }, answered, notices)

end ViewDesk

end MarkdownLayout
