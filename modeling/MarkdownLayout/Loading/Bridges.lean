import MarkdownLayout.Loading.Fetches

/-!
Bridges from dispatches to loaders. A bridge has a loader of its own and watches a generation counter, which
bridges may share.
-/

namespace MarkdownLayout

structure LoaderBridge where
  loader : Nat
  counter : Nat
  deriving DecidableEq, Repr, Inhabited

structure BridgeDesk where
  bridges : List LoaderBridge := []
  board : DispatchBoard := {}
  fetches : Fetches := {}
  deriving Inhabited

namespace BridgeDesk

def addCounter (desk : BridgeDesk) (generation : Generation) : BridgeDesk :=
  { desk with board := { desk.board with counters := desk.board.counters ++ [generation] } }

def addBridge (desk : BridgeDesk) (isCached : Bool) (counter : Nat) : BridgeDesk :=
  { desk with
    bridges := desk.bridges ++ [⟨desk.fetches.caches.length, counter⟩]
    fetches := desk.fetches.addLoader isCached }

def generation (desk : BridgeDesk) (bridge : LoaderBridge) : Generation :=
  desk.board.generation bridge.counter

def invalidate (desk : BridgeDesk) (bridge : LoaderBridge) : BridgeDesk :=
  { desk with board := desk.board.invalidate bridge.counter }

def dispatch (desk : BridgeDesk) (bridge : LoaderBridge) (images : List PendingImage) :
    BridgeDesk × List (Nat × LoadReport) :=
  let number := desk.board.dispatches.length
  let wanted := Dispatch.wanted { generation := desk.generation bridge, images }
  let (fetches, hits) := desk.fetches.requestAll bridge.loader number wanted
  let (board, reports) := (desk.board.post bridge.counter images).run (.begin number :: hits)
  ({ desk with board, fetches }, reports)

def complete (desk : BridgeDesk) (numbers : List Nat) (outcome : Except LoadError ByteArray) :
    BridgeDesk × List Bool × List (Nat × LoadReport) :=
  let (fetches, answered, deliveries) := desk.fetches.answerAll outcome numbers
  let (board, reports) := desk.board.run (DispatchMove.gathered deliveries)
  ({ desk with board, fetches }, answered, reports)

end BridgeDesk

end MarkdownLayout
