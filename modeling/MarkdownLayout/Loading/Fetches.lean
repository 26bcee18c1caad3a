import MarkdownLayout.Loading.Board
import MarkdownLayout.Loading.Cache

/-!
The fetches of several loaders. A fetch that a cache cannot answer waits in its loader until the loader
answers, and its end then goes to the slot of the dispatch that asked.
-/

namespace MarkdownLayout

structure Fetch where
  loader : Nat
  url : Url
  dispatch : Nat
  slot : Nat
  isWaiting : Bool := true
  deriving DecidableEq, Repr, Inhabited

structure Fetches where
  caches : List (Option ImageCache) := []
  asked : List Fetch := []
  deriving Inhabited

namespace Fetches

def addLoader (fetches : Fetches) (isCached : Bool) : Fetches :=
  { fetches with caches := fetches.caches ++ [if isCached then some {} else none] }

def cache? (fetches : Fetches) (loader : Nat) : Option ImageCache :=
  fetches.caches[loader]?.join

def request (fetches : Fetches) (loader dispatch : Nat) (slot : Nat) (url : Url) :
    Fetches × Option DispatchMove :=
  let load := match fetches.cache? loader with
    | some cache => CachedLoad.look cache url
    | none => .fetching
  match load with
  | .done outcome => (fetches, some (.deliver dispatch ⟨slot, outcome⟩))
  | _ => ({ fetches with asked := fetches.asked ++ [⟨loader, url, dispatch, slot, true⟩] }, none)

def requestAll (fetches : Fetches) (loader dispatch : Nat) :
    List (Nat × Url) → Fetches × List DispatchMove
  | [] => (fetches, [])
  | (slot, url) :: rest =>
    let (fetches, hit) := fetches.request loader dispatch slot url
    let (fetches, hits) := fetches.requestAll loader dispatch rest
    (fetches, hit.toList ++ hits)

/-- A loader answers a fetch, which goes to its cache and to the slot that asked. A fetch is answered once. -/
def answer (fetches : Fetches) (number : Nat) (outcome : Except LoadError ByteArray) :
    Fetches × Option DispatchMove :=
  match fetches.asked[number]? with
  | none => (fetches, none)
  | some fetch =>
    if fetch.isWaiting then
      let outcome : LoadOutcome := outcome.map fun bytes => ⟨fetch.url, bytes⟩
      let store (cache : Option ImageCache) : Option ImageCache :=
        cache.map fun cache => CachedLoad.settle cache fetch.url outcome
      ({ caches := fetches.caches.modify fetch.loader store
         asked := fetches.asked.set number { fetch with isWaiting := false } },
        some (.deliver fetch.dispatch ⟨fetch.slot, outcome⟩))
    else (fetches, none)

def answerAll (fetches : Fetches) (outcome : Except LoadError ByteArray) :
    List Nat → Fetches × List Bool × List DispatchMove
  | [] => (fetches, [], [])
  | number :: rest =>
    let (fetches, delivery) := fetches.answer number outcome
    let (fetches, answered, deliveries) := fetches.answerAll outcome rest
    (fetches, delivery.isSome :: answered, delivery.toList ++ deliveries)

end Fetches

end MarkdownLayout
