import MarkdownLayout.Loading.Cache

/-!
Loads side by side through one cache. Between any two steps of a load the others may make theirs, and the inner
loader may answer two fetches of one URL differently.
-/

namespace MarkdownLayout

structure SharedLoad where
  url : Url
  stage : CachedLoad
  deriving Inhabited

inductive CacheMove where
  | start (url : Url)
  | look (number : Nat)
  | answer (number : Nat) (outcome : LoadOutcome)
  | store (number : Nat)
  deriving Inhabited

inductive InnerCall where
  | asked (url : Url)
  | answered (url : Url) (outcome : LoadOutcome)
  deriving Inhabited

structure SharedCache where
  cache : ImageCache := {}
  loads : List SharedLoad := []
  deriving Inhabited

namespace SharedCache

def setLoad (shared : SharedCache) (number : Nat) (url : Url) (stage : CachedLoad) : SharedCache :=
  { shared with loads := shared.loads.set number ⟨url, stage⟩ }

/-- One move. A move that is not the next step of its load does nothing. -/
def move (shared : SharedCache) : CacheMove → SharedCache × List InnerCall
  | .start url => ({ shared with loads := shared.loads ++ [⟨url, .looking⟩] }, [])
  | .look number =>
    match shared.loads[number]? with
    | some ⟨url, .looking⟩ =>
      match CachedLoad.look shared.cache url with
      | .fetching => (shared.setLoad number url .fetching, [.asked url])
      | stage => (shared.setLoad number url stage, [])
    | _ => (shared, [])
  | .answer number outcome =>
    match shared.loads[number]? with
    | some ⟨url, .fetching⟩ => (shared.setLoad number url (CachedLoad.fetched outcome), [.answered url outcome])
    | _ => (shared, [])
  | .store number =>
    match shared.loads[number]? with
    | some ⟨url, .storing data⟩ =>
      let (cache, stage) := CachedLoad.store shared.cache url data
      ({ shared with cache }.setLoad number url stage, [])
    | _ => (shared, [])

def run (shared : SharedCache) : List CacheMove → SharedCache × List InnerCall
  | [] => (shared, [])
  | m :: rest =>
    let (moved, calls) := shared.move m
    let (final, later) := moved.run rest
    (final, calls ++ later)

end SharedCache

end MarkdownLayout
