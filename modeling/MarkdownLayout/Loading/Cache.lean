import MarkdownLayout.Loading.Outcome

/-!
Caching of loaded images by URL. A load looks into the cache, asks the inner loader on a miss, and stores what
that answers if it is an image. The cache is free between these steps, so two misses of one URL both ask and
the later answer stays.
-/

namespace MarkdownLayout

structure ImageCache where
  entries : List (Url × ImageData) := []
  deriving DecidableEq, Inhabited

namespace ImageCache

def find? (cache : ImageCache) (url : Url) : Option ImageData :=
  cache.entries.lookup url

def insert (cache : ImageCache) (url : Url) (data : ImageData) : ImageCache :=
  ⟨(url, data) :: cache.entries.filter fun entry => entry.1 != url⟩

@[simp]
theorem find?_insert_self (cache : ImageCache) (url : Url) (data : ImageData) :
    (cache.insert url data).find? url = some data := by
  simp [find?, insert]

theorem find?_insert_of_ne (cache : ImageCache) {url other : Url} (data : ImageData) (h : other ≠ url) :
    (cache.insert url data).find? other = cache.find? other := by
  have hkept : ∀ entries : List (Url × ImageData),
      (entries.filter fun entry => entry.1 != url).lookup other = entries.lookup other := by
    intro entries
    induction entries with
    | nil => rfl
    | cons entry rest ih =>
      obtain ⟨key, value⟩ := entry
      by_cases hkey : key = url
      · subst hkey
        simpa [List.lookup_cons, beq_false_of_ne h] using ih
      · simp [List.lookup_cons, hkey, ih]
  simp [find?, insert, List.lookup_cons, beq_false_of_ne h, hkept]

end ImageCache

inductive CachedLoad where
  | looking
  | fetching
  | storing (data : ImageData)
  | done (outcome : LoadOutcome)
  deriving Inhabited

namespace CachedLoad

def look (cache : ImageCache) (url : Url) : CachedLoad :=
  match cache.find? url with
  | some data => done (.ok data)
  | none => fetching

/-- The inner loader has answered. A failure is not kept. -/
def fetched : LoadOutcome → CachedLoad
  | .ok data => storing data
  | .error e => done (.error e)

def store (cache : ImageCache) (url : Url) (data : ImageData) : ImageCache × CachedLoad :=
  (cache.insert url data, done (.ok data))

def settle (cache : ImageCache) (url : Url) (outcome : LoadOutcome) : ImageCache :=
  match fetched outcome with
  | storing data => (store cache url data).1
  | _ => cache

end CachedLoad

def ImageCache.load {m : Type → Type} [Monad m] (inner : Url → m LoadOutcome) (cache : ImageCache)
    (url : Url) : m (ImageCache × LoadOutcome) := do
  match CachedLoad.look cache url with
  | .done outcome => pure (cache, outcome)
  | _ =>
    let outcome ← inner url
    pure (CachedLoad.settle cache url outcome, outcome)

end MarkdownLayout
