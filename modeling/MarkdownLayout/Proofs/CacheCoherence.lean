import MarkdownLayout.Loading.SharedCache
import Mathlib.Data.List.Basic

/-!
# One cache for many loads

The cache is free between the steps of a load, so nothing can be said of a load by looking at it alone. What every
move keeps is that whatever is stored, about to be stored or handed out for a URL was answered by the inner loader
for that URL, and that a URL never leaves the cache.
-/

namespace MarkdownLayout

namespace ImageCache

theorem mem_entries_of_find? {cache : ImageCache} {url : Url} {data : ImageData} (h : cache.find? url = some data) :
    (url, data) ∈ cache.entries := by
  obtain ⟨front, back, hentries, -⟩ := List.lookup_eq_some_iff.1 h
  rw [hentries]
  simp

/-- No image that is stored takes another one out. -/
theorem isSome_find?_insert {cache : ImageCache} {url : Url} (h : (cache.find? url).isSome = true) (other : Url)
    (data : ImageData) : ((cache.insert other data).find? url).isSome = true := by
  by_cases hurl : url = other
  · rw [hurl, find?_insert_self]
    rfl
  · rw [find?_insert_of_ne cache data hurl]
    exact h

theorem mem_entries_insert {cache : ImageCache} {url : Url} {data : ImageData} {entry : Url × ImageData}
    (h : entry ∈ (cache.insert url data).entries) : entry = (url, data) ∨ entry ∈ cache.entries :=
  (List.mem_cons.1 h).imp_right List.mem_of_mem_filter

end ImageCache

def CachedLoad.outcome? : CachedLoad → Option LoadOutcome
  | looking | fetching => none
  | storing data => some (.ok data)
  | done outcome => some outcome

@[simp]
theorem CachedLoad.outcome?_fetched (outcome : LoadOutcome) : (fetched outcome).outcome? = some outcome := by
  cases outcome <;> rfl

namespace SharedCache

inductive Step (shared : SharedCache) : CacheMove → SharedCache → List InnerCall → Prop
  | started (url : Url) :
      Step shared (.start url) { shared with loads := shared.loads ++ [⟨url, .looking⟩] } []
  | hit {number : Nat} {url : Url} {data : ImageData} (hload : shared.loads[number]? = some ⟨url, .looking⟩)
      (hfind : shared.cache.find? url = some data) :
      Step shared (.look number) (shared.setLoad number url (.done (.ok data))) []
  | missed {number : Nat} {url : Url} (hload : shared.loads[number]? = some ⟨url, .looking⟩)
      (hfind : shared.cache.find? url = none) :
      Step shared (.look number) (shared.setLoad number url .fetching) [.asked url]
  | answered {number : Nat} {url : Url} (hload : shared.loads[number]? = some ⟨url, .fetching⟩)
      (outcome : LoadOutcome) :
      Step shared (.answer number outcome) (shared.setLoad number url (CachedLoad.fetched outcome))
        [.answered url outcome]
  | stored {number : Nat} {url : Url} {data : ImageData} (hload : shared.loads[number]? = some ⟨url, .storing data⟩) :
      Step shared (.store number)
        ({ shared with cache := shared.cache.insert url data }.setLoad number url (.done (.ok data))) []
  | idle (m : CacheMove) : Step shared m shared []

/-- These are all the ways in which a move can go. -/
theorem move_step (shared : SharedCache) (m : CacheMove) : Step shared m (shared.move m).1 (shared.move m).2 := by
  cases m with
  | start url => exact .started url
  | look number =>
    simp only [move]
    split
    · next url hload =>
      cases hfind : shared.cache.find? url with
      | none =>
        simp only [CachedLoad.look, hfind]
        exact .missed hload hfind
      | some data =>
        simp only [CachedLoad.look, hfind]
        exact .hit hload hfind
    · exact .idle _
  | answer number outcome =>
    simp only [move]
    split
    · next hload => exact .answered hload outcome
    · exact .idle _
  | store number =>
    simp only [move]
    split
    · next hload => exact .stored hload
    · exact .idle _

/-- What is in the cache and what loads hold or return was answered for the URL that it stands under. -/
structure Coherent (shared : SharedCache) (calls : List InnerCall) : Prop where
  cached : ∀ entry ∈ shared.cache.entries, InnerCall.answered entry.1 (.ok entry.2) ∈ calls
  returned : ∀ load ∈ shared.loads, ∀ outcome ∈ load.stage.outcome?, InnerCall.answered load.url outcome ∈ calls

namespace Coherent

variable {shared : SharedCache} {calls more : List InnerCall}

theorem start : Coherent {} [] where
  cached _ hentry := absurd hentry List.not_mem_nil
  returned _ hload := absurd hload List.not_mem_nil

theorem mono (h : Coherent shared calls) (more : List InnerCall) : Coherent shared (calls ++ more) where
  cached entry hentry := List.mem_append_left _ (h.cached entry hentry)
  returned load hload outcome houtcome := List.mem_append_left _ (h.returned load hload outcome houtcome)

/-- A load may hold what has been answered for its URL. -/
theorem setLoad (h : Coherent shared calls) (number : Nat) {url : Url} {stage : CachedLoad}
    (hstage : ∀ outcome ∈ stage.outcome?, InnerCall.answered url outcome ∈ calls) :
    Coherent (shared.setLoad number url stage) calls where
  cached := h.cached
  returned load hload := by
    obtain hold | rfl := List.mem_or_eq_of_mem_set hload
    · exact h.returned load hold
    · exact hstage

/-- So may the cache. -/
theorem insert (h : Coherent shared calls) {url : Url} {data : ImageData}
    (hdata : InnerCall.answered url (.ok data) ∈ calls) :
    Coherent { shared with cache := shared.cache.insert url data } calls where
  cached entry hentry := by
    obtain rfl | hold := ImageCache.mem_entries_insert hentry
    · exact hdata
    · exact h.cached entry hold
  returned := h.returned

/-- No move lets an image be stored or returned that was not answered for its URL. -/
theorem step {m : CacheMove} {next : SharedCache} (h : Coherent shared calls) (hstep : Step shared m next more) :
    Coherent next (calls ++ more) := by
  cases hstep with
  | started url =>
    refine ⟨(h.mono []).cached, fun load hload => ?_⟩
    obtain hold | hnew := List.mem_append.1 hload
    · exact (h.mono []).returned load hold
    · rw [List.mem_singleton.1 hnew]
      exact fun outcome houtcome => absurd houtcome (Option.not_mem_none outcome)
  | @hit number url data hload hfind =>
    refine (h.mono []).setLoad number fun outcome houtcome => ?_
    cases houtcome
    exact (h.mono []).cached _ (ImageCache.mem_entries_of_find? hfind)
  | @missed number url hload hfind =>
    exact (h.mono _).setLoad number fun outcome houtcome => absurd houtcome (Option.not_mem_none outcome)
  | @answered number url hload outcome =>
    refine (h.mono _).setLoad number fun answer hanswer => ?_
    rw [CachedLoad.outcome?_fetched] at hanswer
    cases hanswer
    exact List.mem_append_right _ (List.mem_singleton.2 rfl)
  | @stored number url data hload =>
    have hdata := (h.mono []).returned _ (List.mem_of_getElem? hload) _ rfl
    refine ((h.mono []).insert hdata).setLoad number fun outcome houtcome => ?_
    cases houtcome
    exact hdata
  | idle => exact h.mono []

/-- The same holds after any moves, in whatever order loads take turns. -/
theorem run (h : Coherent shared calls) (moves : List CacheMove) :
    Coherent (shared.run moves).1 (calls ++ (shared.run moves).2) := by
  induction moves generalizing shared calls with
  | nil => exact h.mono []
  | cons m rest ih =>
    have hafter := ih (h.step (shared.move_step m))
    rw [List.append_assoc] at hafter
    exact hafter

end Coherent

/-! ## What stays cached -/

section Cached

variable {shared next : SharedCache} {m : CacheMove} {calls : List InnerCall} {url : Url}

/-- A URL that is in the cache stays there and is asked for no more. -/
theorem Step.keeps_cached (hstep : Step shared m next calls) (h : (shared.cache.find? url).isSome = true) :
    (next.cache.find? url).isSome = true ∧ InnerCall.asked url ∉ calls := by
  cases hstep with
  | started | hit | idle => exact ⟨h, List.not_mem_nil⟩
  | @missed number other hload hfind =>
    refine ⟨h, fun hasked => ?_⟩
    cases List.mem_singleton.1 hasked
    rw [hfind] at h
    cases h
  | answered hload outcome => exact ⟨h, by simp⟩
  | stored hload => exact ⟨ImageCache.isSome_find?_insert h _ _, List.not_mem_nil⟩

/-- Once a URL is in the cache, no later move asks for it. -/
theorem run_keeps_cached (h : (shared.cache.find? url).isSome = true) (moves : List CacheMove) :
    ((shared.run moves).1.cache.find? url).isSome = true ∧ InnerCall.asked url ∉ (shared.run moves).2 := by
  induction moves generalizing shared with
  | nil => exact ⟨h, List.not_mem_nil⟩
  | cons m rest ih =>
    obtain ⟨hcached, hsilent⟩ := (shared.move_step m).keeps_cached h
    obtain ⟨hfinal, hlater⟩ := ih hcached
    exact ⟨hfinal, fun hasked => (List.mem_append.1 hasked).elim hsilent hlater⟩

end Cached

/-! ## The next step of a load -/

section Next

variable {shared : SharedCache} {number : Nat} {url : Url} {data : ImageData}

theorem getElem?_setLoad {load : SharedLoad} (h : shared.loads[number]? = some load) (stage : CachedLoad) :
    (shared.setLoad number url stage).loads[number]? = some ⟨url, stage⟩ := by
  obtain ⟨hnumber, -⟩ := List.getElem?_eq_some_iff.1 h
  simp [setLoad, hnumber]

theorem move_look_of_cached (h : shared.loads[number]? = some ⟨url, .looking⟩)
    (hfind : shared.cache.find? url = some data) :
    shared.move (.look number) = (shared.setLoad number url (.done (.ok data)), []) := by
  simp [move, h, CachedLoad.look, hfind]

/-- An answer is kept by its load; only an image is still to be stored. -/
theorem move_answer (h : shared.loads[number]? = some ⟨url, .fetching⟩) (outcome : LoadOutcome) :
    shared.move (.answer number outcome) =
      (shared.setLoad number url (CachedLoad.fetched outcome), [.answered url outcome]) := by
  simp [move, h]

theorem move_store (h : shared.loads[number]? = some ⟨url, .storing data⟩) :
    shared.move (.store number) =
      ({ shared with cache := shared.cache.insert url data }.setLoad number url (.done (.ok data)), []) := by
  simp [move, h, CachedLoad.store]

end Next

/-- A load with nothing else going on is the four moves of a load that starts alone. -/
theorem load_eq_run (cache : ImageCache) (url : Url) (outcome : LoadOutcome) :
    let alone := Id.run (cache.load (fun _ => pure outcome) url)
    (run { cache } [.start url, .look 0, .answer 0 outcome, .store 0]).1 =
      { cache := alone.1, loads := [⟨url, .done alone.2⟩] } := by
  cases hfind : cache.find? url with
  | some data => simp [run, move, ImageCache.load, CachedLoad.look, hfind, setLoad]
  | none =>
    cases outcome <;>
      simp [run, move, ImageCache.load, CachedLoad.look, CachedLoad.fetched, CachedLoad.store, CachedLoad.settle,
        hfind, setLoad]

/-- The cache is coherent however the steps of the loads through it are mixed, and whatever the inner loader answers. -/
theorem run_coherent (moves : List CacheMove) :
    let final := (run {} moves).1
    let calls := (run {} moves).2
    -- what is cached for a URL, and what loads of it return, was answered for it
    (∀ entry ∈ final.cache.entries, InnerCall.answered entry.1 (.ok entry.2) ∈ calls) ∧
      (∀ load ∈ final.loads, ∀ outcome, load.stage = .done outcome → InnerCall.answered load.url outcome ∈ calls) ∧
      -- a failure is returned and changes nothing in the cache
      (∀ number url e, final.loads[number]? = some ⟨url, .fetching⟩ →
        let failed := (final.move (.answer number (.error e))).1
        failed.loads[number]? = some ⟨url, .done (.error e)⟩ ∧ failed.cache = final.cache) ∧
      -- an image is cached before it is returned
      (∀ number url data, final.loads[number]? = some ⟨url, .storing data⟩ →
        let stored := (final.move (.store number)).1
        stored.loads[number]? = some ⟨url, .done (.ok data)⟩ ∧ stored.cache.find? url = some data) ∧
      -- a cached URL stays cached, and those who look it up do not call the inner loader
      ∀ url, (final.cache.find? url).isSome = true → ∀ later : List CacheMove,
        InnerCall.asked url ∉ (final.run later).2 ∧
          ∃ data, (final.run later).1.cache.find? url = some data ∧
            ∀ number, (final.run later).1.loads[number]? = some ⟨url, .looking⟩ →
              let found := (final.run later).1.move (.look number)
              found.1.loads[number]? = some ⟨url, .done (.ok data)⟩ ∧
                found.1.cache = (final.run later).1.cache ∧ found.2 = [] := by
  intro final calls
  have hcoherent : Coherent final calls := Coherent.start.run moves
  refine ⟨hcoherent.cached, ?_, ?_, ?_, ?_⟩
  · intro load hload outcome hdone
    refine hcoherent.returned load hload outcome ?_
    rw [hdone]
    rfl
  · intro number url e hload
    rw [move_answer hload]
    exact ⟨getElem?_setLoad hload _, rfl⟩
  · intro number url data hload
    rw [move_store hload]
    exact ⟨getElem?_setLoad hload _, ImageCache.find?_insert_self ..⟩
  · intro url hcached later
    obtain ⟨hkept, hsilent⟩ := run_keeps_cached hcached later
    obtain ⟨data, hdata⟩ := Option.isSome_iff_exists.1 hkept
    refine ⟨hsilent, data, hdata, fun number hload => ?_⟩
    rw [move_look_of_cached hload hdata]
    exact ⟨getElem?_setLoad hload _, rfl, rfl⟩

def busyUrl (name : String) : Url :=
  ⟨"http", "", "", some (.name name), none, .segments [""], none, none⟩

def busyImage (name : String) (byte : UInt8) : ImageData :=
  ⟨busyUrl name, ⟨#[byte]⟩⟩

def busyMoves : List CacheMove := [
  .start (busyUrl "a"), .start (busyUrl "a"), .look 0, .look 1, .answer 0 (.ok (busyImage "a" 1)),
  .answer 1 (.ok (busyImage "a" 2)), .store 1, .store 0,
  .start (busyUrl "b"), .look 2, .start (busyUrl "b"), .look 3, .answer 3 (.ok (busyImage "b" 3)),
  .start (busyUrl "a")]

theorem busyMoves_coherent :
    let final := (run {} busyMoves).1
    let calls := (run {} busyMoves).2
    final.cache.entries = [(busyUrl "a", busyImage "a" 1)] ∧
      InnerCall.answered (busyUrl "a") (.ok (busyImage "a" 1)) ∈ calls ∧
      final.loads[1]? = some ⟨busyUrl "a", .done (.ok (busyImage "a" 2))⟩ ∧
      InnerCall.answered (busyUrl "a") (.ok (busyImage "a" 2)) ∈ calls ∧
      final.loads[2]? = some ⟨busyUrl "b", .fetching⟩ ∧
      (final.move (.answer 2 (.error (.other "")))).1.cache = final.cache ∧
      final.loads[3]? = some ⟨busyUrl "b", .storing (busyImage "b" 3)⟩ ∧
      (final.move (.store 3)).1.cache.find? (busyUrl "b") = some (busyImage "b" 3) ∧
      final.loads[4]? = some ⟨busyUrl "a", .looking⟩ ∧
      InnerCall.asked (busyUrl "a") ∉ (final.run [.store 3]).2 ∧ ((final.run [.store 3]).1.move (.look 4)).2 = [] := by
  intro final calls
  obtain ⟨hcached, hreturned, hfailed, hstored, hkept⟩ := run_coherent busyMoves
  have hentries : final.cache.entries = [(busyUrl "a", busyImage "a" 1)] := rfl
  have hdone : final.loads[1]? = some ⟨busyUrl "a", .done (.ok (busyImage "a" 2))⟩ := rfl
  have hfetching : final.loads[2]? = some ⟨busyUrl "b", .fetching⟩ := rfl
  have hstoring : final.loads[3]? = some ⟨busyUrl "b", .storing (busyImage "b" 3)⟩ := rfl
  have hlooking : final.loads[4]? = some ⟨busyUrl "a", .looking⟩ := rfl
  have hmem : (busyUrl "a", busyImage "a" 1) ∈ final.cache.entries := hentries ▸ List.mem_cons_self
  obtain ⟨hsilent, data, -, hfound⟩ := hkept (busyUrl "a") rfl [.store 3]
  exact ⟨hentries, hcached _ hmem, hdone, hreturned _ (List.mem_of_getElem? hdone) _ rfl, hfetching,
    (hfailed 2 _ _ hfetching).2, hstoring, (hstored 3 _ _ hstoring).2, hlooking, hsilent, (hfound 4 rfl).2.2⟩

end SharedCache

end MarkdownLayout
