import MarkdownLayout.Proofs.Invalidation
import MarkdownLayout.View

/-!
# What a view still says of what it has left

A view posts a dispatch for each call for images and moves its counter on with each new text, profile or loader. So
its runs are runs of its board, and a call from before the last change is a stale dispatch: its completions are taken
up in silence. The first run of a dispatch does not look at the counter, though, and reports that all images are
loaded when there is none to wait for.
-/

namespace MarkdownLayout

inductive ViewStep where
  | setMarkdown (markdown : String)
  | setProfile (profile : Profile)
  | setLoader (loader : Nat)
  | setListeners (listeners : Listeners)
  | loadImages
  | move (m : DispatchMove)

theorem Rendering.ofMarkdown?_cases (options : RenderOptions) (profile : Profile)
    (markdown : String) :
    (∃ document : Document,
      Rendering.ofMarkdown? options profile markdown = .ok (document.render profile options.base)) ∨
      ∃ e, Rendering.ofMarkdown? options profile markdown = .error e := by
  unfold Rendering.ofMarkdown?
  generalize Document.ofMarkdown? options.parsing markdown = found
  cases found with
  | ok document => exact .inl ⟨document, rfl⟩
  | error e => exact .inr ⟨e, rfl⟩

theorem LoadProgress.dispatched_foldl_record (reports : List LoadReport) (progress : LoadProgress) :
    (reports.foldl LoadProgress.record progress).dispatched = progress.dispatched := by
  induction reports generalizing progress with
  | nil => rfl
  | cons report rest ih =>
    rw [List.foldl_cons, ih]
    cases report <;> rfl

namespace View

/-- A change that fails and a call for images that is turned down leave the view as it is. -/
def step (view : View) : ViewStep → View × List Turn
  | .setMarkdown markdown => ((view.setMarkdown? markdown).toOption.getD view, [])
  | .setProfile profile => ((view.setProfile? profile).toOption.getD view, [])
  | .setLoader loader => (view.setLoader loader, [])
  | .setListeners listeners => (view.setListeners listeners, [])
  | .loadImages => (view.loadImages?.getD view, [])
  | .move m => ((view.move m).1, [⟨m, (view.board.move m).2⟩])

def play (view : View) (steps : List ViewStep) : View × List Turn :=
  playAll step view steps

def boardStep? (view : View) : ViewStep → Option BoardStep
  | .setMarkdown markdown => (view.setMarkdown? markdown).toOption.map fun _ => .invalidate 0
  | .setProfile profile => (view.setProfile? profile).toOption.map fun _ => .invalidate 0
  | .setLoader _ => some (.invalidate 0)
  | .setListeners _ => none
  | .loadImages => view.loadImages?.map fun _ => .dispatch 0 view.images
  | .move m => some (.move m)

def boardSteps (view : View) : List ViewStep → List BoardStep
  | [] => []
  | action :: rest => (view.boardStep? action).toList ++ boardSteps (view.step action).1 rest

def changes (view : View) (steps : List ViewStep) : Nat :=
  (view.boardSteps steps).countP (·.invalidates 0)

def asked (view : View) : View :=
  { view with
    progress := { view.progress with dispatched := some view.generation }
    board := view.board.post 0 view.images
    requests := view.requests ++ [⟨view.edition, view.listeners⟩] }

def renderedFrom (view : View) (document : Document) (markdown : String) (profile : Profile) : View :=
  { view.replaceRendering (document.render profile view.options.base) with markdown, profile }

inductive Step (view : View) : ViewStep → View → Option BoardStep → List Turn → Prop
  | kept (action : ViewStep) : Step view action view none []
  | listeners (listeners : Listeners) :
      Step view (.setListeners listeners) (view.setListeners listeners) none []
  | rendered (action : ViewStep) (document : Document) (markdown : String) (profile : Profile) :
      Step view action (view.renderedFrom document markdown profile) (some (.invalidate 0)) []
  | loader (loader : Nat) : Step view (.setLoader loader) (view.setLoader loader) (some (.invalidate 0)) []
  | asked (hdispatched : view.isDispatched = false) (hloaded : view.imagesLoaded = false) :
      Step view .loadImages view.asked (some (.dispatch 0 view.images)) []
  | moved (m : DispatchMove) :
      Step view (.move m) (view.move m).1 (some (.move m)) [⟨m, (view.board.move m).2⟩]

variable {view next : View}

/-- Images are asked for only with a loader, once, and with some still missing. -/
theorem loadImages?_eq_some_iff : view.loadImages? = some next ↔
    (view.loader.isSome = true ∧ view.isDispatched = false ∧ view.imagesLoaded = false) ∧ view.asked = next := by
  unfold loadImages? asked
  cases view.loader <;> cases view.isDispatched <;> cases view.imagesLoaded <;> simp

/-- Everything that a step can do, with the step of the board that belongs to it. -/
theorem step_spec (view : View) (action : ViewStep) :
    Step view action (view.step action).1 (view.boardStep? action) (view.step action).2 := by
  cases action with
  | setMarkdown markdown =>
    obtain ⟨document, hrendering⟩ | ⟨e, hrendering⟩ :=
      Rendering.ofMarkdown?_cases view.options view.profile markdown
    · simp only [step, boardStep?, setMarkdown?, hrendering]
      exact .rendered _ document markdown view.profile
    · simp only [step, boardStep?, setMarkdown?, hrendering]
      exact .kept _
  | setProfile profile =>
    obtain ⟨document, hrendering⟩ | ⟨e, hrendering⟩ :=
      Rendering.ofMarkdown?_cases view.options profile view.markdown
    · simp only [step, boardStep?, setProfile?, hrendering]
      exact .rendered _ document view.markdown profile
    · simp only [step, boardStep?, setProfile?, hrendering]
      exact .kept _
  | setLoader loader => exact .loader loader
  | setListeners listeners => exact .listeners listeners
  | loadImages =>
    unfold step boardStep?
    cases hasked : view.loadImages? with
    | none => exact .kept _
    | some next =>
      obtain ⟨⟨_, hdispatched, hloaded⟩, rfl⟩ := loadImages?_eq_some_iff.1 hasked
      exact .asked hdispatched hloaded
  | move m => exact .moved m

/-- A move of a load changes the board and the flags of the images and nothing else. -/
theorem move_eq (view : View) (m : DispatchMove) :
    ∃ progress, (view.move m).1 = { view with board := (view.board.move m).1, progress } ∧
      progress.dispatched = view.progress.dispatched := by
  unfold move
  cases view.requests[m.number]? with
  | none => exact ⟨view.progress, rfl, rfl⟩
  | some request =>
    by_cases hedition : request.edition = view.edition
    · refine ⟨_, ?_, LoadProgress.dispatched_foldl_record (view.board.move m).2 view.progress⟩
      simp [record, hedition]
    · refine ⟨view.progress, ?_, rfl⟩
      simp [record, hedition]

/-- A view drives its board. -/
theorem board_step (view : View) (action : ViewStep) :
    view.board.play (view.boardStep? action).toList = ((view.step action).1.board, (view.step action).2) := by
  have hstep := view.step_spec action
  generalize (view.step action).1 = next, view.boardStep? action = did, (view.step action).2 = turns at hstep ⊢
  cases hstep with
  | kept | listeners | rendered | loader | asked => rfl
  | moved m =>
    obtain ⟨progress, hmove, _⟩ := view.move_eq m
    rw [hmove]
    simp [DispatchBoard.play, playAll, DispatchBoard.step]

/-- A run of the view plays a run of its board, with the same turns. -/
theorem board_play (view : View) (steps : List ViewStep) :
    view.board.play (view.boardSteps steps) = ((view.play steps).1.board, (view.play steps).2) := by
  induction steps generalizing view with
  | nil => rfl
  | cons action rest ih =>
    have hfirst := view.board_step action
    have hrest := ih (view.step action).1
    unfold DispatchBoard.play at hfirst hrest ⊢
    rw [boardSteps, playAll_append, hfirst, hrest]
    rfl

theorem mem_boardSteps {m : DispatchMove} {steps : List ViewStep} :
    .move m ∈ view.boardSteps steps ↔ .move m ∈ steps := by
  induction steps generalizing view with
  | nil => simp [boardSteps]
  | cons action rest ih =>
    have hfirst : .move m ∈ (view.boardStep? action).toList ↔ .move m = action := by
      cases action with
      | move _ => simp [boardStep?]
      | _ => simp [boardStep?]
    rw [boardSteps, List.mem_append, List.mem_cons, ih, hfirst]

theorem boardSteps_append (view : View) (front back : List ViewStep) :
    view.boardSteps (front ++ back) = view.boardSteps front ++ (view.play front).1.boardSteps back := by
  induction front generalizing view with
  | nil => rfl
  | cons action rest ih =>
    rw [List.cons_append, boardSteps, boardSteps, ih, List.append_assoc]
    rfl

theorem play_append (view : View) (front back : List ViewStep) :
    view.play (front ++ back) =
      (((view.play front).1.play back).1, (view.play front).2 ++ ((view.play front).1.play back).2) :=
  playAll_append step view front back

/-- What holds at the start and is kept by all that a step can do holds after every run. -/
theorem play_induction {motive : List BoardStep → View → List Turn → Prop} (start : motive [] view [])
    (keep : ∀ {done now out action next did turns}, Step now action next did turns → motive done now out →
      motive (done ++ did.toList) next (out ++ turns)) (steps : List ViewStep) :
    motive (view.boardSteps steps) (view.play steps).1 (view.play steps).2 := by
  induction steps using List.reverseRecOn with
  | nil => exact start
  | append_singleton before action ih =>
    rw [play_append, boardSteps_append, boardSteps, boardSteps, List.append_nil]
    have hnext := keep (step_spec _ action) ih
    simpa [play, playAll] using hnext

/-- Requests are added at the end and never forgotten. -/
theorem requests_prefix_play (view : View) (steps : List ViewStep) :
    view.requests <+: (view.play steps).1.requests := by
  refine play_induction (motive := fun _ now _ => view.requests <+: now.requests) List.prefix_rfl ?_ steps
  intro _ now _ action next did turns hstep hprefix
  cases hstep with
  | kept | listeners | rendered | loader => exact hprefix
  | asked => exact hprefix.trans (List.prefix_append ..)
  | moved m =>
    obtain ⟨progress, hmove, _⟩ := now.move_eq m
    rw [hmove]
    exact hprefix

structure IsNew (view : View) : Prop where
  rendering_eq : ∃ document : Document, view.rendering = document.render view.profile view.options.base
  progress_eq : view.progress = .ofRendering view.rendering
  board_eq : view.board = { counters := [.first] }
  requests_eq : view.requests = []

theorem isNew_of_ofMarkdown? {options : RenderOptions} {profile : Profile} {markdown : String}
    (h : ofMarkdown? options profile markdown = .ok view) : view.IsNew := by
  unfold ofMarkdown? at h
  obtain ⟨document, hrendering⟩ | ⟨e, hrendering⟩ := Rendering.ofMarkdown?_cases options profile markdown
  · rw [hrendering] at h
    cases h
    exact ⟨⟨document, rfl⟩, rfl, rfl, rfl⟩
  · rw [hrendering] at h
    cases h

def Reachable (view : View) : Prop :=
  ∃ (start : View) (steps : List ViewStep), start.IsNew ∧ (start.play steps).1 = view

/-- What is true of new views and kept by all that a step can do is true of all views that come about. -/
theorem Reachable.induction {motive : View → Prop} (h : view.Reachable)
    (new : ∀ start : View, start.IsNew → motive start)
    (keep : ∀ {now action next did turns}, Step now action next did turns → motive now → motive next) :
    motive view := by
  obtain ⟨start, steps, hnew, rfl⟩ := h
  exact play_induction (motive := fun _ now _ => motive now) (new start hnew) keep steps

theorem Reachable.counters_length (h : view.Reachable) : view.board.counters.length = 1 := by
  refine h.induction (motive := fun view => view.board.counters.length = 1) ?_ ?_
  · intro start hnew
    rw [hnew.board_eq, List.length_singleton]
  · intro now _ next _ _ hstep hnow
    cases hstep with
    | kept | listeners | asked => exact hnow
    | rendered | loader => exact List.length_set.trans hnow
    | moved m =>
      obtain ⟨progress, hmove, _⟩ := now.move_eq m
      rw [hmove, DispatchBoard.counters_move, hnow]

theorem Reachable.requests_length (h : view.Reachable) : view.requests.length = view.board.dispatches.length := by
  refine h.induction (motive := fun view => view.requests.length = view.board.dispatches.length) ?_ ?_
  · intro start hnew
    rw [hnew.board_eq, hnew.requests_eq]
    rfl
  · intro now _ next _ _ hstep hnow
    cases hstep with
    | kept | listeners | rendered | loader => exact hnow
    | asked => simp [asked, DispatchBoard.post, hnow]
    | moved m =>
      obtain ⟨progress, hmove, _⟩ := now.move_eq m
      rw [hmove, DispatchBoard.length_move, hnow]

/-- The view is told what the load reports, through the listeners it had when it asked. -/
theorem notices_move (view : View) (m : DispatchMove) {request : LoadRequest}
    (hrequest : view.requests[m.number]? = some request) :
    (view.move m).2 = (view.board.move m).2.filterMap request.listeners.notice? := by
  simp [move, hrequest]

/-- What a call for images still gives rise to after a change of text, profile or loader: nothing when there was an
image to wait for. But with none to wait for, as in a rendering without images, the first run of its dispatch tells
the listener that all images are loaded, if it comes after the change. -/
theorem stale_notice_iff (hview : view.Reachable) (hasked : view.loadImages? = some next) (since : List ViewStep)
    (hstale : ¬UInt64.size ∣ next.changes since) (m : DispatchMove) (hm : m.number = view.requests.length)
    (notice : Notice) :
    notice ∈ ((next.play since).1.move m).2 ↔
      m = .begin m.number ∧ .move m ∉ since ∧ (∀ image ∈ view.images, image.loaded = true) ∧
        view.listeners.allImages.map .allImages = some notice := by
  obtain ⟨_, rfl⟩ := loadImages?_eq_some_iff.1 hasked
  have hnumber : m.number = view.board.dispatches.length := hm.trans hview.requests_length
  have hcounter : 0 < view.board.counters.length := by
    rw [hview.counters_length]
    exact Nat.one_pos
  have hboard := view.asked.board_play since
  rw [show view.asked.board = view.board.post 0 view.images from rfl] at hboard
  obtain ⟨dispatch, h⟩ := Watches.play view.board view.images hcounter (view.asked.boardSteps since)
  rw [hboard] at h
  have hrequest : (view.asked.play since).1.requests[m.number]? = some ⟨view.edition, view.listeners⟩ := by
    obtain ⟨later, hlater⟩ := view.asked.requests_prefix_play since
    rw [← hlater, hm]
    simp [asked]
  have houtstanding : (view.images.countP fun image => !image.loaded) = 0 ↔
      ∀ image ∈ view.images, image.loaded = true := by
    simp [List.countP_eq_zero]
  -- on the board the call is a dispatch that has become stale
  have hreports : ∀ report, report ∈ ((view.asked.play since).1.board.move m).2 ↔
      report = .allLoaded ∧ m = .begin m.number ∧ .move m ∉ since ∧ ∀ image ∈ view.images, image.loaded = true := by
    intro report
    rw [h.stale_reports hstale hnumber, ← hnumber, mem_boardSteps, ← houtstanding]
    rfl
  rw [notices_move _ m hrequest, List.mem_filterMap]
  constructor
  · rintro ⟨report, hmem, hnotice⟩
    obtain ⟨rfl, hbegin, hunbegun, hloaded⟩ := (hreports report).1 hmem
    exact ⟨hbegin, hunbegun, hloaded, hnotice⟩
  · rintro ⟨hbegin, hunbegun, hloaded, hnotice⟩
    exact ⟨.allLoaded, (hreports _).2 ⟨rfl, hbegin, hunbegun, hloaded⟩, hnotice⟩

def blank : View where
  markdown := ""
  profile := .neutral
  options := {}
  rendering := Document.render ⟨"", []⟩ .neutral none
  progress := { loaded := [] }

/-- The text is set once more between a call for images and the first run of its dispatch, and the listener still
hears of the call. -/
theorem blank_notices :
    let view := (blank.play [.setLoader 0, .setListeners { allImages := some 5 }]).1
    let since : List ViewStep := [.setMarkdown ""]
    ofMarkdown? {} .neutral "" = .ok blank ∧ view.Reachable ∧ view.loadImages? = some view.asked ∧
      view.asked.changes since = 1 ∧ .allImages 5 ∈ ((view.asked.play since).1.move (.begin 0)).2 := by
  intro view since
  have hblank : ofMarkdown? {} .neutral "" = .ok blank := rfl
  have hview : view.Reachable := ⟨blank, _, isNew_of_ofMarkdown? hblank, rfl⟩
  have hasked : view.loadImages? = some view.asked := rfl
  have hchanges : view.asked.changes since = 1 := rfl
  have himages : view.images = [] := rfl
  have hstale : ¬UInt64.size ∣ view.asked.changes since := by
    rw [hchanges]
    decide
  refine ⟨hblank, hview, hasked, hchanges, ?_⟩
  refine (stale_notice_iff hview hasked since hstale (.begin 0) rfl (.allImages 5)).2 ⟨rfl, ?_, ?_, rfl⟩
  · simp [since]
  · simp [himages]

end View

end MarkdownLayout
