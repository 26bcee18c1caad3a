import MarkdownLayout.Proofs.ImageNumbering
import MarkdownLayout.Proofs.ViewRun

/-!
# The books of one rendering

Several calls may load the images of one rendering, each through a loader of its own, and only the last of them is
heard. A call starts from what the ones before it have reported, so each image is reported once, the flags of the view
are the images reported, and the report on all of them comes with the last image.
-/

namespace MarkdownLayout

theorem getElem?_concat_cases {α : Type} {entries : List α} {last entry : α} {place : Nat}
    (h : (entries ++ [last])[place]? = some entry) :
    entries[place]? = some entry ∨ place = entries.length ∧ last = entry := by
  obtain hlt | rfl | hgt := Nat.lt_trichotomy place entries.length
  · rw [List.getElem?_append_left hlt] at h
    exact .inl h
  · rw [List.getElem?_concat_length] at h
    exact .inr ⟨rfl, Option.some.inj h⟩
  · have hlt := (List.getElem?_eq_some_iff.1 h).1
    rw [List.length_append, List.length_singleton] at hlt
    omega

def InOrder (images : List PendingImage) : Prop :=
  ∀ (slot : Nat) (image : PendingImage), images[slot]? = some image → image.id = slot ∧ image.loaded = false

theorem InOrder.concat {images : List PendingImage} (h : InOrder images) (url : Url) :
    InOrder (images ++ [⟨images.length, url, false⟩]) := by
  intro slot image himage
  obtain himage | ⟨rfl, rfl⟩ := getElem?_concat_cases himage
  · exact h slot image himage
  · exact ⟨rfl, rfl⟩

namespace Builder

variable {builder : Builder}

theorem inOrder_opening {element : Element} {progress after : Progress} {nodes : List Node}
    (h : builder.opening element progress = some (nodes, after)) (horder : InOrder progress.images) :
    InOrder after.images := by
  unfold opening at h
  split at h
  · cases h
    exact horder
  · obtain ⟨url, _, hpushed⟩ := Option.map_eq_some_iff.1 h
    cases hpushed
    exact horder.concat url
  · split at h
    · cases h
    · cases h
      exact horder

mutual

/-- Building numbers each image it registers by its place in the list, with nothing loaded yet. -/
theorem build_inOrder (builder : Builder) :
    ∀ (element : Element) (position : Position) (inherited : Option TextAttributes) (progress : Progress),
      InOrder progress.images → InOrder (builder.build element position inherited progress).2.images
  | ⟨kind, range, children, href, alt, level⟩, position, inherited, progress, horder => by
    rw [build]
    cases hopening : builder.opening ⟨kind, range, children, href, alt, level⟩ progress with
    | none => exact horder
    | some opened =>
      have hchildren := buildChildren_inOrder builder kind
        (builder.attributes ⟨kind, range, children, href, alt, level⟩ inherited) children 0 opened.1 opened.2
        (inOrder_opening hopening horder)
      dsimp only
      rw [images_flushBoundary]
      exact hchildren

theorem buildChildren_inOrder (builder : Builder) (parent : ElementKind) (attributes : Option TextAttributes) :
    ∀ (children : List Element) (index : Nat) (nodes : List Node) (progress : Progress),
      InOrder progress.images →
      InOrder (builder.buildChildren parent attributes children index nodes progress).2.images
  | [], _, _, _, horder => by
    rw [buildChildren]
    exact horder
  | child :: rest, index, nodes, progress, horder => by
    rw [buildChildren_cons]
    split
    · refine buildChildren_inOrder builder parent attributes rest (index + 1) _ _ ?_
      rw [images_appendLeaf]
      exact horder
    · have hchild := build_inOrder builder child ⟨some parent, index⟩ attributes progress horder
      refine buildChildren_inOrder builder parent attributes rest (index + 1) _ _ ?_
      cases (builder.build child ⟨some parent, index⟩ attributes progress).1 <;> exact hchild

end

theorem renderElements_inOrder (builder : Builder) (elements : List Element) (index : Nat) (nodes : List Node)
    (progress : Progress) (horder : InOrder progress.images) :
    InOrder (builder.renderElements elements index nodes progress).2.images := by
  induction elements generalizing index nodes progress with
  | nil => exact horder
  | cons element rest ih =>
    rw [renderElements_cons]
    split
    · exact ih (index + 1) _ _ horder
    · have hbuilt := build_inOrder builder element ⟨none, index⟩ none progress horder
      refine ih (index + 1) _ _ ?_
      cases (builder.build element ⟨none, index⟩ none progress).1 <;> exact hbuilt

end Builder

/-- Whatever the profile shows beside them, the images of a rendering are numbered by their places. -/
theorem Document.inOrder_render (document : Document) (profile : Profile) (base : Option Url) :
    InOrder (document.render profile base).images := by
  apply Builder.renderElements_inOrder
  intro slot image himage
  cases himage

def LoadReport.imageId? : LoadReport → Option Nat
  | .image id _ => some id
  | .allLoaded => none

def reportedIds (reports : List LoadReport) : List Nat :=
  reports.filterMap LoadReport.imageId?

@[simp]
theorem reportedIds_append (front back : List LoadReport) :
    reportedIds (front ++ back) = reportedIds front ++ reportedIds back :=
  List.filterMap_append

namespace LoadProgress

/-- What one load reports marks its own image; that everything is loaded marks none. -/
theorem loaded_foldl_record (progress : LoadProgress) (id : Nat) (data : Option ImageData) (isLast : Prop)
    [Decidable isLast] :
    ((LoadReport.image id data :: if isLast then [.allLoaded] else []).foldl record progress).loaded =
      progress.loaded.set id true := by
  split <;> rfl

/-- The flags are the images reported, and the report on all images has come if none is missing. -/
structure Accounts (progress : LoadProgress) (reports : List LoadReport) : Prop where
  loaded_iff : ∀ id, progress.loaded[id]? = some true ↔ id ∈ reportedIds reports
  nodup : (reportedIds reports).Nodup
  isComplete_iff : progress.isComplete = true ↔ false ∉ progress.loaded
  count_allLoaded : reports.count .allLoaded = if progress.isComplete then 1 else 0

namespace Accounts

variable {progress : LoadProgress} {reports : List LoadReport}

/-- A fresh rendering has reported nothing and waits for every image. -/
theorem start {rendering : Rendering} (himages : rendering.images ≠ []) : (ofRendering rendering).Accounts [] := by
  have hmissing : false ∈ (ofRendering rendering).loaded := by
    simpa [ofRendering] using himages
  have hunloaded : ∀ id : Nat, (ofRendering rendering).loaded[id]? ≠ some true := by
    intro id hid
    simpa [ofRendering] using List.mem_of_getElem? hid
  exact {
    loaded_iff := fun id => iff_of_false (hunloaded id) List.not_mem_nil
    nodup := List.nodup_nil
    isComplete_iff := iff_of_false Bool.false_ne_true (not_not_intro hmissing)
    count_allLoaded := rfl }

/-- An image still missing is reported once, and the last one completes the load together with its report. -/
theorem report (h : progress.Accounts reports) {id : Nat} (hmissing : progress.loaded[id]? = some false)
    (data : Option ImageData) {isLast : Prop} [Decidable isLast]
    (hlast : isLast ↔ false ∉ progress.loaded.set id true) :
    ((LoadReport.image id data :: if isLast then [.allLoaded] else []).foldl record progress).Accounts
      (reports ++ .image id data :: if isLast then [.allLoaded] else []) := by
  have hlt : id < progress.loaded.length := (List.getElem?_eq_some_iff.1 hmissing).1
  have hincomplete : progress.isComplete = false := by
    rw [← Bool.not_eq_true, h.isComplete_iff, not_not]
    exact List.mem_of_getElem? hmissing
  have hids : reportedIds (reports ++ .image id data :: if isLast then [.allLoaded] else []) =
      reportedIds reports ++ [id] := by
    rw [reportedIds_append]
    split <;> rfl
  have hrecorded : (LoadReport.image id data :: if isLast then [.allLoaded] else []).foldl record progress =
      { progress with loaded := progress.loaded.set id true, isComplete := decide isLast } := by
    by_cases hall : isLast
    · simp [hall, record]
    · simp [hall, record, hincomplete]
  have hunreported : id ∉ reportedIds reports := by
    rw [← h.loaded_iff, hmissing]
    simp
  rw [hrecorded]
  constructor
  · intro other
    rw [hids, List.mem_append, List.mem_singleton, ← h.loaded_iff]
    by_cases hother : other = id
    · subst hother
      simp [List.getElem?_set_self hlt]
    · simp [List.getElem?_set_ne (Ne.symm hother), hother]
  · rw [hids]
    exact List.nodup_append.2 ⟨h.nodup, List.nodup_singleton id, by
      rintro other hmem _ hid rfl
      exact hunreported (List.mem_singleton.1 hid ▸ hmem)⟩
  · rw [decide_eq_true_iff]
    exact hlast
  · rw [List.count_append, h.count_allLoaded, hincomplete]
    by_cases hall : isLast <;> simp [hall]

end Accounts

end LoadProgress

namespace View

variable {view : View} {slot : Nat} {image : PendingImage}

theorem getElem?_images_eq_some_iff : view.images[slot]? = some image ↔
    ∃ listed loaded, view.rendering.images[slot]? = some listed ∧ view.progress.loaded[slot]? = some loaded ∧
      { listed with loaded } = image := by
  rw [images, List.getElem?_map, Option.map_eq_some_iff]
  constructor
  · rintro ⟨⟨listed, loaded⟩, hpair, rfl⟩
    obtain ⟨hlisted, hloaded⟩ := List.getElem?_zip_eq_some.1 hpair
    exact ⟨listed, loaded, hlisted, hloaded, rfl⟩
  · rintro ⟨listed, loaded, hlisted, hloaded, rfl⟩
    exact ⟨(listed, loaded), List.getElem?_zip_eq_some.2 ⟨hlisted, hloaded⟩, rfl⟩

theorem map_loaded_images (hlength : view.progress.loaded.length = view.rendering.images.length) :
    view.images.map PendingImage.loaded = view.progress.loaded := by
  rw [images, List.map_map]
  exact List.map_snd_zip (Nat.le_of_eq hlength)

theorem countP_images (view : View) (hlength : view.progress.loaded.length = view.rendering.images.length) :
    (view.images.countP fun image => !image.loaded) = view.progress.loaded.count false := by
  rw [← map_loaded_images hlength, List.count, List.countP_map]
  apply List.countP_congr
  intro image _
  simp

theorem id_eq_of_images (horder : InOrder view.rendering.images) (himage : view.images[slot]? = some image) :
    image.id = slot ∧ view.progress.loaded[slot]? = some image.loaded := by
  obtain ⟨listed, loaded, hlisted, hloaded, rfl⟩ := getElem?_images_eq_some_iff.1 himage
  exact ⟨(horder slot listed hlisted).1, hloaded⟩

/-- Marking one slot changes that entry of the listed images and no other. -/
theorem images_set_loaded (himage : view.images[slot]? = some image) {progress : LoadProgress}
    (hprogress : progress.loaded = view.progress.loaded.set slot true) :
    images { view with progress } = view.images.set slot image.reported := by
  obtain ⟨listed, loaded, hlisted, hloaded, rfl⟩ := getElem?_images_eq_some_iff.1 himage
  have hlt := (List.getElem?_eq_some_iff.1 hloaded).1
  have hslot := (List.getElem?_eq_some_iff.1 himage).1
  apply List.ext_getElem?
  intro other
  apply Option.ext
  intro shown
  rw [getElem?_images_eq_some_iff]
  dsimp only
  rw [hprogress]
  by_cases heq : other = slot
  · subst heq
    rw [List.getElem?_set_self hlt, List.getElem?_set_self hslot]
    simp [hlisted, PendingImage.reported]
  · rw [List.getElem?_set_ne (Ne.symm heq), List.getElem?_set_ne (Ne.symm heq), getElem?_images_eq_some_iff]

/-- A load for another rendering than the one shown changes no flag. -/
theorem move_of_edition_ne {m : DispatchMove}
    (h : ∀ request, view.requests[m.number]? = some request → request.edition ≠ view.edition) :
    (view.move m).1 = { view with board := (view.board.move m).1 } := by
  unfold move
  cases hrequest : view.requests[m.number]? with
  | none => rfl
  | some request =>
    have hne := h request hrequest
    simp [record, hne]

theorem move_of_edition_eq {m : DispatchMove} {request : LoadRequest}
    (hrequest : view.requests[m.number]? = some request) (hedition : request.edition = view.edition) :
    (view.move m).1 =
      { view with
        board := (view.board.move m).1
        progress := (view.board.move m).2.foldl LoadProgress.record view.progress } := by
  simp [move, hrequest, record, hedition]

theorem Reachable.inOrder (h : view.Reachable) : InOrder view.rendering.images := by
  refine h.induction (motive := fun view => InOrder view.rendering.images) ?_ ?_
  · intro start hnew
    obtain ⟨document, hrendering⟩ := hnew.rendering_eq
    rw [hrendering]
    exact document.inOrder_render _ _
  · intro now _ next _ _ hstep hnow
    cases hstep with
    | kept | listeners | loader | asked => exact hnow
    | rendered _ document => exact document.inOrder_render _ _
    | moved m =>
      obtain ⟨progress, hmove, _⟩ := now.move_eq m
      rw [hmove]
      exact hnow

/-- Requests are for renderings up to this one, and only for this one if its images have been asked for. -/
theorem Reachable.editions (h : view.Reachable) : ∀ request ∈ view.requests,
    request.edition < view.edition ∨ request.edition = view.edition ∧ view.progress.dispatched ≠ none := by
  refine h.induction (motive := fun view => ∀ request ∈ view.requests,
    request.edition < view.edition ∨ request.edition = view.edition ∧ view.progress.dispatched ≠ none) ?_ ?_
  · intro start hnew request hrequest
    rw [hnew.requests_eq] at hrequest
    cases hrequest
  · intro now _ next _ _ hstep hnow request hrequest
    cases hstep with
    | kept | listeners | loader => exact hnow request hrequest
    | rendered =>
      refine .inl (Nat.lt_succ_of_le ?_)
      obtain hlt | ⟨heq, _⟩ := hnow request hrequest
      · exact Nat.le_of_lt hlt
      · exact Nat.le_of_eq heq
    | asked =>
      obtain hold | hlast := List.mem_append.1 hrequest
      · exact (hnow request hold).imp_right fun h => ⟨h.1, Option.some_ne_none _⟩
      · rw [List.mem_singleton.1 hlast]
        exact .inr ⟨rfl, Option.some_ne_none _⟩
    | moved m =>
      obtain ⟨progress, hmove, hdispatched⟩ := now.move_eq m
      rw [hmove] at hrequest ⊢
      rw [hdispatched]
      exact hnow request hrequest

end View

def Turn.reportsFrom (number : Nat) (turns : List Turn) : List LoadReport :=
  turns.flatMap fun turn => if number ≤ turn.move.number then turn.reports else []

@[simp]
theorem Turn.reportsFrom_append (number : Nat) (turns more : List Turn) :
    reportsFrom number (turns ++ more) = reportsFrom number turns ++ reportsFrom number more :=
  List.flatMap_append

/-- One dispatch is put in the place of another. -/
theorem forall_posted_set {dispatches : List PostedDispatch} {motive : Nat → PostedDispatch → Prop} {number : Nat}
    {next : PostedDispatch} (hnext : motive number next)
    (hothers : ∀ (other : Nat) (posted : PostedDispatch), other ≠ number → dispatches[other]? = some posted →
      motive other posted) (other : Nat) (posted : PostedDispatch)
    (hlisted : (dispatches.set number next)[other]? = some posted) : motive other posted := by
  by_cases heq : other = number
  · subst heq
    rw [List.getElem?_set_self' ] at hlisted
    obtain ⟨_, _, rfl⟩ := Option.map_eq_some_iff.1 hlisted
    exact hnext
  · rw [List.getElem?_set_ne (Ne.symm heq)] at hlisted
    exact hothers other posted heq hlisted

/-- A dispatch for the rendering that `made` shows. It is of an earlier generation, or the last one made, and then
its images are those of the view. -/
structure Serves (made : View) (changes : Nat) (now : View) (number : Nat) (posted : PostedDispatch) : Prop where
  counter_eq : posted.counter = 0
  counted : posted.dispatch.Counted
  outstanding_ne_zero : posted.dispatch.stage = .starting → posted.dispatch.outstanding ≠ 0
  aged : ∃ age ≤ changes, posted.dispatch.generation = made.generation.after age
  fresh : posted.dispatch.generation = made.generation.after changes →
    number + 1 = now.requests.length ∧ now.progress.dispatched = some (made.generation.after changes) ∧
      posted.dispatch.images = now.images

/-- The books of a rendering since the view `made` that shows it with nothing asked for, after some changes of the
loader. -/
structure Keeps (made : View) (changes : Nat) (now : View) (turns : List Turn) : Prop where
  rendering_eq : now.rendering = made.rendering
  edition_eq : now.edition = made.edition
  counters_eq : now.board.counters = [made.generation.after changes]
  requests_length : now.requests.length = now.board.dispatches.length
  length_le : made.requests.length ≤ now.requests.length
  edition_iff : ∀ (number : Nat) (request : LoadRequest), now.requests[number]? = some request →
    (request.edition = made.edition ↔ made.requests.length ≤ number)
  serves : ∀ (number : Nat) (posted : PostedDispatch), now.board.dispatches[number]? = some posted →
    made.requests.length ≤ number → Serves made changes now number posted
  length_loaded : now.progress.loaded.length = made.rendering.images.length
  accounts : now.progress.Accounts (Turn.reportsFrom made.requests.length turns)

namespace Keeps

open View

variable {made now next : View} {changes : Nat} {turns more : List Turn}

theorem generation_eq (h : Keeps made changes now turns) : now.generation = made.generation.after changes := by
  rw [View.generation, DispatchBoard.generation, h.counters_eq]
  rfl

theorem isComplete_iff (h : Keeps made changes now turns) : now.progress.isComplete = true ↔
    (now.images.countP fun image => !image.loaded) = 0 := by
  have hlength : now.progress.loaded.length = now.rendering.images.length := by
    rw [h.rendering_eq]
    exact h.length_loaded
  rw [countP_images now hlength, List.count_eq_zero]
  exact h.accounts.isComplete_iff

/-- The books open with nothing asked for and nothing reported. -/
theorem start (hmade : made.Reachable) (hprogress : made.progress = .ofRendering made.rendering)
    (himages : made.rendering.images ≠ []) : Keeps made 0 made [] where
  rendering_eq := rfl
  edition_eq := rfl
  counters_eq := by
    obtain ⟨generation, hcounters⟩ := List.length_eq_one_iff.1 hmade.counters_length
    rw [Generation.after_zero, View.generation, DispatchBoard.generation, hcounters]
    rfl
  requests_length := hmade.requests_length
  length_le := Nat.le_refl _
  edition_iff := by
    intro number request hrequest
    obtain ⟨hlt, _⟩ := List.getElem?_eq_some_iff.1 hrequest
    refine iff_of_false ?_ (Nat.not_le_of_lt hlt)
    obtain hedition | ⟨_, hdispatched⟩ := hmade.editions request (List.mem_of_getElem? hrequest)
    · exact Nat.ne_of_lt hedition
    · rw [hprogress] at hdispatched
      exact absurd rfl hdispatched
  serves := by
    intro number posted hlisted hle
    obtain ⟨hlt, _⟩ := List.getElem?_eq_some_iff.1 hlisted
    rw [← hmade.requests_length] at hlt
    exact absurd hle (Nat.not_le_of_lt hlt)
  length_loaded := by
    rw [hprogress]
    exact List.length_map _
  accounts := by
    rw [hprogress]
    exact .start himages

/-- A step that reports nothing and leaves the images as they are. -/
theorem quiet (h : Keeps made changes now turns) (hrendering : next.rendering = now.rendering)
    (hedition : next.edition = now.edition) (hprogress : next.progress = now.progress)
    (hrequests : next.requests = now.requests) (hcounters : next.board.counters = now.board.counters)
    (hlength : next.board.dispatches.length = now.board.dispatches.length)
    (hserves : ∀ (number : Nat) (posted : PostedDispatch), next.board.dispatches[number]? = some posted →
      made.requests.length ≤ number → Serves made changes now number posted)
    (hmore : Turn.reportsFrom made.requests.length more = []) : Keeps made changes next (turns ++ more) where
  rendering_eq := hrendering.trans h.rendering_eq
  edition_eq := hedition.trans h.edition_eq
  counters_eq := hcounters.trans h.counters_eq
  requests_length := by rw [hrequests, hlength, h.requests_length]
  length_le := by rw [hrequests]; exact h.length_le
  edition_iff := by
    rw [hrequests]
    exact h.edition_iff
  serves := by
    intro number posted hlisted hle
    have himages : next.images = now.images := by rw [View.images, View.images, hrendering, hprogress]
    obtain ⟨hcounter, hcounted, houtstanding, haged, hfresh⟩ := hserves number posted hlisted hle
    rw [← himages, ← hprogress, ← hrequests] at hfresh
    exact ⟨hcounter, hcounted, houtstanding, haged, hfresh⟩
  length_loaded := by rw [hprogress, h.length_loaded]
  accounts := by
    rw [hprogress, Turn.reportsFrom_append, hmore, List.append_nil]
    exact h.accounts

/-- Another loader is one change more: it makes what is under way stale and leaves the flags and reports. -/
theorem loader (h : Keeps made changes now turns) (hchanges : changes + 1 < UInt64.size) (loader : Nat) :
    Keeps made (changes + 1) (now.setLoader loader) turns where
  rendering_eq := h.rendering_eq
  edition_eq := h.edition_eq
  counters_eq := by
    have hgeneration := h.generation_eq
    rw [View.generation] at hgeneration
    rw [← Generation.next_after, ← hgeneration]
    simp [setLoader, View.invalidate, DispatchBoard.invalidate, h.counters_eq]
  requests_length := h.requests_length
  length_le := h.length_le
  edition_iff := h.edition_iff
  serves := by
    intro number posted hlisted hle
    obtain ⟨hcounter, hcounted, houtstanding, ⟨age, hage, hgeneration⟩, _⟩ := h.serves number posted hlisted hle
    refine ⟨hcounter, hcounted, houtstanding, ⟨age, by omega, hgeneration⟩, ?_⟩
    -- no dispatch is of the new generation: the counter has not come around since they were made
    intro hfresh
    have hlt : age < UInt64.size := by omega
    rw [hgeneration, Generation.after_eq_after_iff, Nat.mod_eq_of_lt hlt, Nat.mod_eq_of_lt hchanges] at hfresh
    omega
  length_loaded := h.length_loaded
  accounts := h.accounts

/-- The books stay in order when the images that are still missing are asked for. -/
theorem asked (h : Keeps made changes now turns) (hdispatched : now.isDispatched = false)
    (hloaded : now.imagesLoaded = false) : Keeps made changes now.asked turns where
  rendering_eq := h.rendering_eq
  edition_eq := h.edition_eq
  counters_eq := h.counters_eq
  requests_length := by simp [View.asked, DispatchBoard.post, h.requests_length]
  length_le := Nat.le_trans h.length_le (List.sublist_append_left _ _).length_le
  edition_iff := by
    intro number request hrequest
    obtain hold | ⟨rfl, rfl⟩ := getElem?_concat_cases hrequest
    · exact h.edition_iff number request hold
    · exact iff_of_true h.edition_eq h.length_le
  serves := by
    intro number posted hlisted hle
    -- the images have not been asked for in this generation, so no other dispatch is of it
    have hstale : now.progress.dispatched ≠ some (made.generation.after changes) := by
      rw [← h.generation_eq]
      simpa [isDispatched] using hdispatched
    obtain hold | ⟨rfl, rfl⟩ := getElem?_concat_cases hlisted
    · obtain ⟨hcounter, hcounted, houtstanding, haged, hfresh⟩ := h.serves number posted hold hle
      exact ⟨hcounter, hcounted, houtstanding, haged, fun hgeneration => absurd (hfresh hgeneration).2.1 hstale⟩
    · have houtstanding : (now.images.countP fun image => !image.loaded) ≠ 0 := by
        rw [imagesLoaded, ← Bool.not_eq_true, h.isComplete_iff] at hloaded
        exact hloaded
      exact {
        counter_eq := rfl
        counted := by
          intro remaining hwaiting
          cases hwaiting
        outstanding_ne_zero := fun _ => houtstanding
        aged := ⟨changes, Nat.le_refl _, h.generation_eq⟩
        fresh := fun _ => ⟨by simp [View.asked, h.requests_length], by rw [View.asked, h.generation_eq], rfl⟩ }
  length_loaded := h.length_loaded
  accounts := ⟨h.accounts.loaded_iff, h.accounts.nodup, h.accounts.isComplete_iff, h.accounts.count_allLoaded⟩

theorem unheard (h : Keeps made changes now turns) {m : DispatchMove} {posted : PostedDispatch} {dispatch : Dispatch}
    (hle : made.requests.length ≤ m.number) (hlisted : now.board.dispatches[m.number]? = some posted)
    (hstep : Dispatch.Step (made.generation.after changes) posted.dispatch m dispatch [])
    (himages : dispatch.images = posted.dispatch.images) :
    Keeps made changes
      { now with
        board := { now.board with dispatches := now.board.dispatches.set m.number ⟨posted.counter, dispatch⟩ } }
      (turns ++ [⟨m, []⟩]) := by
  have hserves := h.serves m.number posted hlisted hle
  have hgeneration := hstep.generation_eq
  have hnext : Serves made changes now m.number ⟨posted.counter, dispatch⟩ := {
    counter_eq := hserves.counter_eq
    counted := hstep.counted hserves.counted
    outstanding_ne_zero := by
      intro hstarting
      obtain ⟨rfl, _⟩ := hstep.eq_of_starting hstarting
      exact hserves.outstanding_ne_zero hstarting
    aged := by
      rw [hgeneration]
      exact hserves.aged
    fresh := by
      rw [hgeneration, himages]
      exact hserves.fresh }
  refine h.quiet rfl rfl rfl rfl rfl List.length_set ?_ (by simp [Turn.reportsFrom])
  exact forall_posted_set (fun _ => hnext) fun other posted _ hother => h.serves other posted hother

/-- A dispatch of the rendering is heard: its view shows one image more, and so do its own images. -/
theorem heard (h : Keeps made changes now turns) (horder : InOrder made.rendering.images) {number : Nat}
    {posted : PostedDispatch} (hle : made.requests.length ≤ number)
    (hlisted : now.board.dispatches[number]? = some posted) {remaining : Nat} (completion : Completion)
    {image : PendingImage} (hstage : posted.dispatch.stage = .waiting remaining)
    (hgeneration : posted.dispatch.generation = made.generation.after changes)
    (himage : posted.dispatch.images[completion.slot]? = some image) (hloaded : image.loaded = false) :
    let reports : List LoadReport :=
      .image image.id completion.outcome.toOption :: if remaining ≤ 1 then [.allLoaded] else []
    let dispatch : Dispatch :=
      { posted.dispatch with
        images := posted.dispatch.images.set completion.slot image.reported
        stage := if remaining ≤ 1 then .finished else .waiting (remaining - 1) }
    let next : View :=
      { now with
        board := { now.board with dispatches := now.board.dispatches.set number ⟨posted.counter, dispatch⟩ }
        progress := reports.foldl LoadProgress.record now.progress }
    Keeps made changes next (turns ++ [⟨.deliver number completion, reports⟩]) := by
  intro reports dispatch next
  have hserves := h.serves number posted hlisted hle
  obtain ⟨hnumber, hdispatched, hshown⟩ := hserves.fresh hgeneration
  rw [hshown] at himage
  obtain ⟨hid, hflag⟩ := id_eq_of_images (h.rendering_eq ▸ horder) himage
  have hprogress : next.progress.loaded = now.progress.loaded.set completion.slot true := by
    rw [LoadProgress.loaded_foldl_record, hid]
  have hlength : next.progress.loaded.length = made.rendering.images.length := by
    rw [hprogress, List.length_set, h.length_loaded]
  have himages : next.images = dispatch.images := by
    have hset := images_set_loaded himage hprogress
    rwa [← hshown] at hset
  have hstep : Dispatch.Step _ _ (.deliver number completion) dispatch reports :=
    .reported number remaining completion image hstage hgeneration (hshown ▸ himage) hloaded
  -- the counter was the number of flags not set, so it says whether this was the last one
  have hlast : remaining ≤ 1 ↔ false ∉ now.progress.loaded.set image.id true := by
    have hcount := next.countP_images (hlength.trans (congrArg (List.length ·.images) h.rendering_eq.symm))
    have hleft : dispatch.outstanding + 1 = posted.dispatch.outstanding :=
      posted.dispatch.outstanding_set (hshown ▸ himage) hloaded _
    obtain ⟨hremaining, hpos⟩ := hserves.counted remaining hstage
    rw [himages] at hcount
    rw [hid, ← hprogress, ← List.count_eq_zero, ← hcount]
    change _ ↔ dispatch.outstanding = 0
    omega
  have hnext : Serves made changes next number ⟨posted.counter, dispatch⟩ := {
    counter_eq := hserves.counter_eq
    counted := hstep.counted hserves.counted
    outstanding_ne_zero := by
      intro hstarting
      have hwaiting := (hstep.starting_iff.1 hstarting).1
      rw [hstage] at hwaiting
      cases hwaiting
    aged := hserves.aged
    fresh := fun _ => ⟨hnumber, (LoadProgress.dispatched_foldl_record _ _).trans hdispatched, himages.symm⟩ }
  exact {
    rendering_eq := h.rendering_eq
    edition_eq := h.edition_eq
    counters_eq := h.counters_eq
    requests_length := h.requests_length.trans List.length_set.symm
    length_le := h.length_le
    edition_iff := h.edition_iff
    serves := by
      refine forall_posted_set (fun _ => hnext) ?_
      intro other posted' hother hlisted' hle'
      -- the dispatch that is heard is the last one, so this one is stale and need not show the new image
      obtain ⟨hcounter, hcounted, houtstanding, haged, hfresh⟩ := h.serves other posted' hlisted' hle'
      refine ⟨hcounter, hcounted, houtstanding, haged, fun hcurrent => ?_⟩
      have := (hfresh hcurrent).1
      omega
    length_loaded := hlength
    accounts := by
      have hreports : Turn.reportsFrom made.requests.length [⟨.deliver number completion, reports⟩] = reports := by
        simp [Turn.reportsFrom, DispatchMove.number, hle]
      rw [Turn.reportsFrom_append, hreports]
      exact h.accounts.report (hid ▸ hflag.trans (congrArg some hloaded)) _ hlast }

/-- One move of a load keeps the books, with its reports entered at the end. -/
theorem moved (h : Keeps made changes now turns) (horder : InOrder made.rendering.images) (m : DispatchMove) :
    Keeps made changes (now.move m).1 (turns ++ [⟨m, (now.board.move m).2⟩]) := by
  by_cases hle : made.requests.length ≤ m.number
  · cases hlisted : now.board.dispatches[m.number]? with
    | none =>
      have hmove : now.board.move m = (now.board, []) := by simp [DispatchBoard.move, hlisted]
      have hrequest : now.requests[m.number]? = none := by
        rw [List.getElem?_eq_none_iff] at hlisted ⊢
        rwa [h.requests_length]
      rw [move_of_edition_ne (by simp [hrequest]), hmove]
      exact h.quiet rfl rfl rfl rfl rfl rfl h.serves (by simp [Turn.reportsFrom])
    | some posted =>
      have hserves := h.serves m.number posted hlisted hle
      have hlt := (List.getElem?_eq_some_iff.1 hlisted).1
      have hrequest := List.getElem?_eq_getElem (h.requests_length ▸ hlt)
      have hedition := (h.edition_iff _ _ hrequest).2 hle
      rw [← h.edition_eq] at hedition
      have hgeneration : now.board.generation posted.counter = made.generation.after changes := by
        rw [hserves.counter_eq]
        exact h.generation_eq
      rw [move_of_edition_eq hrequest hedition, DispatchBoard.move_of_listed hlisted, hgeneration]
      have hstep := posted.dispatch.move_step (made.generation.after changes) m
      generalize (posted.dispatch.move (made.generation.after changes) m).1 = dispatch at hstep ⊢
      generalize (posted.dispatch.move (made.generation.after changes) m).2 = reports at hstep ⊢
      cases hcase : hstep with
      | idle | started | stale => exact h.unheard hle hlisted hstep rfl
      | vacuous _ hstage houtstanding => exact absurd houtstanding (hserves.outstanding_ne_zero hstage)
      | reported number remaining completion image hstage hgeneration himage hloaded =>
        exact h.heard horder hle hlisted completion hstage hgeneration himage hloaded
  · have hforeign : ∀ request, now.requests[m.number]? = some request → request.edition ≠ now.edition := by
      intro request hrequest
      rw [h.edition_eq]
      exact mt (h.edition_iff m.number request hrequest).1 hle
    rw [move_of_edition_ne hforeign]
    refine h.quiet rfl rfl rfl rfl (DispatchBoard.counters_move _ _) (DispatchBoard.length_move _ _) ?_ ?_
    · intro number posted hlisted hnumber
      rw [DispatchBoard.getElem?_move_of_ne (by omega)] at hlisted
      exact h.serves number posted hlisted hnumber
    · simp [Turn.reportsFrom, hle]

/-- The books are kept from the view as made to the end of every run that leaves the rendering in place. -/
theorem play (hmade : made.Reachable) (hprogress : made.progress = .ofRendering made.rendering)
    (himages : made.rendering.images ≠ []) (since : List ViewStep)
    (hedition : (made.play since).1.edition = made.edition) (hchanges : made.changes since < UInt64.size) :
    Keeps made (made.changes since) (made.play since).1 (made.play since).2 := by
  revert hedition hchanges
  -- no rendering was made on the way, as editions never go back
  refine (play_induction (motive := fun done now turns => made.edition ≤ now.edition ∧
    (now.edition = made.edition → done.countP (·.invalidates 0) < UInt64.size →
      Keeps made (done.countP (·.invalidates 0)) now turns)) ⟨Nat.le_refl _, fun _ _ => start hmade hprogress himages⟩
    ?_ since).2
  intro done now turns action next did more hstep ⟨hle, hnow⟩
  rw [List.countP_append]
  cases hstep with
  | kept =>
    refine ⟨hle, fun hedition hchanges => ?_⟩
    have h := hnow hedition hchanges
    exact h.quiet rfl rfl rfl rfl rfl rfl h.serves rfl
  | listeners =>
    refine ⟨hle, fun hedition hchanges => ?_⟩
    have h := hnow hedition hchanges
    exact h.quiet rfl rfl rfl rfl rfl rfl h.serves rfl
  | rendered =>
    have hnext : made.edition < now.edition + 1 := Nat.lt_succ_of_le hle
    exact ⟨Nat.le_of_lt hnext, fun hedition => absurd hedition (Nat.ne_of_gt hnext)⟩
  | loader loader =>
    refine ⟨hle, fun hedition hchanges => ?_⟩
    rw [List.append_nil]
    exact (hnow hedition (Nat.lt_of_le_of_lt (Nat.le_add_right _ _) hchanges)).loader hchanges loader
  | asked hdispatched hloaded =>
    refine ⟨hle, fun hedition hchanges => ?_⟩
    rw [List.append_nil]
    exact (hnow hedition hchanges).asked hdispatched hloaded
  | moved m =>
    obtain ⟨progress, hmove, _⟩ := now.move_eq m
    rw [show (now.move m).1.edition = now.edition by rw [hmove]]
    exact ⟨hle, fun hedition hchanges => (hnow hedition hchanges).moved hmade.inOrder m⟩

/-- An image is loaded exactly if its id is among those reported. -/
theorem images_eq (h : Keeps made changes now turns) (horder : InOrder made.rendering.images) :
    now.images = made.rendering.images.map fun image =>
      { image with loaded := decide (image.id ∈ reportedIds (Turn.reportsFrom made.requests.length turns)) } := by
  apply List.ext_getElem?
  intro slot
  apply Option.ext
  intro shown
  rw [getElem?_images_eq_some_iff, h.rendering_eq, List.getElem?_map, Option.map_eq_some_iff]
  have hflag : ∀ listed : PendingImage, made.rendering.images[slot]? = some listed → now.progress.loaded[slot]? =
      some (decide (listed.id ∈ reportedIds (Turn.reportsFrom made.requests.length turns))) := by
    intro listed hlisted
    have hlt : slot < now.progress.loaded.length := by
      rw [h.length_loaded]
      exact (List.getElem?_eq_some_iff.1 hlisted).1
    have hreported := h.accounts.loaded_iff slot
    rw [List.getElem?_eq_getElem hlt] at hreported ⊢
    rw [(horder slot listed hlisted).1]
    cases hvalue : now.progress.loaded[slot] <;> simpa [hvalue] using hreported
  constructor
  · rintro ⟨listed, loaded, hlisted, hloaded, rfl⟩
    rw [hflag listed hlisted] at hloaded
    cases hloaded
    exact ⟨listed, hlisted, rfl⟩
  · rintro ⟨listed, hlisted, rfl⟩
    exact ⟨listed, _, hlisted, hflag listed hlisted, rfl⟩

end Keeps

namespace View

/-- A step leaves the rendering or makes one of which nothing is loaded. -/
theorem Step.edition_eq_or {now next : View} {action : ViewStep} {did : Option BoardStep} {turns : List Turn}
    (h : Step now action next did turns) :
    next.edition = now.edition ∨ next.progress = .ofRendering next.rendering := by
  cases h with
  | kept | listeners | loader | asked => exact .inl rfl
  | rendered => exact .inr rfl
  | moved m =>
    obtain ⟨progress, hmove, _⟩ := now.move_eq m
    exact .inl (by rw [hmove])

/-- Every view comes about from one that showed the same rendering with nothing asked for. -/
theorem Reachable.exists_made {now : View} (h : now.Reachable) : ∃ (made : View) (since : List ViewStep),
    made.Reachable ∧ made.progress = .ofRendering made.rendering ∧ (made.play since).1 = now ∧
      now.edition = made.edition := by
  obtain ⟨start, steps, hnew, rfl⟩ := h
  induction steps using List.reverseRecOn with
  | nil => exact ⟨start, [], ⟨start, [], hnew, rfl⟩, hnew.progress_eq, rfl, rfl⟩
  | append_singleton before action ih =>
    obtain ⟨made, since, hmade, hprogress, hplay, hedition⟩ := ih
    have hlast : (start.play (before ++ [action])).1 = ((start.play before).1.step action).1 := by
      rw [play_append]
      rfl
    obtain hstays | hrendered := ((start.play before).1.step_spec action).edition_eq_or
    · refine ⟨made, since ++ [action], hmade, hprogress, ?_, ?_⟩
      · rw [play_append, hplay, hlast]
        rfl
      · rw [hlast, hstays, hedition]
    · exact ⟨_, [], ⟨start, before ++ [action], hnew, rfl⟩, hlast ▸ hrendered, rfl, rfl⟩

variable {made : View}

def gallery : View where
  markdown := Document.gallery.source
  profile := .neutral
  options := {}
  rendering := Document.gallery.render .neutral none
  progress := .ofRendering (Document.gallery.render .neutral none)

end View

end MarkdownLayout
