import MarkdownLayout.Proofs.ViewRun
import MarkdownLayout.View.Edit

/-!
# A view shows its text in its profile

A change has its rendering before it writes anything, so one that fails leaves the view as it was. What a view has in
hand is then always the rendering of its text. The text was accepted when it was set, and no text is accepted in one
profile and rejected in another, so a change of profile cannot fail.
-/

namespace MarkdownLayout

namespace Rendering

variable {options : RenderOptions} {profile : Profile} {markdown : String} {rendering : Rendering}

theorem ofMarkdown?_eq_ok_iff : Rendering.ofMarkdown? options profile markdown = .ok rendering ↔
    ∃ document, Document.ofMarkdown? options.parsing markdown = .ok document ∧
      document.render profile options.base = rendering := by
  unfold Rendering.ofMarkdown?
  cases Document.ofMarkdown? options.parsing markdown <;> simp

/-- A text that can be rendered in one profile can be rendered in all. -/
theorem exists_ofMarkdown? (h : Rendering.ofMarkdown? options profile markdown = .ok rendering) (other : Profile) :
    ∃ restyled, Rendering.ofMarkdown? options other markdown = .ok restyled := by
  obtain ⟨document, hdocument, _⟩ := ofMarkdown?_eq_ok_iff.1 h
  exact ⟨_, ofMarkdown?_eq_ok_iff.2 ⟨document, hdocument, rfl⟩⟩

end Rendering

theorem LoadProgress.length_foldl_record (reports : List LoadReport) (progress : LoadProgress) :
    (reports.foldl record progress).loaded.length = progress.loaded.length := by
  induction reports generalizing progress with
  | nil => rfl
  | cons report rest ih =>
    rw [List.foldl_cons, ih]
    cases report with
    | image id data => exact List.length_set
    | allLoaded => rfl

/-! ## Changes in place -/

namespace ViewEdit

variable {α β : Type}

theorem applyTo_bind (edit : ViewEdit α) (next : α → ViewEdit β) (view : View) :
    (edit >>= next).applyTo view =
      match edit.applyTo view with
      | (.ok value, after) => (next value).applyTo after
      | (.error e, after) => (.error e, after) := by
  unfold applyTo
  rw [ExceptT.run_bind, StateT.run_bind]
  generalize StateT.run (ExceptT.run edit) view = ended
  obtain ⟨_ | value, after⟩ := ended <;> rfl

theorem applyTo_get (view : View) : applyTo get view = (.ok view, view) := rfl

theorem applyTo_modify (change : View → View) (view : View) :
    applyTo (modify change) view = (.ok (), change view) := rfl

theorem applyTo_render (profile : Profile) (markdown : String) (view : View) :
    (render profile markdown).applyTo view = (Rendering.ofMarkdown? view.options profile markdown, view) := rfl

theorem applyTo_replaceRendering (rendering : Rendering) (view : View) :
    (replaceRendering rendering).applyTo view = (.ok (), view.replaceRendering rendering) := by
  simp only [replaceRendering, applyTo_bind, applyTo_modify]
  rfl

def ending (view : View) (result : Except AssemblyError View) : Except AssemblyError Unit × View :=
  match result with
  | .ok next => (.ok (), next)
  | .error e => (.error e, view)

/-- Drawing anew replaces the rendering with what was read, or leaves the view as it was. -/
theorem applyTo_redraw (profile : Profile) (markdown : String) (write : View → View) (view : View) :
    (redraw profile markdown write).applyTo view =
      ending view ((Rendering.ofMarkdown? view.options profile markdown).map (write view).replaceRendering) := by
  -- nothing is written until the rendering is there
  rw [redraw, applyTo_bind, applyTo_render]
  cases Rendering.ofMarkdown? view.options profile markdown with
  | error e => rfl
  | ok rendering => simp only [applyTo_bind, applyTo_modify, applyTo_replaceRendering, Except.map, ending]

theorem applyTo_setMarkdown (markdown : String) (view : View) :
    (setMarkdown markdown).applyTo view = ending view (view.setMarkdown? markdown) := by
  rw [setMarkdown, applyTo_bind, applyTo_get]
  exact applyTo_redraw view.profile markdown _ view

theorem applyTo_setProfile (profile : Profile) (view : View) :
    (setProfile profile).applyTo view = ending view (view.setProfile? profile) := by
  rw [setProfile, applyTo_bind, applyTo_get]
  exact applyTo_redraw profile view.markdown _ view

end ViewEdit

namespace View

theorem step_setMarkdown (view : View) (markdown : String) :
    view.step (.setMarkdown markdown) = (((ViewEdit.setMarkdown markdown).applyTo view).2, []) := by
  rw [ViewEdit.applyTo_setMarkdown, step]
  cases view.setMarkdown? markdown <;> rfl

theorem step_setProfile (view : View) (profile : Profile) :
    view.step (.setProfile profile) = (((ViewEdit.setProfile profile).applyTo view).2, []) := by
  rw [ViewEdit.applyTo_setProfile, step]
  cases view.setProfile? profile <;> rfl

/-! ## What every run keeps -/

/-- What is shown is the rendering of the text in the profile, with a flag for each of its images. -/
structure Consistent (options : RenderOptions) (view : View) : Prop where
  options_eq : view.options = options
  rendering_eq : Rendering.ofMarkdown? options view.profile view.markdown = .ok view.rendering
  length_eq : view.progress.loaded.length = view.rendering.images.length

theorem length_move (view : View) (m : DispatchMove) :
    (view.move m).1.progress.loaded.length = view.progress.loaded.length := by
  unfold move
  cases view.requests[m.number]? with
  | none => rfl
  | some request =>
    dsimp only [record]
    split
    · exact LoadProgress.length_foldl_record (view.board.move m).2 view.progress
    · rfl

namespace Consistent

variable {options : RenderOptions} {view : View}

/-- A new view shows what its text and profile render to. -/
theorem of_ofMarkdown? {profile : Profile} {markdown : String}
    (h : ofMarkdown? options profile markdown = .ok view) : view.Consistent options := by
  unfold ofMarkdown? at h
  cases hrendering : Rendering.ofMarkdown? options profile markdown with
  | error e =>
    rw [hrendering] at h
    cases h
  | ok rendering =>
    rw [hrendering] at h
    cases h
    exact ⟨rfl, hrendering, List.length_map _⟩

theorem replaceRendering (h : view.Consistent options) {profile : Profile} {markdown : String}
    {rendering : Rendering} (hrendering : Rendering.ofMarkdown? view.options profile markdown = .ok rendering) :
    Consistent options { view.replaceRendering rendering with profile, markdown } where
  options_eq := h.options_eq
  rendering_eq := h.options_eq ▸ hrendering
  length_eq := List.length_map _

/-- No step takes the shown rendering away from the text, the profile and the options. -/
theorem step (h : view.Consistent options) (action : ViewStep) : (view.step action).1.Consistent options := by
  cases action with
  | setMarkdown markdown =>
    cases hrendering : Rendering.ofMarkdown? view.options view.profile markdown with
    | error e =>
      simp only [View.step, setMarkdown?, hrendering]
      exact h
    | ok rendering =>
      simp only [View.step, setMarkdown?, hrendering]
      exact h.replaceRendering hrendering
  | setProfile profile =>
    cases hrendering : Rendering.ofMarkdown? view.options profile view.markdown with
    | error e =>
      simp only [View.step, setProfile?, hrendering]
      exact h
    | ok rendering =>
      simp only [View.step, setProfile?, hrendering]
      exact h.replaceRendering hrendering
  | setLoader | setListeners => exact ⟨h.options_eq, h.rendering_eq, h.length_eq⟩
  | loadImages =>
    unfold View.step
    cases hasked : view.loadImages? with
    | none => exact h
    | some next =>
      obtain ⟨_, rfl⟩ := loadImages?_eq_some_iff.1 hasked
      exact ⟨h.options_eq, h.rendering_eq, h.length_eq⟩
  | move m =>
    have hlength := view.length_move m
    obtain ⟨progress, hmove, _⟩ := view.move_eq m
    rw [hmove] at hlength
    change Consistent options (view.move m).1
    rw [hmove]
    exact ⟨h.options_eq, h.rendering_eq, hlength.trans h.length_eq⟩

theorem play (h : view.Consistent options) (steps : List ViewStep) : (view.play steps).1.Consistent options := by
  induction steps generalizing view with
  | nil => exact h
  | cons action rest ih => exact ih (h.step action)

/-- Apart from the flags the images are those of the rendering. -/
theorem map_images {α : Type} {f : PendingImage → α} (h : view.Consistent options)
    (hf : ∀ (image : PendingImage) (loaded : Bool), f { image with loaded } = f image) :
    view.images.map f = view.rendering.images.map f := by
  calc
    view.images.map f = (view.rendering.images.zip view.progress.loaded).map (f ∘ Prod.fst) := by
      rw [images, List.map_map]
      exact List.map_congr_left fun pair _ => hf pair.1 pair.2
    _ = ((view.rendering.images.zip view.progress.loaded).map Prod.fst).map f := List.map_map.symm
    _ = view.rendering.images.map f := by rw [List.map_fst_zip (Nat.le_of_eq h.length_eq.symm)]

/-- Another profile cannot fail, since the text has been read before. -/
theorem setProfile (h : view.Consistent options) (profile : Profile) :
    ∃ after, (ViewEdit.setProfile profile).applyTo view = (.ok (), after) ∧ after.profile = profile ∧
      after.markdown = view.markdown := by
  obtain ⟨rendering, hrendering⟩ := Rendering.exists_ofMarkdown? h.rendering_eq profile
  rw [ViewEdit.applyTo_setProfile, setProfile?, h.options_eq, hrendering]
  exact ⟨_, rfl, rfl, rfl⟩

end Consistent

/-- A change of text that fails has written nothing. -/
theorem setMarkdown_cases (view : View) (text : String) :
    (∃ after, (ViewEdit.setMarkdown text).applyTo view = (.ok (), after) ∧ after.markdown = text ∧
        after.profile = view.profile) ∨
      ∃ e, Rendering.ofMarkdown? view.options view.profile text = .error e ∧
        (ViewEdit.setMarkdown text).applyTo view = (.error e, view) := by
  rw [ViewEdit.applyTo_setMarkdown, setMarkdown?]
  cases Rendering.ofMarkdown? view.options view.profile text with
  | ok rendering => exact .inl ⟨_, rfl, rfl, rfl⟩
  | error e => exact .inr ⟨e, rfl, rfl⟩

/-- Whatever has been done to a view, it shows its text in its profile. A change of profile succeeds, and after a change
of text that fails everything goes on as if it had not been tried. -/
theorem play_consistent {options : RenderOptions} {profile : Profile} {markdown : String} {start : View}
    (hstart : ofMarkdown? options profile markdown = .ok start) (steps : List ViewStep) :
    let now := (start.play steps).1
    Rendering.ofMarkdown? options now.profile now.markdown = .ok now.rendering ∧
      now.images.map (fun image => (image.id, image.url)) =
        now.rendering.images.map (fun image => (image.id, image.url)) ∧
      (∀ other, ∃ after, (ViewEdit.setProfile other).applyTo now = (.ok (), after) ∧
        after.profile = other ∧ after.markdown = now.markdown ∧ now.step (.setProfile other) = (after, [])) ∧
      ∀ text,
        (∃ after, (ViewEdit.setMarkdown text).applyTo now = (.ok (), after) ∧
          after.markdown = text ∧ after.profile = now.profile ∧ now.step (.setMarkdown text) = (after, [])) ∨
        ∃ e, Rendering.ofMarkdown? options now.profile text = .error e ∧
          (ViewEdit.setMarkdown text).applyTo now = (.error e, now) ∧
          ∀ later, start.play (steps ++ .setMarkdown text :: later) = start.play (steps ++ later) := by
  intro now
  have hnow : now.Consistent options := (Consistent.of_ofMarkdown? hstart).play steps
  refine ⟨hnow.rendering_eq, hnow.map_images fun _ _ => rfl, fun other => ?_, fun text => ?_⟩
  · obtain ⟨after, hset, hprofile, hmarkdown⟩ := hnow.setProfile other
    exact ⟨after, hset, hprofile, hmarkdown, by rw [step_setProfile, hset]⟩
  · obtain ⟨after, hset, hmarkdown, hprofile⟩ | ⟨e, hrejected, hset⟩ := now.setMarkdown_cases text
    · exact .inl ⟨after, hset, hmarkdown, hprofile, by rw [step_setMarkdown, hset]⟩
    · refine .inr ⟨e, hnow.options_eq ▸ hrejected, hset, fun later => ?_⟩
      have hstep : now.step (.setMarkdown text) = (now, []) := by rw [step_setMarkdown, hset]
      have hplay : now.play (.setMarkdown text :: later) = now.play later := by
        rw [play, playAll, hstep]
        rfl
      rw [play_append, play_append, hplay]

def quotedRule : Document where
  source := "> ---"
  elements := [{
    kind := .blockquote
    range := ⟨0, 5⟩
    children := [{ kind := .horizontalRule, range := ⟨2, 5⟩ }] }]

def ruled : View where
  markdown := "> ---"
  profile := .standard
  options := { parsing := { maxDepth := 1 } }
  rendering := quotedRule.render .standard none
  progress := { loaded := [] }

theorem ofMarkdown?_ruled : ofMarkdown? { parsing := { maxDepth := 1 } } .standard "> ---" = .ok ruled := by
  have hevents : Markdown.events "> ---" =
      [⟨.opening .blockquote, ⟨0, 5⟩⟩, ⟨.rule, ⟨2, 5⟩⟩, ⟨.closing, ⟨0, 5⟩⟩] := by decide +kernel
  have hdocument : Document.ofMarkdown? { maxDepth := 1 } "> ---" = .ok quotedRule := by
    change Document.ofEvents? "> ---" 1 (Markdown.events "> ---") = .ok quotedRule
    rw [hevents]
    rfl
  have hrendering : Rendering.ofMarkdown? { parsing := { maxDepth := 1 } } .standard "> ---" =
      .ok (quotedRule.render .standard none) := Rendering.ofMarkdown?_eq_ok_iff.2 ⟨quotedRule, hdocument, rfl⟩
  rw [ofMarkdown?, hrendering]
  rfl

/-- A text too deep is set while a call for images waits for its first run, and the call is heard of nevertheless. -/
theorem ruled_play_consistent :
    let steps : List ViewStep := [.setLoader 0, .loadImages]
    let now := (ruled.play steps).1
    ofMarkdown? { parsing := { maxDepth := 1 } } .standard "> ---" = .ok ruled ∧
      Rendering.ofMarkdown? { parsing := { maxDepth := 1 } } now.profile now.markdown = .ok now.rendering ∧
      (ViewEdit.setMarkdown "> > ---").applyTo now = (.error (.nestingTooDeep 1), now) ∧
      (ruled.play (steps ++ [.setMarkdown "> > ---", .move (.begin 0)])).2.map Turn.reports = [[.allLoaded]] := by
  intro steps now
  have hfails : ((ViewEdit.setMarkdown "> > ---").applyTo now).1 = .error (.nestingTooDeep 1) := by decide +kernel
  have hreports : (ruled.play (steps ++ [.move (.begin 0)])).2.map Turn.reports = [[.allLoaded]] := by decide +kernel
  obtain ⟨hrendering, _, _, htexts⟩ := play_consistent ofMarkdown?_ruled steps
  obtain ⟨after, hset, _⟩ | ⟨e, _, hset, hlater⟩ := htexts "> > ---"
  · rw [hset] at hfails
    cases hfails
  · rw [hset] at hfails
    cases hfails
    exact ⟨ofMarkdown?_ruled, hrendering, hset, by rw [hlater [.move (.begin 0)], hreports]⟩

end View

end MarkdownLayout
