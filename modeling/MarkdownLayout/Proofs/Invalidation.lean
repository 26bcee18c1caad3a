import MarkdownLayout.Proofs.DispatchRun

/-!
# Generations and silence

Dispatches of any number of bridges share a board. One that was made in a generation is heard as long as its counter
stands where it stood then. The counter is a word of 64 bits, so after invalidations it stands there again only when
UInt64.size divides their number. Otherwise the next completion stops the dispatch without a report, and what it has
reported by then is all that its images show. Nothing else on the board makes a difference to it.
-/

namespace MarkdownLayout

namespace Generation

def after (generation : Generation) (turns : Nat) : Generation :=
  ⟨generation.number + UInt64.ofNat turns⟩

@[simp]
theorem after_zero (generation : Generation) : generation.after 0 = generation := by
  simp [after]

@[simp]
theorem next_after (generation : Generation) (turns : Nat) :
    (generation.after turns).next = generation.after (turns + 1) := by
  simp [after, next, UInt64.ofNat_add, UInt64.add_assoc]

/-- Generations come back only after the counter has gone all the way round. -/
theorem after_eq_after_iff (generation : Generation) (turns others : Nat) :
    generation.after turns = generation.after others ↔ turns % UInt64.size = others % UInt64.size := by
  rw [after, after, mk.injEq, UInt64.add_right_inj, ← UInt64.toNat_inj]
  simp

theorem after_eq_self_iff {generation : Generation} {turns : Nat} :
    generation.after turns = generation ↔ UInt64.size ∣ turns := by
  have hzero := after_eq_after_iff generation turns 0
  rw [after_zero, Nat.zero_mod] at hzero
  rw [hzero, Nat.dvd_iff_mod_eq_zero]

end Generation

/-- One thing that happens to a board. A bridge matters to it only through the counter that it watches. -/
inductive BoardStep where
  | dispatch (counter : Nat) (images : List PendingImage)
  | invalidate (counter : Nat)
  | move (m : DispatchMove)

namespace BoardStep

def invalidates (counter : Nat) : BoardStep → Bool
  | invalidate other => other == counter
  | _ => false

def ownMove? (number : Nat) : BoardStep → Option DispatchMove
  | move m => if m.number = number then some m else none
  | _ => none

end BoardStep

structure Turn where
  move : DispatchMove
  reports : List LoadReport

namespace Turn

def reportsOf (number : Nat) (turns : List Turn) : List LoadReport :=
  turns.flatMap fun turn => if turn.move.number = number then turn.reports else []

def slot? (number : Nat) (turn : Turn) : Option Nat :=
  match turn.move with
  | .begin _ => none
  | .deliver other completion =>
    if other = number ∧ turn.reports.isEmpty = false then some completion.slot else none

def slotsOf (number : Nat) (turns : List Turn) : List Nat :=
  turns.filterMap (slot? number)

variable {number : Nat} {turns more : List Turn}

@[simp]
theorem reportsOf_append : reportsOf number (turns ++ more) = reportsOf number turns ++ reportsOf number more :=
  List.flatMap_append

@[simp]
theorem slotsOf_append : slotsOf number (turns ++ more) = slotsOf number turns ++ slotsOf number more :=
  List.filterMap_append

theorem reportsOf_eq_nil (h : ∀ turn ∈ turns, turn.move.number ≠ number) : reportsOf number turns = [] := by
  refine List.flatMap_eq_nil_iff.2 fun turn hturn => ?_
  rw [if_neg (h turn hturn)]

theorem slotsOf_eq_nil (h : ∀ turn ∈ turns, turn.move.number ≠ number) : slotsOf number turns = [] := by
  refine List.filterMap_eq_nil_iff.2 fun turn hturn => ?_
  have hne := h turn hturn
  unfold slot?
  cases hmove : turn.move with
  | begin _ => rfl
  | deliver other _ =>
    rw [hmove] at hne
    have hother : other ≠ number := hne
    simp [hother]

theorem slotsOf_of_deliver (turn : Turn) {completion : Completion} (hmove : turn.move = .deliver number completion)
    (hreports : turn.reports ≠ []) : slotsOf number [turn] = [completion.slot] := by
  obtain ⟨m, reports⟩ := turn
  subst hmove
  simp [slotsOf, slot?, hreports]

end Turn

namespace DispatchBoard

def step (board : DispatchBoard) : BoardStep → DispatchBoard × List Turn
  | .dispatch counter images => (board.post counter images, [])
  | .invalidate counter => (board.invalidate counter, [])
  | .move m => ((board.move m).1, [⟨m, (board.move m).2⟩])

def play (board : DispatchBoard) (steps : List BoardStep) : DispatchBoard × List Turn :=
  playAll step board steps

variable {board : DispatchBoard} {counter number : Nat}

theorem generation_invalidate (hcounter : counter < board.counters.length) :
    (board.invalidate counter).generation counter = (board.generation counter).next := by
  simp [invalidate, generation, hcounter]

theorem generation_invalidate_of_ne {other : Nat} (hne : other ≠ counter) :
    (board.invalidate other).generation counter = board.generation counter := by
  simp [invalidate, generation, List.getElem?_set_ne hne]

theorem move_of_listed {m : DispatchMove} {posted : PostedDispatch}
    (hlisted : board.dispatches[m.number]? = some posted) :
    board.move m =
      ({ board with
          dispatches := board.dispatches.set m.number
            ⟨posted.counter, (posted.dispatch.move (board.generation posted.counter) m).1⟩ },
        (posted.dispatch.move (board.generation posted.counter) m).2) := by
  simp [move, hlisted]

theorem counters_move (board : DispatchBoard) (m : DispatchMove) :
    (board.move m).1.counters = board.counters := by
  unfold move
  split <;> rfl

theorem length_move (board : DispatchBoard) (m : DispatchMove) :
    (board.move m).1.dispatches.length = board.dispatches.length := by
  unfold move
  split
  · rfl
  · exact List.length_set

/-- A move touches no dispatch but its own. -/
theorem getElem?_move_of_ne {m : DispatchMove} (hne : m.number ≠ number) :
    (board.move m).1.dispatches[number]? = board.dispatches[number]? := by
  unfold move
  split
  · rfl
  · exact List.getElem?_set_ne hne

end DispatchBoard

/-- The flags of a dispatch follow its reports. -/
theorem Dispatch.Step.images_eq {current : Generation} {dispatch next : Dispatch} {m : DispatchMove}
    {reports : List LoadReport} (h : Step current dispatch m next reports) {slots : List Nat}
    {images : List PendingImage} (himages : dispatch.images = markReported slots images) :
    next.images = markReported (slots ++ Turn.slotsOf m.number [⟨m, reports⟩]) images := by
  have hquiet : Turn.slotsOf m.number [⟨m, []⟩] = [] := by
    cases m <;> simp [Turn.slotsOf, Turn.slot?]
  cases h with
  | idle => rw [hquiet, List.append_nil, himages]
  | started | stale => rw [hquiet, List.append_nil, ← himages]
  | vacuous number =>
    have hnone : Turn.slotsOf number [⟨.begin number, [.allLoaded]⟩] = [] := rfl
    rw [DispatchMove.number, hnone, List.append_nil, ← himages]
  | reported number remaining completion image hstage hgeneration himage hloaded =>
    rw [himages] at himage
    show dispatch.images.set completion.slot image.reported = _
    rw [DispatchMove.number, Turn.slotsOf_of_deliver _ rfl (List.cons_ne_nil _ _), himages, set_markReported himage]

/-- What has finished says nothing more. -/
theorem Dispatch.Step.of_finished {current : Generation} {dispatch next : Dispatch} {m : DispatchMove}
    {reports : List LoadReport} (h : Step current dispatch m next reports) (hstage : dispatch.stage = .finished) :
    next = dispatch ∧ reports = [] := by
  cases h with
  | idle => exact ⟨rfl, rfl⟩
  | started _ hother | vacuous _ hother | stale _ _ _ hother | reported _ _ _ _ hother =>
    rw [hstage] at hother
    cases hother

/-- In a later generation a completion ends a dispatch that has begun, without a report. -/
theorem Dispatch.Step.of_stale {current : Generation} {dispatch next : Dispatch} {number : Nat}
    {completion : Completion} {reports : List LoadReport}
    (h : Step current dispatch (.deliver number completion) next reports)
    (hgeneration : dispatch.generation ≠ current) (hbegun : dispatch.stage ≠ .starting) : next = { dispatch with stage := .finished } := by
  cases h with
  | idle _ _ hfresh =>
    cases hstage : dispatch.stage with
    | starting => exact absurd hstage hbegun
    | waiting remaining => exact absurd (hfresh remaining hstage number completion rfl) hgeneration
    | finished => rw [← hstage]
  | stale => rfl
  | reported _ _ _ _ _ hsame => exact absurd hsame hgeneration

/-- The report on all images comes after the last of them, or on a first run that finds none to wait for. -/
theorem Dispatch.Step.allLoaded_mem {current : Generation} {dispatch next : Dispatch} {m : DispatchMove}
    {reports : List LoadReport} (h : Step current dispatch m next reports) (hcounted : dispatch.Counted)
    (hmem : .allLoaded ∈ reports) :
    next.outstanding = 0 ∧ (dispatch.stage = .starting ∧ dispatch.outstanding = 0 ∨
      dispatch.generation = current ∧ ∃ completion, m = .deliver m.number completion) := by
  cases h with
  | idle | started | stale => cases hmem
  | vacuous number hstage houtstanding => exact ⟨houtstanding, .inl ⟨hstage, houtstanding⟩⟩
  | reported number remaining completion image hstage hgeneration himage hloaded =>
    obtain ⟨heq, _⟩ := hcounted remaining hstage
    have hlast : remaining ≤ 1 := by
      by_contra hmore
      simp [hmore] at hmem
    have hset := outstanding_set dispatch himage hloaded
      (if remaining ≤ 1 then .finished else .waiting (remaining - 1))
    exact ⟨by omega, .inr ⟨hgeneration, completion, rfl⟩⟩

theorem DispatchBoard.play_of_finished {board : DispatchBoard} {number : Nat} {posted : PostedDispatch}
    (hlisted : board.dispatches[number]? = some posted) (hstage : posted.dispatch.stage = .finished)
    (later : List BoardStep) :
    (board.play later).1.dispatches[number]? = some posted ∧ Turn.reportsOf number (board.play later).2 = [] := by
  refine playAll_induction step board (motive := fun _ now turns =>
    now.dispatches[number]? = some posted ∧ Turn.reportsOf number turns = []) ⟨hlisted, rfl⟩ ?_ later
  intro _ now turns action ⟨hnow, hturns⟩
  rw [Turn.reportsOf_append, hturns, List.nil_append]
  cases action with
  | dispatch counter images =>
    have hlt := (List.getElem?_eq_some_iff.1 hnow).1
    exact ⟨(List.getElem?_append_left hlt).trans hnow, rfl⟩
  | invalidate counter => exact ⟨hnow, rfl⟩
  | move m =>
    by_cases hm : m.number = number
    · subst hm
      obtain ⟨hsame, hsilent⟩ := (posted.dispatch.move_step (now.generation posted.counter) m).of_finished hstage
      have hlt := (List.getElem?_eq_some_iff.1 hnow).1
      simp only [step, move_of_listed hnow, hsame, hsilent]
      exact ⟨List.getElem?_set_self hlt, by simp [Turn.reportsOf]⟩
    · refine ⟨(getElem?_move_of_ne hm).trans hnow, Turn.reportsOf_eq_nil ?_⟩
      simpa [step] using hm

/-- What a board and its past turns show of one dispatch, after the steps done since it was made. -/
structure Watches (counter number : Nat) (made : Dispatch) (done : List BoardStep) (board : DispatchBoard)
    (turns : List Turn) (dispatch : Dispatch) : Prop where
  listed : board.dispatches[number]? = some ⟨counter, dispatch⟩
  counter_lt : counter < board.counters.length
  current_eq : board.generation counter = made.generation.after (done.countP (·.invalidates counter))
  generation_eq : dispatch.generation = made.generation
  counted : dispatch.Counted
  starting_iff : dispatch.stage = .starting ↔ .move (.begin number) ∉ done
  unstarted : dispatch.stage = .starting → dispatch = made
  images_eq : dispatch.images = markReported (Turn.slotsOf number turns) made.images
  alone : done.countP (·.invalidates counter) = 0 →
    made.runIn made.generation (done.filterMap (·.ownMove? number)) = (dispatch, Turn.reportsOf number turns)

namespace Watches

open DispatchBoard

variable {counter number : Nat} {made dispatch : Dispatch} {done : List BoardStep} {board : DispatchBoard}
  {turns : List Turn}

/-- A step that neither moves the dispatch nor its counter on changes nothing of it. -/
theorem other (h : Watches counter number made done board turns dispatch) {action : BoardStep}
    {next : DispatchBoard} {more : List Turn} (hlisted : next.dispatches[number]? = board.dispatches[number]?)
    (hcounters : counter < next.counters.length) (hcurrent : next.generation counter = board.generation counter)
    (hcount : action.invalidates counter = false) (hown : action.ownMove? number = none)
    (hturns : ∀ turn ∈ more, turn.move.number ≠ number) :
    Watches counter number made (done ++ [action]) next (turns ++ more) dispatch := by
  have hbegin : action ≠ .move (.begin number) := by
    rintro rfl
    simp [BoardStep.ownMove?, DispatchMove.number] at hown
  exact {
    listed := hlisted.trans h.listed
    counter_lt := hcounters
    current_eq := by rw [hcurrent, h.current_eq, List.countP_append]; simp [hcount]
    generation_eq := h.generation_eq
    counted := h.counted
    starting_iff := by rw [h.starting_iff]; simp [Ne.symm hbegin]
    unstarted := h.unstarted
    images_eq := by rw [h.images_eq, Turn.slotsOf_append, Turn.slotsOf_eq_nil hturns, List.append_nil]
    alone := by
      intro hzero
      rw [List.countP_append, Nat.add_eq_zero_iff] at hzero
      rw [List.filterMap_append, Turn.reportsOf_append, Turn.reportsOf_eq_nil hturns]
      simpa [hown] using h.alone hzero.1 }

/-- One move of the dispatch itself. -/
theorem own (h : Watches counter number made done board turns dispatch) {m : DispatchMove}
    (hm : m.number = number) :
    Watches counter number made (done ++ [.move m]) (board.move m).1 (turns ++ [⟨m, (board.move m).2⟩])
      (dispatch.move (board.generation counter) m).1 := by
  subst hm
  have hstep := dispatch.move_step (board.generation counter) m
  have hlisted := (List.getElem?_eq_some_iff.1 h.listed).1
  rw [board.move_of_listed h.listed]
  have hcount : (done ++ [BoardStep.move m]).countP (·.invalidates counter) =
      done.countP (·.invalidates counter) := by
    simp [BoardStep.invalidates]
  exact {
    listed := List.getElem?_set_self hlisted
    counter_lt := h.counter_lt
    current_eq := by rw [hcount]; exact h.current_eq
    generation_eq := hstep.generation_eq.trans h.generation_eq
    counted := hstep.counted h.counted
    starting_iff := by
      have hbegin : (∀ number, m ≠ .begin number) ↔ m ≠ .begin m.number := by
        refine ⟨fun hall => hall _, fun hne number heq => hne ?_⟩
        rw [heq, DispatchMove.number]
      rw [hstep.starting_iff, h.starting_iff, hbegin]
      simp [eq_comm]
    unstarted := fun hstage => by
      obtain ⟨heq, _⟩ := hstep.eq_of_starting hstage
      rw [heq] at hstage ⊢
      exact h.unstarted hstage
    images_eq := by
      rw [Turn.slotsOf_append]
      exact hstep.images_eq h.images_eq
    alone := by
      -- nobody has invalidated, so the board still stands where the dispatch was made
      intro hzero
      rw [hcount] at hzero
      have hcurrent : board.generation counter = made.generation := by
        rw [h.current_eq, hzero, Generation.after_zero]
      have hown : [BoardStep.move m].filterMap (·.ownMove? m.number) = [m] := by
        simp [BoardStep.ownMove?]
      have halone := h.alone hzero
      rw [Dispatch.runIn] at halone ⊢
      rw [List.filterMap_append, hown, playAll_concat, halone, Turn.reportsOf_append, hcurrent]
      simp [Turn.reportsOf] }

/-- Whatever happens to the board, the books on the dispatch are kept. -/
theorem step (h : Watches counter number made done board turns dispatch) (action : BoardStep) :
    ∃ next, Watches counter number made (done ++ [action]) (board.step action).1 (turns ++ (board.step action).2)
      next := by
  cases action with
  | dispatch other images =>
    have hlt := (List.getElem?_eq_some_iff.1 h.listed).1
    refine ⟨dispatch, h.other ?_ h.counter_lt rfl rfl rfl (by simp [DispatchBoard.step])⟩
    exact List.getElem?_append_left hlt
  | invalidate other =>
    by_cases heq : other = counter
    · subst heq
      refine ⟨dispatch, ?_⟩
      have hcount : (done ++ [BoardStep.invalidate other]).countP (·.invalidates other) =
          done.countP (·.invalidates other) + 1 := by
        simp [BoardStep.invalidates]
      exact {
        listed := h.listed
        counter_lt := by simpa [DispatchBoard.step, invalidate] using h.counter_lt
        current_eq := by
          rw [hcount, ← Generation.next_after, ← h.current_eq]
          exact generation_invalidate h.counter_lt
        generation_eq := h.generation_eq
        counted := h.counted
        starting_iff := by rw [h.starting_iff]; simp
        unstarted := h.unstarted
        images_eq := by simpa [DispatchBoard.step] using h.images_eq
        -- the dispatch has an invalidation behind it and is not alone any more
        alone := fun hzero => by omega }
    · refine ⟨dispatch, h.other rfl ?_ (generation_invalidate_of_ne heq) (by simp [BoardStep.invalidates, heq]) rfl
        (by simp [DispatchBoard.step])⟩
      simpa [DispatchBoard.step, invalidate] using h.counter_lt
  | move m =>
    by_cases hm : m.number = number
    · exact ⟨_, h.own hm⟩
    · refine ⟨dispatch, h.other (getElem?_move_of_ne hm) ?_ ?_ rfl (by simp [BoardStep.ownMove?, hm]) ?_⟩
      · exact (counters_move board m).symm ▸ h.counter_lt
      · simp only [DispatchBoard.step, generation, counters_move]
      · simpa [DispatchBoard.step] using hm

/-- They are kept through any number of steps since the dispatch was made. -/
theorem play (board : DispatchBoard) (images : List PendingImage) (hcounter : counter < board.counters.length)
    (since : List BoardStep) :
    ∃ dispatch, Watches counter board.dispatches.length { generation := board.generation counter, images } since
      ((board.post counter images).play since).1 ((board.post counter images).play since).2 dispatch := by
  refine playAll_induction DispatchBoard.step (board.post counter images) (motive := fun done now turns =>
    ∃ dispatch, Watches counter board.dispatches.length { generation := board.generation counter, images } done now
      turns dispatch) ?_ ?_ since
  · exact ⟨_, {
      listed := List.getElem?_concat_length
      counter_lt := hcounter
      current_eq := (Generation.after_zero _).symm
      generation_eq := rfl
      counted := fun _ hwaiting => by cases hwaiting
      starting_iff := by simp
      unstarted := fun _ => rfl
      images_eq := (markReported_nil _).symm
      alone := fun _ => rfl }⟩
  · intro done now turns action ⟨dispatch, h⟩
    exact h.step action

variable (h : Watches counter number made done board turns dispatch)
include h

/-- A dispatch is of the current generation until its counter has been moved on. -/
theorem fresh_iff : dispatch.generation = board.generation counter ↔
    UInt64.size ∣ done.countP (·.invalidates counter) := by
  rw [h.generation_eq, h.current_eq, eq_comm]
  exact Generation.after_eq_self_iff

theorem outstanding_ne_zero (hawaited : awaited made.images ≠ []) (hstage : dispatch.stage = .starting) :
    dispatch.outstanding ≠ 0 := by
  rw [h.unstarted hstage, Dispatch.outstanding, ← length_awaited]
  exact fun hzero => hawaited (List.eq_nil_of_length_eq_zero hzero)

/-- Once its counter has been moved on, a dispatch only reports on its first run, and only with nothing to fetch. -/
theorem stale_reports (hstale : ¬UInt64.size ∣ done.countP (·.invalidates counter)) {m : DispatchMove}
    (hm : m.number = number) {report : LoadReport} : report ∈ (board.move m).2 ↔
      report = .allLoaded ∧ m = .begin number ∧ .move m ∉ done ∧ made.outstanding = 0 := by
  subst hm
  have hunbegun : ∀ number, m = .begin number → (dispatch.stage = .starting ↔ .move m ∉ done) := by
    rintro number rfl
    exact h.starting_iff
  rw [move_of_listed h.listed]
  have hstep := dispatch.move_step (board.generation counter) m
  generalize (dispatch.move (board.generation counter) m).1 = next at hstep
  generalize (dispatch.move (board.generation counter) m).2 = reports at hstep ⊢
  cases hstep with
  | idle _ hstart =>
    refine iff_of_false List.not_mem_nil ?_
    rintro ⟨_, hbegin, hmem, _⟩
    exact hstart ((hunbegun _ hbegin).2 hmem) _ hbegin
  | started _ hstage houtstanding =>
    refine iff_of_false List.not_mem_nil ?_
    rintro ⟨_, _, _, hzero⟩
    rw [← h.unstarted hstage] at hzero
    exact houtstanding hzero
  | vacuous number hstage houtstanding =>
    -- the one move that reports without a look at the generation
    rw [h.unstarted hstage] at houtstanding
    have hmem := (hunbegun number rfl).1 hstage
    simp [DispatchMove.number, hmem, houtstanding]
  | stale => simp
  | reported _ _ _ _ _ hgeneration => exact absurd (h.fresh_iff.1 hgeneration) hstale

/-- A stale dispatch with images to wait for reports nothing, whatever arrives. -/
theorem silent (hawaited : awaited made.images ≠ []) (hstale : ¬UInt64.size ∣ done.countP (·.invalidates counter))
    {m : DispatchMove} (hm : m.number = number) : (board.move m).2 = [] := by
  refine List.eq_nil_iff_forall_not_mem.2 fun report hmem => ?_
  obtain ⟨_, _, _, hzero⟩ := (h.stale_reports hstale hm).1 hmem
  rw [Dispatch.outstanding, ← length_awaited] at hzero
  exact hawaited (List.eq_nil_of_length_eq_zero hzero)

/-- The first completion that finds a dispatch stale ends it, with the images it had then. -/
theorem stopped (hstale : ¬UInt64.size ∣ done.countP (·.invalidates counter))
    (hbegun : .move (.begin number) ∈ done) (completion : Completion) :
    (board.move (.deliver number completion)).1.dispatches[number]? =
      some ⟨counter, made.generation, markReported (Turn.slotsOf number turns) made.images, .finished⟩ := by
  have hlt := (List.getElem?_eq_some_iff.1 h.listed).1
  have hfinished : (dispatch.move (board.generation counter) (.deliver number completion)).1 =
      { dispatch with stage := .finished } := by
    refine (dispatch.move_step _ _).of_stale (mt h.fresh_iff.1 hstale) ?_
    intro hstage
    exact h.starting_iff.1 hstage hbegun
  rw [move_of_listed (m := .deliver number completion) h.listed, hfinished, ← h.generation_eq, ← h.images_eq]
  exact List.getElem?_set_self hlt

/-- The report on all images comes in the generation of the dispatch, right behind the last image. -/
theorem allLoaded_mem (hawaited : awaited made.images ≠ []) {m : DispatchMove} (hm : m.number = number)
    (hmem : .allLoaded ∈ (board.move m).2) :
    UInt64.size ∣ done.countP (·.invalidates counter) ∧ ∃ completion, m = .deliver number completion ∧
      ∀ image ∈ markReported (Turn.slotsOf number turns ++ [completion.slot]) made.images, image.loaded = true := by
  subst hm
  have hstep := dispatch.move_step (board.generation counter) m
  rw [move_of_listed h.listed] at hmem
  obtain ⟨hzero, ⟨hstage, houtstanding⟩ | ⟨hgeneration, completion, hdeliver⟩⟩ :=
    hstep.allLoaded_mem h.counted hmem
  · exact absurd houtstanding (h.outstanding_ne_zero hawaited hstage)
  · refine ⟨h.fresh_iff.1 hgeneration, completion, hdeliver, ?_⟩
    have hslot := Turn.slotsOf_of_deliver ⟨m, _⟩ hdeliver (List.ne_nil_of_mem hmem)
    have himages := hstep.images_eq h.images_eq
    rw [hslot] at himages
    intro image himage
    rw [← himages] at himage
    simpa using List.countP_eq_zero.1 hzero image himage

end Watches

/-- Dispatches of any number of bridges share counters, and one of them was made with an image to fetch. After
invalidations it is silent; its next completion stops it with what it has reported by then; it only ever reports all
images on the last completion of its own generation; and while nobody invalidates it does what it would do alone. A
counter of 64 bits is back where it was after `UInt64.size` invalidations, which is why these are counted. -/
theorem invalidation_silences (board : DispatchBoard) (counter : Nat) (images : List PendingImage)
    (hcounter : counter < board.counters.length) (hawaited : awaited images ≠ []) (since : List BoardStep) :
    let number := board.dispatches.length
    let generation := board.generation counter
    let now := ((board.post counter images).play since).1
    let turns := ((board.post counter images).play since).2
    let invalidations := since.countP (·.invalidates counter)
    let kept := markReported (Turn.slotsOf number turns) images
    (∃ stage, now.dispatches[number]? = some ⟨counter, generation, kept, stage⟩) ∧
      (¬UInt64.size ∣ invalidations → ∀ m, m.number = number → (now.move m).2 = []) ∧
      (¬UInt64.size ∣ invalidations → .move (.begin number) ∈ since → ∀ completion later,
        let after := (now.move (.deliver number completion)).1.play later
        after.1.dispatches[number]? = some ⟨counter, generation, kept, .finished⟩ ∧
          Turn.reportsOf number after.2 = []) ∧
      (∀ m, m.number = number → .allLoaded ∈ (now.move m).2 →
        UInt64.size ∣ invalidations ∧ ∃ completion, m = .deliver number completion ∧
          ∀ image ∈ markReported (Turn.slotsOf number turns ++ [completion.slot]) images, image.loaded = true) ∧
      (invalidations = 0 →
        let own := since.filterMap (·.ownMove? number)
        let alone := Dispatch.runIn generation { generation, images } own
        now.dispatches[number]? = some ⟨counter, alone.1⟩ ∧ Turn.reportsOf number turns = alone.2 ∧
          ∀ outcome order, order.Nodup → order ⊆ awaited images →
            own = .begin number :: order.map (delivery number outcome) →
            Turn.reportsOf number turns = order.map (.ofFetch outcome) ++
              if order.length = (awaited images).length then [.allLoaded] else []) := by
  intro number generation now turns invalidations kept
  obtain ⟨dispatch, h⟩ := Watches.play board images hcounter since
  refine ⟨⟨dispatch.stage, ?_⟩, ?_, ?_, ?_, ?_⟩
  · obtain ⟨hgeneration, himages⟩ : dispatch.generation = generation ∧ dispatch.images = kept :=
      ⟨h.generation_eq, h.images_eq⟩
    rw [h.listed, ← hgeneration, ← himages]
  · intro hstale m hm
    exact h.silent hawaited hstale hm
  · intro hstale hbegun completion later
    exact DispatchBoard.play_of_finished (h.stopped hstale hbegun completion) rfl later
  · intro m hm hmem
    exact h.allLoaded_mem hawaited hm hmem
  · intro hzero own alone
    have halone : alone = (dispatch, Turn.reportsOf number turns) := h.alone hzero
    refine ⟨by rw [halone]; exact h.listed, by rw [halone], ?_⟩
    intro outcome order hnodup hsubset hown
    have hrun := runIn_deliveries generation number outcome hnodup hsubset
    rw [← hown, ← length_awaited] at hrun
    rw [← (Prod.mk.inj (hrun.symm.trans halone)).2]

/-- Two dispatches on one counter: the second has reported one of its two images when the counter is moved on. -/
theorem halfLoaded_silenced :
    let board : DispatchBoard := DispatchBoard.post { counters := [.first] } 0 halfLoaded
    let since : List BoardStep :=
      [.move (.begin 1), .move (.begin 0), .move (.deliver 1 ⟨2, .error (.other "gone")⟩), .invalidate 0]
    let now := ((board.post 0 halfLoaded).play since).1
    0 < board.counters.length ∧ awaited halfLoaded ≠ [] ∧
      Turn.slotsOf 1 ((board.post 0 halfLoaded).play since).2 = [2] ∧
      (now.move (.deliver 1 ⟨0, .ok default⟩)).2 = [] ∧
      (now.move (.deliver 1 ⟨0, .ok default⟩)).1.dispatches[1]? =
        some ⟨0, .first, markReported [2] halfLoaded, .finished⟩ := by
  intro board since now
  have hcounter : 0 < board.counters.length := by decide
  have hawaited : awaited halfLoaded ≠ [] := by decide
  have hslots : Turn.slotsOf 1 ((board.post 0 halfLoaded).play since).2 = [2] := by decide
  have hstale : ¬UInt64.size ∣ since.countP (·.invalidates 0) := by decide
  obtain ⟨_, hsilent, hstopped, _⟩ := invalidation_silences board 0 halfLoaded hcounter hawaited since
  obtain ⟨hkept, _⟩ := hstopped hstale (List.mem_cons_self ..) ⟨0, .ok default⟩ []
  refine ⟨hcounter, hawaited, hslots, hsilent hstale _ rfl, ?_⟩
  rw [← hslots]
  exact hkept

end MarkdownLayout
