import Mathlib.Data.List.Induction
import Mathlib.Data.List.Nodup
import MarkdownLayout.Loading.Board

/-!
# The run of one dispatch

The owner of a dispatch starts once and then takes completions up in the order in which they arrive. Its counter is
always the number of images not reported yet. So whatever the order, every image that had to be fetched is reported
once, with the outcome of its own fetch, and the report on all images comes last.
-/

namespace MarkdownLayout

def playAll {σ α β : Type} (step : σ → α → σ × List β) (state : σ) : List α → σ × List β
  | [] => (state, [])
  | action :: rest =>
    let (next, out) := step state action
    let (final, later) := playAll step next rest
    (final, out ++ later)

section PlayAll

variable {σ α β : Type} (step : σ → α → σ × List β) (state : σ)

theorem playAll_append (front back : List α) :
    playAll step state (front ++ back) =
      ((playAll step (playAll step state front).1 back).1,
        (playAll step state front).2 ++ (playAll step (playAll step state front).1 back).2) := by
  induction front generalizing state with
  | nil => simp [playAll]
  | cons action rest ih => simp [playAll, ih]

/-- One more step at the end starts from where the steps before it led. -/
theorem playAll_concat (front : List α) (action : α) :
    playAll step state (front ++ [action]) =
      ((step (playAll step state front).1 action).1,
        (playAll step state front).2 ++ (step (playAll step state front).1 action).2) := by
  simp [playAll_append, playAll]

/-- What holds at the start and is kept by each step holds after every run. -/
theorem playAll_induction {motive : List α → σ → List β → Prop} (start : motive [] state [])
    (keep : ∀ done now out action, motive done now out →
      motive (done ++ [action]) (step now action).1 (out ++ (step now action).2)) (actions : List α) :
    motive actions (playAll step state actions).1 (playAll step state actions).2 := by
  induction actions using List.reverseRecOn with
  | nil => exact start
  | append_singleton done action ih =>
    rw [playAll_concat]
    exact keep done _ _ action ih

end PlayAll

def markReported (slots : List Nat) (images : List PendingImage) : List PendingImage :=
  images.zipIdx.map fun (image, slot) => { image with loaded := image.loaded || decide (slot ∈ slots) }

/-- An image is loaded if it was before or if its slot is among those reported. -/
theorem getElem?_markReported (slots : List Nat) (images : List PendingImage) (slot : Nat) :
    (markReported slots images)[slot]? =
      images[slot]?.map fun image => { image with loaded := image.loaded || decide (slot ∈ slots) } := by
  cases himage : images[slot]? with
  | none => simp [markReported, himage]
  | some image => simp [markReported, himage]

@[simp]
theorem markReported_nil (images : List PendingImage) : markReported [] images = images := by
  apply List.ext_getElem?
  intro slot
  rw [getElem?_markReported]
  cases images[slot]? <;> simp

theorem set_markReported {slots : List Nat} {images : List PendingImage} {slot : Nat} {image : PendingImage}
    (himage : (markReported slots images)[slot]? = some image) :
    (markReported slots images).set slot image.reported = markReported (slots ++ [slot]) images := by
  rw [getElem?_markReported] at himage
  obtain ⟨given, hgiven, rfl⟩ := Option.map_eq_some_iff.1 himage
  have hlt : slot < (markReported slots images).length := by
    have := (List.getElem?_eq_some_iff.1 hgiven).1
    simpa [markReported] using this
  apply List.ext_getElem?
  intro other
  by_cases heq : other = slot
  · subst heq
    rw [List.getElem?_set_self hlt, getElem?_markReported, hgiven]
    simp [PendingImage.reported]
  · rw [List.getElem?_set_ne (Ne.symm heq), getElem?_markReported, getElem?_markReported]
    simp [heq]

def awaited (images : List PendingImage) : List (PendingImage × Nat) :=
  images.zipIdx.filter fun (image, _) => !image.loaded

section Awaited

variable {images : List PendingImage}

theorem mem_awaited {image : PendingImage} {slot : Nat} :
    (image, slot) ∈ awaited images ↔ images[slot]? = some image ∧ image.loaded = false := by
  simp [awaited, List.mk_mem_zipIdx_iff_getElem?]

theorem nodup_awaited (images : List PendingImage) : (awaited images).Nodup := by
  have hslots : (images.zipIdx.map Prod.snd).Nodup := by
    rw [List.zipIdx_map_snd]
    exact List.nodup_range'
  exact (List.Nodup.of_map _ hslots).filter _

theorem length_awaited (images : List PendingImage) :
    (awaited images).length = images.countP fun image => !image.loaded := by
  have hfst : images.countP (fun image => !image.loaded) =
      (images.zipIdx.map Prod.fst).countP fun image => !image.loaded := by
    rw [List.zipIdx_map_fst]
  rw [hfst, List.countP_map, awaited, ← List.countP_eq_length_filter]
  rfl

end Awaited

namespace Dispatch

inductive Step (current : Generation) (dispatch : Dispatch) :
    DispatchMove → Dispatch → List LoadReport → Prop
  | idle (m : DispatchMove) (hstart : dispatch.stage = .starting → ∀ number, m ≠ .begin number)
      (hstale : ∀ remaining, dispatch.stage = .waiting remaining → ∀ number completion,
        m = .deliver number completion → dispatch.generation = current) :
      Step current dispatch m dispatch []
  | started (number : Nat) (hstage : dispatch.stage = .starting) (houtstanding : dispatch.outstanding ≠ 0) :
      Step current dispatch (.begin number) { dispatch with stage := .waiting dispatch.outstanding } []
  | vacuous (number : Nat) (hstage : dispatch.stage = .starting) (houtstanding : dispatch.outstanding = 0) :
      Step current dispatch (.begin number) { dispatch with stage := .finished } [.allLoaded]
  | stale (number remaining : Nat) (completion : Completion) (hstage : dispatch.stage = .waiting remaining)
      (hgeneration : dispatch.generation ≠ current) :
      Step current dispatch (.deliver number completion) { dispatch with stage := .finished } []
  | reported (number remaining : Nat) (completion : Completion) (image : PendingImage)
      (hstage : dispatch.stage = .waiting remaining) (hgeneration : dispatch.generation = current)
      (himage : dispatch.images[completion.slot]? = some image) (hloaded : image.loaded = false) :
      Step current dispatch (.deliver number completion)
        { dispatch with
          images := dispatch.images.set completion.slot image.reported
          stage := if remaining ≤ 1 then .finished else .waiting (remaining - 1) }
        (.image image.id completion.outcome.toOption :: if remaining ≤ 1 then [.allLoaded] else [])

/-- A completion in time, for an image that is not loaded, is reported at once, and the last one is followed by the
report on all. -/
theorem receive_reported {current : Generation} {dispatch : Dispatch} {remaining : Nat} {image : PendingImage}
    (completion : Completion) (hstage : dispatch.stage = .waiting remaining)
    (hgeneration : dispatch.generation = current) (himage : dispatch.images[completion.slot]? = some image)
    (hloaded : image.loaded = false) :
    dispatch.receive current completion =
      ({ dispatch with
          images := dispatch.images.set completion.slot image.reported
          stage := if remaining ≤ 1 then .finished else .waiting (remaining - 1) },
        .image image.id completion.outcome.toOption :: if remaining ≤ 1 then [.allLoaded] else []) := by
  simp only [receive, hstage, hgeneration, himage, hloaded, ne_eq, not_true_eq_false, if_false,
    Bool.false_eq_true]
  by_cases hlast : remaining ≤ 1 <;> simp [hlast]

/-- These are all the ways in which a move can go. -/
theorem move_step (current : Generation) (dispatch : Dispatch) (m : DispatchMove) :
    Step current dispatch m (dispatch.move current m).1 (dispatch.move current m).2 := by
  cases m with
  | begin number =>
    unfold move begin
    cases hstage : dispatch.stage with
    | starting =>
      by_cases houtstanding : dispatch.outstanding = 0
      · simpa [houtstanding] using Step.vacuous number hstage houtstanding
      · simpa [houtstanding] using Step.started number hstage houtstanding
    | waiting _ => exact .idle _ (by simp [hstage]) (by simp)
    | finished => exact .idle _ (by simp [hstage]) (by simp)
  | deliver number completion =>
    unfold move
    cases hstage : dispatch.stage with
    | starting => simpa [receive, hstage] using Step.idle _ (by simp) (by simp [hstage])
    | finished => simpa [receive, hstage] using Step.idle _ (by simp) (by simp [hstage])
    | waiting remaining =>
      by_cases hgeneration : dispatch.generation = current
      · have hidle : Step current dispatch (.deliver number completion) dispatch [] :=
          .idle _ (by simp) fun _ _ _ _ _ => hgeneration
        cases himage : dispatch.images[completion.slot]? with
        | none => simpa [receive, hstage, hgeneration, himage] using hidle
        | some image =>
          cases hloaded : image.loaded with
          | true => simpa [receive, hstage, hgeneration, himage, hloaded] using hidle
          | false =>
            simp only [receive_reported completion hstage hgeneration himage hloaded]
            exact .reported number remaining completion image hstage hgeneration himage hloaded
      · simpa [receive, hstage, hgeneration] using Step.stale number remaining completion hstage hgeneration

/-- Reporting an image leaves one less to wait for. -/
theorem outstanding_set (dispatch : Dispatch) {slot : Nat} {image : PendingImage}
    (himage : dispatch.images[slot]? = some image) (hloaded : image.loaded = false) (stage : DispatchStage) :
    outstanding { dispatch with images := dispatch.images.set slot image.reported, stage } + 1 =
      dispatch.outstanding := by
  obtain ⟨hlt, hget⟩ := List.getElem?_eq_some_iff.1 himage
  have hpos : 0 < dispatch.images.countP fun image => !image.loaded := by
    refine List.countP_pos_iff.2 ⟨image, ?_, by simp [hloaded]⟩
    exact hget ▸ List.getElem_mem hlt
  have hset := List.countP_set (p := fun image => !image.loaded) (a := image.reported) hlt
  simp only [hget, hloaded, PendingImage.reported, Bool.not_false, if_true, Bool.not_true] at hset
  simp only [outstanding, PendingImage.reported, hset]
  simp
  omega

/-- While a dispatch waits, its counter is the number of images not reported yet, and that is not zero. -/
def Counted (dispatch : Dispatch) : Prop :=
  ∀ remaining, dispatch.stage = .waiting remaining → remaining = dispatch.outstanding ∧ 0 < remaining

namespace Step

variable {current : Generation} {dispatch next : Dispatch} {m : DispatchMove} {reports : List LoadReport}

/-- A dispatch stays in the generation in which it was made. -/
theorem generation_eq (h : Step current dispatch m next reports) : next.generation = dispatch.generation := by
  cases h <;> rfl

theorem eq_of_starting (h : Step current dispatch m next reports) (hstage : next.stage = .starting) :
    next = dispatch ∧ ∀ number, m ≠ .begin number := by
  cases h with
  | idle _ hstart => exact ⟨rfl, hstart hstage⟩
  | started | vacuous | stale => cases hstage
  | reported _ remaining =>
    by_cases hlast : remaining ≤ 1 <;> simp [hlast] at hstage

/-- Only the first run takes a dispatch out of its starting stage. -/
theorem starting_iff (h : Step current dispatch m next reports) :
    next.stage = .starting ↔ dispatch.stage = .starting ∧ ∀ number, m ≠ .begin number := by
  constructor
  · intro hstage
    obtain ⟨heq, hm⟩ := h.eq_of_starting hstage
    exact ⟨heq ▸ hstage, hm⟩
  · rintro ⟨hstage, hm⟩
    cases h with
    | idle => exact hstage
    | started number | vacuous number => exact absurd rfl (hm number)
    | stale _ _ _ hwaiting | reported _ _ _ _ hwaiting =>
      rw [hstage] at hwaiting
      cases hwaiting

/-- No move makes the counter of a waiting dispatch wrong. -/
theorem counted (h : Step current dispatch m next reports) (hcounted : dispatch.Counted) : next.Counted := by
  cases h with
  | idle => exact hcounted
  | started number hstage houtstanding =>
    intro remaining hwaiting
    cases hwaiting
    exact ⟨rfl, Nat.pos_of_ne_zero houtstanding⟩
  | vacuous | stale =>
    intro remaining hwaiting
    cases hwaiting
  | reported number remaining completion image hstage hgeneration himage hloaded =>
    obtain ⟨heq, hpos⟩ := hcounted remaining hstage
    have hset := outstanding_set dispatch himage hloaded
      (if remaining ≤ 1 then .finished else .waiting (remaining - 1))
    intro left hleft
    by_cases hlast : remaining ≤ 1
    · simp [hlast] at hleft
    · have hminus : left = remaining - 1 := by simpa [hlast, eq_comm] using hleft
      omega

end Step

def runIn (current : Generation) (dispatch : Dispatch) (moves : List DispatchMove) :
    Dispatch × List LoadReport :=
  playAll (fun dispatch m => dispatch.move current m) dispatch moves

end Dispatch

def delivery (number : Nat) (outcome : Nat → LoadOutcome) (fetched : PendingImage × Nat) : DispatchMove :=
  .deliver number ⟨fetched.2, outcome fetched.2⟩

def LoadReport.ofFetch (outcome : Nat → LoadOutcome) (fetched : PendingImage × Nat) : LoadReport :=
  .image fetched.1.id (outcome fetched.2).toOption

def Dispatch.reached (generation : Generation) (images : List PendingImage) (slots : List Nat) : Dispatch :=
  let left := (markReported slots images).countP fun image => !image.loaded
  { generation, images := markReported slots images, stage := if left = 0 then .finished else .waiting left }

section Deliveries

variable {images : List PendingImage} {order : List (PendingImage × Nat)}

theorem getElem?_markReported_of_concat {fetched : PendingImage × Nat} (hnodup : (order ++ [fetched]).Nodup)
    (hsubset : order ++ [fetched] ⊆ awaited images) :
    (markReported (order.map Prod.snd) images)[fetched.2]? = some fetched.1 ∧ fetched.1.loaded = false := by
  obtain ⟨image, slot⟩ := fetched
  obtain ⟨himage, hloaded⟩ := mem_awaited.1 (hsubset (List.mem_append_right _ (List.mem_singleton_self _)))
  -- a slot holds one image, so one that was reported from this slot would be the same again
  have hslot : slot ∉ order.map Prod.snd := by
    intro hmem
    obtain ⟨⟨other, _⟩, hother, rfl⟩ := List.mem_map.1 hmem
    obtain ⟨hsame, _⟩ := mem_awaited.1 (hsubset (List.mem_append_left _ hother))
    have heq : other = image := Option.some.inj (hsame.symm.trans himage)
    have hfresh := (List.nodup_append.1 hnodup).2.2
    exact hfresh _ (heq ▸ hother) _ (List.mem_singleton_self _) rfl
  refine ⟨?_, hloaded⟩
  rw [getElem?_markReported, himage]
  simp [hslot]

/-- Of the images to wait for, those that were fetched have been reported and the others not. -/
theorem countP_markReported (hnodup : order.Nodup) (hsubset : order ⊆ awaited images) :
    (markReported (order.map Prod.snd) images).countP (fun image => !image.loaded) + order.length =
      images.countP fun image => !image.loaded := by
  induction order using List.reverseRecOn with
  | nil => simp
  | append_singleton before fetched ih =>
    obtain ⟨himage, hloaded⟩ := getElem?_markReported_of_concat hnodup hsubset
    have hbefore := ih (List.nodup_append.1 hnodup).1 fun _ hmem => hsubset (List.mem_append_left _ hmem)
    have hset := Dispatch.outstanding_set ⟨.first, markReported (before.map Prod.snd) images, .starting⟩
      himage hloaded .starting
    simp only [Dispatch.outstanding] at hset
    rw [set_markReported himage] at hset
    rw [List.map_append, List.map_singleton, List.length_append, List.length_singleton]
    omega

/-- After some of its completions a dispatch has reported their images in the order of arrival. -/
theorem runIn_deliveries (generation : Generation) (number : Nat) (outcome : Nat → LoadOutcome)
    (hnodup : order.Nodup) (hsubset : order ⊆ awaited images) :
    Dispatch.runIn generation { generation, images } (.begin number :: order.map (delivery number outcome)) =
      (Dispatch.reached generation images (order.map Prod.snd),
        order.map (.ofFetch outcome) ++
          if order.length = images.countP fun image => !image.loaded then [.allLoaded] else []) := by
  induction order using List.reverseRecOn with
  | nil =>
    simp only [List.map_nil, List.length_nil, List.nil_append, Dispatch.runIn, playAll, Dispatch.move,
      Dispatch.begin, Dispatch.reached, markReported_nil, Dispatch.outstanding, eq_comm (a := 0)]
    by_cases hzero : (images.countP fun image => !image.loaded) = 0 <;> simp [hzero]
  | append_singleton before fetched ih =>
    obtain ⟨himage, hloaded⟩ := getElem?_markReported_of_concat hnodup hsubset
    have hsubset' : before ⊆ awaited images := fun _ hmem => hsubset (List.mem_append_left _ hmem)
    have hnodup' : before.Nodup := (List.nodup_append.1 hnodup).1
    have hfront := countP_markReported hnodup' hsubset'
    have hall := countP_markReported hnodup hsubset
    rw [List.length_append, List.length_singleton, List.map_append, List.map_singleton] at hall
    generalize htotal : (images.countP fun image => !image.loaded) = total at hfront hall ih ⊢
    have hmore : before.length ≠ total := by omega
    have hrun := ih hnodup' hsubset'
    rw [if_neg hmore, List.append_nil] at hrun
    -- the counter stands at what is left, so it drops to zero with the last image
    have hstage : (Dispatch.reached generation images (before.map Prod.snd)).stage =
        .waiting (total - before.length) := by
      have hleft : ((markReported (before.map Prod.snd) images).countP fun image => !image.loaded) =
          total - before.length := by omega
      have hpos : total - before.length ≠ 0 := by omega
      simp only [Dispatch.reached, hleft, if_neg hpos]
    have hnext : Dispatch.receive generation (Dispatch.reached generation images (before.map Prod.snd))
          ⟨fetched.2, outcome fetched.2⟩ =
        (Dispatch.reached generation images (before.map Prod.snd ++ [fetched.2]),
          .ofFetch outcome fetched :: if before.length + 1 = total then [.allLoaded] else []) := by
      have hleft : ((markReported (before.map Prod.snd ++ [fetched.2]) images).countP
          fun image => !image.loaded) = total - before.length - 1 := by omega
      have hreported := Dispatch.receive_reported ⟨fetched.2, outcome fetched.2⟩ hstage rfl himage hloaded
      rw [show (Dispatch.reached generation images (before.map Prod.snd)).generation = generation from rfl]
        at hreported
      rw [hreported]
      simp only [Dispatch.reached, set_markReported himage, hleft, LoadReport.ofFetch]
      by_cases hlast : before.length + 1 = total
      · have hone : total - before.length = 1 := by omega
        simp [hlast, hone]
      · have hone : ¬total - before.length ≤ 1 := by omega
        have hzero : total - before.length - 1 ≠ 0 := by omega
        simp only [if_neg hlast, if_neg hone, if_neg hzero]
    rw [List.map_append, List.map_singleton, ← List.cons_append, Dispatch.runIn, playAll_concat,
      ← Dispatch.runIn, hrun]
    simp only [delivery, Dispatch.move, hnext]
    simp

end Deliveries

section EveryOrder

variable (generation : Generation) (images : List PendingImage) (number : Nat) (outcome : Nat → LoadOutcome)

theorem markReported_awaited : markReported ((awaited images).map Prod.snd) images =
    images.map PendingImage.reported := by
  apply List.ext_getElem?
  intro slot
  rw [getElem?_markReported, List.getElem?_map]
  cases himage : images[slot]? with
  | none => rfl
  | some image =>
    cases hloaded : image.loaded with
    | true => simp [PendingImage.reported, hloaded]
    | false =>
      have hmem : slot ∈ (awaited images).map Prod.snd :=
        List.mem_map.2 ⟨(image, slot), mem_awaited.2 ⟨himage, hloaded⟩, rfl⟩
      simp [PendingImage.reported, hmem]

theorem markReported_congr {slots others : List Nat} (h : ∀ slot, slot ∈ slots ↔ slot ∈ others) :
    markReported slots images = markReported others images := by
  simp only [markReported, h]

/-- Whatever the order in which its fetches end, a dispatch that stays in its generation reports each image that it
had to fetch once, with what its own fetch gave, and then that all are loaded; on the way its counter is the number
of images not reported. -/
theorem reports_in_every_order (order : List (PendingImage × Nat)) (horder : order.Perm (awaited images)) :
    let posted : Dispatch := { generation, images }
    let run (count : Nat) :=
      posted.runIn generation (.begin number :: (order.take count).map (delivery number outcome))
    posted.wanted = (awaited images).map (fun (image, slot) => (slot, image.url)) ∧
      (run order.length).2 =
        order.map (fun (image, slot) => .image image.id (outcome slot).toOption) ++ [.allLoaded] ∧
      (run order.length).1 = ⟨generation, images.map PendingImage.reported, .finished⟩ ∧
      ∀ count ≤ order.length, (run count).1.outstanding = order.length - count ∧
        (run count).1.stage =
          if count = order.length then .finished else .waiting (run count).1.outstanding := by
  intro posted run
  have hnodup : order.Nodup := horder.nodup_iff.2 (nodup_awaited images)
  have hsubset : order ⊆ awaited images := horder.subset
  have hlength : order.length = images.countP fun image => !image.loaded := by
    rw [horder.length_eq, length_awaited]
  have hrun : ∀ count, run count = (Dispatch.reached generation images ((order.take count).map Prod.snd),
      (order.take count).map (.ofFetch outcome) ++
        if (order.take count).length = order.length then [.allLoaded] else []) := by
    intro count
    rw [hlength]
    exact runIn_deliveries generation number outcome (hnodup.sublist (List.take_sublist ..))
      fun _ hmem => hsubset (List.mem_of_mem_take hmem)
  have hleft : ∀ count ≤ order.length,
      ((markReported ((order.take count).map Prod.snd) images).countP fun image => !image.loaded) =
        order.length - count := by
    intro count hcount
    have hall := countP_markReported (hnodup.sublist (List.take_sublist count order))
      fun _ hmem => hsubset (List.mem_of_mem_take hmem)
    rw [List.length_take] at hall
    omega
  refine ⟨rfl, ?_, ?_, ?_⟩
  · rw [hrun, List.take_length, if_pos rfl]
    rfl
  · have hmarked : markReported (order.map Prod.snd) images = images.map PendingImage.reported := by
      rw [← markReported_awaited]
      exact markReported_congr images fun slot => (horder.map Prod.snd).mem_iff
    have hzero := hleft order.length (Nat.le_refl _)
    rw [List.take_length, Nat.sub_self, hmarked] at hzero
    rw [hrun, List.take_length]
    simp only [Dispatch.reached, hmarked, hzero, if_true]
  · intro count hcount
    have hcounted := hleft count hcount
    rw [hrun]
    refine ⟨hcounted, ?_⟩
    simp only [Dispatch.reached, Dispatch.outstanding, hcounted]
    by_cases heq : count = order.length
    · simp [heq]
    · have hpos : order.length - count ≠ 0 := by omega
      simp only [if_neg heq, if_neg hpos]

end EveryOrder

def halfLoaded : List PendingImage :=
  [⟨0, default, false⟩, ⟨1, default, true⟩, ⟨2, default, false⟩]

/-- The third image fails first, then the first one is there. -/
theorem halfLoaded_reports :
    let outcome : Nat → LoadOutcome := fun slot =>
      if slot = 2 then .error (.other "gone") else .ok ⟨default, .empty⟩
    let order := (awaited halfLoaded).reverse
    order.Perm (awaited halfLoaded) ∧
      (Dispatch.runIn .first { generation := .first, images := halfLoaded }
          (.begin 7 :: (order.take order.length).map (delivery 7 outcome))).2 =
        [.image 2 none, .image 0 (some ⟨default, .empty⟩), .allLoaded] := by
  intro outcome order
  have horder : order.Perm (awaited halfLoaded) := List.reverse_perm _
  obtain ⟨_, hreports, _⟩ := reports_in_every_order .first halfLoaded 7 outcome order horder
  exact ⟨horder, hreports⟩

end MarkdownLayout
