import MarkdownLayout.Assembly
import Mathlib.Data.List.Induction

/-!
# Which streams of events are documents

Assembling goes from event to event and looks at nothing but the elements that are open. So the number of open
elements is the number of tags opened less the number of tags closed, and the first event for which that number would
leave its bounds decides the error. Leaves are pushed without a look at the depth: a code span brings a run of its
own, and a tree may be two levels higher than its tags are deep.
-/

namespace MarkdownLayout

inductive EventRole where
  | opens (element : Element)
  | closes
  | adds (element : Element)

namespace LocatedEvent

def isOpening (located : LocatedEvent) : Bool :=
  match located.event with
  | .opening _ => true
  | _ => false

def isClosing (located : LocatedEvent) : Bool :=
  located.event == .closing

def role (source : String) (parent : Option ElementKind) : LocatedEvent → EventRole
  | ⟨.opening tag, span⟩ => .opens (tag.element span parent)
  | ⟨.closing, _⟩ => .closes
  | ⟨.text content, span⟩ => .adds (Event.textElement source content span)
  | ⟨.code content, span⟩ => .adds (Event.codeElement source content span)
  | ⟨.markup, span⟩ => .adds { kind := .html, range := span }
  | ⟨.softBreak, span⟩ => .adds { kind := .plainRun, range := span }
  | ⟨.hardBreak, span⟩ => .adds { kind := .lineBreak, range := ⟨span.start, span.start⟩ }
  | ⟨.rule, span⟩ => .adds { kind := .horizontalRule, range := span }
  | ⟨.other, span⟩ => .adds { kind := .unknown, range := span }

variable {source : String} {parent : Option ElementKind} {located : LocatedEvent} {element : Element}

theorem opening_of_role (h : located.role source parent = .opens element) :
    ∃ tag, located.event = .opening tag ∧ element = tag.element located.span parent := by
  obtain ⟨event, span⟩ := located
  cases event with
  | opening tag => exact ⟨tag, rfl, (EventRole.opens.inj h).symm⟩
  | _ => cases h

theorem closing_of_role (h : located.role source parent = .closes) : located.event = .closing := by
  obtain ⟨event, span⟩ := located
  cases event with
  | closing => rfl
  | _ => cases h

theorem isClosing_eq_false (h : located.isOpening = true) : located.isClosing = false := by
  obtain ⟨event, span⟩ := located
  cases event with
  | closing => cases h
  | _ => rfl

theorem isOpening_eq_false (h : located.isClosing = true) : located.isOpening = false := by
  cases hopening : located.isOpening with
  | false => rfl
  | true => rw [← h, isClosing_eq_false hopening]

theorem isOpening_of_role (h : located.role source parent = .opens element) :
    located.isOpening = true ∧ located.isClosing = false := by
  obtain ⟨tag, hevent, _⟩ := opening_of_role h
  simp [isOpening, isClosing, hevent]

theorem isClosing_of_role (h : located.role source parent = .closes) :
    located.isOpening = false ∧ located.isClosing = true := by
  simp [isOpening, isClosing, closing_of_role h]

theorem isInner_of_role (h : located.role source parent = .adds element) :
    located.isOpening = false ∧ located.isClosing = false := by
  obtain ⟨event, span⟩ := located
  cases event with
  | opening | closing => cases h
  | _ => exact ⟨rfl, rfl⟩

end LocatedEvent

theorem Tag.children_element (tag : Tag) (range : Span) (parent : Option ElementKind) :
    (tag.element range parent).children = [] := by
  unfold element
  repeat' split
  all_goals rfl

mutual

def Element.height : Element → Nat
  | ⟨_, _, children, _, _, _⟩ => heightOf children + 1

def Element.heightOf : List Element → Nat
  | [] => 0
  | element :: rest => max element.height (Element.heightOf rest)

end

namespace Element

theorem height_eq (element : Element) : element.height = heightOf element.children + 1 := by
  obtain ⟨kind, range, children, href, alt, level⟩ := element
  rw [height]

theorem heightOf_append (front back : List Element) :
    heightOf (front ++ back) = max (heightOf front) (heightOf back) := by
  induction front with
  | nil => simp [heightOf]
  | cons element rest ih => rw [List.cons_append, heightOf, heightOf, ih, Nat.max_assoc]

/-- Finishing an element never makes it higher: an image loses its children. -/
theorem height_finished_le (element : Element) (source : String) :
    (element.finished source).height ≤ heightOf element.children + 1 := by
  unfold finished
  split
  · simp [height, heightOf]
  · exact Nat.le_of_eq element.height_eq

end Element

theorem LocatedEvent.height_of_role_adds {source : String} {parent : Option ElementKind} {located : LocatedEvent}
    {element : Element} (h : located.role source parent = .adds element) : element.height ≤ 2 := by
  obtain ⟨event, span⟩ := located
  cases event with
  | opening | closing => cases h
  | text content =>
    rw [← EventRole.adds.inj h, Event.textElement]
    split <;> simp [Element.height, Element.heightOf]
  | _ =>
    rw [← EventRole.adds.inj h]
    simp [Event.codeElement, Element.height, Element.heightOf]

namespace Assembly

inductive Step (assembly : Assembly) (located : LocatedEvent) : Except AssemblyError Assembly → Prop
  | tooDeep {element : Element} (hrole : located.role assembly.source assembly.parentKind = .opens element)
      (hfull : assembly.limit ≤ assembly.opened.length) :
      Step assembly located (.error (.nestingTooDeep assembly.limit))
  | opened {element : Element} (hrole : located.role assembly.source assembly.parentKind = .opens element)
      (hroom : assembly.opened.length < assembly.limit) :
      Step assembly located (.ok { assembly with opened := element :: assembly.opened })
  | unexpected (hrole : located.role assembly.source assembly.parentKind = .closes) (hnone : assembly.opened = []) :
      Step assembly located (.error .unexpectedEnd)
  | closed {element : Element} {rest : List Element}
      (hrole : located.role assembly.source assembly.parentKind = .closes)
      (hopened : assembly.opened = element :: rest) :
      Step assembly located
        (.ok (({ assembly with opened := rest } : Assembly).push (element.finished assembly.source)))
  | added {element : Element} (hrole : located.role assembly.source assembly.parentKind = .adds element) :
      Step assembly located (.ok (assembly.push element))

/-- A step depends on an event through its role alone. -/
theorem step_eq (assembly : Assembly) (located : LocatedEvent) :
    assembly.step located =
      match located.role assembly.source assembly.parentKind with
      | .opens element => assembly.start element
      | .closes => assembly.close
      | .adds element => .ok (assembly.push element) := by
  obtain ⟨event, span⟩ := located
  cases event <;> rfl

/-- These are all the ways in which a step can go. -/
theorem step_spec (assembly : Assembly) (located : LocatedEvent) :
    Step assembly located (assembly.step located) := by
  rw [step_eq]
  cases hrole : located.role assembly.source assembly.parentKind with
  | opens element =>
    dsimp only [start]
    split
    · next hfull => exact .tooDeep hrole hfull
    · next hroom => exact .opened hrole (Nat.lt_of_not_le hroom)
  | closes =>
    dsimp only [close]
    split
    · next hnone => exact .unexpected hrole hnone
    · next hopened => exact .closed hrole hopened
  | adds element => exact .added hrole

@[simp]
theorem source_push (assembly : Assembly) (element : Element) : (assembly.push element).source = assembly.source := by
  unfold push
  split <;> rfl

@[simp]
theorem limit_push (assembly : Assembly) (element : Element) : (assembly.push element).limit = assembly.limit := by
  unfold push
  split <;> rfl

@[simp]
theorem length_opened_push (assembly : Assembly) (element : Element) :
    (assembly.push element).opened.length = assembly.opened.length := by
  unfold push
  split
  · next hopened => simp [hopened]
  · rfl

theorem run_append (assembly : Assembly) (front back : List LocatedEvent) :
    assembly.run (front ++ back) = (assembly.run front).bind (·.run back) := by
  induction front generalizing assembly with
  | nil => rfl
  | cons located rest ih =>
    rw [List.cons_append, run, run]
    cases assembly.step located with
    | ok next => exact ih next
    | error e => rfl

/-- Events are taken up one at a time, and the first that is out of place ends it. -/
theorem run_concat (assembly : Assembly) (front : List LocatedEvent) (located : LocatedEvent) :
    assembly.run (front ++ [located]) = (assembly.run front).bind (·.step located) := by
  rw [run_append]
  congr 1
  funext next
  rw [run]
  cases next.step located <;> rfl

/-- What holds at the start and is kept by every event that is taken up holds when all of them are in. -/
theorem run_induction {start assembly : Assembly} {events : List LocatedEvent}
    {motive : List LocatedEvent → Assembly → Prop} (hrun : start.run events = .ok assembly) (hstart : motive [] start)
    (keep : ∀ {front : List LocatedEvent} {before next : Assembly} {located : LocatedEvent},
      before.step located = .ok next → motive front before → motive (front ++ [located]) next) :
    motive events assembly := by
  induction events using List.reverseRecOn generalizing assembly with
  | nil =>
    cases hrun
    exact hstart
  | append_singleton front located ih =>
    rw [run_concat] at hrun
    cases hfront : start.run front with
    | ok before =>
      rw [hfront] at hrun
      exact keep hrun (ih hfront)
    | error e =>
      rw [hfront] at hrun
      cases hrun

end Assembly

def openings (events : List LocatedEvent) : Nat :=
  events.countP LocatedEvent.isOpening

def closings (events : List LocatedEvent) : Nat :=
  events.countP LocatedEvent.isClosing

/-- At no point are more tags closed than opened, or more than `limit` tags open. -/
def WithinDepth (limit : Nat) (events : List LocatedEvent) : Prop :=
  ∀ front, front <+: events → closings front ≤ openings front ∧ openings front ≤ closings front + limit

inductive Flaw (limit : Nat) (events : List LocatedEvent) : AssemblyError → Prop
  | tooDeep (front back : List LocatedEvent) (located : LocatedEvent) (heq : events = front ++ located :: back)
      (hfront : WithinDepth limit front) (hopening : located.isOpening = true)
      (hfull : openings front = closings front + limit) : Flaw limit events (.nestingTooDeep limit)
  | unexpected (front back : List LocatedEvent) (located : LocatedEvent) (heq : events = front ++ located :: back)
      (hfront : WithinDepth limit front) (hclosing : located.isClosing = true)
      (hnone : openings front = closings front) : Flaw limit events .unexpectedEnd
  | unbalanced (hevents : WithinDepth limit events) (hleft : openings events ≠ closings events) :
      Flaw limit events (.unbalanced (openings events - closings events))

section Counting

variable {limit : Nat} {front events : List LocatedEvent} {located : LocatedEvent}

theorem openings_concat (front : List LocatedEvent) (located : LocatedEvent) :
    openings (front ++ [located]) = openings front + if located.isOpening then 1 else 0 := by
  simp [openings, List.countP_append, List.countP_cons]

theorem closings_concat (front : List LocatedEvent) (located : LocatedEvent) :
    closings (front ++ [located]) = closings front + if located.isClosing then 1 else 0 := by
  simp [closings, List.countP_append, List.countP_cons]

theorem WithinDepth.bounds (h : WithinDepth limit events) :
    closings events ≤ openings events ∧ openings events ≤ closings events + limit :=
  h events List.prefix_rfl

theorem WithinDepth.of_isPrefix (h : WithinDepth limit events) (hle : front <+: events) : WithinDepth limit front :=
  fun _ hfront => h _ (hfront.trans hle)

theorem withinDepth_nil (limit : Nat) : WithinDepth limit [] := by
  intro front hfront
  rw [List.prefix_nil.1 hfront]
  exact ⟨Nat.le_refl _, Nat.zero_le _⟩

/-- One event more stays within the limit if the counts do after it. -/
theorem WithinDepth.concat (h : WithinDepth limit front)
    (hlow : closings (front ++ [located]) ≤ openings (front ++ [located]))
    (hhigh : openings (front ++ [located]) ≤ closings (front ++ [located]) + limit) :
    WithinDepth limit (front ++ [located]) := by
  intro before hbefore
  obtain rfl | hfront := List.prefix_concat_iff.1 hbefore
  · exact ⟨hlow, hhigh⟩
  · exact h before hfront

end Counting

structure Assembly.Reached (source : String) (limit : Nat) (events : List LocatedEvent) (assembly : Assembly) :
    Prop where
  source_eq : assembly.source = source
  limit_eq : assembly.limit = limit
  withinDepth : WithinDepth limit events
  length_opened : assembly.opened.length + closings events = openings events

namespace Assembly

variable {source : String} {limit : Nat} {front events : List LocatedEvent} {located : LocatedEvent}
  {assembly next : Assembly} {e : AssemblyError}

theorem Reached.start (source : String) (limit : Nat) : Reached source limit [] { source, limit } :=
  ⟨rfl, rfl, withinDepth_nil limit, rfl⟩

/-- No more elements are ever open than the limit allows. -/
theorem Reached.length_le (h : Reached source limit events assembly) : assembly.opened.length ≤ limit := by
  have hbounds := h.withinDepth.bounds
  have hlength := h.length_opened
  omega

theorem Reached.concat (h : Reached source limit front assembly) (hsource : next.source = source)
    (hlimit : next.limit = limit) (hroom : next.opened.length ≤ limit)
    (hlength : next.opened.length + (if located.isClosing then 1 else 0) =
      assembly.opened.length + if located.isOpening then 1 else 0) :
    Reached source limit (front ++ [located]) next := by
  have hopened : next.opened.length + closings (front ++ [located]) = openings (front ++ [located]) := by
    rw [openings_concat, closings_concat, ← h.length_opened]
    omega
  exact ⟨hsource, hlimit, h.withinDepth.concat (by omega) (by omega), hopened⟩

/-- The open elements of an assembly are the tags opened and not closed so far, and a step keeps it so. -/
theorem Reached.step (h : Reached source limit front assembly) (hstep : assembly.step located = .ok next) :
    Reached source limit (front ++ [located]) next := by
  have hspec := assembly.step_spec located
  have hle := h.length_le
  rw [hstep] at hspec
  cases hspec with
  | opened hrole hroom =>
    obtain ⟨hopening, hclosing⟩ := LocatedEvent.isOpening_of_role hrole
    exact h.concat h.source_eq h.limit_eq (h.limit_eq ▸ hroom) (by simp [hopening, hclosing])
  | closed hrole hopened =>
    obtain ⟨hopening, hclosing⟩ := LocatedEvent.isClosing_of_role hrole
    rw [hopened, List.length_cons] at hle
    exact h.concat (by simp [h.source_eq]) (by simp [h.limit_eq]) (by simp; omega)
      (by simp [hopening, hclosing, hopened])
  | added hrole =>
    obtain ⟨hopening, hclosing⟩ := LocatedEvent.isInner_of_role hrole
    exact h.concat (by simp [h.source_eq]) (by simp [h.limit_eq]) (by simpa using hle) (by simp [hopening, hclosing])

/-- The only two ways for an event to be out of place. -/
theorem Reached.step_eq_error_iff (h : Reached source limit front assembly) : assembly.step located = .error e ↔
    (located.isOpening = true ∧ openings front = closings front + limit ∧ e = .nestingTooDeep limit) ∨
      (located.isClosing = true ∧ openings front = closings front ∧ e = .unexpectedEnd) := by
  have hspec := assembly.step_spec located
  have hlength := h.length_opened
  have hle := h.length_le
  have hlimit := h.limit_eq
  generalize assembly.step located = result at hspec
  cases hspec with
  | tooDeep hrole hfull =>
    obtain ⟨hopening, hclosing⟩ := LocatedEvent.isOpening_of_role hrole
    have heq : openings front = closings front + limit := by omega
    simp [hopening, hclosing, hlimit, heq, eq_comm]
  | opened hrole hroom =>
    obtain ⟨hopening, hclosing⟩ := LocatedEvent.isOpening_of_role hrole
    have hne : openings front ≠ closings front + limit := by omega
    simp [hopening, hclosing, hne]
  | unexpected hrole hnone =>
    obtain ⟨hopening, hclosing⟩ := LocatedEvent.isClosing_of_role hrole
    rw [hnone, List.length_nil, Nat.zero_add] at hlength
    simp [hopening, hclosing, hlength, eq_comm]
  | closed hrole hopened =>
    obtain ⟨hopening, hclosing⟩ := LocatedEvent.isClosing_of_role hrole
    rw [hopened, List.length_cons] at hlength
    have hne : openings front ≠ closings front := by omega
    simp [hopening, hclosing, hne]
  | added hrole =>
    obtain ⟨hopening, hclosing⟩ := LocatedEvent.isInner_of_role hrole
    simp [hopening, hclosing]

theorem reached_of_run (hrun : run { source, limit } events = .ok assembly) : Reached source limit events assembly :=
  run_induction hrun (.start source limit) fun hstep hbefore => hbefore.step hstep

/-- Events within the limit are all taken up. -/
theorem exists_run (source : String) (h : WithinDepth limit events) :
    ∃ assembly, run { source, limit } events = .ok assembly := by
  induction events using List.reverseRecOn with
  | nil => exact ⟨_, rfl⟩
  | append_singleton front located ih =>
    obtain ⟨before, hfront⟩ := ih (h.of_isPrefix (List.prefix_append ..))
    have hbefore := reached_of_run hfront
    have hbounds := h.bounds
    rw [openings_concat, closings_concat] at hbounds
    rw [run_concat, hfront]
    cases hstep : before.step located with
    | ok next => exact ⟨next, hstep⟩
    | error e =>
      -- an event out of place would break one of the two bounds
      exfalso
      obtain ⟨hopening, hfull, _⟩ | ⟨hclosing, hnone, _⟩ := hbefore.step_eq_error_iff.1 hstep
      · simp only [hopening, LocatedEvent.isClosing_eq_false hopening, if_true, Bool.false_eq_true, if_false] at hbounds
        omega
      · simp only [LocatedEvent.isOpening_eq_false hclosing, hclosing, if_true, Bool.false_eq_true, if_false] at hbounds
        omega

/-- A run fails at one event, and what stands behind it does not matter. -/
theorem run_eq_error_iff : assembly.run events = .error e ↔ ∃ front located back next,
    events = front ++ located :: back ∧ assembly.run front = .ok next ∧ next.step located = .error e := by
  constructor
  · intro hrun
    induction events generalizing assembly with
    | nil => cases hrun
    | cons located rest ih =>
      rw [run] at hrun
      cases hstep : assembly.step located with
      | error cause =>
        rw [hstep] at hrun
        cases hrun
        exact ⟨[], located, rest, assembly, rfl, rfl, hstep⟩
      | ok after =>
        rw [hstep] at hrun
        obtain ⟨front, bad, back, next, rfl, hfront, hbad⟩ := ih hrun
        refine ⟨located :: front, bad, back, next, rfl, ?_, hbad⟩
        rw [run, hstep]
        exact hfront
  · rintro ⟨front, located, back, next, rfl, hfront, hstep⟩
    rw [run_append, hfront]
    change next.run (located :: back) = _
    rw [run, hstep]

/-- A document is finished exactly if no tag is left open. -/
theorem finish_eq_ok_iff {document : Document} : assembly.finish = .ok document ↔
    assembly.opened = [] ∧ { source := assembly.source, elements := assembly.elements } = document := by
  unfold finish
  cases assembly.opened <;> simp

theorem finish_eq_error_iff : assembly.finish = .error e ↔
    assembly.opened ≠ [] ∧ .unbalanced assembly.opened.length = e := by
  unfold finish
  cases assembly.opened <;> simp

/-- An event out of place among the events before it is where the run fails. -/
theorem run_eq_error_of_place {back : List LocatedEvent} (hfront : WithinDepth limit front)
    (hplace : (located.isOpening = true ∧ openings front = closings front + limit ∧ e = .nestingTooDeep limit) ∨
      (located.isClosing = true ∧ openings front = closings front ∧ e = .unexpectedEnd)) :
    run { source, limit } (front ++ located :: back) = .error e := by
  obtain ⟨next, hrun⟩ := exists_run source hfront
  exact run_eq_error_iff.2 ⟨front, located, back, next, rfl, hrun, (reached_of_run hrun).step_eq_error_iff.2 hplace⟩

end Assembly

namespace Document

variable {source : String} {limit : Nat} {events : List LocatedEvent} {document : Document}
  {assembly : Assembly} {e : AssemblyError}

theorem ofEvents?_of_run (hrun : Assembly.run { source, limit } events = .ok assembly) :
    ofEvents? source limit events = assembly.finish := by
  simp [ofEvents?, hrun]

theorem ofEvents?_of_run_error (hrun : Assembly.run { source, limit } events = .error e) :
    ofEvents? source limit events = .error e := by
  simp [ofEvents?, hrun]

theorem exists_run_of_ofEvents? (h : ofEvents? source limit events = .ok document) :
    ∃ assembly, Assembly.run { source, limit } events = .ok assembly ∧ assembly.opened = [] ∧
      { source := assembly.source, elements := assembly.elements } = document := by
  cases hrun : Assembly.run { source, limit } events with
  | ok assembly =>
    rw [ofEvents?_of_run hrun] at h
    exact ⟨assembly, rfl, Assembly.finish_eq_ok_iff.1 h⟩
  | error e =>
    rw [ofEvents?_of_run_error hrun] at h
    cases h

/-- Balance within the limit is all that a stream needs. -/
theorem exists_ofEvents?_iff : (∃ document, ofEvents? source limit events = .ok document) ↔
    WithinDepth limit events ∧ openings events = closings events := by
  constructor
  · rintro ⟨document, h⟩
    obtain ⟨assembly, hrun, hopened, _⟩ := exists_run_of_ofEvents? h
    have hreached := Assembly.reached_of_run hrun
    have hlength := hreached.length_opened
    rw [hopened, List.length_nil, Nat.zero_add] at hlength
    exact ⟨hreached.withinDepth, hlength.symm⟩
  · rintro ⟨hdepth, hbalance⟩
    obtain ⟨assembly, hrun⟩ := Assembly.exists_run source hdepth
    have hlength := (Assembly.reached_of_run hrun).length_opened
    have hopened : assembly.opened = [] := List.length_eq_zero_iff.1 (by omega)
    exact ⟨_, (ofEvents?_of_run hrun).trans (Assembly.finish_eq_ok_iff.2 ⟨hopened, rfl⟩)⟩

/-- A stream is refused for its first flaw and for nothing else. -/
theorem ofEvents?_eq_error_iff : ofEvents? source limit events = .error e ↔ Flaw limit events e := by
  constructor
  · intro h
    cases hrun : Assembly.run { source, limit } events with
    | error cause =>
      rw [ofEvents?_of_run_error hrun] at h
      cases h
      obtain ⟨front, located, back, next, rfl, hfront, hstep⟩ := Assembly.run_eq_error_iff.1 hrun
      have hreached := Assembly.reached_of_run hfront
      obtain ⟨hopening, hfull, rfl⟩ | ⟨hclosing, hnone, rfl⟩ := hreached.step_eq_error_iff.1 hstep
      · exact .tooDeep front back located rfl hreached.withinDepth hopening hfull
      · exact .unexpected front back located rfl hreached.withinDepth hclosing hnone
    | ok assembly =>
      have hreached := Assembly.reached_of_run hrun
      have hlength := hreached.length_opened
      rw [ofEvents?_of_run hrun] at h
      obtain ⟨hopened, rfl⟩ := Assembly.finish_eq_error_iff.1 h
      have hpos := List.length_pos_iff.2 hopened
      have hleft : assembly.opened.length = openings events - closings events := by omega
      rw [hleft]
      exact .unbalanced hreached.withinDepth (by omega)
  · intro hflaw
    cases hflaw with
    | tooDeep front back located heq hfront hopening hfull =>
      rw [heq]
      exact ofEvents?_of_run_error (Assembly.run_eq_error_of_place hfront (.inl ⟨hopening, hfull, rfl⟩))
    | unexpected front back located heq hfront hclosing hnone =>
      rw [heq]
      exact ofEvents?_of_run_error (Assembly.run_eq_error_of_place hfront (.inr ⟨hclosing, hnone, rfl⟩))
    | unbalanced hevents hleft =>
      obtain ⟨assembly, hrun⟩ := Assembly.exists_run source hevents
      have hlength := (Assembly.reached_of_run hrun).length_opened
      have hopened : assembly.opened ≠ [] := by
        intro hnil
        rw [hnil, List.length_nil] at hlength
        omega
      have hcount : assembly.opened.length = openings events - closings events := by omega
      rw [ofEvents?_of_run hrun, ← hcount]
      exact Assembly.finish_eq_error_iff.2 ⟨hopened, rfl⟩

end Document

/-! ## Height -/

namespace Assembly

/-- Below an open element there is room for what its tag leaves of the limit, and two levels more. -/
def Shallow (limit : Nat) : List Element → Prop
  | [] => True
  | element :: rest => Element.heightOf element.children + rest.length ≤ limit + 1 ∧ Shallow limit rest

structure LowTrees (assembly : Assembly) : Prop where
  length_le : assembly.opened.length ≤ assembly.limit
  opened : Shallow assembly.limit assembly.opened
  elements : Element.heightOf assembly.elements ≤ assembly.limit + 2

variable {source : String} {limit : Nat} {events : List LocatedEvent} {located : LocatedEvent}
  {assembly next : Assembly}

theorem LowTrees.push (h : assembly.LowTrees) {element : Element}
    (hheight : element.height + assembly.opened.length ≤ assembly.limit + 2) : (assembly.push element).LowTrees := by
  obtain ⟨hlength, hopened, helements⟩ := h
  unfold Assembly.push
  cases hstack : assembly.opened with
  | nil =>
    rw [hstack] at hheight hlength
    have happend : Element.heightOf (assembly.elements ++ [element]) ≤ assembly.limit + 2 := by
      rw [Element.heightOf_append, Element.heightOf, Element.heightOf, Nat.max_zero]
      exact Nat.max_le.2 ⟨helements, hheight⟩
    exact ⟨hlength, trivial, happend⟩
  | cons parent rest =>
    rw [hstack] at hheight hlength hopened
    rw [List.length_cons] at hheight
    have happend : Element.heightOf (parent.children ++ [element]) + rest.length ≤ assembly.limit + 1 := by
      rw [Element.heightOf_append, Element.heightOf, Element.heightOf, Nat.max_zero]
      have hparent := hopened.1
      omega
    exact ⟨hlength, ⟨happend, hopened.2⟩, helements⟩

/-- No step makes a tree higher than the limit leaves room for. -/
theorem LowTrees.step (h : assembly.LowTrees) (hstep : assembly.step located = .ok next) : next.LowTrees := by
  have hspec := assembly.step_spec located
  rw [hstep] at hspec
  cases hspec with
  | @opened element hrole hroom =>
    have hempty : Element.heightOf element.children + assembly.opened.length ≤ assembly.limit + 1 := by
      obtain ⟨tag, _, rfl⟩ := LocatedEvent.opening_of_role hrole
      rw [Tag.children_element, Element.heightOf]
      omega
    exact ⟨hroom, ⟨hempty, h.opened⟩, h.elements⟩
  | @closed element rest hrole hopened =>
    have hlength := h.length_le
    have hshallow := h.opened
    rw [hopened, List.length_cons] at hlength
    rw [hopened] at hshallow
    have hrest : ({ assembly with opened := rest } : Assembly).LowTrees :=
      ⟨by dsimp only; omega, hshallow.2, h.elements⟩
    -- the element goes one level up, where one tag less is open
    apply hrest.push
    have hheight := element.height_finished_le assembly.source
    have hchildren := hshallow.1
    dsimp only
    omega
  | added hrole =>
    apply h.push
    have hheight := LocatedEvent.height_of_role_adds hrole
    have hlength := h.length_le
    omega

end Assembly

namespace Document

variable {source : String} {limit : Nat} {events : List LocatedEvent} {document : Document}

/-- The limit bounds the height of the tree. A code span at the deepest level adds two. -/
theorem heightOf_elements_le (h : ofEvents? source limit events = .ok document) :
    Element.heightOf document.elements ≤ limit + 2 := by
  obtain ⟨assembly, hrun, _, rfl⟩ := exists_run_of_ofEvents? h
  have hstart : ({ source, limit } : Assembly).LowTrees := ⟨Nat.zero_le _, trivial, Nat.zero_le _⟩
  have hlow : assembly.LowTrees :=
    Assembly.run_induction (motive := fun _ now => now.LowTrees) hrun hstart fun hstep hbefore => hbefore.step hstep
  have helements := hlow.elements
  rwa [(Assembly.reached_of_run hrun).limit_eq] at helements

/-- A stream is a document exactly when its tags balance within the limit. Otherwise its first flaw is the error. On
the way as many elements are open as tags, and a document is at most two levels higher than its tags may be deep. -/
theorem balance_decides (source : String) (limit : Nat) (events : List LocatedEvent) :
    ((∃ document, ofEvents? source limit events = .ok document) ↔
        WithinDepth limit events ∧ openings events = closings events) ∧
      (∀ e, ofEvents? source limit events = .error e ↔ Flaw limit events e) ∧
      (∀ front assembly, front <+: events → Assembly.run { source, limit } front = .ok assembly →
        assembly.opened.length + closings front = openings front) ∧
      ∀ document, ofEvents? source limit events = .ok document →
        Element.heightOf document.elements ≤ limit + 2 :=
  ⟨exists_ofEvents?_iff, fun _ => ofEvents?_eq_error_iff,
    fun _ _ _ hrun => (Assembly.reached_of_run hrun).length_opened, fun _ => heightOf_elements_le⟩

end Document

end MarkdownLayout
