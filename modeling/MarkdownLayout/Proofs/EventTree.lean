import MarkdownLayout.Proofs.EventBalance

/-!
# The tree in a stream of events

A stretch of events that closes what it opens encodes a list of elements, whatever stands before or behind it. An
assembly that is under way has taken up such stretches with open tags between them, so when all tags are closed its
elements are those that the stream encodes. Reading the stream with nothing but a stack of open tags in hand then
meets the elements in the order of a walk through the tree, and finds the parent of each at the top of the stack.
-/

namespace MarkdownLayout

inductive Encodes (source : String) : Option ElementKind → List LocatedEvent → List Element → Prop
  | nil (parent : Option ElementKind) : Encodes source parent [] []
  | add {parent : Option ElementKind} {located : LocatedEvent} {element : Element} {rest : List LocatedEvent}
      {elements : List Element} (hrole : located.role source parent = .adds element)
      (hrest : Encodes source parent rest elements) : Encodes source parent (located :: rest) (element :: elements)
  | enclose {parent : Option ElementKind} {opening closing : LocatedEvent} {element : Element}
      {inner rest : List LocatedEvent} {children elements : List Element}
      (hopens : opening.role source parent = .opens element)
      (hinner : Encodes source (some element.kind) inner children) (hcloses : closing.event = .closing)
      (hrest : Encodes source parent rest elements) :
      Encodes source parent (opening :: (inner ++ closing :: rest))
        ({ element with children := children }.finished source :: elements)

/-- The events that an assembly has taken up: stretches that are closed, with the tags of the open elements between
them. -/
inductive Pending (source : String) : List LocatedEvent → List Element → List Element → Prop
  | top {events : List LocatedEvent} {elements : List Element} (h : Encodes source none events elements) :
      Pending source events [] elements
  | inside {before inner : List LocatedEvent} {opening : LocatedEvent} {opened elements children : List Element}
      {element : Element} (hbefore : Pending source before opened elements)
      (hopens : opening.role source (opened.head?.map Element.kind) = .opens element)
      (hinner : Encodes source (some element.kind) inner children) :
      Pending source (before ++ opening :: inner) ({ element with children := children } :: opened) elements

theorem Tag.kind_element_ne_codeSpan (tag : Tag) (range : Span) (parent : Option ElementKind) :
    (tag.element range parent).kind ≠ .codeSpan := by
  unfold element
  repeat' split
  all_goals simp

theorem LocatedEvent.kind_of_role_opens {source : String} {parent : Option ElementKind} {located : LocatedEvent}
    {element : Element} (h : located.role source parent = .opens element) : element.kind ≠ .codeSpan := by
  obtain ⟨tag, _, rfl⟩ := opening_of_role h
  exact tag.kind_element_ne_codeSpan _ _

/-- A cell is a header cell exactly if it stands directly in a header. -/
theorem Tag.kind_element_eq_tableHeaderCell_iff (tag : Tag) (range : Span) (parent : Option ElementKind) :
    (tag.element range parent).kind = .tableHeaderCell ↔ tag = .tableCell ∧ parent = some .tableHeader := by
  unfold element
  repeat' split
  all_goals simp_all

/-- Only a code span comes with something inside it. -/
theorem LocatedEvent.children_of_role_adds {source : String} {parent : Option ElementKind} {located : LocatedEvent}
    {element : Element} (h : located.role source parent = .adds element) :
    (element.kind ≠ .codeSpan ∧ element.children = []) ∨
      element.kind = .codeSpan ∧ ∃ range, element.children = [{ kind := .plainRun, range }] := by
  obtain ⟨event, span⟩ := located
  cases event with
  | opening | closing => cases h
  | text content =>
    rw [← EventRole.adds.inj h, Event.textElement]
    split <;> exact .inl ⟨by simp, rfl⟩
  | code content =>
    rw [← EventRole.adds.inj h]
    exact .inr ⟨rfl, _, rfl⟩
  | _ =>
    rw [← EventRole.adds.inj h]
    exact .inl ⟨by simp, rfl⟩

theorem LocatedEvent.kind_of_role_adds {source : String} {parent : Option ElementKind} {located : LocatedEvent}
    {element : Element} (h : located.role source parent = .adds element) : element.kind ≠ .tableHeaderCell := by
  obtain ⟨event, span⟩ := located
  cases event with
  | opening | closing => cases h
  | text content =>
    rw [← EventRole.adds.inj h, Event.textElement]
    split <;> simp
  | _ =>
    rw [← EventRole.adds.inj h]
    simp [Event.codeElement]

theorem LocatedEvent.role_of_closing {source : String} {parent : Option ElementKind} {located : LocatedEvent}
    (h : located.event = .closing) : located.role source parent = .closes := by
  obtain ⟨event, span⟩ := located
  cases h
  rfl

section Encoding

variable {source : String} {parent : Option ElementKind} {events front back : List LocatedEvent}
  {elements more opened : List Element} {located : LocatedEvent} {element : Element}

theorem Element.with_children_nil (h : element.children = []) : { element with children := [] } = element := by
  obtain ⟨kind, range, children, href, alt, level⟩ := element
  cases h
  rfl

/-- Two stretches that follow one another stand for their elements one after the other. -/
theorem Encodes.append (h : Encodes source parent front elements) (hmore : Encodes source parent back more) :
    Encodes source parent (front ++ back) (elements ++ more) := by
  induction h with
  | nil => exact hmore
  | add hrole _ ih => exact .add hrole (ih hmore)
  | enclose hopens hinner hcloses _ _ ih =>
    rw [List.cons_append, List.append_assoc]
    exact .enclose hopens hinner hcloses (ih hmore)

def Assembly.Holds (assembly : Assembly) (events : List LocatedEvent) : Prop :=
  Pending assembly.source events assembly.opened assembly.elements

/-- An element that is finished joins what has been taken up. -/
theorem Assembly.Holds.push {assembly : Assembly} (h : assembly.Holds events)
    (hmore : Encodes assembly.source assembly.parentKind back [element]) :
    (assembly.push element).Holds (events ++ back) := by
  obtain ⟨source, limit, opened, elements⟩ := assembly
  cases h with
  | top h => exact .top (h.append hmore)
  | inside hbefore hopens hinner =>
    rw [List.append_assoc, List.cons_append]
    have hinside := Pending.inside hbefore hopens (hinner.append hmore)
    exact hinside

/-- An assembly forgets nothing that it takes up. -/
theorem Assembly.Holds.step {assembly next : Assembly} (h : assembly.Holds events)
    (hstep : assembly.step located = .ok next) : next.Holds (events ++ [located]) := by
  have hspec := assembly.step_spec located
  rw [hstep] at hspec
  cases hspec with
  | @opened element hrole hroom =>
    obtain ⟨tag, _, rfl⟩ := LocatedEvent.opening_of_role hrole
    have hinside := Pending.inside h hrole (.nil _)
    rw [Element.with_children_nil (tag.children_element ..)] at hinside
    exact hinside
  | @closed element rest hrole hopened =>
    unfold Assembly.Holds at h
    rw [hopened] at h
    cases h with
    | @inside before inner opening _ _ children _ hbefore hopens hinner =>
      have hrest : ({ assembly with opened := rest } : Assembly).Holds before := hbefore
      have hclosed := Encodes.enclose hopens hinner (LocatedEvent.closing_of_role hrole) (.nil _)
      -- with its two ends the stretch inside the tag is a closed one of the parent
      rw [List.append_assoc]
      exact hrest.push hclosed
  | added hrole => exact h.push (.add hrole (.nil _))

end Encoding

/-- The tree of an accepted stream is one that its events stand for. -/
theorem Document.encodes_of_ofEvents? {source : String} {limit : Nat} {events : List LocatedEvent} {document : Document}
    (h : ofEvents? source limit events = .ok document) : Encodes source none events document.elements := by
  obtain ⟨assembly, hrun, hopened, rfl⟩ := exists_run_of_ofEvents? h
  have hstart : ({ source, limit } : Assembly).Holds [] := .top (.nil none)
  have hholds : assembly.Holds events :=
    Assembly.run_induction (motive := fun front now => now.Holds front) hrun hstart fun hstep hbefore =>
      hbefore.step hstep
  have hsource := (Assembly.reached_of_run hrun).source_eq
  unfold Assembly.Holds at hholds
  rw [hopened, hsource] at hholds
  cases hholds with
  | top hencodes => exact hencodes

/-! ## Taking up an encoding -/

namespace Assembly

variable {assembly next : Assembly} {front back rest : List LocatedEvent} {located : LocatedEvent}

theorem run_append_eq_ok_iff : assembly.run (front ++ back) = .ok next ↔
    ∃ middle, assembly.run front = .ok middle ∧ middle.run back = .ok next := by
  rw [run_append]
  cases assembly.run front with
  | ok middle => simp [Except.bind]
  | error e => simp [Except.bind]

theorem run_cons_eq_ok_iff : assembly.run (located :: rest) = .ok next ↔
    ∃ middle, assembly.step located = .ok middle ∧ middle.run rest = .ok next := by
  rw [run]
  cases assembly.step located <;> simp

@[simp]
theorem parentKind_push (assembly : Assembly) (element : Element) :
    (assembly.push element).parentKind = assembly.parentKind := by
  unfold push parentKind
  split
  · next hopened => simp [hopened]
  · rfl

/-- Elements pushed one after another become the children of the innermost open one. -/
theorem foldl_push_of_opened {parent : Element} {outer : List Element} (hopened : assembly.opened = parent :: outer)
    (elements : List Element) : elements.foldl push assembly =
      { assembly with opened := { parent with children := parent.children ++ elements } :: outer } := by
  induction elements generalizing assembly parent with
  | nil =>
    obtain ⟨source, limit, opened, elements⟩ := assembly
    obtain ⟨kind, range, children, href, alt, level⟩ := parent
    cases hopened
    rw [List.foldl_nil, List.append_nil]
  | cons element rest ih =>
    rw [List.foldl_cons, push, hopened]
    dsimp only
    rw [ih rfl, List.append_assoc, List.singleton_append]

theorem foldl_push_of_top (hopened : assembly.opened = []) (elements : List Element) :
    elements.foldl push assembly = { assembly with elements := assembly.elements ++ elements } := by
  induction elements generalizing assembly with
  | nil => rw [List.foldl_nil, List.append_nil]
  | cons element rest ih =>
    rw [List.foldl_cons, push, hopened]
    dsimp only
    rw [ih rfl, List.append_assoc, List.singleton_append]

end Assembly

/-- An assembly that takes up a closed stretch gains the elements that it encodes. -/
theorem Encodes.run_eq {source : String} {parent : Option ElementKind} {events : List LocatedEvent}
    {elements : List Element} {assembly next : Assembly} (h : Encodes source parent events elements)
    (hsource : assembly.source = source) (hparent : assembly.parentKind = parent)
    (hrun : assembly.run events = .ok next) : next = elements.foldl Assembly.push assembly := by
  induction h generalizing assembly next with
  | nil parent =>
    cases hrun
    rfl
  | @add parent located element rest elements hrole hrest ih =>
    subst hsource hparent
    obtain ⟨middle, hstep, hafter⟩ := Assembly.run_cons_eq_ok_iff.1 hrun
    rw [Assembly.step_eq, hrole] at hstep
    cases hstep
    rw [List.foldl_cons]
    exact ih (Assembly.source_push ..) (Assembly.parentKind_push ..) hafter
  | @enclose parent opening closing element inner rest children elements hopens hinner hcloses hrest ihinner ihrest =>
    subst hsource hparent
    obtain ⟨started, hstart, hinside⟩ := Assembly.run_cons_eq_ok_iff.1 hrun
    obtain ⟨filled, hfill, hafter⟩ := Assembly.run_append_eq_ok_iff.1 hinside
    obtain ⟨closed, hclose, hafter⟩ := Assembly.run_cons_eq_ok_iff.1 hafter
    have hempty : element.children = [] := by
      obtain ⟨tag, _, rfl⟩ := LocatedEvent.opening_of_role hopens
      exact tag.children_element ..
    rw [Assembly.step_eq, hopens] at hstart
    dsimp only [Assembly.start] at hstart
    split at hstart
    · cases hstart
    · cases hstart
      -- the children gather in the element, which is then put where its tag was opened
      have hfilled := @ihinner { assembly with opened := element :: assembly.opened } filled rfl rfl hfill
      rw [Assembly.foldl_push_of_opened rfl, hempty, List.nil_append] at hfilled
      subst hfilled
      rw [Assembly.step_eq, LocatedEvent.role_of_closing hcloses] at hclose
      cases hclose
      rw [List.foldl_cons]
      exact ihrest (Assembly.source_push ..) (Assembly.parentKind_push ..) hafter

/-- A stream encodes no other elements than those of its document. -/
theorem Document.elements_eq_of_encodes {source : String} {limit : Nat} {events : List LocatedEvent}
    {elements : List Element} {document : Document} (h : ofEvents? source limit events = .ok document)
    (hencodes : Encodes source none events elements) : document = { source, elements } := by
  obtain ⟨assembly, hrun, -, rfl⟩ := exists_run_of_ofEvents? h
  rw [hencodes.run_eq rfl rfl hrun, Assembly.foldl_push_of_top rfl]
  rfl

structure ElementHead where
  kind : ElementKind
  range : Span
  href : Option String
  level : UInt8
  deriving DecidableEq, Repr

structure Entry where
  parent : Option Nat
  head : ElementHead
  deriving DecidableEq, Repr

namespace Element

def head (element : Element) : ElementHead :=
  ⟨element.kind, element.range, element.href, element.level⟩

@[simp]
theorem head_finished (element : Element) (children : List Element) (source : String) :
    ({ element with children := children }.finished source).head = element.head := by
  unfold finished
  split <;> rfl

mutual

/-- An element and those inside it, parents first, each with the number of its parent. The element itself has the
number `next`. The run over the code of a code span is no entry of its own. -/
def listed (parent : Option Nat) (next : Nat) : Element → List (Option Nat × Element)
  | ⟨kind, range, children, href, alt, level⟩ =>
    (parent, ⟨kind, range, children, href, alt, level⟩) ::
      if kind = .codeSpan then [] else listedBelow (some next) (next + 1) children

def listedBelow (parent : Option Nat) (next : Nat) : List Element → List (Option Nat × Element)
  | [] => []
  | child :: rest =>
    listed parent next child ++ listedBelow parent (next + (listed parent next child).length) rest

end

def entry (listed : Option Nat × Element) : Entry :=
  ⟨listed.1, listed.2.head⟩

/-- The numbers of a listing grow downwards: an element comes right before what is inside it. -/
theorem listed_eq (parent : Option Nat) (next : Nat) (element : Element) :
    element.listed parent next =
      (parent, element) ::
        if element.kind = .codeSpan then [] else listedBelow (some next) (next + 1) element.children := by
  obtain ⟨kind, range, children, href, alt, level⟩ := element
  rw [listed]

theorem listed_of_role_adds {source : String} {kind : Option ElementKind} {located : LocatedEvent} {element : Element}
    (h : located.role source kind = .adds element) (parent : Option Nat) (next : Nat) :
    element.listed parent next = [(parent, element)] := by
  rw [listed_eq]
  obtain ⟨hkind, hchildren⟩ | ⟨hkind, _⟩ := LocatedEvent.children_of_role_adds h
  · rw [if_neg hkind, hchildren, listedBelow]
  · rw [if_pos hkind]

/-- An image is listed without what stood inside it. -/
theorem listed_finished {element : Element} (hkind : element.kind ≠ .codeSpan) (children : List Element)
    (source : String) (parent : Option Nat) (next : Nat) :
    (({ element with children := children } : Element).finished source).listed parent next =
      (parent, ({ element with children := children } : Element).finished source) ::
        if element.kind = .image then [] else listedBelow (some next) (next + 1) children := by
  rw [listed_eq]
  unfold finished
  by_cases himage : element.kind = .image
  · simp [himage, listedBelow]
  · simp [himage, hkind]

end Element

structure OpenTag where
  number : Nat
  kind : ElementKind

structure Cursor where
  opened : List OpenTag := []
  next : Nat := 0

namespace Cursor

def parentNumber (cursor : Cursor) : Option Nat :=
  cursor.opened.head?.map OpenTag.number

def parentKind (cursor : Cursor) : Option ElementKind :=
  cursor.opened.head?.map OpenTag.kind

def inImage (cursor : Cursor) : Bool :=
  cursor.opened.any (·.kind == .image)

/-- The element that an event brings. What stands inside an image becomes its alternative text, and closing a tag
brings nothing new. -/
def entryOf? (source : String) (cursor : Cursor) (located : LocatedEvent) : Option Entry :=
  match located.role source cursor.parentKind with
  | .closes => none
  | .opens element | .adds element => if cursor.inImage then none else some ⟨cursor.parentNumber, element.head⟩

def advance (source : String) (cursor : Cursor) (located : LocatedEvent) : Cursor :=
  let counted := if cursor.inImage then cursor.next else cursor.next + 1
  match located.role source cursor.parentKind with
  | .opens element => ⟨⟨cursor.next, element.kind⟩ :: cursor.opened, counted⟩
  | .closes => { cursor with opened := cursor.opened.tail }
  | .adds _ => { cursor with next := counted }

def after (source : String) (cursor : Cursor) (events : List LocatedEvent) : Cursor :=
  events.foldl (advance source) cursor

def entries (source : String) (cursor : Cursor) : List LocatedEvent → List Entry
  | [] => []
  | located :: rest => (cursor.entryOf? source located).toList ++ entries source (cursor.advance source located) rest

variable {source : String} {cursor : Cursor} {located : LocatedEvent} {element : Element}

theorem after_append (source : String) (cursor : Cursor) (front back : List LocatedEvent) :
    cursor.after source (front ++ back) = (cursor.after source front).after source back :=
  List.foldl_append

theorem entries_append (source : String) (cursor : Cursor) (front back : List LocatedEvent) :
    cursor.entries source (front ++ back) =
      cursor.entries source front ++ (cursor.after source front).entries source back := by
  induction front generalizing cursor with
  | nil => rfl
  | cons located rest ih =>
    rw [List.cons_append, entries, entries, ih, List.append_assoc]
    rfl

/-- Numbers are places in the listing. -/
theorem next_after (source : String) (cursor : Cursor) (events : List LocatedEvent) :
    (cursor.after source events).next = cursor.next + (cursor.entries source events).length := by
  induction events generalizing cursor with
  | nil => rfl
  | cons located rest ih =>
    have hcounted : (cursor.advance source located).next =
        cursor.next + (cursor.entryOf? source located).toList.length := by
      unfold advance entryOf?
      cases located.role source cursor.parentKind <;> cases cursor.inImage <;> rfl
    rw [entries, List.length_append, ← Nat.add_assoc, ← hcounted]
    exact ih _

theorem entryOf?_of_closing (hcloses : located.event = .closing) : cursor.entryOf? source located = none := by
  simp [entryOf?, LocatedEvent.role_of_closing hcloses]

theorem advance_of_closing (hcloses : located.event = .closing) :
    cursor.advance source located = { cursor with opened := cursor.opened.tail } := by
  simp [advance, LocatedEvent.role_of_closing hcloses]

theorem advance_of_opens (hopens : located.role source cursor.parentKind = .opens element) :
    cursor.advance source located =
      ⟨⟨cursor.next, element.kind⟩ :: cursor.opened, if cursor.inImage then cursor.next else cursor.next + 1⟩ := by
  simp [advance, hopens]

/-- Outside of images an opening tag brings its element. -/
theorem entryOf?_of_opens (hopens : located.role source cursor.parentKind = .opens element)
    (hvisible : cursor.inImage = false) :
    cursor.entryOf? source located = some ⟨cursor.parentNumber, element.head⟩ := by
  simp [entryOf?, hopens, hvisible]

theorem entryOf?_of_adds (hadds : located.role source cursor.parentKind = .adds element)
    (hvisible : cursor.inImage = false) :
    cursor.entryOf? source located = some ⟨cursor.parentNumber, element.head⟩ := by
  simp [entryOf?, hadds, hvisible]

theorem advance_of_adds (hadds : located.role source cursor.parentKind = .adds element)
    (hvisible : cursor.inImage = false) :
    cursor.advance source located = { cursor with next := cursor.next + 1 } := by
  simp [advance, hadds, hvisible]

theorem inImage_advance (hopens : located.role source cursor.parentKind = .opens element) :
    (cursor.advance source located).inImage = (element.kind == .image || cursor.inImage) := by
  rw [advance_of_opens hopens]
  rfl

theorem parentKind_advance (hopens : located.role source cursor.parentKind = .opens element) :
    (cursor.advance source located).parentKind = some element.kind := by
  rw [advance_of_opens hopens]
  rfl

/-- A tag and its end bring the element of the tag and whatever the events between them bring. -/
theorem entries_enclosed {opening closing : LocatedEvent} (hcloses : closing.event = .closing)
    (inner rest : List LocatedEvent) :
    cursor.entries source (opening :: (inner ++ closing :: rest)) =
      (cursor.entryOf? source opening).toList ++ (cursor.advance source opening).entries source inner ++
        (((cursor.advance source opening).after source inner).advance source closing).entries source rest := by
  rw [entries, entries_append, entries, entryOf?_of_closing hcloses, Option.toList_none, List.nil_append,
    List.append_assoc]

theorem after_enclosed (opening closing : LocatedEvent) (inner rest : List LocatedEvent) :
    cursor.after source (opening :: (inner ++ closing :: rest)) =
      (((cursor.advance source opening).after source inner).advance source closing).after source rest := by
  rw [after, List.foldl_cons, List.foldl_append, List.foldl_cons]
  rfl

end Cursor

section Reading

variable {source : String} {parent : Option ElementKind} {events : List LocatedEvent} {elements : List Element}

/-- Behind what stands inside an image a reader is where it was. -/
theorem Encodes.read_inImage (h : Encodes source parent events elements) (cursor : Cursor)
    (hparent : cursor.parentKind = parent) (himage : cursor.inImage = true) :
    cursor.entries source events = [] ∧ cursor.after source events = cursor := by
  induction h generalizing cursor with
  | nil => exact ⟨rfl, rfl⟩
  | @add parent located element rest elements hrole hrest ih =>
    subst hparent
    have hentry : cursor.entryOf? source located = none := by simp [Cursor.entryOf?, hrole, himage]
    have hadvance : cursor.advance source located = cursor := by simp [Cursor.advance, hrole, himage]
    obtain ⟨hentries, hafter⟩ := ih cursor rfl himage
    constructor
    · rw [Cursor.entries, hentry, hadvance, hentries]
      rfl
    · rw [Cursor.after, List.foldl_cons, hadvance]
      exact hafter
  | @enclose parent opening closing element inner rest children elements hopens hinner hcloses hrest ihinner ihrest =>
    subst hparent
    have hentry : cursor.entryOf? source opening = none := by simp [Cursor.entryOf?, hopens, himage]
    have hadvance := Cursor.advance_of_opens hopens
    rw [if_pos himage] at hadvance
    obtain ⟨hinside, hreached⟩ := ihinner _ (Cursor.parentKind_advance hopens)
      (by rw [Cursor.inImage_advance hopens, himage, Bool.or_true])
    have hclosed : ((cursor.advance source opening).after source inner).advance source closing = cursor := by
      rw [hreached, Cursor.advance_of_closing hcloses, hadvance]
      rfl
    obtain ⟨hentries, hafter⟩ := ihrest cursor rfl himage
    constructor
    · rw [Cursor.entries_enclosed hcloses, hentry, hinside, hclosed, hentries]
      rfl
    · rw [Cursor.after_enclosed, hclosed, hafter]

structure Cursor.Lists (source : String) (cursor : Cursor) (events : List LocatedEvent)
    (listing : List (Option Nat × Element)) : Prop where
  entries_eq : cursor.entries source events = listing.map Element.entry
  after_eq : cursor.after source events = { cursor with next := cursor.next + listing.length }

/-- The second stretch goes on with the number at which the first one stopped. -/
theorem Cursor.Lists.append {cursor : Cursor} {front back : List LocatedEvent}
    {first second : List (Option Nat × Element)}
    (h : cursor.Lists source front first)
    (h' : Cursor.Lists source { cursor with next := cursor.next + first.length } back second) :
    cursor.Lists source (front ++ back) (first ++ second) := by
  constructor
  · rw [Cursor.entries_append, h.after_eq, h.entries_eq, h'.entries_eq, List.map_append]
  · rw [Cursor.after_append, h.after_eq, h'.after_eq, List.length_append, Nat.add_assoc]

/-- A tag lists its element and, one level down, the elements inside; an image has none. -/
theorem Cursor.lists_enclosed {cursor : Cursor} {opening closing : LocatedEvent} {element : Element}
    {inner : List LocatedEvent} {children : List Element} (hvisible : cursor.inImage = false)
    (hopens : opening.role source cursor.parentKind = .opens element)
    (hinner : Encodes source (some element.kind) inner children) (hcloses : closing.event = .closing)
    (hread : ∀ inside : Cursor, inside.parentKind = some element.kind → inside.inImage = false →
      inside.Lists source inner (Element.listedBelow inside.parentNumber inside.next children)) :
    cursor.Lists source (opening :: (inner ++ [closing]))
      ((({ element with children := children } : Element).finished source).listed cursor.parentNumber cursor.next) := by
  have hentry := Cursor.entryOf?_of_opens hopens hvisible
  have hadvance := Cursor.advance_of_opens hopens
  rw [hvisible] at hadvance
  rw [Element.listed_finished (LocatedEvent.kind_of_role_opens hopens)]
  by_cases himage : element.kind = .image
  · have hinside : (cursor.advance source opening).inImage = true := by
      rw [Cursor.inImage_advance hopens, himage]
      rfl
    obtain ⟨hentries, hafter⟩ := hinner.read_inImage _ (Cursor.parentKind_advance hopens) hinside
    rw [if_pos himage]
    constructor
    · rw [Cursor.entries_enclosed hcloses, hentry, hentries]
      simp [Cursor.entries, Element.entry]
    · rw [Cursor.after_enclosed, hafter, Cursor.advance_of_closing hcloses, hadvance]
      rfl
  · have hinside : (cursor.advance source opening).inImage = false := by
      rw [Cursor.inImage_advance hopens, hvisible]
      simpa using himage
    obtain ⟨hentries, hafter⟩ := hread _ (Cursor.parentKind_advance hopens) hinside
    rw [if_neg himage]
    constructor
    · rw [Cursor.entries_enclosed hcloses, hentry, hentries, hadvance]
      simp [Cursor.entries, Cursor.parentNumber, Element.entry]
    · rw [Cursor.after_enclosed, hafter, Cursor.advance_of_closing hcloses, hadvance]
      simp [Cursor.after, Cursor.parentNumber, Nat.add_assoc, Nat.add_comm 1]

/-- Reading what encodes some elements lists them. -/
theorem Encodes.lists (h : Encodes source parent events elements) (cursor : Cursor)
    (hparent : cursor.parentKind = parent) (hvisible : cursor.inImage = false) :
    cursor.Lists source events (Element.listedBelow cursor.parentNumber cursor.next elements) := by
  induction h generalizing cursor with
  | nil => exact ⟨rfl, rfl⟩
  | @add parent located element rest elements hrole hrest ih =>
    subst hparent
    have hfirst : cursor.Lists source [located] (element.listed cursor.parentNumber cursor.next) := by
      rw [Element.listed_of_role_adds hrole]
      constructor
      · rw [Cursor.entries, Cursor.entryOf?_of_adds hrole hvisible]
        rfl
      · rw [Cursor.after, List.foldl_cons, Cursor.advance_of_adds hrole hvisible]
        rfl
    exact hfirst.append (ih _ rfl hvisible)
  | @enclose parent opening closing element inner rest children elements hopens hinner hcloses hrest ihinner ihrest =>
    -- the children are read by a cursor that has this element on top, the rest by the one that came here
    subst hparent
    have hfirst := Cursor.lists_enclosed hvisible hopens hinner hcloses ihinner
    have happend := hfirst.append (ihrest _ rfl hvisible)
    rw [List.cons_append, List.append_assoc] at happend
    exact happend

/-- Each code span in a listing holds one run and nothing else. -/
theorem Encodes.codeSpan_children (h : Encodes source parent events elements) (number : Option Nat) (next : Nat) :
    ∀ listed ∈ Element.listedBelow number next elements, listed.2.kind = .codeSpan →
      ∃ range, listed.2.children = [{ kind := .plainRun, range }] := by
  induction h generalizing number next with
  | nil =>
    intro listed hlisted
    cases hlisted
  | add hrole _ ih =>
    intro listed hlisted hkind
    obtain hfirst | hrest := List.mem_append.1 hlisted
    · rw [Element.listed_of_role_adds hrole, List.mem_singleton] at hfirst
      rw [hfirst] at hkind ⊢
      obtain ⟨hne, _⟩ | ⟨_, hchildren⟩ := LocatedEvent.children_of_role_adds hrole
      · exact absurd hkind hne
      · exact hchildren
    · exact ih _ _ listed hrest hkind
  | @enclose parent opening closing element inner rest children elements hopens hinner hcloses hrest ihinner ihrest =>
    intro listed hlisted hkind
    obtain hfirst | hrest := List.mem_append.1 hlisted
    · have hne := LocatedEvent.kind_of_role_opens hopens
      rw [Element.listed_finished hne] at hfirst
      obtain rfl | hinside := List.mem_cons.1 hfirst
      · have hhead := congrArg ElementHead.kind (Element.head_finished element children source)
        exact absurd (hhead.symm.trans hkind) hne
      · split at hinside
        · cases hinside
        · exact ihinner _ _ listed hinside hkind
    · exact ihrest _ _ listed hrest hkind

end Reading

/-- The stream itself tells which cells are header cells. -/
theorem Cursor.kind_of_entryOf? {source : String} {cursor : Cursor} {located : LocatedEvent} {entry : Entry}
    (h : cursor.entryOf? source located = some entry) : entry.head.kind = .tableHeaderCell ↔
      located.event = .opening .tableCell ∧ cursor.parentKind = some .tableHeader := by
  unfold entryOf? at h
  cases hrole : located.role source cursor.parentKind with
  | closes => simp [hrole] at h
  | opens element =>
    obtain ⟨tag, hevent, rfl⟩ := LocatedEvent.opening_of_role hrole
    simp only [hrole, Option.ite_none_left_eq_some, Option.some.injEq] at h
    rw [← h.2, hevent, Event.opening.injEq]
    exact tag.kind_element_eq_tableHeaderCell_iff _ _
  | adds element =>
    simp only [hrole, Option.ite_none_left_eq_some, Option.some.injEq] at h
    rw [← h.2]
    refine iff_of_false (LocatedEvent.kind_of_role_adds hrole) ?_
    rintro ⟨hevent, _⟩
    obtain ⟨event, span⟩ := located
    cases hevent
    cases hrole

namespace Document

variable {source : String} {limit : Nat} {events : List LocatedEvent} {document : Document}

/-- The elements of a document, in the order of a walk, are those that a reader of its events meets. -/
theorem listing_eq (h : ofEvents? source limit events = .ok document) :
    let listing := Element.listedBelow none 0 document.elements
    listing.map Element.entry = Cursor.entries source {} events ∧
      (∀ front located back entry, events = front ++ located :: back →
        (Cursor.after source {} front).entryOf? source located = some entry →
        (listing.map Element.entry)[(Cursor.after source {} front).next]? = some entry ∧
          (entry.head.kind = .tableHeaderCell ↔
            located.event = .opening .tableCell ∧ (Cursor.after source {} front).parentKind = some .tableHeader)) ∧
      ∀ listed ∈ listing, listed.2.kind = .codeSpan → ∃ range, listed.2.children = [{ kind := .plainRun, range }] := by
  intro listing
  have hencodes := encodes_of_ofEvents? h
  have hlisting : listing.map Element.entry = Cursor.entries source {} events :=
    (hencodes.lists {} rfl rfl).entries_eq.symm
  refine ⟨hlisting, ?_, hencodes.codeSpan_children none 0⟩
  rintro front located back entry rfl hentry
  refine ⟨?_, Cursor.kind_of_entryOf? hentry⟩
  have hplace : (Cursor.after source {} front).next = (Cursor.entries source {} front).length := by
    rw [Cursor.next_after, Nat.zero_add]
  rw [hlisting, Cursor.entries_append, Cursor.entries, hentry, hplace]
  simp

def priceTable : List LocatedEvent := [
  ⟨.opening .table, ⟨0, 7⟩⟩,
  ⟨.opening .tableHead, ⟨0, 1⟩⟩, ⟨.opening .tableCell, ⟨0, 1⟩⟩, ⟨.text "a", ⟨0, 1⟩⟩, ⟨.closing, ⟨0, 1⟩⟩,
  ⟨.closing, ⟨0, 1⟩⟩,
  ⟨.opening .tableRow, ⟨2, 7⟩⟩, ⟨.opening .tableCell, ⟨2, 7⟩⟩, ⟨.code "b", ⟨2, 5⟩⟩,
  ⟨.opening (.image "u"), ⟨5, 7⟩⟩, ⟨.opening .emphasis, ⟨6, 7⟩⟩, ⟨.text "c", ⟨6, 7⟩⟩, ⟨.closing, ⟨6, 7⟩⟩,
  ⟨.opening (.image "v"), ⟨6, 7⟩⟩, ⟨.closing, ⟨6, 7⟩⟩, ⟨.closing, ⟨5, 7⟩⟩,
  ⟨.closing, ⟨2, 7⟩⟩, ⟨.closing, ⟨2, 7⟩⟩, ⟨.closing, ⟨0, 7⟩⟩, ⟨.rule, ⟨7, 7⟩⟩]

/-- A table with a code span in a header cell. -/
theorem priceTable_listing : ∃ document, ofEvents? "a `b` c" 8 priceTable = .ok document ∧
    (Element.listedBelow none 0 document.elements).map (fun listed => (listed.1, listed.2.kind)) =
      [(none, .table), (some 0, .tableHeader), (some 1, .tableHeaderCell), (some 2, .plainRun), (some 0, .tableRow),
        (some 4, .tableRowCell), (some 5, .codeSpan), (some 5, .image), (none, .horizontalRule)] := by
  obtain ⟨document, h⟩ : ∃ document, ofEvents? "a `b` c" 8 priceTable = .ok document := ⟨_, rfl⟩
  refine ⟨document, h, ?_⟩
  have hlisting := congrArg (List.map fun entry : Entry => (entry.parent, entry.head.kind)) (listing_eq h).1
  rw [List.map_map] at hlisting
  refine hlisting.trans ?_
  decide

end Document

end MarkdownLayout
