import MarkdownLayout.Proofs.EventTree
import MarkdownLayout.Proofs.Slices
import Mathlib.Data.List.Forall2

/-!
# Ranges in the source

A program that slices a text by bytes must stop when a range runs out of the text or cuts a character. The strict
reading below does: each place where assembling takes a slice is a place where it can stop. If every event covers a
proper slice of the source, it never stops, and reads the document that the lenient one reads. The reason is that
ranges only ever narrow. An element takes the range of its event, or a place found inside it, and so
everything that the alternative text of an image is later cut from is a proper slice again.
-/

namespace MarkdownLayout

namespace Text

/-- The span cuts a slice out of the source: its ends are in order, within the source and between characters. -/
def Cuts (source : String) (span : Span) : Prop :=
  ∃ text, slice? source span = some text

instance (source : String) (span : Span) : Decidable (Cuts source span) :=
  decidable_of_iff _ Option.isSome_iff_exists

structure LiesIn (source : String) (outer inner : Span) : Prop where
  cuts : Cuts source inner
  start_le : outer.start ≤ inner.start
  stop_le : inner.stop ≤ outer.stop

variable {source content text : String} {span inner found : Span}

theorem LiesIn.refl (h : Cuts source span) : LiesIn source span span :=
  ⟨h, Nat.le_refl _, Nat.le_refl _⟩

theorem LiesIn.trans {outer : Span} (h : LiesIn source outer span) (h' : LiesIn source span inner) :
    LiesIn source outer inner :=
  ⟨h'.cuts, Nat.le_trans h.start_le h'.start_le, Nat.le_trans h'.stop_le h.stop_le⟩

/-- Any stretch of the text under a span can be cut out by itself. -/
theorem liesIn_piece {front piece back : List Char} (h : slice? source span = some text)
    (hpieces : text.toList = front ++ (piece ++ back)) :
    LiesIn source span ⟨span.start + byteLength front, span.start + byteLength front + byteLength piece⟩ := by
  obtain ⟨-, -, -, -, hstop⟩ := slice?_eq_some_iff.1 h
  rw [hpieces, byteLength_append, byteLength_append] at hstop
  exact ⟨⟨_, slice?_piece h hpieces⟩, by simp, by dsimp only; omega⟩

theorem liesIn_start (h : Cuts source span) : LiesIn source span ⟨span.start, span.start⟩ := by
  obtain ⟨text, htext⟩ := h
  have hpieces : text.toList = [] ++ ([] ++ text.toList) := rfl
  exact liesIn_piece htext hpieces

/-- Backticks are single bytes, and taking them off cuts no character. -/
theorem liesIn_insideBackticks (h : Cuts source span) : LiesIn source span (insideBackticks source span) := by
  obtain ⟨text, htext⟩ := h
  rw [insideBackticks_eq htext]
  exact liesIn_piece htext (toList_eq_backticks_append text)

/-- A place that is found lies inside the span and reads as it should. -/
theorem locate?_eq_some (h : Cuts source span) (hfound : locate? source content span = some found) :
    LiesIn source span found ∧ slice? source found = some content := by
  obtain ⟨text, htext⟩ := h
  obtain ⟨offset, hoffset, rfl⟩ := Option.map_eq_some_iff.1 hfound
  rw [slice_of_slice? htext] at hoffset
  obtain ⟨front, back, hpieces, rfl⟩ := exists_of_findBytes? hoffset
  rw [utf8ByteSize_eq_byteLength]
  refine ⟨liesIn_piece htext hpieces, ?_⟩
  rw [slice?_piece htext hpieces, String.ofList_toList]

theorem locate?_eq_none (h : locate? source content span = none) : ¬content.toList <:+: (slice source span).toList :=
  fun hoccurs => findBytes?_ne_none hoccurs (Option.map_eq_none_iff.1 h)

end Text

/-! ## What an event makes of its range -/

theorem Tag.range_element (tag : Tag) (range : Span) (parent : Option ElementKind) :
    (tag.element range parent).range = range := by
  unfold element
  repeat' split
  all_goals rfl

namespace LocatedEvent

/-- An element in the range of its event. The run over the code is the only element that comes inside another. -/
structure Covers (source : String) (located : LocatedEvent) (element : Element) : Prop where
  range : Text.LiesIn source located.span element.range
  inner : element.kind = .codeSpan → ∃ run : Span,
    element.children = [{ kind := .plainRun, range := run }] ∧ Text.LiesIn source located.span run
  text : ∀ content, located.event = .text content →
    element.kind = .plainRun ∧ Text.slice? source element.range = some content ∨
      element.kind = .entity ∧ element.range = located.span ∧
        ¬content.toList <:+: (Text.slice source located.span).toList
  code : ∀ content, located.event = .code content → element.kind = .codeSpan ∧
    (content.toList <:+: (Text.withoutBackticks (Text.slice source located.span)).toList →
      ∀ child ∈ element.children, Text.slice? source child.range = some content)

variable {source : String} {parent : Option ElementKind} {span : Span} {element : Element}

/-- Text stays in its range and, if it was found, reads as its element. -/
theorem covers_textElement (content : String) (h : Text.Cuts source span) :
    Covers source ⟨.text content, span⟩ (Event.textElement source content span) := by
  unfold Event.textElement
  split
  · next found hfound =>
    obtain ⟨hlies, hreads⟩ := Text.locate?_eq_some h hfound
    refine ⟨hlies, nofun, ?_, nofun⟩
    rintro _ ⟨⟩
    exact .inl ⟨rfl, hreads⟩
  · next hnone =>
    refine ⟨.refl h, nofun, ?_, nofun⟩
    rintro _ ⟨⟩
    exact .inr ⟨rfl, rfl, Text.locate?_eq_none hnone⟩

/-- So do a code span and the run inside it. -/
theorem covers_codeElement (content : String) (h : Text.Cuts source span) :
    Covers source ⟨.code content, span⟩ (Event.codeElement source content span) := by
  have hinside := Text.liesIn_insideBackticks h
  have hslice : Text.slice source (Text.insideBackticks source span) =
      Text.withoutBackticks (Text.slice source span) := by
    obtain ⟨text, htext⟩ := h
    rw [Text.slice_of_slice? htext, Text.slice_of_slice? (Text.slice?_insideBackticks htext)]
  have hrun : Text.LiesIn source span
      ((Text.locate? source content (Text.insideBackticks source span)).getD (Text.insideBackticks source span)) := by
    cases hfound : Text.locate? source content (Text.insideBackticks source span) with
    | none => exact hinside
    | some found => exact hinside.trans (Text.locate?_eq_some hinside.cuts hfound).1
  refine ⟨.refl h, fun _ => ⟨_, rfl, hrun⟩, nofun, ?_⟩
  rintro _ ⟨⟩
  refine ⟨rfl, fun hoccurs child hchild => ?_⟩
  rw [List.mem_singleton.1 hchild]
  cases hfound : Text.locate? source content (Text.insideBackticks source span) with
  | none => exact absurd (hslice ▸ hoccurs) (Text.locate?_eq_none hfound)
  | some found => exact (Text.locate?_eq_some hinside.cuts hfound).2

/-- Whatever an event adds stays in the range of the event. -/
theorem covers_of_role_adds {located : LocatedEvent} (h : Text.Cuts source located.span)
    (hrole : located.role source parent = .adds element) : located.Covers source element := by
  obtain ⟨event, span⟩ := located
  cases event with
  | opening | closing => cases hrole
  | text content => exact EventRole.adds.inj hrole ▸ covers_textElement content h
  | code content => exact EventRole.adds.inj hrole ▸ covers_codeElement content h
  | hardBreak => exact EventRole.adds.inj hrole ▸ ⟨Text.liesIn_start h, nofun, nofun, nofun⟩
  | _ => exact EventRole.adds.inj hrole ▸ ⟨.refl h, nofun, nofun, nofun⟩

/-- The children that an element gains before its tag closes do not change what its event made. -/
theorem covers_of_role_opens {located : LocatedEvent} {opened : Element} (h : Text.Cuts source located.span)
    (hrole : located.role source parent = .opens opened) (hhead : element.head = opened.head) :
    located.Covers source element := by
  have hspan := kind_of_role_opens hrole
  obtain ⟨tag, hevent, rfl⟩ := opening_of_role hrole
  obtain ⟨hkind, hrange, -, -⟩ := ElementHead.mk.inj hhead
  rw [Tag.range_element] at hrange
  refine ⟨?_, ?_, ?_, ?_⟩
  · rw [hrange]
    exact .refl h
  · intro hcode
    exact absurd (hkind ▸ hcode) hspan
  · intro content htext
    cases hevent.symm.trans htext
  · intro content hcode
    cases hevent.symm.trans hcode

end LocatedEvent

/-! ## Slices that stop the program -/

namespace Strict

def locate (source content : String) (span : Span) : Option (Option Span) := do
  let text ← Text.slice? source span
  return (Text.findBytes? content.toList text.toList).map fun offset =>
    ⟨span.start + offset, span.start + offset + content.utf8ByteSize⟩

def insideBackticks (source : String) (span : Span) : Option Span := do
  let text ← Text.slice? source span
  let start := span.start + Text.byteLength (text.toList.takeWhile (· = '\x60'))
  let stop := span.start + Text.byteLength (text.toList.reverse.dropWhile (· = '\x60'))
  return ⟨start, max stop start⟩

def textElement (source content : String) (range : Span) : Option Element := do
  match ← locate source content range with
  | some found => return { kind := .plainRun, range := found }
  | none => return { kind := .entity, range }

def codeElement (source content : String) (range : Span) : Option Element := do
  let inner ← insideBackticks source range
  let found ← locate source content inner
  return { kind := .codeSpan, range, children := [{ kind := .plainRun, range := found.getD inner }] }

def finished (source : String) (element : Element) : Option Element := do
  if element.kind = .image then
    let pieces ← element.children.mapM fun child => Text.slice? source child.range
    let alt := String.join pieces
    return { element with children := [], alt := if alt.isEmpty then none else some alt }
  else return element

def close (assembly : Assembly) : Option (Except AssemblyError Assembly) :=
  match assembly.opened with
  | [] => some (.error .unexpectedEnd)
  | element :: rest =>
    (finished assembly.source element).map fun element => .ok ({ assembly with opened := rest }.push element)

def step (assembly : Assembly) : LocatedEvent → Option (Except AssemblyError Assembly)
  | ⟨.closing, _⟩ => close assembly
  | ⟨.text content, span⟩ =>
    (textElement assembly.source content span).map fun element => .ok (assembly.push element)
  | ⟨.code content, span⟩ =>
    (codeElement assembly.source content span).map fun element => .ok (assembly.push element)
  | located => some (assembly.step located)

def run (assembly : Assembly) : List LocatedEvent → Option (Except AssemblyError Assembly)
  | [] => some (.ok assembly)
  | located :: rest =>
    match step assembly located with
    | some (.ok next) => run next rest
    | some (.error e) => some (.error e)
    | none => none

/-- The document that a list of events encodes, or nothing if reading it had to stop at a slice. -/
def ofEvents (source : String) (limit : Nat) (events : List LocatedEvent) :
    Option (Except AssemblyError Document) :=
  (run { source, limit } events).map fun
    | .ok assembly => assembly.finish
    | .error e => .error e

variable {source content : String} {span : Span}

theorem locate_eq (h : Text.Cuts source span) : locate source content span = some (Text.locate? source content span) := by
  obtain ⟨text, htext⟩ := h
  simp [locate, Text.locate?, htext, Text.slice_of_slice? htext]

theorem insideBackticks_eq (h : Text.Cuts source span) :
    insideBackticks source span = some (Text.insideBackticks source span) := by
  obtain ⟨text, htext⟩ := h
  simp [insideBackticks, Text.insideBackticks, htext, Text.slice_of_slice? htext]

theorem textElement_eq (content : String) (h : Text.Cuts source span) :
    textElement source content span = some (Event.textElement source content span) := by
  rw [textElement, locate_eq h, Event.textElement]
  cases Text.locate? source content span <;> rfl

theorem codeElement_eq (content : String) (h : Text.Cuts source span) :
    codeElement source content span = some (Event.codeElement source content span) := by
  have hinner := (Text.liesIn_insideBackticks h).cuts
  simp [codeElement, insideBackticks_eq h, locate_eq hinner, Event.codeElement]

theorem mapM_slice? {children : List Element} (h : ∀ child ∈ children, Text.Cuts source child.range) :
    (children.mapM fun child => Text.slice? source child.range) =
      some (children.map fun child => Text.slice source child.range) := by
  induction children with
  | nil => rfl
  | cons child rest ih =>
    rw [List.forall_mem_cons] at h
    obtain ⟨text, htext⟩ := h.1
    simp [ih h.2, htext, Text.slice_of_slice? htext]

/-- An image can be finished if the ranges of its children can be cut out. -/
theorem finished_eq {element : Element} (h : ∀ child ∈ element.children, Text.Cuts source child.range) :
    finished source element = some (element.finished source) := by
  unfold finished Element.finished
  split
  · simp [mapM_slice? h]
  · rfl

end Strict

theorem Element.range_finished (element : Element) (source : String) : (element.finished source).range = element.range := by
  unfold finished
  split <;> rfl

namespace Assembly

/-- Every range that waits in an open element can be cut out. -/
def Cuttable (assembly : Assembly) : Prop :=
  ∀ element ∈ assembly.opened, Text.Cuts assembly.source element.range ∧
    ∀ child ∈ element.children, Text.Cuts assembly.source child.range

variable {assembly next : Assembly} {located : LocatedEvent} {element : Element}

theorem source_of_step (h : assembly.step located = .ok next) : next.source = assembly.source := by
  have hspec := assembly.step_spec located
  rw [h] at hspec
  cases hspec with
  | opened => rfl
  | closed | added => exact source_push ..

theorem Cuttable.push (h : assembly.Cuttable) (helement : Text.Cuts assembly.source element.range) :
    (assembly.push element).Cuttable := by
  unfold Assembly.push
  split
  · next parent rest hopened =>
    unfold Cuttable at h ⊢
    rw [hopened, List.forall_mem_cons] at h
    rw [List.forall_mem_cons]
    refine ⟨⟨h.1.1, fun child hchild => ?_⟩, h.2⟩
    obtain hchild | hchild := List.mem_append.1 hchild
    · exact h.1.2 child hchild
    · rw [List.mem_singleton.1 hchild]
      exact helement
  · exact h

/-- A step leaves only ranges that can be cut out, if the event has such a range. -/
theorem Cuttable.step (h : assembly.Cuttable) (hspan : Text.Cuts assembly.source located.span)
    (hstep : assembly.step located = .ok next) : next.Cuttable := by
  have hspec := assembly.step_spec located
  rw [hstep] at hspec
  cases hspec with
  | @opened element hrole hroom =>
    obtain ⟨tag, _, rfl⟩ := LocatedEvent.opening_of_role hrole
    have hcovers := LocatedEvent.covers_of_role_opens hspan hrole rfl
    refine List.forall_mem_cons.2 ⟨⟨hcovers.range.cuts, ?_⟩, h⟩
    rw [tag.children_element]
    simp
  | @closed element rest hrole hopened =>
    unfold Cuttable at h
    rw [hopened, List.forall_mem_cons] at h
    have hrest : ({ assembly with opened := rest } : Assembly).Cuttable := h.2
    -- the range of the closed element waited with it
    refine hrest.push ?_
    rw [Element.range_finished]
    exact h.1.1
  | added hrole => exact h.push (LocatedEvent.covers_of_role_adds hspan hrole).range.cuts

/-- A step over such ranges takes no slice that could stop it. -/
theorem Cuttable.strict_step_eq (h : assembly.Cuttable) (hspan : Text.Cuts assembly.source located.span) :
    Strict.step assembly located = some (assembly.step located) := by
  obtain ⟨event, span⟩ := located
  cases event with
  | closing =>
    rw [Strict.step, Strict.close, Assembly.step, Assembly.close]
    cases hopened : assembly.opened with
    | nil => rfl
    | cons element rest =>
      have hchildren := (h element (by simp [hopened])).2
      dsimp only
      rw [Strict.finished_eq hchildren, Option.map_some]
  | text content => rw [Strict.step, Strict.textElement_eq content hspan]; rfl
  | code content => rw [Strict.step, Strict.codeElement_eq content hspan]; rfl
  | _ => rfl

/-- Neither does a run, as long as all events have such ranges. -/
theorem Cuttable.strict_run_eq (h : assembly.Cuttable) {events : List LocatedEvent}
    (hspans : ∀ located ∈ events, Text.Cuts assembly.source located.span) :
    Strict.run assembly events = some (assembly.run events) := by
  induction events generalizing assembly with
  | nil => rfl
  | cons located rest ih =>
    rw [List.forall_mem_cons] at hspans
    rw [Strict.run, h.strict_step_eq hspans.1, Assembly.run]
    cases hstep : assembly.step located with
    | error e => rfl
    | ok next =>
      have hsource : next.source = assembly.source := Assembly.source_of_step hstep
      exact ih (h.step hspans.1 hstep) (hsource ▸ hspans.2)

/-- An event that is no end brings an element in its own range. -/
theorem exists_covers_of_step (hspan : Text.Cuts assembly.source located.span)
    (hstep : assembly.step located = .ok next) (hopen : located.event ≠ .closing) :
    ∃ element, (next = assembly.push element ∨ next = { assembly with opened := element :: assembly.opened }) ∧
      located.Covers assembly.source element := by
  have hspec := assembly.step_spec located
  rw [hstep] at hspec
  cases hspec with
  | opened hrole => exact ⟨_, .inr rfl, LocatedEvent.covers_of_role_opens hspan hrole rfl⟩
  | closed hrole => exact absurd (LocatedEvent.closing_of_role hrole) hopen
  | added hrole => exact ⟨_, .inl rfl, LocatedEvent.covers_of_role_adds hspan hrole⟩

end Assembly

/-! ## The event behind each element -/

namespace Cursor

def bringing (source : String) (cursor : Cursor) : List LocatedEvent → List (LocatedEvent × Entry)
  | [] => []
  | located :: rest =>
    ((cursor.entryOf? source located).map (located, ·)).toList ++
      bringing source (cursor.advance source located) rest

variable {source : String} {cursor : Cursor} {located : LocatedEvent}

theorem map_snd_bringing (source : String) (cursor : Cursor) (events : List LocatedEvent) :
    (cursor.bringing source events).map Prod.snd = cursor.entries source events := by
  induction events generalizing cursor with
  | nil => rfl
  | cons located rest ih =>
    rw [bringing, entries, List.map_append, ih]
    cases cursor.entryOf? source located <;> rfl

theorem bringing_append (source : String) (cursor : Cursor) (front back : List LocatedEvent) :
    cursor.bringing source (front ++ back) =
      cursor.bringing source front ++ (cursor.after source front).bringing source back := by
  induction front generalizing cursor with
  | nil => rfl
  | cons located rest ih =>
    rw [List.cons_append, bringing, bringing, ih, List.append_assoc]
    rfl

end Cursor

def Brought (source : String) (brought : LocatedEvent × Entry) (listed : Option Nat × Element) : Prop :=
  brought.2 = Element.entry listed ∧ brought.1.Covers source listed.2

section Reading

variable {source : String} {parent : Option ElementKind} {events : List LocatedEvent} {elements : List Element}

/-- A tag brings its element, and the events inside bring those inside. -/
theorem Cursor.brings_enclosed {cursor : Cursor} {opening closing : LocatedEvent} {element : Element}
    {inner : List LocatedEvent} {children : List Element} (hvisible : cursor.inImage = false)
    (hspan : Text.Cuts source opening.span) (hopens : opening.role source cursor.parentKind = .opens element)
    (hinner : Encodes source (some element.kind) inner children) (hcloses : closing.event = .closing)
    (hbring : ∀ inside : Cursor, inside.parentKind = some element.kind → inside.inImage = false →
      List.Forall₂ (Brought source) (inside.bringing source inner)
        (Element.listedBelow inside.parentNumber inside.next children)) :
    List.Forall₂ (Brought source) (cursor.bringing source (opening :: (inner ++ [closing])))
      ((({ element with children := children } : Element).finished source).listed cursor.parentNumber cursor.next) := by
  have hentry := Cursor.entryOf?_of_opens hopens hvisible
  have hadvance := Cursor.advance_of_opens hopens
  rw [hvisible] at hadvance
  have hclosing : ∀ behind : Cursor, behind.bringing source [closing] = [] := by
    intro behind
    simp [Cursor.bringing, Cursor.entryOf?_of_closing hcloses]
  rw [Element.listed_finished (LocatedEvent.kind_of_role_opens hopens), Cursor.bringing, hentry,
    Cursor.bringing_append, hclosing, List.append_nil]
  have hhead : (({ element with children := children } : Element).finished source).head = element.head :=
    Element.head_finished ..
  refine .cons ⟨?_, LocatedEvent.covers_of_role_opens hspan hopens hhead⟩ ?_
  · simp [Element.entry]
  · -- inside an image nothing is brought, and its children are not listed either
    by_cases himage : element.kind = .image
    · have hinside : (cursor.advance source opening).inImage = true := by
        rw [Cursor.inImage_advance hopens, himage]
        rfl
      have hentries := (hinner.read_inImage _ (Cursor.parentKind_advance hopens) hinside).1
      rw [← Cursor.map_snd_bringing, List.map_eq_nil_iff] at hentries
      rw [if_pos himage, hentries]
      exact .nil
    · have hinside : (cursor.advance source opening).inImage = false := by
        rw [Cursor.inImage_advance hopens, hvisible]
        simpa using himage
      have hbelow := hbring _ (Cursor.parentKind_advance hopens) hinside
      rw [if_neg himage]
      rw [hadvance] at hbelow ⊢
      exact hbelow

/-- Each element listed has been brought by an event whose range it covers. -/
theorem Encodes.brings (h : Encodes source parent events elements)
    (hspans : ∀ located ∈ events, Text.Cuts source located.span) (cursor : Cursor)
    (hparent : cursor.parentKind = parent) (hvisible : cursor.inImage = false) :
    List.Forall₂ (Brought source) (cursor.bringing source events)
      (Element.listedBelow cursor.parentNumber cursor.next elements) := by
  induction h generalizing cursor with
  | nil => exact .nil
  | @add parent located element rest elements hrole hrest ih =>
    subst hparent
    rw [List.forall_mem_cons] at hspans
    rw [Cursor.bringing, Cursor.entryOf?_of_adds hrole hvisible, Cursor.advance_of_adds hrole hvisible,
      Element.listedBelow, Element.listed_of_role_adds hrole]
    refine .cons ⟨rfl, LocatedEvent.covers_of_role_adds hspans.1 hrole⟩ ?_
    exact ih hspans.2 { cursor with next := cursor.next + 1 } rfl hvisible
  | @enclose parent opening closing element inner rest children elements hopens hinner hcloses hrest ihinner ihrest =>
    subst hparent
    simp only [List.mem_cons, List.mem_append, or_imp, forall_and, forall_eq] at hspans
    obtain ⟨hopening, hinside, -, hbehind⟩ := hspans
    -- behind the closing tag the cursor is back where it was, but for the count
    have hlists := Cursor.lists_enclosed hvisible hopens hinner hcloses fun inside hkind hseen =>
      hinner.lists inside hkind hseen
    have hfirst := Cursor.brings_enclosed hvisible hopening hopens hinner hcloses (ihinner hinside)
    have hsplit : opening :: (inner ++ closing :: rest) = (opening :: (inner ++ [closing])) ++ rest := by simp
    rw [hsplit, Cursor.bringing_append, hlists.after_eq, Element.listedBelow]
    exact List.rel_append hfirst (ihrest hbehind _ rfl hvisible)

end Reading

namespace Document

/-- If every event covers a proper slice of the source, assembling never stops at a slice, and every element
covers its event. -/
theorem ofEvents_ranges_safe {source : String} {events : List LocatedEvent} (limit : Nat)
    (hspans : ∀ located ∈ events, Text.Cuts source located.span) :
    Strict.ofEvents source limit events = some (ofEvents? source limit events) ∧
      (∀ located ∈ events, ∀ assembly next : Assembly, assembly.source = source → assembly.step located = .ok next →
        located.event ≠ .closing →
          ∃ element, (next = assembly.push element ∨ next = { assembly with opened := element :: assembly.opened }) ∧
            located.Covers source element) ∧
      ∀ document, ofEvents? source limit events = .ok document →
        List.Forall₂ (Brought source) (Cursor.bringing source {} events)
          (Element.listedBelow none 0 document.elements) := by
  refine ⟨?_, ?_, ?_⟩
  · have hstart : ({ source, limit } : Assembly).Cuttable := by simp [Assembly.Cuttable]
    rw [Strict.ofEvents, hstart.strict_run_eq hspans, Option.map_some]
    rfl
  · rintro located hmem assembly next rfl hstep hopen
    exact Assembly.exists_covers_of_step (hspans located hmem) hstep hopen
  · intro document hdocument
    exact (encodes_of_ofEvents? hdocument).brings hspans {} rfl rfl

def umlautSource : String := "é`x`&lt;![ü](u)\x60\x60"

def umlautNote : List LocatedEvent := [
  ⟨.opening .paragraph, ⟨0, 19⟩⟩, ⟨.text "é", ⟨0, 2⟩⟩, ⟨.code "x", ⟨2, 5⟩⟩, ⟨.text "<", ⟨5, 9⟩⟩,
  ⟨.opening (.image "u"), ⟨9, 17⟩⟩, ⟨.text "ü", ⟨11, 13⟩⟩, ⟨.closing, ⟨9, 17⟩⟩, ⟨.code "y", ⟨17, 19⟩⟩,
  ⟨.hardBreak, ⟨2, 5⟩⟩, ⟨.closing, ⟨0, 19⟩⟩]

/-- Letters of two bytes do not disturb the slices. -/
theorem umlautNote_ranges_safe : ∃ document, ofEvents? umlautSource 4 umlautNote = .ok document ∧
    (∀ located ∈ umlautNote, Text.Cuts umlautSource located.span) ∧
    Strict.ofEvents umlautSource 4 umlautNote = some (.ok document) ∧
    List.Forall₂ (Brought umlautSource) (Cursor.bringing umlautSource {} umlautNote)
      (Element.listedBelow none 0 document.elements) ∧
    (Element.listedBelow none 0 document.elements).map (fun listed => (listed.2.kind, listed.2.range)) =
      [(.paragraph, ⟨0, 19⟩), (.plainRun, ⟨0, 2⟩), (.codeSpan, ⟨2, 5⟩), (.entity, ⟨5, 9⟩), (.image, ⟨9, 17⟩),
        (.codeSpan, ⟨17, 19⟩), (.lineBreak, ⟨2, 2⟩)] := by
  have hspans : ∀ located ∈ umlautNote, Text.Cuts umlautSource located.span := by decide
  obtain ⟨document, h⟩ : ∃ document, ofEvents? umlautSource 4 umlautNote = .ok document := ⟨_, rfl⟩
  obtain ⟨hstrict, -, hbrought⟩ := ofEvents_ranges_safe 4 hspans
  rw [h] at hstrict
  refine ⟨document, h, hspans, hstrict, hbrought document h, ?_⟩
  have hentries := ((encodes_of_ofEvents? h).lists {} rfl rfl).entries_eq
  have hheads := congrArg (List.map fun entry : Entry => (entry.head.kind, entry.head.range)) hentries
  rw [List.map_map] at hheads
  refine hheads.symm.trans ?_
  decide

end Document

end MarkdownLayout
