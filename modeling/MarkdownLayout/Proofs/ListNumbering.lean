import MarkdownLayout.Proofs.InlineText

/-!
# Numbered items

The number of an item is its place among the items of its own list. What the items hold is built one item after the
other without a look at the numbers, which are put in front afterwards, so neither empty items nor lists inside an item
can move them.
-/

namespace MarkdownLayout

namespace Builder

/-- What an item holds, without its delimiter. The text that waits before an item goes into it, and none is left. -/
def itemContent (builder : Builder) (attributes : Option TextAttributes) (item : Element) (progress : Progress) :
    Option Node × Progress :=
  let walked := builder.buildChildren .listItem attributes item.children 0 [] progress
  (compose (walked.2.buffer.trimNewline.1.flushInto walked.1), ⟨.empty, walked.2.images⟩)

def itemContents (builder : Builder) (attributes : Option TextAttributes) :
    List Element → Progress → List (Option Node) × Progress
  | [], progress => ([], progress)
  | item :: rest, progress =>
    let (content, progress) := builder.itemContent attributes item progress
    let (contents, progress) := itemContents builder attributes rest progress
    (content :: contents, progress)

def delimiter (kind : ElementKind) (place : Nat) : String :=
  if kind = .numberedList then toString (place + 1) ++ "." else "•"

def itemEntry (profile : Profile) (kind : ElementKind) (attributes : Option TextAttributes) (place : Nat)
    (content : Node) : Node :=
  profile.listItem.block.decorate
    (.container .horizontal profile.itemSpacing [.text ⟨[⟨delimiter kind place, attributes⟩]⟩, content])

/-- The entries of a list, where nothing is shown for an item that holds nothing. -/
def itemEntries (profile : Profile) (kind : ElementKind) (attributes : Option TextAttributes)
    (contents : List (Option Node)) (first : Nat) : List Node :=
  (contents.zipIdx first).filterMap fun (content, place) => content.map (itemEntry profile kind attributes place)

variable {builder : Builder}

theorem length_itemContents (attributes : Option TextAttributes) (items : List Element) (progress : Progress) :
    (builder.itemContents attributes items progress).1.length = items.length := by
  induction items generalizing progress with
  | nil => rfl
  | cons item rest ih => exact congrArg (· + 1) (ih _)

theorem itemEntries_cons (profile : Profile) (kind : ElementKind) (attributes : Option TextAttributes)
    (content : Option Node) (contents : List (Option Node)) (first : Nat) :
    itemEntries profile kind attributes (content :: contents) first =
      (content.map (itemEntry profile kind attributes first)).toList ++
        itemEntries profile kind attributes contents (first + 1) := by
  rw [itemEntries, List.zipIdx_cons, List.filterMap_cons]
  cases content <;> rfl

theorem marker_eq_delimiter (kind : ElementKind) (place : Nat) : marker ⟨some kind, place⟩ = delimiter kind place := by
  cases kind <;> rfl

theorem attributes_of_blockFormat {element : Element} {format : BlockFormat}
    (h : builder.profile.blockFormat? element = some format) (inherited : Option TextAttributes) :
    builder.attributes element inherited = some (TextAttributes.overlay inherited format.text) := by
  obtain ⟨kind, range, children, href, alt, level⟩ := element
  cases kind with
  | header | paragraph | blockquote | codeBlock | listItem | bulletedList | numberedList =>
    cases h
    rfl
  | _ => cases h

/-- A block is styled as a whole, once for all its nodes. -/
theorem closing_of_blockFormat {element : Element} {format : BlockFormat}
    (h : builder.profile.blockFormat? element = some format) (position : Position)
    (attributes : Option TextAttributes) (nodes : List Node) :
    builder.closing element position attributes nodes = (compose nodes).map fun node => format.block.decorate
      (if element.kind = .listItem then builder.listRow node position attributes else node) := by
  rw [closing, Profile.blockStyle?_of_blockFormat? h, decorate, Option.map_map]
  rfl

/-- An item is a row of its delimiter and what it holds. Without any content it is nothing, and its place is counted
still. -/
theorem build_item {item : Element} (hitem : item.kind = .listItem) (kind : ElementKind) (place : Nat)
    (inherited : Option TextAttributes) (progress : Progress) :
    let attributes := some (TextAttributes.overlay inherited builder.profile.listItem.text)
    let content := builder.itemContent attributes item progress
    builder.build item ⟨some kind, place⟩ inherited progress =
      (content.1.map (itemEntry builder.profile kind attributes place), content.2) := by
  intro attributes content
  have hblock : item.kind.isBoundary = true := by rw [hitem]; rfl
  have hformat : builder.profile.blockFormat? item = some builder.profile.listItem := by
    rw [Profile.blockFormat?, hitem]
  have hentry : (fun node => builder.profile.listItem.block.decorate
      (if item.kind = .listItem then builder.listRow node ⟨some kind, place⟩ attributes else node)) =
        itemEntry builder.profile kind attributes place := by
    funext node
    rw [if_pos hitem, listRow, marker_eq_delimiter, itemEntry]
    rfl
  rw [builder.build_of_isBoundary hblock, attributes_of_blockFormat hformat, hitem]
  dsimp only
  rw [closing_of_blockFormat hformat, hentry]
  rfl

/-- Items that follow one another give their entries in order. -/
theorem buildChildren_items {items : List Element} (hitems : ∀ item ∈ items, item.kind = .listItem)
    (kind : ElementKind) (inherited : Option TextAttributes) (first : Nat) (nodes : List Node) (progress : Progress) :
    let attributes := some (TextAttributes.overlay inherited builder.profile.listItem.text)
    let contents := builder.itemContents attributes items progress
    builder.buildChildren kind inherited items first nodes progress =
      (nodes ++ itemEntries builder.profile kind attributes contents.1 first, contents.2) := by
  intro attributes contents
  induction items generalizing first nodes progress with
  | nil =>
    rw [buildChildren]
    exact congrArg (·, progress) (List.append_nil nodes).symm
  | cons item rest ih =>
    rw [List.forall_mem_cons] at hitems
    have hleaf : ¬item.kind.isLeaf = true := by
      rw [hitems.1]
      decide
    let content := builder.itemContent attributes item progress
    have hcontents : contents.1 = content.1 :: (builder.itemContents attributes rest content.2).1 := rfl
    rw [buildChildren_cons, if_neg hleaf, build_item hitems.1, hcontents, itemEntries_cons, ← List.append_assoc]
    -- no text waits behind an item, so its entry comes right behind the entries before it
    have hnext : ((content.1.map (itemEntry builder.profile kind attributes first)).elim (nodes, content.2)
        (content.2.push nodes)) =
          (nodes ++ (content.1.map (itemEntry builder.profile kind attributes first)).toList, content.2) := by
      cases content.1 with
      | none => exact congrArg (·, content.2) (List.append_nil nodes).symm
      | some inside => exact Progress.push_empty _ nodes _
    dsimp only
    rw [hnext]
    exact ih hitems.2 (first + 1) _ content.2

/-- The entries of a list stand in the order of its items, each with the place of its item in front. This goes for a
list at any depth, numbered or not, whatever is inherited and whatever waits before it. -/
theorem build_list (builder : Builder) {list : Element} (hlist : list.kind = .numberedList ∨ list.kind = .bulletedList)
    (hitems : ∀ item ∈ list.children, item.kind = .listItem) (position : Position)
    (inherited : Option TextAttributes) (progress : Progress) :
    let listed := some (TextAttributes.overlay inherited builder.profile.list.text)
    let attributes := some (TextAttributes.overlay listed builder.profile.listItem.text)
    let contents := builder.itemContents attributes list.children progress
    contents.1.length = list.children.length ∧
      builder.build list position inherited progress =
        (decorate (compose (itemEntries builder.profile list.kind attributes contents.1 0))
          (some builder.profile.list.block), contents.2) := by
  intro listed attributes contents
  refine ⟨length_itemContents attributes list.children progress, ?_⟩
  have hformat : builder.profile.blockFormat? list = some builder.profile.list := by
    rcases hlist with hkind | hkind <;> rw [Profile.blockFormat?, hkind]
  have hopening : builder.opening list progress = some ([], progress) := by
    refine opening_eq_some progress ?_ ?_ ?_ <;> rcases hlist with hkind | hkind <;> rw [hkind] <;> decide
  have hboundary : ¬list.kind.isBoundary = true := by
    rcases hlist with hkind | hkind <;> rw [hkind] <;> decide
  have hitem : list.kind ≠ .listItem := by
    rcases hlist with hkind | hkind <;> rw [hkind] <;> decide
  have hattributes : builder.attributes list inherited = listed := attributes_of_blockFormat hformat inherited
  have hwalked : builder.buildChildren list.kind listed list.children 0 [] progress =
      (itemEntries builder.profile list.kind attributes contents.1 0, contents.2) :=
    buildChildren_items hitems list.kind listed 0 [] progress
  rw [builder.build_of_opening hopening, hattributes]
  dsimp only
  -- a list ends no text: it drops no break and flushes nothing, so its nodes are the entries alone
  rw [hwalked, flushBoundary, if_neg hboundary, closing_of_blockFormat hformat]
  simp only [if_neg hitem]
  rfl

def errands : Element where
  kind := .numberedList
  range := ⟨0, 2⟩
  children := [
    { kind := .listItem, range := ⟨0, 1⟩, children := [{ kind := .plainRun, range := ⟨0, 1⟩ }] },
    { kind := .listItem, range := ⟨1, 1⟩, children := [{ kind := .strong, range := ⟨1, 1⟩ }] },
    { kind := .listItem, range := ⟨0, 2⟩, children := [
      { kind := .plainRun, range := ⟨1, 2⟩ },
      { kind := .numberedList, range := ⟨0, 1⟩, children := [
        { kind := .listItem, range := ⟨0, 1⟩, children := [{ kind := .plainRun, range := ⟨0, 1⟩ }] },
        { kind := .listItem, range := ⟨0, 1⟩, children := [{ kind := .plainRun, range := ⟨0, 1⟩ }] }] },
      { kind := .bulletedList, range := ⟨1, 2⟩, children := [
        { kind := .listItem, range := ⟨1, 2⟩, children := [{ kind := .plainRun, range := ⟨1, 2⟩ }] }] }] }]

/-- The empty item in the middle has no row and the one behind it keeps its number. -/
theorem errands_numbering :
    let builder : Builder := { document := ⟨"ab", []⟩, profile := .standard }
    let listed := some (TextAttributes.overlay none Profile.standard.list.text)
    let attributes := some (TextAttributes.overlay listed Profile.standard.listItem.text)
    (errands.kind = .numberedList ∨ errands.kind = .bulletedList) ∧
      (∀ item ∈ errands.children, item.kind = .listItem) ∧
      ∃ first third : Node,
        ((Node.walkAll [first, third]).filterMap Node.asText).map TextBlock.text =
          ["a", "1.", "ba", "2.", "a", "•", "b"] ∧
        builder.build errands ⟨none, 0⟩ none ⟨.empty, []⟩ =
          (some (Profile.standard.list.block.decorate (.stack [
              itemEntry .standard .numberedList attributes 0 first,
              itemEntry .standard .numberedList attributes 2 third])),
            ⟨.empty, []⟩) := by
  intro builder listed attributes
  have hlist : errands.kind = .numberedList ∨ errands.kind = .bulletedList := .inl rfl
  have hitems : ∀ item ∈ errands.children, item.kind = .listItem := by decide
  obtain ⟨-, hbuilt⟩ := builder.build_list hlist hitems ⟨none, 0⟩ none ⟨.empty, []⟩
  let contents := builder.itemContents attributes errands.children ⟨.empty, []⟩
  have hafter : contents.2 = ⟨.empty, []⟩ := by decide +kernel
  have hheld : contents.1.map Option.isSome = [true, false, true] := by decide +kernel
  have htexts : ((Node.walkAll contents.1.reduceOption).filterMap Node.asText).map TextBlock.text =
      ["a", "1.", "ba", "2.", "a", "•", "b"] := by decide +kernel
  obtain ⟨first, third, hcontents⟩ : ∃ first third, contents.1 = [some first, none, some third] := by
    match contents.1, hheld with
    | [some first, none, some third], _ => exact ⟨first, third, rfl⟩
  rw [hcontents] at htexts
  refine ⟨hlist, hitems, first, third, htexts, hbuilt.trans ?_⟩
  rw [hafter, hcontents]
  rfl

end Builder

end MarkdownLayout
