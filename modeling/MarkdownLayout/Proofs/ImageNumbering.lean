import MarkdownLayout.Proofs.Provenance

/-!
# Images and their numbers

Images are numbered by how many were registered before them. Every step of a walk keeps the placeholders in its
nodes and the images it registered in agreement, and none of the ways to wrap nodes touches a placeholder, so
the two lists of a rendered document are one numbering of the images visited.
-/

namespace MarkdownLayout

namespace Node

def asImage : Node → Option ImagePlaceholder
  | image placeholder => some placeholder
  | _ => none

def placeholders (nodes : List Node) : List ImagePlaceholder :=
  gather (fun node => node.asImage.toList) nodes

theorem asImage_ignoresWrappers : IgnoresWrappers fun node => node.asImage.toList :=
  ⟨fun _ _ _ => rfl, fun _ _ => rfl⟩

@[simp]
theorem placeholders_append (front back : List Node) :
    placeholders (front ++ back) = placeholders front ++ placeholders back :=
  gather_append front back

@[simp]
theorem placeholders_image (placeholder : ImagePlaceholder) :
    placeholders [.image placeholder] = [placeholder] := rfl

theorem placeholders_eq_nil {nodes : List Node} (h : ∀ node ∈ walkAll nodes, node.asImage = none) :
    placeholders nodes = [] :=
  gather_eq_nil fun node hnode => by rw [h node hnode, Option.toList_none]

theorem filterMap_asImage (nodes : List Node) : (walkAll nodes).filterMap asImage = placeholders nodes :=
  List.filterMap_eq_flatMap_toList asImage (walkAll nodes)

end Node

@[simp]
theorem TextBuffer.placeholders_flush (buffer : TextBuffer) :
    Node.placeholders buffer.flush.toList = [] := by
  unfold flush
  split <;> rfl

abbrev Picture := Url × Option String

def numbered (start : Nat) (pictures : List Picture) : List ImagePlaceholder :=
  (pictures.zipIdx start).map fun picture => ⟨picture.2, picture.1.1, picture.1.2⟩

def ImagePlaceholder.pending (placeholder : ImagePlaceholder) : PendingImage :=
  ⟨placeholder.id, placeholder.url, false⟩

@[simp]
theorem length_numbered (start : Nat) (pictures : List Picture) :
    (numbered start pictures).length = pictures.length := by
  simp [numbered]

theorem numbered_append (start : Nat) (first second : List Picture) :
    numbered start (first ++ second) =
      numbered start first ++ numbered (start + first.length) second := by
  rw [numbered, List.zipIdx_append, List.map_append]
  rfl

/-- Of numbered placeholders exactly one has the number of a picture. -/
theorem filter_numbered (start id : Nat) (pictures : List Picture) :
    (numbered start pictures).filter (·.id = start + id) =
      (pictures[id]?.map fun picture => (⟨start + id, picture.1, picture.2⟩ : ImagePlaceholder)).toList := by
  induction pictures generalizing start id with
  | nil => rfl
  | cons picture rest ih =>
    have hcons : numbered start (picture :: rest) =
        ⟨start, picture.1, picture.2⟩ :: numbered (start + 1) rest := rfl
    rw [hcons]
    cases id with
    | zero =>
      have hlater : (numbered (start + 1) rest).filter (·.id = start + 0) = [] := by
        refine List.filter_eq_nil_iff.2 fun placeholder hmem => ?_
        obtain ⟨indexed, hindexed, rfl⟩ := List.mem_map.1 hmem
        have hle := List.le_snd_of_mem_zipIdx hindexed
        simp only [decide_eq_true_eq]
        omega
      rw [List.filter_cons, hlater]
      simp
    | succ id =>
      have hnext := ih (start + 1) id
      have heq : start + 1 + id = start + (id + 1) := by omega
      rw [heq] at hnext
      rw [List.filter_cons, hnext]
      simp

/-- What lies between two states of a walk: nodes, and images registered for the placeholders in them. -/
structure Registers (nodes : List Node) (before after : Progress) (pictures : List Picture) : Prop where
  placeholders_eq : Node.placeholders nodes = numbered before.images.length pictures
  images_eq : after.images =
    before.images ++ (numbered before.images.length pictures).map ImagePlaceholder.pending

namespace Registers

variable {nodes more : List Node} {before middle after : Progress} {first second : List Picture}

theorem start (progress : Progress) : Registers [] progress progress [] :=
  ⟨rfl, (List.append_nil _).symm⟩

/-- Two stretches of a walk: the second one counts on from the images of the first. -/
theorem trans (h : Registers nodes before middle first) (h' : Registers more middle after second) :
    Registers (nodes ++ more) before after (first ++ second) := by
  have hlength : middle.images.length = before.images.length + first.length := by
    rw [h.images_eq, List.length_append, List.length_map, length_numbered]
  constructor
  · rw [Node.placeholders_append, h.placeholders_eq, h'.placeholders_eq, numbered_append, hlength]
  · rw [h'.images_eq, h.images_eq, numbered_append, ← hlength, h.images_eq, List.map_append,
      List.append_assoc]

theorem flushInto (h : Registers nodes before after first) :
    Registers (after.flushInto nodes).1 before (after.flushInto nodes).2 first := by
  refine ⟨?_, h.images_eq⟩
  rw [Progress.flushInto, TextBuffer.flushInto, Node.placeholders_append, TextBuffer.placeholders_flush,
    List.append_nil, h.placeholders_eq]

theorem push {node : Node} (h : Registers (nodes ++ [node]) before after first) :
    Registers (after.push nodes node).1 before (after.push nodes node).2 first := by
  refine ⟨?_, h.images_eq⟩
  have hnodes := h.placeholders_eq
  rw [Node.placeholders_append] at hnodes
  simp [Progress.push, Progress.flushInto, TextBuffer.flushInto, hnodes]

/-- What a child has registered stays registered when its node is pushed. -/
theorem take {node : Option Node} (h : Registers nodes before middle first)
    (hchild : Registers node.toList middle after second) :
    Registers (node.elim (nodes, after) (after.push nodes)).1 before
      (node.elim (nodes, after) (after.push nodes)).2 (first ++ second) := by
  have hboth := h.trans hchild
  cases node with
  | none => rwa [Option.toList_none, List.append_nil] at hboth
  | some node => exact hboth.push

theorem close (h : Registers nodes before after first) (kind : ElementKind) :
    Registers (Builder.flushBoundary kind nodes after).1 before
      (Builder.flushBoundary kind nodes after).2 first := by
  unfold Builder.flushBoundary
  split
  · have htrimmed : Registers nodes before { after with buffer := after.buffer.trimNewline.1 } first :=
      ⟨h.placeholders_eq, h.images_eq⟩
    exact htrimmed.flushInto
  · exact h

end Registers

namespace Builder

def picture? (builder : Builder) (element : Element) : Option Picture :=
  if element.kind = .image then (builder.resolveImage? element).map (·, element.alt) else none

mutual

def visited (builder : Builder) : Element → List Element
  | ⟨kind, range, children, href, alt, level⟩ =>
    let element : Element := ⟨kind, range, children, href, alt, level⟩
    if builder.passesOver element then [] else element :: visitedBelow builder children

def visitedBelow (builder : Builder) : List Element → List Element
  | [] => []
  | child :: rest =>
    (if child.kind.isLeaf then [] else Builder.visited builder child) ++ visitedBelow builder rest

end

def visitedOf (builder : Builder) (elements : List Element) : List Element :=
  elements.flatMap fun element => if element.kind = .html then [] else builder.visited element

variable {builder : Builder}

theorem images_appendLeaf (leaf : Element) (attributes : Option TextAttributes) (progress : Progress) :
    (builder.appendLeaf leaf attributes progress).images = progress.images := by
  unfold appendLeaf
  split <;> rfl

theorem images_flushBoundary (kind : ElementKind) (nodes : List Node) (progress : Progress) :
    (flushBoundary kind nodes progress).2.images = progress.images := by
  unfold flushBoundary
  split <;> rfl

theorem registers_appendLeaf {nodes : List Node} {before progress : Progress} {pictures : List Picture}
    (h : Registers nodes before progress pictures) (leaf : Element) (attributes : Option TextAttributes) :
    Registers nodes before (builder.appendLeaf leaf attributes progress) pictures := by
  unfold appendLeaf
  split <;> exact ⟨h.placeholders_eq, h.images_eq⟩

/-- Only an image that leads somewhere registers a picture, and its placeholder stands first in its node. -/
theorem registers_opening {element : Element} {progress after : Progress} {nodes : List Node}
    (h : builder.opening element progress = some (nodes, after)) :
    Registers nodes progress after (builder.picture? element).toList := by
  unfold opening at h
  unfold picture?
  split at h
  · next hkind =>
    cases h
    rw [if_neg (by simp [hkind])]
    exact .push ⟨rfl, (List.append_nil _).symm⟩
  · next hkind =>
    obtain ⟨url, hurl, hpushed⟩ := Option.map_eq_some_iff.1 h
    cases hpushed
    rw [if_pos hkind, hurl]
    have hpush : Registers (progress.push [] (.image ⟨progress.images.length, url, element.alt⟩)).1 progress
        { progress with images := progress.images ++ [⟨progress.images.length, url, false⟩] }
        [(url, element.alt)] := by
      refine ⟨?_, rfl⟩
      simp [Progress.push, Progress.flushInto, TextBuffer.flushInto, numbered]
    exact ⟨hpush.placeholders_eq, hpush.images_eq⟩
  · next hrule himage =>
    split at h
    · cases h
    · cases h
      rw [if_neg himage]
      exact .start progress

theorem placeholders_closing
    (haccessories : ∀ node ∈ Node.walkAll builder.profile.accessories, node.asImage = none)
    (element : Element) (position : Position) (attributes : Option TextAttributes) (nodes : List Node) :
    Node.placeholders (builder.closing element position attributes nodes).toList =
      Node.placeholders nodes := by
  by_cases hnil : nodes = []
  · rw [closing_eq_none_iff.2 hnil, hnil]
    rfl
  · obtain ⟨hfront, hback⟩ := Profile.forall_mem_accessories haccessories element
    have hdelimiter : (if element.kind = .listItem then
        Node.placeholders [.ofText (marker position) attributes] else []) = [] := by
      split <;> rfl
    have hclosing : Node.placeholders (builder.closing element position attributes nodes).toList =
        Node.placeholders (builder.profile.frontOf element) ++
            (if element.kind = .listItem then Node.placeholders [.ofText (marker position) attributes]
              else []) ++
          Node.placeholders nodes ++ Node.placeholders (builder.profile.backOf element) :=
      gather_closing Node.asImage_ignoresWrappers builder element position attributes hnil
    rw [hclosing, hdelimiter, Node.placeholders_eq_nil hfront, Node.placeholders_eq_nil hback]
    simp

mutual

/-- A walk of an element registers the pictures of the images it visits, in document order, and shows a placeholder
for each. -/
theorem build_registers (builder : Builder)
    (haccessories : ∀ node ∈ Node.walkAll builder.profile.accessories, node.asImage = none) :
    ∀ (element : Element) (position : Position) (inherited : Option TextAttributes) (progress : Progress),
      Registers (builder.build element position inherited progress).1.toList progress
        (builder.build element position inherited progress).2
        ((builder.visited element).filterMap builder.picture?)
  | ⟨kind, range, children, href, alt, level⟩, position, inherited, progress => by
    rw [build, visited]
    cases hopening : builder.opening ⟨kind, range, children, href, alt, level⟩ progress with
    | none =>
      rw [if_pos (opening_eq_none_iff.1 hopening)]
      exact .start progress
    | some opened =>
      obtain ⟨nodes, after⟩ := opened
      have hchildren := buildChildren_registers builder haccessories kind
        (builder.attributes ⟨kind, range, children, href, alt, level⟩ inherited) children 0 nodes progress after _
        (registers_opening hopening)
      have hclosed := hchildren.close kind
      have hpictures : (⟨kind, range, children, href, alt, level⟩ ::
          builder.visitedBelow children).filterMap builder.picture? =
            (builder.picture? ⟨kind, range, children, href, alt, level⟩).toList ++
              (builder.visitedBelow children).filterMap builder.picture? := by
        rw [List.filterMap_cons]
        cases builder.picture? ⟨kind, range, children, href, alt, level⟩ <;> rfl
      rw [if_neg (not_passesOver_of_opening hopening), hpictures]
      exact ⟨by rw [placeholders_closing haccessories, hclosed.placeholders_eq], hclosed.images_eq⟩

theorem buildChildren_registers (builder : Builder)
    (haccessories : ∀ node ∈ Node.walkAll builder.profile.accessories, node.asImage = none)
    (parent : ElementKind) (attributes : Option TextAttributes) :
    ∀ (children : List Element) (index : Nat) (nodes : List Node) (before progress : Progress)
      (pictures : List Picture), Registers nodes before progress pictures →
      Registers (builder.buildChildren parent attributes children index nodes progress).1 before
        (builder.buildChildren parent attributes children index nodes progress).2
        (pictures ++ (builder.visitedBelow children).filterMap builder.picture?)
  | [], _, _, _, _, _, h => by
    rw [buildChildren, visitedBelow, List.filterMap_nil, List.append_nil]
    exact h
  | child :: rest, index, nodes, before, progress, pictures, h => by
    rw [buildChildren_cons, visitedBelow, List.filterMap_append, ← List.append_assoc]
    split
    · rw [List.filterMap_nil, List.append_nil]
      exact buildChildren_registers builder haccessories parent attributes rest (index + 1) nodes before _ _
        (registers_appendLeaf h child attributes)
    · have hchild := build_registers builder haccessories child ⟨some parent, index⟩ attributes progress
      exact buildChildren_registers builder haccessories parent attributes rest (index + 1) _ before _ _
        (h.take hchild)

end

/-- So does the walk of a whole document. -/
theorem renderElements_registers (builder : Builder)
    (haccessories : ∀ node ∈ Node.walkAll builder.profile.accessories, node.asImage = none)
    (elements : List Element) (index : Nat) (nodes : List Node) (before progress : Progress)
    (pictures : List Picture) (h : Registers nodes before progress pictures) :
    Registers (builder.renderElements elements index nodes progress).1 before
      (builder.renderElements elements index nodes progress).2
      (pictures ++ (builder.visitedOf elements).filterMap builder.picture?) := by
  induction elements generalizing index nodes progress pictures with
  | nil =>
    rw [renderElements, visitedOf, List.flatMap_nil, List.filterMap_nil, List.append_nil]
    exact h.flushInto
  | cons element rest ih =>
    rw [renderElements_cons, visitedOf, List.flatMap_cons, List.filterMap_append, ← List.append_assoc]
    split
    · rw [List.filterMap_nil, List.append_nil]
      exact ih (index + 1) _ _ _ ⟨h.placeholders_eq, h.images_eq⟩
    · have hbuilt := build_registers builder haccessories element ⟨none, index⟩ none progress
      exact ih (index + 1) _ _ _ (h.take hbuilt)

end Builder

namespace Rendering

theorem placeholder?_eq (rendering : Rendering) (id : Nat) :
    rendering.placeholder? id =
      ((Node.placeholders rendering.nodes).filter (·.id = id)).getLast? := by
  unfold placeholder?
  congr 1
  rw [← Node.filterMap_asImage, List.filter_filterMap]
  refine List.filterMap_congr fun node _ => ?_
  cases node <;> simp [placeholderIn, Node.asImage, Option.filter]

end Rendering

namespace Document

def pictures (document : Document) (profile : Profile) (base : Option Url) : List Picture :=
  (Builder.visitedOf { document, profile, base } document.elements).filterMap
    (Builder.picture? { document, profile, base })

/-- The registered images and the placeholders on the page are the pictures of the document, numbered from zero in
document order, and looking a number up finds its picture. -/
theorem images_agree (document : Document) (profile : Profile) (base : Option Url)
    (haccessories : ∀ node ∈ Node.walkAll profile.accessories, node.asImage = none) :
    let rendering := document.render profile base
    let pictures := document.pictures profile base
    rendering.images = pictures.zipIdx.map (fun ((url, _), id) => ⟨id, url, false⟩) ∧
      (Node.walkAll rendering.nodes).filterMap Node.asImage =
        pictures.zipIdx.map (fun ((url, alt), id) => ⟨id, url, alt⟩) ∧
      ∀ id, rendering.placeholder? id = pictures[id]?.map (fun (url, alt) => ⟨id, url, alt⟩) ∧
        ((rendering.placeholder? id).isSome = true ↔ id < rendering.images.length) := by
  intro rendering pictures
  have hregisters := Builder.renderElements_registers { document, profile, base } haccessories
    document.elements 0 [] {} {} [] (.start {})
  have hplaceholders : Node.placeholders rendering.nodes = numbered 0 pictures := hregisters.placeholders_eq
  have himages : rendering.images = (numbered 0 pictures).map ImagePlaceholder.pending :=
    hregisters.images_eq
  refine ⟨?_, ?_, fun id => ?_⟩
  · rw [himages, numbered, List.map_map]
    rfl
  · rw [Node.filterMap_asImage, hplaceholders]
    rfl
  · have hlookup : rendering.placeholder? id =
        pictures[id]?.map fun picture => ⟨id, picture.1, picture.2⟩ := by
      have hfilter := filter_numbered 0 id pictures
      rw [Nat.zero_add] at hfilter
      rw [Rendering.placeholder?_eq, hplaceholders, hfilter]
      cases pictures[id]? <;> rfl
    refine ⟨hlookup, ?_⟩
    rw [hlookup, himages, List.length_map, length_numbered, Option.isSome_map]
    simp

def gallery : Document where
  source := "text"
  elements := [
    { kind := .image, range := ⟨0, 4⟩, href := some "" },
    { kind := .blockquote
      range := ⟨0, 4⟩
      children := [{
        kind := .listItem
        range := ⟨0, 4⟩
        children := [{ kind := .image, range := ⟨0, 4⟩, href := some "http://a/b", alt := some "x" }] }] },
    { kind := .image, range := ⟨0, 4⟩, href := some "http://a/c" }]

/-- The first of three images leads nowhere. The other two are numbered in order. -/
theorem gallery_images_agree :
    (∀ node ∈ Node.walkAll Profile.standard.accessories, node.asImage = none) ∧
      (gallery.render .standard none).images.map PendingImage.id = [0, 1] ∧
      ((gallery.render .standard none).placeholder? 1).isSome = true := by
  have haccessories : ∀ node ∈ Node.walkAll Profile.standard.accessories, node.asImage = none := by decide
  obtain ⟨himages, _, hlookup⟩ := images_agree gallery .standard none haccessories
  have hpictures : (gallery.pictures .standard none).length = 2 := by decide
  refine ⟨haccessories, ?_, ?_⟩
  · rw [himages]
    decide
  · rw [(hlookup 1).2, himages, List.length_map, List.length_zipIdx, hpictures]
    decide

end Document

end MarkdownLayout
