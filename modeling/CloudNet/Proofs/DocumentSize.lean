import CloudNet.Document.Xml.Tree
import Mathlib

/-!
# The size of documents

A reader of documents counts nodes and stops at a limit. While the tree is put together it counts a
node for each of its elements, one of them ahead, so a document that was read has fewer elements
than the limit, whatever its entities stand for. A route leads to no more elements than there are.

* `Element.sum_elementCount_follow_le`: what a route leads to is no larger than where it starts.
* `Growth.Within.take`, `Growth.Within.enter`: one token keeps the count ahead of the elements, and
  so do the tokens of an entity, however deep entities are inside each other.
* `Document.elementCount_lt_of_ofXml`: a document that was read has fewer elements than the limit.
-/

namespace CloudNet

/-! ## Counting elements -/

mutual

/-- The number of elements that a piece of content has, itself included. -/
def Content.elementCount : Content → Nat
  | .element _ _ content => Content.elementCountOf content + 1
  | .text _ => 0

/-- The number of elements in pieces of content. -/
def Content.elementCountOf : List Content → Nat
  | [] => 0
  | c :: rest => c.elementCount + Content.elementCountOf rest

end

/-- The number of elements in an element, itself included. -/
def Element.elementCount (e : Element) : Nat := Content.elementCountOf e.content + 1

/-- The number of elements of a document. -/
def Document.elementCount (d : Document) : Nat := (d.topElements.map Element.elementCount).sum

namespace Content

@[simp] theorem elementCountOf_nil : elementCountOf [] = 0 := rfl

@[simp] theorem elementCountOf_cons (c : Content) (cs : List Content) :
    elementCountOf (c :: cs) = c.elementCount + elementCountOf cs := rfl

@[simp] theorem elementCount_text (s : String) : (text s).elementCount = 0 := rfl

@[simp] theorem elementCount_toContent (e : Element) : e.toContent.elementCount = e.elementCount :=
  rfl

theorem elementCountOf_eq_sum (cs : List Content) :
    elementCountOf cs = (cs.map elementCount).sum := by
  induction cs with
  | nil => rfl
  | cons c cs ih => rw [elementCountOf_cons, ih, List.map_cons, List.sum_cons]

/-- The order of content does not matter to its size. -/
@[simp] theorem elementCountOf_reverse (cs : List Content) :
    elementCountOf cs.reverse = elementCountOf cs := by
  rw [elementCountOf_eq_sum, elementCountOf_eq_sum, List.map_reverse, List.sum_reverse]

/-- Text adds nothing to the size of content. -/
theorem sum_elementCount_filterMap (cs : List Content) :
    ((cs.filterMap element?).map Element.elementCount).sum = elementCountOf cs := by
  induction cs with
  | nil => rfl
  | cons c cs ih =>
    cases c with
    | element name attributes content =>
      show Element.elementCount _ + ((cs.filterMap element?).map Element.elementCount).sum = _
      rw [ih]
      rfl
    | text s =>
      show ((cs.filterMap element?).map Element.elementCount).sum = _
      rw [ih, elementCountOf_cons, elementCount_text, Nat.zero_add]

end Content

namespace Element

theorem elementCount_pos (e : Element) : 0 < e.elementCount := Nat.succ_pos _

/-- The children together have one element less. -/
theorem sum_elementCount_children (e : Element) :
    (e.children.map elementCount).sum + 1 = e.elementCount := by
  unfold children
  rw [Content.sum_elementCount_filterMap]
  rfl

/-- **What a route leads to is no larger than where it starts.** -/
theorem sum_elementCount_follow_le (e : Element) (route : Route) :
    ((e.follow route).map elementCount).sum ≤ e.elementCount := by
  induction route generalizing e with
  | nil => exact Nat.le_of_eq (Nat.add_zero _)
  | cons s route ih =>
    have hstep : ((e.step s).map elementCount).sum ≤ e.elementCount := by
      have hsome : ((e.step s).map elementCount).sum ≤ (e.children.map elementCount).sum :=
        (List.filter_sublist.map elementCount).sum_le_sum fun _ _ => Nat.zero_le _
      have hall := e.sum_elementCount_children
      omega
    rw [follow_cons, List.map_flatMap]
    refine le_trans ?_ hstep
    generalize e.step s = xs
    induction xs with
    | nil => exact le_rfl
    | cons x xs ihxs =>
      rw [List.flatMap_cons, List.sum_append, List.map_cons, List.sum_cons]
      exact Nat.add_le_add (ih x) ihxs

/-- There are no more elements in a list than elements in them. -/
theorem length_le_sum_elementCount (es : List Element) :
    es.length ≤ (es.map elementCount).sum := by
  induction es with
  | nil => exact le_rfl
  | cons e es ih =>
    rw [List.length_cons, List.map_cons, List.sum_cons]
    have hone := e.elementCount_pos
    omega

theorem length_follow_le (e : Element) (route : Route) :
    (e.follow route).length ≤ e.elementCount :=
  (length_le_sum_elementCount _).trans (e.sum_elementCount_follow_le route)

end Element

end CloudNet

namespace CloudNet.Xml

/-- The number of elements in a frame, its own included. -/
def Frame.elementCount (f : Frame) : Nat := Content.elementCountOf f.content + 1

namespace Growth

/-- The number of elements of a tree that is being put together. -/
def elementCount (g : Growth) : Nat :=
  (g.frames.map Frame.elementCount).sum + (g.finished.map Element.elementCount).sum

/-- The nodes that were counted are within the limit, and there are `room` more of them than it
takes for the elements and the document itself. -/
structure Within (limit room : Nat) (g : Growth) : Prop where
  nodeLimit : g.nodeLimit = limit
  nodes_le : g.nodes ≤ limit
  lt_nodes : g.elementCount + room < g.nodes

variable {limit room : Nat} {g g' : Growth}

/-- Only the frames, what is finished and the counts matter. -/
theorem Within.congr (h : g.Within limit room) (hlimit : g'.nodeLimit = g.nodeLimit)
    (hnodes : g'.nodes = g.nodes) (hcount : g'.elementCount = g.elementCount) :
    g'.Within limit room := by
  obtain ⟨h₁, h₂, h₃⟩ := h
  exact ⟨hlimit.trans h₁, hnodes ▸ h₂, by rw [hnodes, hcount]; exact h₃⟩

theorem Within.weaken (h : g.Within limit room) : g.Within limit 0 :=
  ⟨h.nodeLimit, h.nodes_le, Nat.lt_of_le_of_lt (Nat.le_add_right _ _) h.lt_nodes⟩

/-- Counting a node makes room for one more. -/
theorem Within.countNode (h : g.Within limit room) (hg : g.countNode = some g') :
    g'.Within limit (room + 1) := by
  unfold Growth.countNode at hg
  split at hg
  · next hbelow =>
    obtain rfl := Option.some.inj hg
    have hlt := h.lt_nodes
    have hlimit := h.nodeLimit
    exact ⟨hlimit, by show g.nodes + 1 ≤ limit; omega,
      by show g.elementCount + (room + 1) < g.nodes + 1; omega⟩
  · cases hg

/-- More text takes no room. -/
theorem Within.addText_of_inText {s : List Char} (h : g.Within limit 0) (htext : g.inText = true)
    (hg : g.addText s = some g') : g'.Within limit 0 := by
  unfold Growth.addText at hg
  simp only [if_pos htext, Option.bind_eq_bind, Option.bind_some] at hg
  split at hg
  · obtain rfl := Option.some.inj hg
    exact h.congr rfl rfl rfl
  · next f fs hframes =>
    obtain rfl := Option.some.inj hg
    refine h.congr rfl rfl ?_
    unfold elementCount
    rw [hframes]
    simp [Frame.elementCount]

/-- Nor does text that begins, for which a node is counted. -/
theorem Within.addText {s : List Char} (h : g.Within limit 0) (hg : g.addText s = some g') :
    g'.Within limit 0 := by
  by_cases htext : g.inText = true
  · exact h.addText_of_inText htext hg
  · unfold Growth.addText at hg
    rw [if_neg htext] at hg
    obtain ⟨counted, hcounted, hg⟩ := Option.bind_eq_some_iff.mp hg
    have hw : { counted with inText := true }.Within limit 0 :=
      (h.countNode hcounted).weaken.congr rfl rfl rfl
    exact hw.addText_of_inText rfl hg

theorem Within.addRun {buffer : List Char} (h : g.Within limit 0)
    (hg : g.addRun buffer = some g') : g'.Within limit 0 := by
  unfold Growth.addRun at hg
  split at hg
  · exact Option.some.inj hg ▸ h
  · exact h.addText hg

/-- An element that is added takes room for its own elements. -/
theorem Within.addElement {e : Element} (h : g.Within limit (room + e.elementCount)) :
    (g.addElement e).Within limit room := by
  have hcount : (g.addElement e).elementCount = g.elementCount + e.elementCount := by
    unfold Growth.addElement elementCount
    split
    · next f fs hframes =>
      rw [hframes]
      simp only [List.map_cons, List.sum_cons, Frame.elementCount, Content.elementCountOf_cons,
        Content.elementCount_toContent]
      omega
    · next hframes =>
      rw [hframes]
      simp only [List.map_cons, List.sum_cons]
      omega
  have hsame : (g.addElement e).nodes = g.nodes ∧ (g.addElement e).nodeLimit = g.nodeLimit := by
    unfold Growth.addElement
    split <;> exact ⟨rfl, rfl⟩
  have hlt := h.lt_nodes
  exact ⟨hsame.2.trans h.nodeLimit, hsame.1 ▸ h.nodes_le, by rw [hcount, hsame.1]; omega⟩

/-- Settling a tag changes nothing but the attributes that wait. -/
theorem Within.settle {scope : Scope} {attributes : List Attribute} (h : g.Within limit room)
    (hg : g.settle = some (scope, attributes, g')) :
    g'.Within limit room := by
  unfold Growth.settle at hg
  obtain ⟨found, -, hg⟩ := Option.bind_eq_some_iff.mp hg
  obtain ⟨-, -, rfl⟩ := Option.some.inj hg
  exact h.congr rfl rfl rfl

/-- A start tag takes the room that its own node makes. -/
theorem Within.openTag {n : QName} {closed : Bool} (h : g.Within limit 0)
    (hg : g.openTag n closed = some g') : g'.Within limit 0 := by
  unfold Growth.openTag at hg
  obtain ⟨⟨scope, attributes, settled⟩, hsettled, hg⟩ := Option.bind_eq_some_iff.mp hg
  have hw := h.settle hsettled
  dsimp only at hg
  split at hg
  · cases hg
  · obtain ⟨counted, hcounted, hg⟩ := Option.bind_eq_some_iff.mp hg
    have hroom := hw.countNode hcounted
    split at hg
    · obtain rfl := Option.some.inj hg
      exact Within.addElement hroom
    · -- the element is counted while it is a frame, so the room is gone before its end tag comes
      obtain rfl := Option.some.inj hg
      have hlt := hroom.lt_nodes
      refine ⟨hroom.nodeLimit, hroom.nodes_le, ?_⟩
      unfold elementCount at hlt ⊢
      simp only [List.map_cons, List.sum_cons, Frame.elementCount, Content.elementCountOf_nil]
      omega

/-- An end tag makes an element of a frame, which has as many elements. -/
theorem Within.closeTag {n : QName} (h : g.Within limit 0) (hg : g.closeTag n = some g') :
    g'.Within limit 0 := by
  unfold Growth.closeTag at hg
  obtain ⟨⟨scope, attributes, settled⟩, hsettled, hg⟩ := Option.bind_eq_some_iff.mp hg
  have hw := h.settle hsettled
  dsimp only at hg
  split at hg
  · next f fs hframes =>
    split at hg
    · cases hg
    · obtain rfl := Option.some.inj hg
      have hlt := hw.lt_nodes
      apply Within.addElement
      refine ⟨hw.nodeLimit, hw.nodes_le, ?_⟩
      unfold elementCount at hlt ⊢
      rw [hframes] at hlt
      simp only [List.map_cons, List.sum_cons, Frame.elementCount, Element.elementCount,
        Content.elementCountOf_reverse] at hlt ⊢
      omega
  · cases hg

section Entities

variable {enter : List Char → Growth → Option Growth}
  (henter : ∀ name g g', g.Within limit 0 → enter name g = some g' → g'.Within limit 0)

include henter

/-- Character data takes no room, if the entities in it keep within the limit. -/
theorem Within.addPieces {inside : Bool} {buffer : List Char} {asIs : Bool} {pieces : List Piece}
    (h : g.Within limit 0) (hg : Growth.addPieces inside enter buffer asIs pieces g = some g') :
    g'.Within limit 0 := by
  fun_induction Growth.addPieces inside enter buffer asIs pieces g with
  | case1 => exact h.addRun hg
  | case2 buffer asIs c rest g ih => exact ih h hg
  | case3 buffer asIs c rest g hinside ih => exact ih h hg
  | case4 buffer asIs c rest g houtside ih => exact ih h hg
  | case5 buffer asIs name rest g ih =>
    obtain ⟨run, hrun, hg⟩ := Option.bind_eq_some_iff.mp hg
    obtain ⟨entered, hentered, hg⟩ := Option.bind_eq_some_iff.mp hg
    exact ih entered (henter name _ _ (h.addRun hrun) hentered) hg

/-- **One token keeps the count ahead of the elements**, if the tokens of its entities do. -/
theorem Within.take {entities : Entities} {depth : Nat} {inside : Bool} {t : Token}
    (h : g.Within limit 0) (hg : Growth.take entities depth inside enter g t = some g') :
    g'.Within limit 0 := by
  cases t with
  | startTag n attributes ending =>
    unfold Growth.take at hg
    by_cases hname : n.qualifier = xmlnsName
    · simp only [if_pos hname] at hg
      cases hg
    · simp only [if_neg hname] at hg
      obtain ⟨⟨values, used⟩, -, hg⟩ := Option.bind_eq_some_iff.mp hg
      obtain ⟨pending, -, hg⟩ := Option.bind_eq_some_iff.mp hg
      dsimp only at hg
      split at hg
      · obtain rfl := Option.some.inj hg
        exact h.congr rfl rfl rfl
      · refine Within.openTag ?_ hg
        exact h.congr rfl rfl rfl
  | endTag n => exact h.closeTag hg
  | text raw =>
    obtain ⟨pieces, -, hg⟩ := Option.bind_eq_some_iff.mp hg
    exact Within.addPieces henter h hg
  | cdata s => exact h.addText hg
  | remark => exact (h.countNode hg).weaken

end Entities

/-- Tokens one after the other keep what each of them keeps. -/
theorem of_foldlM_eq_some {α : Type} {step : Growth → α → Option Growth} {p : Growth → Prop}
    (hstep : ∀ g a g', p g → step g a = some g' → p g') {xs : List α} (h : p g)
    (hg : xs.foldlM step g = some g') : p g' := by
  induction xs generalizing g with
  | nil => exact Option.some.inj hg ▸ h
  | cons x xs ih =>
    rw [List.foldlM_cons] at hg
    obtain ⟨next, hnext, hg⟩ := Option.bind_eq_some_iff.mp hg
    exact ih (hstep _ _ _ h hnext) hg

/-- **The tokens of an entity keep the count ahead of the elements**, however deep the entities in
its text are inside each other. -/
theorem Within.enter {entities : Entities} {depth : Nat} {inside : Bool} {name : List Char}
    (h : g.Within limit 0) (hg : Growth.enter entities depth inside name g = some g') :
    g'.Within limit 0 := by
  induction depth generalizing inside name g g' with
  | zero => cases hg
  | succ depth ih =>
    unfold Growth.enter at hg
    obtain ⟨text, -, hg⟩ := Option.bind_eq_some_iff.mp hg
    by_cases hmany : (inside && decide (g.used = maxEntityReferences)) = true
    · simp only [if_pos hmany] at hg
      cases hg
    · simp only [if_neg hmany] at hg
      obtain ⟨tokens, -, hg⟩ := Option.bind_eq_some_iff.mp hg
      obtain ⟨last, hlast, hg⟩ := Option.bind_eq_some_iff.mp hg
      obtain rfl := Option.some.inj hg
      -- the entities in the text are entered one level further down
      have hw : last.Within limit 0 := by
        refine of_foldlM_eq_some (fun _ _ _ => Within.take ?_) ?_ hlast
        · exact fun _ _ _ => ih
        · exact h.congr rfl rfl rfl
      exact hw.congr rfl rfl rfl

end Growth

/-- **A document that was read has fewer elements than nodes are allowed.** -/
theorem elementCount_lt_of_document? {settings : Settings} {s : List Char} {d : Document}
    (h : document? settings s = some d) : d.elementCount < settings.nodeLimit := by
  unfold document? at h
  obtain ⟨⟨p, rest⟩, -, h⟩ := Option.bind_eq_some_iff.mp h
  obtain ⟨⟨tokens, rest'⟩, -, h⟩ := Option.bind_eq_some_iff.mp h
  obtain ⟨after, -, h⟩ := Option.bind_eq_some_iff.mp h
  by_cases hstart : 1 + p.remarks > settings.nodeLimit
  · simp only [if_pos hstart] at h
    cases h
  · simp only [if_neg hstart] at h
    obtain ⟨g, hg, h⟩ := Option.bind_eq_some_iff.mp h
    -- the document itself is the node that puts the count ahead
    have hw : g.Within settings.nodeLimit 0 := by
      refine Growth.of_foldlM_eq_some
        (fun _ _ _ => Growth.Within.take fun _ _ _ => Growth.Within.enter) ?_ hg
      exact ⟨rfl, not_lt.mp hstart, by show 0 + 0 < 1 + p.remarks; omega⟩
    by_cases hopen : (!g.frames.isEmpty || decide (g.nodes + after > settings.nodeLimit)) = true
    · simp only [if_pos hopen] at h
      cases h
    · simp only [if_neg hopen] at h
      have hcount : d.elementCount = (g.finished.map Element.elementCount).sum := by
        have htop : d.topElements = g.finished.reverse := by
          split at h
          · cases h
          · next root later hfinished =>
            obtain rfl := Option.some.inj h
            exact hfinished.symm
        unfold Document.elementCount
        rw [htop, List.map_reverse, List.sum_reverse]
      have hlt := hw.lt_nodes
      have hle := hw.nodes_le
      unfold Growth.elementCount at hlt
      omega

end CloudNet.Xml

namespace CloudNet

theorem Document.elementCount_lt_of_ofXml {settings : Xml.Settings} {s : String} {d : Document}
    (h : ofXml settings s = .ok d) : d.elementCount < settings.nodeLimit := by
  unfold ofXml at h
  split at h
  · next hd =>
    obtain rfl := Except.ok.inj h
    exact Xml.elementCount_lt_of_document? hd
  · cases h

end CloudNet
