import CloudNet.Document.Query
import CloudNet.Proofs.Building
import CloudNet.Proofs.DocumentOrder
import CloudNet.Proofs.Positions
import CloudNet.Proofs.WrittenPaths

/-!
# What paths lead to

A route is followed from all elements that its first steps lead to at once. `Leads` says what it
leads to one chain of children at a time, each child a fit for its step. All that is reached by then
stands on one level of the document, so the next step keeps it in order and finds nothing twice.

* `Element.satisfies_iff`: the elements that a step goes to.
* `Element.mem_foldl_stepAllSpots_iff`: a route leads to the spots at the ends of its chains.
* `Element.Located.step`: one step goes from spots to spots as it goes from elements to elements,
  one level down and in the order of the document.
* `Element.Located.route`, `Element.followSpots_sublist`: so does a route, and it leads to some of
  the spots of the document, in its order.
* `Element.followSpots_append`: what two routes lead to, one after the other.
* `Path.ofText_followedBy`, `Path.ofText_withAttr`: paths that are put together can be read.
* `Document.evaluatesPaths`: all of this of the queries by paths that are read from texts, at every
  element of every document.
-/

namespace CloudNet

/-! ## Steps -/

/-- What a step asks of an element: the name, unless any will do, and what its condition says. -/
structure Step.Fits (s : Step) (e : Element) : Prop where
  name : ∀ n, s.test = .named n → e.name = n
  condition : ∀ c, s.condition = some c → e.attr? c.attr = some c.value

theorem Element.satisfies_iff {e : Element} {s : Step} : e.satisfies s = true ↔ s.Fits e := by
  obtain ⟨test, condition⟩ := s
  have hfits : Step.Fits ⟨test, condition⟩ e ↔ (∀ n, test = .named n → e.name = n) ∧
      ∀ c, condition = some c → e.attr? c.attr = some c.value :=
    ⟨fun h => ⟨h.name, h.condition⟩, fun h => ⟨h.1, h.2⟩⟩
  rw [hfits]
  unfold Element.satisfies
  cases test <;> cases condition <;> simp

/-- A route leads from a spot to another, each of its steps to a child that fits. -/
inductive Leads (top : Element) : Route → Spot → Spot → Prop
  | here (q : Spot) : Leads top [] q q
  | step {s : Step} {route : Route} {q r : Spot} {k : Nat} {child : Element}
      (hchild : top.at? (q ++ [k]) = some child) (hfits : s.Fits child)
      (hrest : Leads top route (q ++ [k]) r) : Leads top (s :: route) q r

namespace Element

/-- The spots of the children that a step goes to from the element at a spot. -/
def stepSpots (top : Element) (s : Step) (q : Spot) : List Spot :=
  match top.at? q with
  | none => []
  | some e => (positionsWhere (·.satisfies s) e.children).map fun k => q ++ [k]

/-- The spots of the children that a step goes to from the elements at any of some spots. -/
def stepAllSpots (top : Element) (qs : List Spot) (s : Step) : List Spot :=
  qs.flatMap (top.stepSpots s)

/-- The spots of the elements that a route leads to from the element at a spot. -/
def followSpots (top : Element) (route : Route) (q : Spot) : List Spot :=
  route.foldl top.stepAllSpots [q]

variable {top : Element}

/-- A step goes to the children that fit. -/
theorem mem_stepSpots_iff {s : Step} {q r : Spot} :
    r ∈ top.stepSpots s q ↔
      ∃ k child, top.at? (q ++ [k]) = some child ∧ s.Fits child ∧ r = q ++ [k] := by
  unfold stepSpots
  cases hq : top.at? q with
  | none =>
    have hnone : ∀ k, top.at? (q ++ [k]) = none := fun k => by rw [at?_append, hq]; rfl
    simp [hnone]
  | some e =>
    simp only [List.mem_map, mem_positionsWhere, at?_append_singleton hq, satisfies_iff]
    constructor
    · rintro ⟨k, ⟨child, hchild, hfits⟩, rfl⟩
      exact ⟨k, child, hchild, hfits, rfl⟩
    · rintro ⟨k, child, hchild, hfits, rfl⟩
      exact ⟨k, ⟨child, hchild, hfits⟩, rfl⟩

/-- **A route leads to the ends of its chains** and to nothing else. -/
theorem mem_foldl_stepAllSpots_iff {route : Route} {qs : List Spot} {r : Spot} :
    r ∈ route.foldl top.stepAllSpots qs ↔ ∃ q ∈ qs, Leads top route q r := by
  induction route generalizing qs with
  | nil =>
    constructor
    · intro h
      exact ⟨r, h, .here r⟩
    · rintro ⟨q, hq, hleads⟩
      cases hleads
      exact hq
  | cons s route ih =>
    rw [List.foldl_cons, ih]
    simp only [stepAllSpots, List.mem_flatMap, mem_stepSpots_iff]
    constructor
    · rintro ⟨_, ⟨q, hq, k, child, hchild, hfits, rfl⟩, hleads⟩
      exact ⟨q, hq, .step hchild hfits hleads⟩
    · rintro ⟨q, hq, hleads⟩
      cases hleads with
      | step hchild hfits hrest => exact ⟨_, ⟨q, hq, _, _, hchild, hfits, rfl⟩, hrest⟩

/-- The spots are those of the elements, in the order of the document and all on one level. -/
structure Located (top : Element) (level : Nat) (qs : List Spot) (es : List Element) : Prop where
  elements : qs.map top.at? = es.map some
  level : ∀ q ∈ qs, q.length = level
  ordered : qs.Pairwise (· < ·)

theorem located_singleton {q : Spot} {e : Element} (h : top.at? q = some e) :
    Located top q.length [q] [e] where
  elements := by rw [List.map_singleton, h]; rfl
  level := by simp
  ordered := List.pairwise_singleton _ _

/-- The spots that a step goes to are those of the elements that it goes to. -/
theorem map_at?_stepSpots {s : Step} {q : Spot} :
    (top.stepSpots s q).map top.at? =
      ((top.at? q).map fun e => (e.step s).map some).getD [] := by
  unfold stepSpots
  cases hq : top.at? q with
  | none => rfl
  | some e =>
    have hat : top.at? ∘ (fun k => q ++ [k]) = (e.children[·]?) := by
      funext k
      exact at?_append_singleton hq k
    simp only [List.map_map, hat, map_getElem?_positionsWhere, Option.map_some, Option.getD_some]
    rfl

theorem pairwise_stepSpots (s : Step) (q : Spot) : (top.stepSpots s q).Pairwise (· < ·) := by
  unfold stepSpots
  split
  · exact .nil
  · exact List.pairwise_map.mpr
      ((pairwise_positionsWhere _ _).imp fun h => q.append_lt_append_right h)

/-- **One step** goes one level down and keeps the order of the document. -/
theorem Located.step {level : Nat} {qs : List Spot} {es : List Element}
    (h : Located top level qs es) (s : Step) :
    Located top (level + 1) (top.stepAllSpots qs s) (stepAll es s) where
  elements := by
    unfold stepAllSpots stepAll
    rw [List.map_flatMap, List.map_flatMap]
    simp only [map_at?_stepSpots]
    rw [← List.flatMap_map top.at? fun found =>
      (found.map fun e : Element => (e.step s).map some).getD [], h.elements, List.flatMap_map]
    rfl
  level := by
    intro r hr
    obtain ⟨q, hq, hr⟩ := List.mem_flatMap.mp hr
    obtain ⟨k, -, -, -, rfl⟩ := mem_stepSpots_iff.mp hr
    rw [List.length_append, h.level q hq, List.length_singleton]
  ordered := by
    -- all children of an element come before all of a later element on its level
    refine List.pairwise_flatMap.mpr ⟨fun q _ => pairwise_stepSpots s q, ?_⟩
    refine h.ordered.imp_of_mem fun {q q'} hq hq' hlt r hr r' hr' => ?_
    obtain ⟨k, -, -, -, rfl⟩ := mem_stepSpots_iff.mp hr
    obtain ⟨k', -, -, -, rfl⟩ := mem_stepSpots_iff.mp hr'
    exact Spot.append_lt_append hlt ((h.level q hq).trans (h.level q' hq').symm) k k'

/-- **A route** goes down a level with each step and keeps the order of the document. -/
theorem Located.route {level : Nat} {qs : List Spot} {es : List Element}
    (h : Located top level qs es) (route : Route) :
    Located top (level + route.length) (route.foldl top.stepAllSpots qs)
      (route.foldl stepAll es) := by
  induction route generalizing level qs es with
  | nil => exact h
  | cons s route ih =>
    have hlevel : level + (s :: route).length = level + 1 + route.length := by
      rw [List.length_cons]
      omega
    rw [hlevel]
    exact ih (h.step s)

/-- Following a route from some spots is following it from each of them in turn. -/
theorem foldl_stepAllSpots (top : Element) (qs : List Spot) (route : Route) :
    route.foldl top.stepAllSpots qs = qs.flatMap (top.followSpots route) :=
  foldl_flatMap top.stepSpots qs route

/-- **Two routes one after the other** lead where the second one leads from the spots that the first
one leads to. -/
theorem followSpots_append (top : Element) (route route' : Route) (q : Spot) :
    top.followSpots (route ++ route') q =
      (top.followSpots route q).flatMap (top.followSpots route') := by
  rw [followSpots, List.foldl_append, foldl_stepAllSpots]
  rfl

/-- **The spots that a route leads to** are among those of the document, in its order. -/
theorem followSpots_sublist {q : Spot} {e : Element} (h : top.at? q = some e) (route : Route) :
    (top.followSpots route q).Sublist top.spots := by
  have hlocated := (located_singleton h).route route
  have hinside : top.followSpots route q ⊆ top.spots := by
    intro r hr
    have hfound : top.at? r ∈ (route.foldl stepAll [e]).map some := by
      rw [← hlocated.elements]
      exact List.mem_map_of_mem hr
    obtain ⟨found, -, hfound⟩ := List.mem_map.mp hfound
    rw [mem_spots_iff, ← hfound]
    rfl
  exact List.sublist_of_subperm_of_pairwise (List.subperm_of_subset hlocated.ordered.nodup hinside)
    hlocated.ordered top.pairwise_spots

end Element

/-! ## Paths -/

/-- The last of the things that are made of a list is made of the last element that gives one. -/
theorem getLast?_filterMap_eq_some_iff {α β : Type} {f : α → Option β} {xs : List α} {b : β} :
    (xs.filterMap f).getLast? = some b ↔
      ∃ before x after, xs = before ++ x :: after ∧ f x = some b ∧ ∀ y ∈ after, f y = none := by
  rw [List.getLast?_filterMap, List.findSome?_eq_some_iff]
  constructor
  · rintro ⟨after, x, before, hsplit, hx, hafter⟩
    refine ⟨before.reverse, x, after.reverse, ?_, hx, fun y hy => hafter y (List.mem_reverse.mp hy)⟩
    rw [← List.reverse_reverse xs, hsplit]
    simp
  · rintro ⟨before, x, after, rfl, hx, hafter⟩
    refine ⟨after.reverse, x, before.reverse, ?_, hx, fun y hy => hafter y (List.mem_reverse.mp hy)⟩
    simp

namespace Path

/-- The path that goes on from where a path leads to as another one does from its context. -/
def followedBy (p q : Path) : Path := { p with steps := p.steps ++ q.steps, attr := q.attr }

/-- The path to an attribute of the elements that a path leads to. -/
def withAttr (p : Path) (a : String) : Path := { p with attr := some a }

variable {p q : Path}

/-- A path from the top that is read from a text has a step. -/
theorem steps_ne_nil_of_spells {t : List Char} (h : p.Spells t) (hp : p.attr = none)
    (habsolute : p.absolute = true) : p.steps ≠ [] := by
  have hparts : p.parts ≠ [] := by
    cases h with
    | top _ hne | full _ hne | short _ hne => exact hne
    | here hrelative _ => exact absurd (habsolute.symm.trans hrelative) (by decide)
  simpa [hp] using parts_ne_nil_iff.mp hparts

/-- **Paths that were read** make up a path that is read from its written form. -/
theorem ofText_followedBy {x y : String} (hx : ofText x = .ok p) (hy : ofText y = .ok q)
    (hp : p.attr = none) : ofText (p.followedBy q).render = .ok (p.followedBy q) := by
  obtain ⟨hpspelled, hpspells⟩ := spells_of_ofText hx
  obtain ⟨hqspelled, -⟩ := spells_of_ofText hy
  have hspelled : (p.followedBy q).Spelled := by
    refine ⟨fun s hs => ?_, hqspelled.attr⟩
    rcases List.mem_append.mp hs with hs | hs
    · exact hpspelled.steps s hs
    · exact hqspelled.steps s hs
  have hsomewhere : (p.followedBy q).absolute = true → (p.followedBy q).parts ≠ [] := by
    refine fun habsolute => parts_ne_nil_iff.mpr (.inl fun hnone => ?_)
    exact steps_ne_nil_of_spells hpspells hp habsolute (List.append_eq_nil_iff.mp hnone).1
  exact (wellFormed_iff.2 ⟨hspelled, hsomewhere⟩).ofText_render

/-- A last part comes after a separator. -/
theorem intercalate_append_singleton {sep : List Char} {parts : List (List Char)}
    (hne : parts ≠ []) (last : List Char) :
    sep.intercalate (parts ++ [last]) = sep.intercalate parts ++ sep ++ last := by
  induction parts with
  | nil => exact absurd rfl hne
  | cons part rest ih =>
    cases rest with
    | nil => simp [List.intercalate_cons_cons]
    | cons next rest =>
      have hrest := ih (List.cons_ne_nil _ _)
      rw [List.cons_append] at hrest
      rw [List.cons_append, List.cons_append, List.intercalate_cons_cons, hrest,
        List.intercalate_cons_cons]
      simp only [List.append_assoc]

/-- What a path to an attribute spells. -/
theorem body_withAttr (hp : p.attr = none) (a : String) :
    (p.withAttr a).body =
      if p.parts = [] then '@' :: a.toList else p.body ++ '/' :: '@' :: a.toList := by
  have hparts : (p.withAttr a).parts = p.parts ++ ["@" ++ a] := by simp [withAttr, parts, hp]
  have hat : ("@" ++ a).toList = '@' :: a.toList := by simp
  unfold body
  rw [hparts, List.map_append, List.map_singleton, hat]
  split
  · next hnone => rw [hnone]; simp
  · next hne =>
    rw [intercalate_append_singleton (mt List.map_eq_nil_iff.mp hne)]
    simp

/-- Behind a text that spells a path the attribute spells the path to it. -/
theorem Spells.withAttr {t : List Char} (h : p.Spells t) (hp : p.attr = none) (a : String) :
    (p.withAttr a).Spells (t ++ '/' :: '@' :: a.toList) := by
  have hsome : (p.withAttr a).parts ≠ [] := parts_ne_nil_iff.mpr (.inr rfl)
  have hbody := body_withAttr hp a
  cases h with
  | top habsolute hne =>
    rw [if_neg hne] at hbody
    rw [List.cons_append, ← hbody]
    exact .top habsolute hsome
  | here hrelative hnone =>
    rw [if_pos hnone] at hbody
    rw [List.singleton_append, ← hbody]
    exact .full hrelative hsome
  | full hrelative hne =>
    rw [if_neg hne] at hbody
    rw [List.cons_append, List.cons_append, ← hbody]
    exact .full hrelative hsome
  | short hrelative hne =>
    rw [if_neg hne] at hbody
    rw [← hbody]
    exact .short hrelative hsome

/-- **An attribute is read** where it is written behind a path. -/
theorem ofText_withAttr {x a : String} (hx : ofText x = .ok p) (hp : p.attr = none)
    (ha : isName a.toList = true) : ofText (Text.trim x ++ "/@" ++ a) = .ok (p.withAttr a) := by
  obtain ⟨hspelled, hs⟩ := spells_of_ofText hx
  have hspelled' : (p.withAttr a).Spelled := by
    refine ⟨hspelled.steps, fun b hb => ?_⟩
    obtain rfl := Option.some.inj hb
    exact ha
  have hchars : (Text.trim x ++ "/@" ++ a).toList =
      Text.trimChars x.toList ++ '/' :: '@' :: a.toList := by
    simp [Text.trim]
  refine ofText_of_spells hspelled' ?_
  rw [hchars, (hs.withAttr hp a).trimChars_eq_self hspelled']
  exact hs.withAttr hp a

/-- The spot that a path starts from, given the one of its context. -/
def startSpot (p : Path) (c : Spot) : Spot := if p.absolute then [] else c

end Path

namespace Document

/-- The spots of the elements that the steps of a path lead to. -/
def selectSpots (d : Document) (p : Path) (c : Spot) : List Spot :=
  d.top.followSpots p.steps (p.startSpot c)

/-- The elements are exactly those that a path leads to, in the order of the document and each
once: they stand at the ends of the chains of fitting children. -/
structure Exact (d : Document) (p : Path) (c : Spot) (es : List Element) : Prop where
  elements : (d.selectSpots p c).map d.top.at? = es.map some
  reached : ∀ q, q ∈ d.selectSpots p c ↔ Leads d.top p.steps (p.startSpot c) q
  ordered : (d.selectSpots p c).Sublist d.top.spots
  once : (d.selectSpots p c).Nodup

/-- What queries by paths answer, given the context element and its spot. -/
structure EvaluatesPaths (d : Document) (c : Spot) (context : Element) : Prop where
  /-- A path leads to what its chains lead to, in order and each once. -/
  nodes : ∀ {x : String} {p : Path}, Path.ofText x = .ok p → p.attr = none →
    d.Exact p c (d.elementsAt x context).value
  /-- Two paths make up one, and it leads to where the second one leads from each of the spots that
  the first one leads to. -/
  composed : ∀ {x y : String} {p q : Path}, Path.ofText x = .ok p → Path.ofText y = .ok q →
    p.attr = none → q.attr = none → q.absolute = false →
      Path.ofText (p.followedBy q).render = .ok (p.followedBy q) ∧
      d.selectSpots (p.followedBy q) c = (d.selectSpots p c).flatMap (d.selectSpots q) ∧
      ∀ z, Path.ofText z = .ok (p.followedBy q) →
        (d.elementsAt z context).value =
          (d.elementsAt x context).value.flatMap fun e => (d.elementsAt y e).value
  /-- A path to elements has the text of each. -/
  texts : ∀ {x : String} {p : Path}, Path.ofText x = .ok p → p.attr = none →
    (d.valuesAt x context).value = (d.elementsAt x context).value.map Element.text ∧
    (d.lastValueAt? x context).value = ((d.elementsAt x context).value.getLast?).map Element.text
  /-- With an attribute behind it, it has the value of each element that carries the attribute. The
  last value is that of the last one of these. -/
  attributes : ∀ {x a : String} {p : Path}, Path.ofText x = .ok p → p.attr = none →
    Path.isName a.toList = true →
      Path.ofText (Text.trim x ++ "/@" ++ a) = .ok (p.withAttr a) ∧
      (d.valuesAt (Text.trim x ++ "/@" ++ a) context).value =
        (d.elementsAt x context).value.filterMap (·.attr? a) ∧
      ∀ v, (d.lastValueAt? (Text.trim x ++ "/@" ++ a) context).value = some v ↔
        ∃ before e after, (d.elementsAt x context).value = before ++ e :: after ∧
          e.attr? a = some v ∧ ∀ other ∈ after, other.attr? a = none

variable {d : Document} {c : Spot} {context : Element}

/-- The element that a path starts from is at the spot that it starts from. -/
theorem at?_startSpot (hc : d.top.at? c = some context) (p : Path) :
    d.top.at? (p.startSpot c) = some (d.start p context) := by
  unfold Path.startSpot start
  split
  · rfl
  · exact hc

/-- **What a path selects** is exactly what it leads to. -/
theorem exact_select (hc : d.top.at? c = some context) (p : Path) :
    d.Exact p c (d.select p context) := by
  have hstart := at?_startSpot hc p
  have hlocated := (Element.located_singleton hstart).route p.steps
  have hordered := Element.followSpots_sublist hstart p.steps
  refine ⟨hlocated.elements, fun q => ?_, hordered, hordered.nodup d.top.nodup_spots⟩
  unfold selectSpots Element.followSpots
  rw [Element.mem_foldl_stepAllSpots_iff]
  simp

theorem selectSpots_followedBy (p : Path) {q : Path} (hq : q.absolute = false) :
    d.selectSpots (p.followedBy q) c = (d.selectSpots p c).flatMap (d.selectSpots q) := by
  have hstart : d.selectSpots q = d.top.followSpots q.steps := by
    funext r
    simp [selectSpots, Path.startSpot, hq]
  rw [hstart]
  exact Element.followSpots_append d.top p.steps q.steps _

theorem select_followedBy (p : Path) {q : Path} (hq : q.absolute = false) :
    d.select (p.followedBy q) context = (d.select p context).flatMap (d.select q) := by
  have hstart : d.select q = fun e => e.follow q.steps := by
    funext e
    simp [select, start, hq]
  rw [hstart]
  exact Element.follow_append _ p.steps q.steps

/-- The last value of a query is the last one of its values. -/
theorem value_lastValueAt? (d : Document) (x : String) (context : Element) :
    (d.lastValueAt? x context).value = (d.valuesAt x context).value.getLast? := rfl

/-- **Paths are evaluated exactly**, in the order of the document and path by path. -/
theorem evaluatesPaths (hc : d.top.at? c = some context) : d.EvaluatesPaths c context where
  nodes hx hp := by
    rw [value_elementsAt hx hp]
    exact exact_select hc _
  composed := by
    intro x y p q hx hy hp hq hrelative
    refine ⟨Path.ofText_followedBy hx hy hp, selectSpots_followedBy p hrelative, fun z hz => ?_⟩
    rw [value_elementsAt hz hq, value_elementsAt hx hp, select_followedBy p hrelative]
    exact List.flatMap_congr fun e _ => (value_elementsAt hy hq d e).symm
  texts := by
    intro x p hx hp
    have hvalues : (d.valuesAt x context).value =
        (d.elementsAt x context).value.map Element.text := by
      rw [value_valuesAt hx, value_elementsAt hx hp]
      unfold values
      rw [hp]
    refine ⟨hvalues, ?_⟩
    rw [value_lastValueAt?, hvalues, List.getLast?_map]
  attributes := by
    intro x a p hx hp ha
    have hread := Path.ofText_withAttr hx hp ha
    have hvalues : (d.valuesAt (Text.trim x ++ "/@" ++ a) context).value =
        (d.elementsAt x context).value.filterMap (·.attr? a) := by
      rw [value_valuesAt hread, value_elementsAt hx hp]
      rfl
    refine ⟨hread, hvalues, fun v => ?_⟩
    rw [value_lastValueAt?, hvalues]
    exact getLast?_filterMap_eq_some_iff

end Document

/-! ## The settings of a cluster -/

/-- The path to the settings of the clusters, whatever the elements above them are called. -/
def Sample.clusterSettings : Path where
  steps := [
    ⟨.any, none⟩, ⟨.named "property", some ⟨"name", "clusters"⟩⟩, ⟨.any, none⟩,
    ⟨.named "property", none⟩]

/-- The path leads to three settings, and their names are read in order. -/
theorem Document.evaluated_in_network :
    Sample.network.top.at? [0] = some Sample.network.root ∧
    Path.ofText "*/property[@name='clusters']/*/property" = .ok Sample.clusterSettings ∧
    Sample.network.Exact Sample.clusterSettings [0]
      (Sample.network.elementsAt "*/property[@name='clusters']/*/property"
        Sample.network.root).value ∧
    Sample.network.selectSpots Sample.clusterSettings [0] =
      [[0, 0, 4, 0, 0], [0, 0, 4, 0, 1], [0, 0, 4, 0, 2]] ∧
    (Sample.network.valuesAt "*/property[@name='clusters']/*/property/@name"
      Sample.network.root).value = ["enabledCCIp", "macPrefix", "nodes"] := by
  have hroot : Sample.network.top.at? [0] = some Sample.network.root := rfl
  have hread : Path.ofText "*/property[@name='clusters']/*/property" = .ok Sample.clusterSettings :=
    rfl
  have hpaths := evaluatesPaths hroot
  obtain ⟨-, hvalues, -⟩ := hpaths.attributes (a := "name") hread rfl (by decide)
  exact ⟨hroot, hread, hpaths.nodes hread rfl, by decide, hvalues.trans (by decide)⟩

end CloudNet
