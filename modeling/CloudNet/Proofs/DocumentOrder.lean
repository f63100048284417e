import CloudNet.Document.Element
import Mathlib.Data.List.Lex
import Mathlib.Data.List.Sort

/-!
# Spots in documents

Two elements of a document can be alike in all they hold and are told apart by where they stand
only. A spot says where: which child to go to, level by level. `Element.spots` lists the spots of a
tree in the order of the document, each element before those inside of it.

* `Element.mem_spots_iff`: the spots of a tree are those at which there is an element.
* `Element.pairwise_spots`: the order of the document is that in which spots are compared level by
  level, so no spot is listed twice (`Element.nodup_spots`).
* `Spot.append_lt_append`: spots at one level are in the order of those above them.
-/

namespace CloudNet

/-- A spot below an element: which child to go to, level by level. -/
abbrev Spot := List Nat

mutual

/-- The spots of a piece of content, its own first. A text has none. -/
def Content.spots : Content → List Spot
  | .element _ _ content => [] :: Content.spotsFrom 0 content
  | .text _ => []

/-- The spots of pieces of content, the first element of which is child `k`. -/
def Content.spotsFrom : Nat → List Content → List Spot
  | _, [] => []
  | k, c :: rest =>
    c.spots.map (k :: ·) ++ Content.spotsFrom (if c.element?.isSome then k + 1 else k) rest

end

namespace Element

/-- The element at a spot. -/
def at? (e : Element) : Spot → Option Element
  | [] => some e
  | k :: rest => e.children[k]?.bind (·.at? rest)

/-- The spots of an element and of all inside of it, in the order of the document. -/
def spots (e : Element) : List Spot := e.toContent.spots

end Element

/-! ## Comparing spots -/

theorem Spot.append_lt_append {q r : Spot} (h : q < r) (hlevel : q.length = r.length) (i j : Nat) :
    q ++ [i] < r ++ [j] := by
  induction q generalizing r with
  | nil => exact absurd h (by simp [List.length_eq_zero_iff.mp hlevel.symm])
  | cons k q ih =>
    cases r with
    | nil => exact absurd hlevel (by simp)
    | cons l r =>
      rw [List.cons_append, List.cons_append, List.cons_lt_cons_iff]
      rcases List.cons_lt_cons_iff.mp h with hkl | ⟨hkl, hqr⟩
      · exact .inl hkl
      · exact .inr ⟨hkl, ih hqr (Nat.succ.inj hlevel)⟩

/-- The children of an element are in the order of their numbers. -/
theorem Spot.append_lt_append_right (q : Spot) {i j : Nat} (h : i < j) : q ++ [i] < q ++ [j] := by
  induction q with
  | nil => exact List.cons_lt_cons_iff.mpr (.inl h)
  | cons k q ih => exact List.cons_lt_cons_iff.mpr (.inr ⟨rfl, ih⟩)

/-- Below a child the spots are in the order that they have there. -/
theorem Spot.pairwise_map_cons {qs : List Spot} (h : qs.Pairwise (· < ·)) (k : Nat) :
    (qs.map (k :: ·)).Pairwise (· < ·) :=
  List.pairwise_map.mpr (h.imp fun hqr => List.cons_lt_cons_iff.mpr (.inr ⟨rfl, hqr⟩))

/-! ## Elements at spots -/

namespace Element

/-- The element at a spot below a spot. -/
theorem at?_append (e : Element) (q r : Spot) : e.at? (q ++ r) = (e.at? q).bind (·.at? r) := by
  induction q generalizing e with
  | nil => rfl
  | cons k q ih =>
    rw [List.cons_append, at?, at?, Option.bind_assoc]
    exact Option.bind_congr fun child _ => ih child

/-- The children of the element at a spot. -/
theorem at?_append_singleton {e found : Element} {q : Spot} (h : e.at? q = some found) (k : Nat) :
    e.at? (q ++ [k]) = found.children[k]? := by
  rw [at?_append, h, Option.bind_some, at?]
  exact Option.bind_fun_some _

end Element

/-! ## The order of the document -/

namespace Content

/-- The spots of pieces of content are those of the elements among them, which are the children. -/
theorem spotsFrom_eq (k : Nat) (content : List Content) :
    spotsFrom k content = ((content.filterMap element?).zipIdx k).flatMap fun x =>
      x.1.spots.map (x.2 :: ·) := by
  induction content generalizing k with
  | nil => rfl
  | cons c rest ih =>
    rw [spotsFrom, ih]
    cases c with
    | element name attributes inner =>
      have hsome : (element name attributes inner).element? = some ⟨name, attributes, inner⟩ := rfl
      rw [List.filterMap_cons_some hsome, List.zipIdx_cons, List.flatMap_cons]
      rfl
    | text s =>
      rw [List.filterMap_cons_none rfl]
      rfl

/-- No spot is in front of the first child. -/
theorem exists_cons_of_mem_spotsFrom {k : Nat} {content : List Content} {q : Spot}
    (h : q ∈ spotsFrom k content) : ∃ j rest, q = j :: rest ∧ k ≤ j := by
  rw [spotsFrom_eq] at h
  obtain ⟨⟨child, j⟩, hchild, hq⟩ := List.mem_flatMap.mp h
  obtain ⟨rest, -, rfl⟩ := List.mem_map.mp hq
  exact ⟨j, rest, rfl, List.le_snd_of_mem_zipIdx hchild⟩

mutual

/-- The spots of a piece of content are listed in order. -/
theorem pairwise_spots : (c : Content) → c.spots.Pairwise (· < ·)
  | .text _ => .nil
  | .element _ _ content => by
    rw [spots]
    refine List.pairwise_cons.mpr ⟨fun q hq => ?_, pairwise_spotsFrom 0 content⟩
    obtain ⟨j, rest, rfl, -⟩ := exists_cons_of_mem_spotsFrom hq
    exact List.nil_lt_cons j rest

/-- So are those of pieces of content, child after child. -/
theorem pairwise_spotsFrom : (k : Nat) → (content : List Content) →
    (spotsFrom k content).Pairwise (· < ·)
  | _, [] => .nil
  | k, c :: rest => by
    rw [spotsFrom]
    refine List.pairwise_append.mpr
      ⟨Spot.pairwise_map_cons (pairwise_spots c) k, pairwise_spotsFrom _ rest, fun q hq r hr => ?_⟩
    obtain ⟨q, hq, rfl⟩ := List.mem_map.mp hq
    obtain ⟨j, r, rfl, hj⟩ := exists_cons_of_mem_spotsFrom hr
    -- a text has no spots, so the content is an element and the next child has the next number
    have hkj : k < j := by
      cases c with
      | text s => exact absurd hq List.not_mem_nil
      | element name attributes inner => exact hj
    exact List.cons_lt_cons_iff.mpr (.inl hkj)

end

end Content

namespace Element

/-- The spots of an element: its own, and those of its children in turn. -/
theorem spots_eq (e : Element) :
    e.spots = [] :: e.children.zipIdx.flatMap fun x => x.1.spots.map (x.2 :: ·) := by
  have hspots : e.spots = [] :: Content.spotsFrom 0 e.content := rfl
  rw [hspots, Content.spotsFrom_eq]
  rfl

/-- **The spots of a tree** are those at which there is an element. -/
theorem mem_spots_iff {e : Element} {q : Spot} : q ∈ e.spots ↔ (e.at? q).isSome := by
  induction q generalizing e with
  | nil =>
    rw [spots_eq]
    exact iff_of_true List.mem_cons_self rfl
  | cons k q ih =>
    rw [spots_eq, at?]
    simp only [List.mem_cons, reduceCtorEq, false_or, List.mem_flatMap, List.mem_map,
      List.cons.injEq, Prod.exists, List.mk_mem_zipIdx_iff_getElem?]
    constructor
    · rintro ⟨child, _, hchild, r, hr, rfl, rfl⟩
      rw [hchild]
      exact ih.mp hr
    · intro h
      cases hchild : e.children[k]? with
      | none =>
        rw [hchild] at h
        exact absurd h (by simp)
      | some child =>
        rw [hchild] at h
        exact ⟨child, k, hchild, q, ih.mpr h, rfl, rfl⟩

/-- **The order of the document** is that in which spots are compared level by level. -/
theorem pairwise_spots (e : Element) : e.spots.Pairwise (· < ·) :=
  Content.pairwise_spots e.toContent

/-- No element stands at two spots. -/
theorem nodup_spots (e : Element) : e.spots.Nodup := e.pairwise_spots.nodup

end Element

end CloudNet
