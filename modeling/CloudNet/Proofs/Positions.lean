import CloudNet.Lookup
import Mathlib.Data.List.Sort

/-!
# Lists of positions

Entities refer to each other by their positions in the lists of the model. `Indexes` says that a
list of positions is complete for a condition: it has each position at which the condition holds
once, in ascending order, and no other one. There is only one such list (`Indexes.unique`), so
everything that is read through it is determined by the condition.

* `indexes_positionsWhere`: `positionsWhere` lists the positions completely.
* `Indexes.lt_length`: no listed position is outside the list.
* `Indexes.atPositions_eq`: what stands at the positions are the elements with the condition, in
  order and none of them lost.
* `firstNamed_index?`: what a look-up by name answers, without reference to how it searches.
-/

namespace CloudNet

variable {α β : Type}

/-- `positions` are those of the elements of `xs` with `p`, each once and in ascending order. -/
structure Indexes (positions : List Nat) (p : α → Prop) (xs : List α) : Prop where
  ascending : positions.Pairwise (· < ·)
  mem_iff : ∀ j, j ∈ positions ↔ ∃ x, xs[j]? = some x ∧ p x

/-- `found` is the position of the first element of `xs` that goes by `name`, if there is one. -/
def FirstNamed (key : α → String) (name : String) (xs : List α) : Option Nat → Prop
  | none => ∀ x ∈ xs, key x ≠ name
  | some i => (∃ x, xs[i]? = some x ∧ key x = name) ∧ ∀ x ∈ xs.take i, key x ≠ name

/-! ## Completeness of `positionsWhere` -/

theorem pairwise_positionsWhere (p : α → Bool) (xs : List α) :
    (positionsWhere p xs).Pairwise (· < ·) := by
  have hall : (xs.zipIdx.map Prod.snd).Pairwise (· < ·) := by
    rw [List.zipIdx_map_snd]
    exact List.pairwise_lt_range'
  exact hall.sublist (List.filter_sublist.map Prod.snd)

/-- **`positionsWhere` lists the positions of a condition completely.** -/
theorem indexes_positionsWhere (p : α → Bool) (xs : List α) :
    Indexes (positionsWhere p xs) (fun x => p x = true) xs :=
  ⟨pairwise_positionsWhere p xs, fun _ => mem_positionsWhere⟩

@[simp] theorem positionsWhere_nil (p : α → Bool) : positionsWhere p ([] : List α) = [] := rfl

/-- Passing to images only changes what the condition is about. -/
theorem positionsWhere_map (p : β → Bool) (f : α → β) (xs : List α) :
    positionsWhere p (xs.map f) = positionsWhere (fun x => p (f x)) xs := by
  unfold positionsWhere
  rw [List.zipIdx_map, List.filter_map, List.map_map]
  rfl

/-! ## Consequences of completeness -/

namespace Indexes

variable {positions other : List Nat} {p q : α → Prop} {xs : List α}

/-- **A condition has one complete list of positions only.** -/
theorem unique (h : Indexes positions p xs) (h' : Indexes other p xs) : positions = other :=
  h.ascending.eq_of_mem_iff h'.ascending fun j => (h.mem_iff j).trans (h'.mem_iff j).symm

theorem congr (h : Indexes positions p xs) (hpq : ∀ x ∈ xs, p x ↔ q x) :
    Indexes positions q xs := by
  refine ⟨h.ascending, fun j => (h.mem_iff j).trans (exists_congr fun x => ?_)⟩
  exact and_congr_right fun hx => hpq x (List.mem_of_getElem? hx)

/-- The list is the one that `positionsWhere` computes. -/
theorem eq_positionsWhere {p : α → Bool} (h : Indexes positions (fun x => p x = true) xs) :
    positions = positionsWhere p xs :=
  h.unique (indexes_positionsWhere p xs)

/-- **Every position is one of the list.** -/
theorem lt_length (h : Indexes positions p xs) {j : Nat} (hj : j ∈ positions) :
    j < xs.length := by
  obtain ⟨x, hx, -⟩ := (h.mem_iff j).mp hj
  exact (List.getElem?_eq_some_iff.mp hx).1

/-- Whether a position is listed is a matter of the element there. -/
theorem mem_iff_of_getElem? (h : Indexes positions p xs) {j : Nat} {x : α}
    (hx : xs[j]? = some x) : j ∈ positions ↔ p x := by
  rw [h.mem_iff]
  constructor
  · rintro ⟨y, hy, hp⟩
    rw [hx] at hy
    exact Option.some.inj hy ▸ hp
  · intro hp
    exact ⟨x, hx, hp⟩

end Indexes

/-- At each of the positions stands an element with the condition, and none is left out. -/
theorem map_getElem?_positionsWhere (p : α → Bool) (xs : List α) :
    (positionsWhere p xs).map (xs[·]?) = (xs.filter p).map some := by
  have hat : ∀ x ∈ xs.zipIdx, xs[x.2]? = some x.1 := fun x hx =>
    List.mk_mem_zipIdx_iff_getElem?.mp hx
  unfold positionsWhere
  rw [List.map_map]
  calc (xs.zipIdx.filter fun x => p x.1).map ((xs[·]?) ∘ Prod.snd)
      = (xs.zipIdx.filter (p ∘ Prod.fst)).map (some ∘ Prod.fst) :=
        List.map_congr_left fun x hx => hat x (List.mem_filter.mp hx).1
    _ = (xs.filter p).map some := by rw [← List.map_map, ← List.filter_map, List.zipIdx_map_fst]

theorem atPositions_positionsWhere (p : α → Bool) (xs : List α) :
    atPositions xs (positionsWhere p xs) = xs.filter p := by
  have hsome := congrArg (List.filterMap id) (map_getElem?_positionsWhere p xs)
  rw [List.filterMap_map, List.filterMap_map] at hsome
  exact hsome.trans List.filterMap_some

/-- **What stands at the positions are the elements with the condition**, in their order. -/
theorem Indexes.atPositions_eq {positions : List Nat} {p : α → Bool} {xs : List α}
    (h : Indexes positions (fun x => p x = true) xs) :
    atPositions xs positions = xs.filter p := by
  rw [h.eq_positionsWhere]
  exact atPositions_positionsWhere p xs

/-- Keeping those of the positions at which a second condition holds. -/
theorem Indexes.filter {positions : List Nat} {p : α → Prop} {xs : List α} (q : α → Bool)
    (h : Indexes positions p xs) :
    Indexes (positions.filter fun j => xs[j]?.any q) (fun x => p x ∧ q x = true) xs := by
  refine ⟨h.ascending.sublist List.filter_sublist, fun j => ?_⟩
  rw [List.mem_filter, h.mem_iff]
  constructor
  · rintro ⟨⟨x, hx, hp⟩, hq⟩
    rw [hx, Option.any_some] at hq
    exact ⟨x, hx, hp, hq⟩
  · rintro ⟨x, hx, hp, hq⟩
    exact ⟨⟨x, hx, hp⟩, by rw [hx]; exact hq⟩

/-! ## Look-ups by name -/

namespace Lookup

/-- **A look-up answers the position of the first entity of the name**, if there is one. -/
theorem firstNamed_index? (key : α → String) (name : String) (xs : List α) :
    FirstNamed key name xs (index? key name xs) := by
  have hi : index? key name xs = xs.findIdx? fun x => key x = name := by
    simp [index?, indexFrom?]
  rw [hi]
  cases hf : xs.findIdx? fun x => key x = name with
  | none => simpa [FirstNamed, List.findIdx?_eq_none_iff] using hf
  | some i =>
    obtain ⟨hlt, hkey, hbefore⟩ := List.findIdx?_eq_some_iff_getElem.mp hf
    refine ⟨⟨xs[i], List.getElem?_eq_getElem hlt, by simpa using hkey⟩, fun x hx => ?_⟩
    obtain ⟨j, hj, rfl⟩ := List.getElem_of_mem hx
    rw [List.length_take] at hj
    rw [List.getElem_take]
    simpa using hbefore j (by omega)

end Lookup

/-- The position that is found is one of the list. -/
theorem FirstNamed.lt_length {key : α → String} {name : String} {xs : List α}
    {found : Option Nat} (h : FirstNamed key name xs found) : ∀ i ∈ found, i < xs.length := by
  intro i hi
  rw [Option.mem_def.mp hi] at h
  obtain ⟨⟨x, hx, -⟩, -⟩ := h
  exact (List.getElem?_eq_some_iff.mp hx).1

/-- A reference by name leads to the first entity of the name. -/
theorem FirstNamed.bind_getElem? {key : α → String} {name : String} {xs : List α}
    {found : Option Nat} (h : FirstNamed key name xs found) :
    (found.bind fun i => xs[i]?) = xs.find? fun x => key x = name := by
  cases found with
  | none =>
    refine (List.find?_eq_none.mpr fun x hx => ?_).symm
    rw [decide_eq_true_iff]
    exact h x hx
  | some i =>
    obtain ⟨⟨x, hx, hkey⟩, hbefore⟩ := h
    obtain ⟨hlt, rfl⟩ := List.getElem?_eq_some_iff.mp hx
    refine hx.trans (List.find?_eq_some_iff_getElem.mpr ?_).symm
    refine ⟨decide_eq_true hkey, i, hlt, rfl, fun j hj => ?_⟩
    have hmem : xs[j] ∈ xs.take i := List.mem_take_iff_getElem.mpr ⟨j, by omega, rfl⟩
    rw [decide_eq_false (hbefore _ hmem)]
    rfl

/-- Looking a name up from the start finds the first entity of the name. -/
theorem Lookup.fst_findFrom_zero (key : α → String) (name : String) (xs : List α) :
    (findFrom key name xs 0).1 = xs.find? fun x => key x = name := by
  have hfirst := (firstNamed_index? key name xs).bind_getElem?
  unfold index? at hfirst
  rw [← hfirst]
  unfold findFrom
  cases indexFrom? key name xs 0 with
  | none => rfl
  | some i => rfl

/-- Passing to images only changes what the names are read from. -/
theorem FirstNamed.of_map {key : β → String} {name : String} {f : α → β} {xs : List α}
    {found : Option Nat} (h : FirstNamed key name (xs.map f) found) :
    FirstNamed (fun x => key (f x)) name xs found := by
  cases found with
  | none => exact fun x hx => h (f x) (List.mem_map_of_mem hx)
  | some i =>
    obtain ⟨⟨y, hy, hkey⟩, hbefore⟩ := h
    rw [List.getElem?_map] at hy
    obtain ⟨x, hx, rfl⟩ := Option.map_eq_some_iff.mp hy
    refine ⟨⟨x, hx, hkey⟩, fun z hz => hbefore (f z) ?_⟩
    rw [← List.map_take]
    exact List.mem_map_of_mem hz

end CloudNet
