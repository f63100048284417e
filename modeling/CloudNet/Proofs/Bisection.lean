import CloudNet.Bisection
import Mathlib.Tactic.Common

/-!
# What bisection finds

`Bisection.search` looks at one element of each half that it gives up. `Ordered` is what makes that
enough: elements below the wanted one come first, then those equal to it, then those above it.

* `Narrowed`: the part that can still hold the wanted element. Each halving keeps it
  (`Narrowed.left`, `Narrowed.right`), and so does narrowing to the end (`Narrowed.narrow`).
* `search_eq_none_iff`: bisection fails exactly if no element is the wanted one.
* `search_eq_some`: it finds the wanted one if there is no other.
-/

namespace CloudNet.Bisection

variable {α : Type} {order : α → Ordering}

/-- The list is in order as seen from the wanted element. -/
def Ordered (order : α → Ordering) (xs : List α) : Prop :=
  xs.Pairwise fun x y => (order x = .gt → order y = .gt) ∧ (order y = .lt → order x = .lt)

/-- What stands behind an element that is too large is too large. -/
theorem Ordered.gt_of_le {xs : List α} (h : Ordered order xs) {i j : Nat} {x y : α}
    (hx : xs[i]? = some x) (hy : xs[j]? = some y) (hij : i ≤ j) (hgt : order x = .gt) :
    order y = .gt := by
  obtain ⟨hi, rfl⟩ := List.getElem?_eq_some_iff.mp hx
  obtain ⟨hj, rfl⟩ := List.getElem?_eq_some_iff.mp hy
  by_cases he : i = j
  · subst he
    exact hgt
  · exact (List.pairwise_iff_getElem.mp h i j hi hj (by omega)).1 hgt

/-- What stands before an element that is too small is too small. -/
theorem Ordered.lt_of_lt {xs : List α} (h : Ordered order xs) {i j : Nat} {x y : α}
    (hx : xs[i]? = some x) (hy : xs[j]? = some y) (hij : i < j) (hlt : order y = .lt) :
    order x = .lt := by
  obtain ⟨hi, rfl⟩ := List.getElem?_eq_some_iff.mp hx
  obtain ⟨hj, rfl⟩ := List.getElem?_eq_some_iff.mp hy
  exact (List.pairwise_iff_getElem.mp h i j hi hj hij).2 hlt

/-! ## Narrowing -/

/-- The last element that is not too large is among the `size` ones from `base` on, if there is one
at all. -/
structure Narrowed (order : α → Ordering) (xs : List α) (base size : Nat) : Prop where
  inRange : base + size ≤ xs.length
  notAbove : base = 0 ∨ ∃ x, xs[base]? = some x ∧ order x ≠ .gt
  above : ∀ j x, base + size ≤ j → xs[j]? = some x → order x = .gt

theorem narrowed_whole (order : α → Ordering) (xs : List α) : Narrowed order xs 0 xs.length where
  inRange := by omega
  notAbove := .inl rfl
  above := by
    intro j x hj hx
    have hlt := (List.getElem?_eq_some_iff.mp hx).1
    omega

variable {xs : List α} {base size : Nat}

/-- If the middle is too large, so is all behind it. -/
theorem Narrowed.left (h : Narrowed order xs base size) (ho : Ordered order xs) {x : α}
    (hx : xs[base + size / 2]? = some x) (hgt : order x = .gt) :
    Narrowed order xs base (size - size / 2) where
  inRange := by
    have hin := h.inRange
    omega
  notAbove := h.notAbove
  above := fun _ _ hj hy => ho.gt_of_le hx hy (by omega) hgt

/-- If the middle is not too large, nothing before it is the last one of that kind. -/
theorem Narrowed.right (h : Narrowed order xs base size) {x : α}
    (hx : xs[base + size / 2]? = some x) (hgt : order x ≠ .gt) :
    Narrowed order xs (base + size / 2) (size - size / 2) where
  inRange := by
    have hin := h.inRange
    omega
  notAbove := .inr ⟨x, hx, hgt⟩
  above := fun j y hj hy => h.above j y (by omega) hy

/-- **Narrowing keeps the part that it is to keep**, and leaves one element of it at most. -/
theorem Narrowed.narrow (h : Narrowed order xs base size) (ho : Ordered order xs) :
    ∃ left ≤ 1, Narrowed order xs (narrow order xs.toArray base size) left := by
  induction base, size using Bisection.narrow.induct order xs.toArray with
  | case1 base size hsize =>
    rw [Bisection.narrow, if_pos hsize]
    exact ⟨size, hsize, h⟩
  | case2 base size hsize half mid base' ih =>
    rw [Bisection.narrow, if_neg hsize]
    apply ih
    -- the middle exists, so one of the halves is given up for a reason
    have hin := h.inRange
    have hmid : xs[base + size / 2]? = some xs[base + size / 2] :=
      List.getElem?_eq_getElem (by omega)
    have hbase : base' = if order xs[base + size / 2] == .gt then base else base + size / 2 := by
      simp only [base', mid, half, List.getElem?_toArray, hmid, dite_eq_ite]
    rw [hbase]
    split
    · next hgt => exact h.left ho hmid (beq_iff_eq.mp hgt)
    · next hgt => exact h.right hmid fun he => hgt (beq_iff_eq.mpr he)

/-- If the wanted element is in the list, the one position that is left has it. -/
theorem Narrowed.exists_eq (h : Narrowed order xs base size) (ho : Ordered order xs)
    (hsize : size ≤ 1) {j : Nat} {x : α} (hx : xs[j]? = some x) (heq : order x = .eq) :
    ∃ y, xs[base]? = some y ∧ order y = .eq := by
  have hle : j ≤ base := by
    by_contra hlt
    have hgt := h.above j x (by omega) hx
    rw [heq] at hgt
    exact absurd hgt (by decide)
  by_cases he : j = base
  · subst he
    exact ⟨x, hx, heq⟩
  · obtain hzero | ⟨y, hy, hgt⟩ := h.notAbove
    · omega
    · refine ⟨y, hy, ?_⟩
      cases hc : order y with
      | lt =>
        have hxlt := ho.lt_of_lt hx hy (by omega) hc
        rw [heq] at hxlt
        exact absurd hxlt (by decide)
      | eq => rfl
      | gt => exact absurd hc hgt

/-! ## Searching -/

/-- Bisection answers what stands at the position that is left, if that is the wanted element. -/
theorem search_eq (order : α → Ordering) (xs : List α) :
    search order xs =
      (xs[narrow order xs.toArray 0 xs.length]?).filter fun x => order x == .eq := by
  unfold search
  simp only [List.size_toArray, List.getElem?_toArray]

/-- **In an ordered list bisection fails exactly if no element is the wanted one.** -/
theorem search_eq_none_iff (ho : Ordered order xs) :
    search order xs = none ↔ ∀ x ∈ xs, order x ≠ .eq := by
  constructor
  · intro hnone x hx heq
    obtain ⟨j, hj⟩ := List.mem_iff_getElem?.mp hx
    obtain ⟨left, hleft, h⟩ := (narrowed_whole order xs).narrow ho
    obtain ⟨y, hy, hyeq⟩ := h.exists_eq ho hleft hj heq
    rw [search_eq, hy, Option.filter_some, hyeq] at hnone
    exact absurd hnone (by simp)
  · intro hall
    cases hs : search order xs with
    | none => rfl
    | some x =>
      obtain ⟨hx, heq⟩ := mem_of_search hs
      exact absurd heq (hall x hx)

/-- **In an ordered list bisection finds the wanted element**, if there is no other of its kind. -/
theorem search_eq_some (ho : Ordered order xs) {x : α} (hx : x ∈ xs) (heq : order x = .eq)
    (hunique : ∀ y ∈ xs, order y = .eq → y = x) : search order xs = some x := by
  cases hs : search order xs with
  | none => exact absurd heq ((search_eq_none_iff ho).mp hs x hx)
  | some y =>
    obtain ⟨hy, hyeq⟩ := mem_of_search hs
    rw [hunique y hy hyeq]

end CloudNet.Bisection
