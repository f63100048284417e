/-!
# Bisection

Search in a sorted list by halving the part that can still hold the wanted element. The part is
halved until one element is left, and that one is compared last; so a list out of order, or one
with several matches, still has a definite answer.
-/

namespace CloudNet.Bisection

variable {α : Type}

/-- The position that halving narrows `size` elements from `base` down to. `order` places an
element relative to the wanted one. -/
def narrow (order : α → Ordering) (xs : Array α) (base size : Nat) : Nat :=
  if size ≤ 1 then base
  else
    let half := size / 2
    let mid := base + half
    let base' :=
      match xs[mid]? with
      | some x => if order x == .gt then base else mid
      | none => base
    narrow order xs base' (size - half)
termination_by size
decreasing_by omega

/-- The element that compares equal to the wanted one, as halving finds it. -/
def search (order : α → Ordering) (xs : List α) : Option α :=
  let a := xs.toArray
  (a[narrow order a 0 a.size]?).filter fun x => order x == .eq

/-! ## Laws -/

/-- What is found is an element of the list that compares equal to the wanted one. -/
theorem mem_of_search {order : α → Ordering} {xs : List α} {x : α}
    (h : search order xs = some x) : x ∈ xs ∧ order x = .eq := by
  simp only [search, Option.filter_eq_some_iff, beq_iff_eq] at h
  exact ⟨by simpa using Array.mem_of_getElem? h.1, h.2⟩

end CloudNet.Bisection
