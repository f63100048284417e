import CloudNet.Model.Network

/-!
# Sorting by tables

Instances can be put in order of name without a search for any position. Their positions are ranked
by name, and a table is filled that has the new position for each former one. Then the instances are
moved out of their slots, and the members of the groups are looked up in the table.

Each access to a list can miss it, and the first one that does ends the sorting. Only the ranking
cannot: it compares positions of the list itself.
-/

namespace CloudNet

/-- An access behind the end of a list. -/
structure Miss where
  /-- The length of the list. -/
  length : Nat
  /-- The position that was asked for. -/
  index : Nat
  deriving DecidableEq, Repr

namespace Table

variable {α : Type}

/-- What stands at a position. -/
def read (xs : List α) (i : Nat) : Except Miss α :=
  match xs[i]? with
  | some x => .ok x
  | none => .error ⟨xs.length, i⟩

/-- The list with another value at a position. -/
def write (xs : List α) (i : Nat) (x : α) : Except Miss (List α) :=
  if i < xs.length then .ok (xs.set i x) else .error ⟨xs.length, i⟩

/-- The table that has for each position the place at which `order` lists it. -/
def places (order : List Nat) : Except Miss (List Nat) :=
  order.zipIdx.foldlM (fun table entry => write table entry.1 entry.2)
    (List.replicate order.length 0)

/-- Move what is in the slots out of them, in the given order. A slot that is empty by then gives
nothing. -/
def moveOut (slots : List (Option α)) : List Nat → Except Miss (List α)
  | [] => .ok []
  | i :: order => do
    let slot ← read slots i
    let moved ← moveOut (slots.set i none) order
    return slot.toList ++ moved

/-! ## Laws -/

theorem read_of_getElem? {xs : List α} {i : Nat} {x : α} (h : xs[i]? = some x) :
    read xs i = .ok x := by
  unfold read
  rw [h]

/-- Only a position outside the list is missed. -/
theorem read_of_le {xs : List α} {i : Nat} (h : xs.length ≤ i) :
    read xs i = .error ⟨xs.length, i⟩ := by
  unfold read
  rw [List.getElem?_eq_none h]

theorem write_of_lt {xs : List α} {i : Nat} (h : i < xs.length) (x : α) :
    write xs i x = .ok (xs.set i x) := if_pos h

end Table

/-- The group with its members looked up in a table of positions. -/
def SecurityGroup.renumbered (g : SecurityGroup) (table : List Nat) :
    Except Miss SecurityGroup := do
  let instances ← g.instances.mapM (Table.read table)
  return { g with instances }

namespace NetworkModel

/-- The positions of the instances in order of name; those of one name stay in order. -/
def rankedPositions (m : NetworkModel) : List (Fin m.instances.length) :=
  (List.finRange m.instances.length).mergeSort fun i j =>
    m.instances[i].name ≤ m.instances[j].name

/-- The model with its instances in order of name and the members of groups looked up in the table
of new positions. -/
def sortByTables (m : NetworkModel) : Except Miss NetworkModel := do
  let order := m.rankedPositions.map Fin.val
  let table ← Table.places order
  let instances ← Table.moveOut (m.instances.map some) order
  let secgroups ← m.secgroups.mapM (·.renumbered table)
  return { m with instances, secgroups, sortedInstances := true }

end NetworkModel

end CloudNet
