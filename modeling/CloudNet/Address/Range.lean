import CloudNet.Notice

/-!
# Address ranges

A list of entries `A-B` or `A` stands for the addresses of all its ranges, in order. An entry
without an end, with its ends in the wrong order or with the loopback address at an end is left
out with a notice; the other entries are not affected (`addresses_expand_cons`). An end that is no
address counts as zero.
-/

namespace CloudNet.Range

/-- The addresses from `first` to `last`, both included. -/
def addresses (first last : Ipv4) : List Ipv4 :=
  (List.range' first.toNat (last.toNat + 1 - first.toNat)).map UInt32.ofNat

/-- The two ends of an entry, without blanks around them; a single address is both its ends. There
are none where nothing follows the hyphen. -/
def ends? (entry : String) : Option (String × String) :=
  let s := entry.toList
  match Text.cutAt '-' s with
  | some (_, []) => none
  | some (first, last) =>
    some (String.ofList (Text.trimChars first), String.ofList (Text.trimChars last))
  | none => some (Text.trim entry, Text.trim entry)

/-- What one entry stands for: its addresses, or the notice of why it is left out. -/
def expandEntry (entry : String) : Except Notice (List Ipv4) :=
  match ends? entry with
  | none => .error (.openRange entry)
  | some (first, last) =>
    let a := Ipv4.ofText first
    let b := Ipv4.ofText last
    if a > b || a == Ipv4.loopback || b == Ipv4.loopback then
      .error (.badRange first last entry)
    else .ok (addresses a b)

/-- The addresses of a list of ranges. -/
structure Expansion where
  addresses : List Ipv4 := []
  /-- Some entry was left out. -/
  rejected : Bool := false
  deriving DecidableEq, Repr

/-- What the entries stand for together. -/
def expand (entries : List String) : Noted Expansion :=
  let outcomes := entries.map expandEntry
  { value :=
      { addresses := outcomes.flatMap fun
          | .ok addresses => addresses
          | .error _ => []
        rejected := outcomes.any fun
          | .ok _ => false
          | .error _ => true }
    notices := outcomes.filterMap fun
      | .ok _ => none
      | .error notice => some notice }

/-! ## Laws -/

/-- No entries, no addresses. -/
@[simp] theorem expand_nil : (expand []).value = {} := rfl

/-- An entry contributes its own addresses and leaves those of the others alone. -/
theorem addresses_expand_cons (entry : String) (entries : List String) :
    (expand (entry :: entries)).value.addresses =
      (match expandEntry entry with
        | .ok addresses => addresses
        | .error _ => []) ++ (expand entries).value.addresses := by
  cases h : expandEntry entry <;> simp [expand, h]

/-- Some entry was left out if and only if one of them has no expansion. -/
theorem rejected_expand_cons (entry : String) (entries : List String) :
    (expand (entry :: entries)).value.rejected =
      ((match expandEntry entry with
        | .ok _ => false
        | .error _ => true) || (expand entries).value.rejected) := by
  cases h : expandEntry entry <;> simp [expand, h]

end CloudNet.Range
