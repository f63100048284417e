/-!
# Scanners

A scanner reads something off the front of a text or fails. The operations here are those that the
readers of documents, snapshots and settings are made of. `many` repeats a scanner; each round takes
at least one character, so the length of the text bounds their number.
-/

namespace CloudNet.Text

/-- Reads an `α` off the front of a text, leaving the rest, or fails. -/
abbrev Scanner (α : Type) := StateT (List Char) Option α

namespace Scanner

variable {α : Type}

/-- Whatever is left, without taking it. -/
def rest : Scanner (List Char) := get

/-- The next character, without taking it. -/
def peek? : Scanner (Option Char) := fun s => some (s.head?, s)

/-- The whole text has been taken. -/
def atEnd : Scanner Bool := fun s => some (s.isEmpty, s)

/-- Go on only if the condition holds. -/
def check (condition : Bool) : Scanner Unit := if condition then pure () else failure

/-- The next character. -/
def next : Scanner Char
  | [] => none
  | c :: s => some (c, s)

/-- The next character, which is `c`. -/
def char (c : Char) : Scanner Unit
  | [] => none
  | d :: s => if c = d then some ((), s) else none

/-- Take the next character if it is `c`, and say so. -/
def tryChar (c : Char) : Scanner Bool
  | [] => some (false, [])
  | d :: s => if c = d then some (true, s) else some (false, d :: s)

/-- The text starts with `word`. -/
def startsWith (word : String) : Scanner Bool := fun s => some (word.toList.isPrefixOf s, s)

/-- Take `word`. -/
def literal (word : String) : Scanner Unit := word.toList.forM char

/-- Take characters as long as they satisfy `p`. -/
def takeWhile (p : Char → Bool) : Scanner (List Char) := fun s => some (s.span p)

/-- Take characters as long as they satisfy `p`, at least one of them. -/
def takeSome (p : Char → Bool) : Scanner (List Char) := do
  let taken ← takeWhile p
  check !taken.isEmpty
  return taken

/-- The text before and from the first occurrence of `stop`. -/
def splitBefore (stop : List Char) : List Char → Option (List Char × List Char)
  | [] => if stop = [] then some ([], []) else none
  | c :: s =>
    if stop.isPrefixOf (c :: s) then some ([], c :: s)
    else (splitBefore stop s).map fun parts => (c :: parts.1, parts.2)

/-- `word` occurs in the text. -/
def occurs (word : String) (s : List Char) : Bool := (splitBefore word.toList s).isSome

/-- Take everything up to the first occurrence of `stop`, and `stop` itself. -/
def through (stop : String) : Scanner (List Char) := do
  let taken ← splitBefore stop.toList
  literal stop
  return taken

/-- Repeat `step` until it answers `none`, at most once for each character of `fuel` before that. -/
def manyWithin (step : Scanner (Option α)) : List Char → Scanner (List α)
  | [] => do
    check (← step).isNone
    return []
  | _ :: fuel => do
    match ← step with
    | none => return []
    | some a => return a :: (← manyWithin step fuel)

/-- Repeat `step`, which takes something each time, until it answers `none`. -/
def many (step : Scanner (Option α)) : Scanner (List α) := fun s => manyWithin step s s

/-- Read the whole text, leaving nothing. -/
def readAll (scanner : Scanner α) (s : List Char) : Option α :=
  match scanner s with
  | some (a, []) => some a
  | _ => none

/-! ## Laws -/

/-- What is read and what is left make up the text. -/
theorem append_of_splitBefore {stop s before rest : List Char}
    (h : splitBefore stop s = some (before, rest)) : before ++ rest = s := by
  induction s generalizing before with
  | nil =>
    simp only [splitBefore] at h
    split at h <;> simp_all
  | cons c s ih =>
    rw [splitBefore] at h
    split at h
    · simp only [Option.some.injEq, Prod.mk.injEq] at h
      obtain ⟨rfl, rfl⟩ := h
      rfl
    · simp only [Option.map_eq_some_iff, Prod.mk.injEq] at h
      obtain ⟨⟨b, r⟩, hb, rfl, rfl⟩ := h
      simp [ih hb]

end Scanner

end CloudNet.Text
