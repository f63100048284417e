import CloudNet.Notice

/-!
# Checks

A list of checks is run from left to right up to the first demand that does not hold. Remarks never
fail. The outcome is a matter of the demands alone (`value_run_eq_ok_iff`).
-/

namespace CloudNet

/-- One check of a list. -/
inductive Check where
  | remark (notice : Notice)
  /-- Something has to hold; if it does not, the notices are made and the fault is the outcome. -/
  | demand (holds : Bool) (fault : Fault) (notices : List Notice := [])

namespace Check

/-- The check does not stop the run. -/
def passes : Check → Bool
  | remark _ => true
  | demand holds .. => holds

/-- All checks of a list pass. -/
def allPass (checks : List Check) : Bool := checks.all passes

/-- Run checks up to the first one that fails. -/
def run : List Check → Noted (Except Fault Unit)
  | [] => pure (.ok ())
  | remark notice :: rest => do
    Noted.tell notice
    run rest
  | demand true _ _ :: rest => run rest
  | demand false fault notices :: _ => ⟨.error fault, notices⟩

/-- A rule for models has to hold. -/
def require (holds : Bool) (violation : Violation) : Check := demand holds (.invalid violation)

/-- A text has at most `limit` bytes. -/
def lengthAtMost (field : String) (s : String) (limit : Nat) : Check :=
  demand (s.utf8ByteSize ≤ limit) (.tooLong field s.utf8ByteSize limit)

/-- No element satisfies `bad`; the violation names the position of the first that does. -/
def noneWhere {α : Type} (bad : α → Bool) (xs : List α) (violation : Nat → Violation) :
    List Check :=
  match xs.findIdx? bad with
  | none => []
  | some i => [require false (violation i)]

/-- A notice if the condition holds. -/
def remarkIf (condition : Bool) (notice : Notice) : List Check :=
  if condition then [remark notice] else []

/-- The check with one more notice for when it fails. -/
def noting (notice : Notice) : Check → Check
  | remark n => remark n
  | demand holds fault notices => demand holds fault (notices ++ [notice])

/-! ## Laws -/

/-- **A run succeeds exactly if every check passes.** -/
theorem value_run_eq_ok_iff (checks : List Check) :
    (run checks).value = .ok () ↔ ∀ c ∈ checks, c.passes = true := by
  fun_induction run checks with
  | case1 => simp
  | case2 notice rest ih => simpa [passes] using ih
  | case3 fault notices rest ih => simpa [passes] using ih
  | case4 fault notices rest => simp [passes]

@[simp] theorem passes_require (holds : Bool) (v : Violation) :
    (require holds v).passes = holds := rfl

@[simp] theorem passes_lengthAtMost (field s : String) (limit : Nat) :
    (lengthAtMost field s limit).passes = decide (s.utf8ByteSize ≤ limit) := rfl

@[simp] theorem passes_noting (notice : Notice) (c : Check) :
    (noting notice c).passes = c.passes := by
  cases c <;> rfl

/-- The checks of `noneWhere` pass exactly if there is no such element. -/
theorem allPass_noneWhere {α : Type} (bad : α → Bool) (xs : List α) (v : Nat → Violation) :
    allPass (noneWhere bad xs v) = xs.all (!bad ·) := by
  unfold noneWhere
  split
  · next h => simpa [allPass, List.findIdx?_eq_none_iff] using h
  · next i h =>
    obtain ⟨hi, hb, -⟩ := List.findIdx?_eq_some_iff_getElem.1 h
    simp only [allPass, List.all_cons, passes_require, Bool.false_and]
    exact (List.all_eq_false.2 ⟨xs[i], List.getElem_mem hi, by simp [hb]⟩).symm

@[simp] theorem allPass_remarkIf (condition : Bool) (notice : Notice) :
    allPass (remarkIf condition notice) = true := by
  cases condition <;> rfl

@[simp] theorem allPass_append (a b : List Check) :
    allPass (a ++ b) = (allPass a && allPass b) := by
  simp [allPass]

end Check

end CloudNet
