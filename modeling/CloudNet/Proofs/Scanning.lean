import CloudNet.Text.Scanner
import Mathlib.Data.List.TakeDrop

/-!
# Scanning known text

What a scanner does with a text that is known in part: runs of characters, and steps that are
repeated until one of them ends the repetition.

* `bind_of_eq`: a scanner goes on with what another one read and left.
* `takeSome_append`: a run ends where the next character is none of its own.
* `Repeats.many_eq`: a chain of steps is what their repetition reads.
-/

namespace CloudNet.Text.Scanner

variable {α β : Type}

/-- **A scanner goes on** with what another one read, on the text that it left. -/
theorem bind_of_eq {x : Scanner α} {s s' : List Char} {a : α} (h : x s = some (a, s'))
    (f : α → Scanner β) : (x >>= f) s = f a s' := by
  have hbind : (x >>= f) s = (x s).bind fun p => f p.1 p.2 := rfl
  rw [hbind, h]
  rfl

/-! ## Runs of characters -/

/-- A run of characters ends where the next character is none of its own. -/
theorem takeWhile_append {p : Char → Bool} {s rest : List Char} (hs : ∀ c ∈ s, p c = true)
    (hrest : ∀ c ∈ rest.head?, p c = false) : takeWhile p (s ++ rest) = some (s, rest) := by
  unfold takeWhile
  rw [List.span_eq_takeWhile_dropWhile, List.takeWhile_append_of_pos hs,
    List.dropWhile_append_of_pos hs]
  cases rest with
  | nil => simp
  | cons c rest => simp [hrest c rfl]

theorem takeSome_append {p : Char → Bool} {s rest : List Char} (hne : s ≠ [])
    (hs : ∀ c ∈ s, p c = true) (hrest : ∀ c ∈ rest.head?, p c = false) :
    takeSome p (s ++ rest) = some (s, rest) := by
  have hcheck : (!s.isEmpty) = true := by simpa using hne
  unfold takeSome
  rw [bind_of_eq (takeWhile_append hs hrest), hcheck]
  rfl

/-! ## Repetition -/

/-- The step reads the values one after the other and then ends, which leaves `rest`. -/
inductive Repeats (step : Scanner (Option α)) : List Char → List α → List Char → Prop where
  | stop {s rest : List Char} (h : step s = some (none, rest)) : Repeats step s [] rest
  | more {s s' rest : List Char} {a : α} {as : List α} (h : step s = some (some a, s'))
    (hlength : s'.length < s.length) (hrest : Repeats step s' as rest) :
    Repeats step s (a :: as) rest

variable {step : Scanner (Option α)} {s rest : List Char} {as : List α}

theorem Repeats.manyWithin_eq (h : Repeats step s as rest) {fuel : List Char}
    (hfuel : s.length ≤ fuel.length) : manyWithin step fuel s = some (as, rest) := by
  induction h generalizing fuel with
  | stop h =>
    cases fuel with
    | nil =>
      unfold manyWithin
      rw [bind_of_eq h]
      rfl
    | cons _ fuel =>
      unfold manyWithin
      rw [bind_of_eq h]
      rfl
  | @more _ left _ _ _ h hlength _ ih =>
    cases fuel with
    | nil =>
      rw [List.length_nil] at hfuel
      omega
    | cons _ fuel =>
      rw [List.length_cons] at hfuel
      have hleft : left.length ≤ fuel.length := by omega
      unfold manyWithin
      rw [bind_of_eq h]
      dsimp only
      rw [bind_of_eq (ih hleft)]
      rfl

/-- **A chain of steps is what their repetition reads.** -/
theorem Repeats.many_eq (h : Repeats step s as rest) : many step s = some (as, rest) :=
  h.manyWithin_eq (Nat.le_refl _)

end CloudNet.Text.Scanner
