/-!
# Base64 for names

Bytes as text over 64 characters that are safe in file names and web addresses, six bits each and
without padding.
-/

namespace CloudNet.Base64

/-- The 64 characters, in the order of their values. -/
def alphabet : List Char :=
  "ABCDEFGHIJKLMNOPQRSTUVWXYZabcdefghijklmnopqrstuvwxyz0123456789-_".toList

/-- The character of a value below 64. -/
def character (n : Nat) : Char := alphabet.getD n '-'

/-- Three bytes give four characters; one or two at the end give two or three. -/
def encode : List UInt8 → List Char
  | [] => []
  | [x] =>
    let n := x.toNat * 16
    [character (n / 64), character (n % 64)]
  | [x, y] =>
    let n := (x.toNat * 256 + y.toNat) * 4
    [character (n / 4096), character (n / 64 % 64), character (n % 64)]
  | x :: y :: z :: rest =>
    let n := (x.toNat * 256 + y.toNat) * 256 + z.toNat
    character (n / 262144) :: character (n / 4096 % 64) :: character (n / 64 % 64) ::
      character (n % 64) :: encode rest

/-! ## Laws -/

/-- Three bytes give four characters, and what is left at the end is rounded up. -/
theorem length_encode (bytes : List UInt8) : (encode bytes).length = (4 * bytes.length + 2) / 3 := by
  fun_induction encode bytes with
  | case1 => simp
  | case2 x n => simp
  | case3 x y n => simp
  | case4 x y z rest n ih =>
    simp only [List.length_cons, ih]
    omega

/-- The code has nothing but its own characters. -/
theorem exists_of_mem_encode {bytes : List UInt8} {c : Char} (h : c ∈ encode bytes) :
    ∃ n, c = character n := by
  fun_induction encode bytes with
  | case1 => exact absurd h List.not_mem_nil
  | case2 x n => grind
  | case3 x y n => grind
  | case4 x y z rest n ih => grind

/-- Each character takes one byte. -/
theorem utf8Size_character (n : Nat) : (character n).utf8Size = 1 := by
  have halphabet : (alphabet.all fun c => c.utf8Size == 1) = true := by rfl
  unfold character
  rw [List.getD_eq_getElem?_getD]
  cases h : alphabet[n]? with
  | none => rfl
  | some c => exact beq_iff_eq.mp (List.all_eq_true.mp halphabet c (List.mem_of_getElem? h))

end CloudNet.Base64
