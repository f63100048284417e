import CloudNet.Json.Token
import CloudNet.Json.Writer
import CloudNet.Proofs.Numerals
import CloudNet.Proofs.Scanning

/-!
# Tokens of a written value

A written value is cut into tokens one after the other, from its end on: what follows is cut already
and does not go on as a number would, since a value is followed by a comma, by a line break or by
nothing.

* `stringUnit_escaped`, `stringBody_escaped`: characters and strings are read back.
* `number_signedDecimal`: so are numbers.
* `cut_prettyChars`: the text of a value is cut into the tokens of the value.
* `tokens?_pretty`: so a text that was written has the tokens of what was written.
-/

namespace CloudNet.Json

open CloudNet.Text CloudNet.Text.Scanner

/-! ## Strings -/

theorem stringUnit_quote (rest : List Char) : stringUnit ('"' :: rest) = some (none, rest) := rfl

/-- The number of a control character is read from its two digits. -/
theorem natural?_hexDigits : ∀ n < 0x20,
    natural? 16 ['0', '0', hexDigit (n / 16), hexDigit (n % 16)] = some n := by
  decide

theorem stringUnit_escape {s rest : List Char} {n : Nat} (h : escape s = some (n, rest)) :
    stringUnit ('\\' :: s) = some (some n, rest) := by
  have hread : stringUnit ('\\' :: s) = (escape >>= fun n => pure (some n)) s := rfl
  rw [hread, bind_of_eq h]
  rfl

theorem escape_digits {a b c d : Char} {n : Nat} (h : natural? 16 [a, b, c, d] = some n)
    (rest : List Char) : escape ('u' :: a :: b :: c :: d :: rest) = some (n, rest) := by
  have hread : escape ('u' :: a :: b :: c :: d :: rest) =
      (liftM (natural? 16 [a, b, c, d]) : Scanner Nat) rest := rfl
  rw [hread, h]
  rfl

/-- **A character that is written is read back**, escaped or not. -/
theorem stringUnit_escaped (c : Char) (rest : List Char) :
    stringUnit (escaped c ++ rest) = some (some c.toNat, rest) := by
  unfold escaped
  split
  · next h => rw [h]; rfl
  split
  · next h => rw [h]; rfl
  split
  · next h => rw [h]; rfl
  split
  · next h => rw [h]; rfl
  split
  · next h => rw [h]; rfl
  split
  · next h => rw [h]; rfl
  split
  · next h => rw [h]; rfl
  next hquote hbackslash _ _ _ _ _ =>
  split
  · next hcontrol =>
    exact stringUnit_escape (escape_digits (natural?_hexDigits _ hcontrol) rest)
  · next hcontrol =>
    have hnext : next ([c] ++ rest) = some (c, rest) := rfl
    unfold stringUnit
    rw [bind_of_eq hnext]
    simp only [hquote, hbackslash, check, Nat.not_lt.1 hcontrol, if_false, decide_true, if_true,
      bind_pure_comp, map_pure]
    rfl

theorem escaped_ne_nil (c : Char) : escaped c ≠ [] := by
  unfold escaped
  split_ifs
  all_goals exact List.cons_ne_nil _ _

/-- Characters make up the text that they are. -/
theorem joinUnits_map_toNat (s : List Char) : joinUnits (s.map Char.toNat) = some s := by
  have hvalid : ∀ c : Char, c.toNat.isValidChar := fun c => c.valid
  have hhigh : ∀ c : Char, isHighSurrogate c.toNat = false := fun c => by
    have hchar := hvalid c
    unfold Nat.isValidChar at hchar
    unfold isHighSurrogate
    simp only [Bool.and_eq_false_iff, decide_eq_false_iff_not]
    omega
  induction s with
  | nil => rfl
  | cons c s ih =>
    cases s with
    | nil => simp [joinUnits, hvalid]
    | cons d s =>
      simp only [List.map_cons] at ih
      simp [joinUnits, hvalid, hhigh, ih]

/-- **A string that is written is read back.** -/
theorem stringBody_escaped (s : String) (rest : List Char) :
    stringBody (s.toList.flatMap escaped ++ '"' :: rest) = some (some s, rest) := by
  have hunits : ∀ cs : List Char, Repeats stringUnit (cs.flatMap escaped ++ '"' :: rest)
      (cs.map Char.toNat) rest := fun cs => by
    induction cs with
    | nil => exact .stop (stringUnit_quote rest)
    | cons c cs ih =>
      rw [List.flatMap_cons, List.append_assoc]
      refine .more (stringUnit_escaped c _) ?_ ih
      have hpos := List.length_pos_iff.2 (escaped_ne_nil c)
      simp only [List.length_append]
      omega
  unfold stringBody
  rw [bind_of_eq (hunits s.toList).many_eq, joinUnits_map_toNat]
  simp only [Option.map_some, String.ofList_toList]
  rfl

/-! ## Numbers -/

/-- The text does not go on as a number would. -/
def Closed (s : List Char) : Prop :=
  ∀ c ∈ s.head?, isDigit c = false ∧ c ≠ '.' ∧ c ≠ 'e' ∧ c ≠ 'E'

theorem closed_nil : Closed [] := fun _ h => by simp at h

theorem closed_cons {c : Char} (h : isDigit c = false ∧ c ≠ '.' ∧ c ≠ 'e' ∧ c ≠ 'E')
    (s : List Char) : Closed (c :: s) := fun d hd => by
  rw [← Option.some.inj hd]
  exact h

theorem wholeDigits_decimal (n : Nat) {rest : List Char} (hrest : Closed rest) :
    wholeDigits ((decimal n).toList ++ rest) = some ((decimal n).toList, rest) := by
  by_cases hn : n = 0
  · subst hn
    rfl
  · obtain ⟨c, cs, hcons⟩ := List.exists_cons_of_ne_nil (decimal_ne_nil n)
    have hfirst := head?_decimal_ne hn
    rw [hcons] at hfirst
    have hzero : tryChar '0' ((decimal n).toList ++ rest) =
        some (false, (decimal n).toList ++ rest) := by
      rw [hcons]
      have hne : ¬ '0' = c := fun h => hfirst (by rw [h]; rfl)
      exact if_neg hne
    unfold wholeDigits
    rw [bind_of_eq hzero]
    exact takeSome_append (decimal_ne_nil n) (fun c => isDigit_of_mem_decimal)
      fun c hc => (hrest c hc).1

theorem fractionAndExponent_of_closed {s : List Char} (h : Closed s) :
    fractionAndExponent s = some (false, s) := by
  cases s with
  | nil => rfl
  | cons c s =>
    obtain ⟨-, hdot, he, hE⟩ := h c rfl
    have hfraction : tryChar '.' (c :: s) = some (false, c :: s) := if_neg (Ne.symm hdot)
    have hpeek : peek? (c :: s) = some (some c, c :: s) := rfl
    unfold fractionAndExponent
    rw [bind_of_eq hfraction]
    simp only [Bool.false_eq_true, if_false]
    rw [bind_of_eq hpeek]
    simp only [Option.some.injEq, he, hE, decide_false, Bool.or_self, Bool.false_eq_true, if_false]
    rfl

/-- **A number that is written is read back.** -/
theorem number_signedDecimal (z : Int) {rest : List Char} (hrest : Closed rest) :
    number ((signedDecimal z).toList ++ rest) = some (.integer z, rest) := by
  rw [toList_signedDecimal]
  have hdigits := wholeDigits_decimal z.natAbs hrest
  have hnatural : (liftM (natural? 10 (decimal z.natAbs).toList) : Scanner Nat) rest =
      some (z.natAbs, rest) := by
    rw [natural?_decimal]
    rfl
  have hinteger := fractionAndExponent_of_closed hrest
  unfold number
  split
  · next hneg =>
    have hsign : tryChar '-' ('-' :: ((decimal z.natAbs).toList ++ rest)) =
      some (true, (decimal z.natAbs).toList ++ rest) := rfl
    rw [List.singleton_append, List.cons_append, bind_of_eq hsign, bind_of_eq hdigits,
      bind_of_eq hnatural, bind_of_eq hinteger]
    have hne : z.natAbs ≠ 0 := by omega
    have hz : -(z.natAbs : Int) = z := by omega
    simp only [hne, hz, decide_false, Bool.and_false, Bool.or_self, Bool.false_eq_true, if_false,
      if_true]
    rfl
  · next hneg =>
    obtain ⟨c, cs, hcons⟩ := List.exists_cons_of_ne_nil (decimal_ne_nil z.natAbs)
    have hsign : tryChar '-' ((decimal z.natAbs).toList ++ rest) =
        some (false, (decimal z.natAbs).toList ++ rest) := by
      have hdigit : isDigit c = true := isDigit_of_mem_decimal (hcons ▸ List.mem_cons_self)
      have hne : ¬ '-' = c := by
        rintro rfl
        exact absurd hdigit (by decide)
      rw [hcons]
      exact if_neg hne
    rw [List.nil_append, bind_of_eq hsign, bind_of_eq hdigits, bind_of_eq hnatural,
      bind_of_eq hinteger]
    have hz : (z.natAbs : Int) = z := by omega
    simp only [hz, Bool.false_and, Bool.or_self, Bool.false_eq_true, if_false]
    rfl

/-! ## Single tokens -/

/-- White space before a token does not matter. -/
theorem token_space {c : Char} (hc : isSpace c = true) (s : List Char) :
    token (c :: s) = token s := by
  have htaken : ∀ t : List Char, takeWhile isSpace t = some (t.takeWhile isSpace,
      t.dropWhile isSpace) := fun t => by
    unfold takeWhile
    rw [List.span_eq_takeWhile_dropWhile]
  unfold token
  rw [bind_of_eq (htaken (c :: s)), bind_of_eq (htaken s), List.dropWhile_cons_of_pos hc]

theorem token_null (rest : List Char) :
    token ("null".toList ++ rest) = some (some (.scalar .null), rest) := rfl

theorem token_bool (b : Bool) (rest : List Char) :
    token ((if b then "true" else "false").toList ++ rest) =
      some (some (.scalar (.bool b)), rest) := by
  cases b <;> rfl

theorem token_string (s : String) (rest : List Char) :
    token (quotedChars s ++ rest) = some (some (.string (some s)), rest) := by
  have hread : token ('"' :: (s.toList.flatMap escaped ++ '"' :: rest)) =
      (stringBody >>= fun text => pure (some (.string text)))
        (s.toList.flatMap escaped ++ '"' :: rest) := rfl
  unfold quotedChars
  rw [List.cons_append, List.cons_append, List.append_assoc, List.singleton_append, hread,
    bind_of_eq (stringBody_escaped s rest)]
  rfl

/-- A text that starts like a number starts with a number. -/
theorem token_of_number {c : Char} (hc : c = '-' ∨ isDigit c = true) {s rest : List Char} {j : Json}
    (h : number (c :: s) = some (j, rest)) : token (c :: s) = some (some (.scalar j), rest) := by
  have hstart : isSpace c = false ∧ (marks.lookup c).isNone ∧ (words.lookup c).isNone ∧
      c ≠ '"' := by
    rcases hc with rfl | hc
    · decide
    · have hdigits : ∀ n < 58, 48 ≤ n → isSpace (Char.ofNat n) = false ∧
          (marks.lookup (Char.ofNat n)).isNone ∧ (words.lookup (Char.ofNat n)).isNone ∧
          Char.ofNat n ≠ '"' := by decide
      obtain ⟨hlo, hhi⟩ := toNat_of_isDigit hc
      have hdigit := hdigits c.toNat (by omega) hlo
      rwa [Char.ofNat_toNat] at hdigit
  obtain ⟨hspace, hmark, hword, hquote⟩ := hstart
  have hskip : takeWhile isSpace ([] ++ c :: s) = some ([], c :: s) :=
    takeWhile_append (by simp) (by simpa using hspace)
  have hpeek : peek? (c :: s) = some (some c, c :: s) := rfl
  unfold token
  rw [← List.nil_append (c :: s), bind_of_eq hskip, bind_of_eq hpeek]
  simp only [Option.isNone_iff_eq_none.1 hmark, Option.isNone_iff_eq_none.1 hword, hquote, if_false]
  rw [bind_of_eq h]
  rfl

theorem token_integer (z : Int) {rest : List Char} (hrest : Closed rest) :
    token ((signedDecimal z).toList ++ rest) = some (some (.scalar (.integer z)), rest) := by
  obtain ⟨c, s, hcons⟩ := List.exists_cons_of_ne_nil (signedDecimal_ne_nil z)
  have hnumber := number_signedDecimal z hrest
  rw [hcons] at hnumber ⊢
  exact token_of_number (mem_signedDecimal (hcons ▸ List.mem_cons_self)) hnumber

/-! ## Tokens of a value -/

mutual

/-- The tokens of a value. -/
def tokens : Json → List Token
  | null | other => [.scalar null]
  | bool b => [.scalar (bool b)]
  | integer z => [.scalar (integer z)]
  | string s => [.string (some s)]
  | array [] => [.leftBracket, .rightBracket]
  | array (j :: rest) => .leftBracket :: (tokens j ++ itemTokens rest ++ [.rightBracket])
  | object [] => [.leftBrace, .rightBrace]
  | object ((name, j) :: rest) =>
    .leftBrace :: .string (some name) :: .colon ::
      (tokens j ++ memberTokens rest ++ [.rightBrace])

/-- The tokens of further items of an array, each after a comma. -/
def itemTokens : List Json → List Token
  | [] => []
  | j :: rest => .comma :: (tokens j ++ itemTokens rest)

/-- The tokens of further members of an object, each after a comma. -/
def memberTokens : List (String × Json) → List Token
  | [] => []
  | (name, j) :: rest => .comma :: .string (some name) :: .colon :: (tokens j ++ memberTokens rest)

end

/-- The text `s` is cut into the tokens `ts`. -/
abbrev Cut (s : List Char) (ts : List Token) : Prop := Repeats token s ts []

namespace Cut

variable {s rest : List Char} {ts : List Token}

theorem space {c : Char} (hc : isSpace c = true) (h : Cut s ts) : Cut (c :: s) ts := by
  cases h with
  | stop h => exact .stop (by rw [token_space hc, h])
  | more h hlength hrest =>
    exact .more (by rw [token_space hc, h]) (Nat.lt_succ_of_lt hlength) hrest

theorem lineBreak (depth : Nat) (h : Cut s ts) : Cut (Json.lineBreak depth ++ s) ts := by
  have hspaces : ∀ n, Cut (List.replicate n ' ' ++ s) ts := fun n => by
    induction n with
    | zero => exact h
    | succ n ih => exact ih.space (by decide)
  exact (hspaces (2 * depth)).space (by decide)

theorem append {part : List Char} {t : Token} (hne : part ≠ [])
    (ht : token (part ++ rest) = some (some t, rest)) (h : Cut rest ts) :
    Cut (part ++ rest) (t :: ts) := by
  refine .more ht ?_ h
  have hpos := List.length_pos_iff.2 hne
  simp only [List.length_append]
  omega

theorem cons {c : Char} {t : Token} (ht : token (c :: rest) = some (some t, rest))
    (h : Cut rest ts) : Cut (c :: rest) (t :: ts) :=
  .more ht (Nat.lt_succ_self _) h

theorem quoted (text : String) (h : Cut rest ts) :
    Cut (quotedChars text ++ rest) (.string (some text) :: ts) :=
  h.append (List.cons_ne_nil _ _) (token_string text rest)

/-- A member of an object begins with its name and a colon. -/
theorem member (name : String) (h : Cut rest ts) :
    Cut (quotedChars name ++ ':' :: ' ' :: rest) (.string (some name) :: .colon :: ts) := by
  have hvalue : Cut (' ' :: rest) ts := h.space (by decide)
  have hcolon : Cut (':' :: ' ' :: rest) (.colon :: ts) := hvalue.cons rfl
  exact hcolon.quoted name

end Cut

theorem closed_lineBreak (depth : Nat) (s : List Char) : Closed (lineBreak depth ++ s) :=
  closed_cons (by decide) _

theorem closed_prettyItems (items : List Json) (depth : Nat) {s : List Char} (hs : Closed s) :
    Closed (prettyItems depth items ++ s) := by
  cases items with
  | nil =>
    unfold prettyItems
    exact hs
  | cons j rest =>
    unfold prettyItems
    exact closed_cons (by decide) _

theorem closed_prettyMembers (members : List (String × Json)) (depth : Nat) {s : List Char}
    (hs : Closed s) : Closed (prettyMembers depth members ++ s) := by
  cases members with
  | nil =>
    unfold prettyMembers
    exact hs
  | cons m rest =>
    unfold prettyMembers
    exact closed_cons (by decide) _

mutual

/-- **The text of a value is cut into the tokens of the value**, if it does not go on like a
number. -/
theorem cut_prettyChars (j : Json) (depth : Nat) {rest : List Char} {ts : List Token}
    (hrest : Closed rest) (h : Cut rest ts) :
    Cut (prettyChars depth j ++ rest) (tokens j ++ ts) := by
  match j with
  | null | other =>
    unfold prettyChars tokens
    exact h.append (by decide) (token_null rest)
  | bool b =>
    unfold prettyChars tokens
    exact h.append (by cases b <;> decide) (token_bool b rest)
  | integer z =>
    unfold prettyChars tokens
    exact h.append (signedDecimal_ne_nil z) (token_integer z hrest)
  | string s =>
    unfold prettyChars tokens
    exact h.quoted s
  | array [] =>
    unfold prettyChars tokens
    exact (h.cons rfl).cons rfl
  | array (j :: items) =>
    unfold prettyChars tokens
    simp only [List.cons_append, List.append_assoc, List.nil_append]
    have hclose : Cut (lineBreak depth ++ ']' :: rest) (.rightBracket :: ts) :=
      (h.cons rfl).lineBreak depth
    have hitems := cut_prettyItems items (depth + 1) (closed_lineBreak depth _) hclose
    have hfirst := cut_prettyChars j (depth + 1)
      (closed_prettyItems items (depth + 1) (closed_lineBreak depth _)) hitems
    exact (hfirst.lineBreak (depth + 1)).cons rfl
  | object [] =>
    unfold prettyChars tokens
    exact (h.cons rfl).cons rfl
  | object ((name, j) :: members) =>
    unfold prettyChars tokens
    simp only [List.cons_append, List.append_assoc, List.nil_append]
    have hclose : Cut (lineBreak depth ++ '\x7d' :: rest) (.rightBrace :: ts) :=
      (h.cons rfl).lineBreak depth
    have hmembers := cut_prettyMembers members (depth + 1) (closed_lineBreak depth _) hclose
    have hfirst := cut_prettyChars j (depth + 1)
      (closed_prettyMembers members (depth + 1) (closed_lineBreak depth _)) hmembers
    exact ((hfirst.member name).lineBreak (depth + 1)).cons rfl

/-- The same for further items. -/
theorem cut_prettyItems (items : List Json) (depth : Nat) {rest : List Char} {ts : List Token}
    (hrest : Closed rest) (h : Cut rest ts) :
    Cut (prettyItems depth items ++ rest) (itemTokens items ++ ts) := by
  match items with
  | [] =>
    unfold prettyItems itemTokens
    exact h
  | j :: items =>
    unfold prettyItems itemTokens
    simp only [List.cons_append, List.append_assoc]
    have hitems := cut_prettyItems items depth hrest h
    have hfirst := cut_prettyChars j depth (closed_prettyItems items depth hrest) hitems
    exact (hfirst.lineBreak depth).cons rfl

/-- The same for further members. -/
theorem cut_prettyMembers (members : List (String × Json)) (depth : Nat) {rest : List Char}
    {ts : List Token} (hrest : Closed rest) (h : Cut rest ts) :
    Cut (prettyMembers depth members ++ rest) (memberTokens members ++ ts) := by
  match members with
  | [] =>
    unfold prettyMembers memberTokens
    exact h
  | (name, j) :: members =>
    unfold prettyMembers memberTokens
    simp only [List.cons_append, List.append_assoc, List.nil_append]
    have hmembers := cut_prettyMembers members depth hrest h
    have hfirst := cut_prettyChars j depth (closed_prettyMembers members depth hrest) hmembers
    exact ((hfirst.member name).lineBreak depth).cons rfl

end

/-- **The tokens of a written value** are those of the value. -/
theorem tokens?_pretty (j : Json) : tokens? (pretty j).toList = some j.tokens := by
  have hcut := cut_prettyChars j 0 closed_nil (.stop rfl)
  rw [List.append_nil, List.append_nil] at hcut
  unfold tokens? readAll pretty
  rw [String.toList_ofList, hcut.many_eq]

end CloudNet.Json
