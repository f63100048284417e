import CloudNet.Text.Blank
import Mathlib.Data.List.DropRight

/-!
# Words of a text

Texts with blanks between them have the words of each, one text after the other. A text without a
blank is one word.

* `words_append_cons`, `words_joinWith`: the words of texts put together.
* `words_of_no_blank`: a text without a blank is a word.
* `words_trimChars_ne_nil`: a text that is left when blanks are trimmed has a word.
* `trimChars_eq_self`, `trimChars_of_no_blank`: a text with no blank at either end is not trimmed.
* `padded_trimChars`, `Padded.trimChars_eq`: only blanks are trimmed, and those around a text are.
* `cutAt_append`, `cutAt_trimChars`: texts that are cut at a separator.
* `splitOn_joinWith`, `joinWith_splitOn`, `mem_joinWith`: texts that are joined with separators.
-/

namespace CloudNet.Text

/-- **The words around a blank** are those before it and those after it. -/
theorem words_append_cons (s t : List Char) {c : Char} (hc : isBlank c = true) :
    words (s ++ c :: t) = words s ++ words t := by
  unfold words
  rw [List.splitOnP_append_cons _ _ hc, List.filter_append]

/-- **A text without a blank is a word.** -/
theorem words_of_no_blank {s : List Char} (hs : s ≠ []) (h : ∀ c ∈ s, isBlank c = false) :
    words s = [s] := by
  unfold words
  rw [List.splitOnP_eq_singleton h]
  simp [hs]

/-- A word, a space and another word. -/
theorem words_two {s t : List Char} (hs : words s = [s]) (ht : words t = [t]) :
    words (s ++ ' ' :: t) = [s, t] := by
  rw [words_append_cons _ _ (by decide), hs, ht]
  rfl

/-- Whether a text has a blank can be computed. -/
theorem not_isBlank_of_all {s : List Char} (h : s.all (fun c => !isBlank c) = true) :
    ∀ c ∈ s, isBlank c = false := fun c hc => by
  simpa using List.all_eq_true.1 h c hc

/-- **The words of texts with spaces between them** are those of each text in turn. -/
theorem words_joinWith (parts : List String) :
    words (joinWith " " parts).toList = parts.flatMap fun part => words part.toList := by
  unfold joinWith
  rw [String.toList_intercalate]
  induction parts with
  | nil => rfl
  | cons part rest ih =>
    cases rest with
    | nil => simp [List.intercalate]
    | cons next rest =>
      have hjoin : List.intercalate " ".toList ((part :: next :: rest).map String.toList) =
          part.toList ++ ' ' :: List.intercalate " ".toList ((next :: rest).map String.toList) := by
        simp [List.intercalate]
      rw [hjoin, words_append_cons _ _ (by decide), ih]
      rfl

/-- A text that starts with no blank has a word. -/
theorem words_ne_nil_of_head {c : Char} {s : List Char} (hc : isBlank c = false) :
    words (c :: s) ≠ [] := by
  -- the first word ends at the first blank, or at the end of the text
  have hsplit := List.takeWhile_append_dropWhile (p := fun d => !isBlank d) (l := c :: s)
  have hfirst : ∀ d ∈ (c :: s).takeWhile (fun d => !isBlank d), isBlank d = false := fun d hd => by
    simpa using List.mem_takeWhile_imp hd
  have hne : (c :: s).takeWhile (fun d => !isBlank d) ≠ [] := by simp [hc]
  have hrest := List.head?_dropWhile_not (fun d => !isBlank d) (c :: s)
  generalize (c :: s).takeWhile (fun d => !isBlank d) = first at hsplit hfirst hne
  generalize (c :: s).dropWhile (fun d => !isBlank d) = rest at hsplit hrest
  rw [← hsplit]
  cases rest with
  | nil =>
    rw [List.append_nil, words_of_no_blank hne hfirst]
    exact List.cons_ne_nil _ _
  | cons d rest =>
    have hd : isBlank d = true := by simpa using hrest
    rw [words_append_cons _ _ hd, words_of_no_blank hne hfirst]
    exact List.cons_ne_nil _ _

/-- **A text that is left when blanks are trimmed has a word.** -/
theorem words_trimChars_ne_nil {s : List Char} (h : trimChars s ≠ []) :
    words (trimChars s) ≠ [] := by
  obtain ⟨c, rest, hcons⟩ := List.exists_cons_of_ne_nil h
  obtain ⟨dropped, hprefix⟩ : trimChars s <+: trimStart s := List.rdropWhile_prefix _ _
  have hhead := List.head?_dropWhile_not isBlank s
  rw [show s.dropWhile isBlank = trimStart s from rfl, ← hprefix, hcons] at hhead
  rw [hcons]
  exact words_ne_nil_of_head (by simpa using hhead)

/-- **Nothing is trimmed** from a text with no blank at either end. -/
theorem trimChars_eq_self {s : List Char} (hhead : ∀ c ∈ s.head?, isBlank c = false)
    (hlast : ∀ c ∈ s.getLast?, isBlank c = false) : trimChars s = s := by
  have hstart : trimStart s = s := by
    cases s with
    | nil => rfl
    | cons c s => exact trimStart_cons_of_not_blank (hhead c rfl)
  unfold trimChars
  rw [hstart]
  exact List.rdropWhile_eq_self_iff.2 fun hne =>
    ne_true_of_eq_false (hlast _ (List.getLast?_eq_getLast_of_ne_nil hne))

/-- A text without a blank is not trimmed. -/
theorem trimChars_of_no_blank {s : List Char} (h : ∀ c ∈ s, isBlank c = false) :
    trimChars s = s :=
  trimChars_eq_self (fun c hc => h c (List.mem_of_mem_head? hc))
    (fun c hc => h c (List.mem_of_mem_getLast? hc))

/-! ## Blanks around a text -/

/-- The text `s` is `t` with blanks around it. -/
def Padded (t s : List Char) : Prop :=
  ∃ before after, (∀ c ∈ before, isBlank c = true) ∧ (∀ c ∈ after, isBlank c = true) ∧
    s = before ++ t ++ after

theorem Padded.refl (s : List Char) : Padded s s :=
  ⟨[], [], by simp, by simp, by simp⟩

theorem Padded.trans {s t u : List Char} (hts : Padded t s) (hut : Padded u t) : Padded u s := by
  obtain ⟨before, after, hbefore, hafter, rfl⟩ := hts
  obtain ⟨before', after', hbefore', hafter', rfl⟩ := hut
  refine ⟨before ++ before', after' ++ after, ?_, ?_, by simp only [List.append_assoc]⟩
  · exact List.forall_mem_append.mpr ⟨hbefore, hbefore'⟩
  · exact List.forall_mem_append.mpr ⟨hafter', hafter⟩

/-- The characters of the text inside are there. -/
theorem Padded.mem {s t : List Char} (h : Padded t s) {c : Char} (hc : c ∈ t) : c ∈ s := by
  obtain ⟨before, after, -, -, rfl⟩ := h
  exact List.mem_append_left _ (List.mem_append_right _ hc)

theorem Padded.mem_or {s t : List Char} (h : Padded t s) {c : Char} (hc : c ∈ s) :
    c ∈ t ∨ isBlank c = true := by
  obtain ⟨before, after, hbefore, hafter, rfl⟩ := h
  rcases List.mem_append.1 hc with hc | hc
  · rcases List.mem_append.1 hc with hc | hc
    · exact .inr (hbefore c hc)
    · exact .inl hc
  · exact .inr (hafter c hc)

theorem padded_nil_iff {s : List Char} : Padded [] s ↔ ∀ c ∈ s, isBlank c = true := by
  constructor
  · intro h c hc
    exact (h.mem_or hc).resolve_left List.not_mem_nil
  · exact fun h => ⟨s, [], h, fun c hc => absurd hc List.not_mem_nil, by simp⟩

theorem padded_trimStart (s : List Char) : Padded (trimStart s) s := by
  refine ⟨s.takeWhile isBlank, [], fun c hc => List.mem_takeWhile_imp hc, ?_, ?_⟩
  · exact fun c hc => absurd hc List.not_mem_nil
  · rw [List.append_nil]
    exact List.takeWhile_append_dropWhile.symm

theorem padded_trimEnd (s : List Char) : Padded (trimEnd s) s := by
  refine ⟨[], (s.reverse.takeWhile isBlank).reverse, ?_, ?_, ?_⟩
  · exact fun c hc => absurd hc List.not_mem_nil
  · exact fun c hc => List.mem_takeWhile_imp (List.mem_reverse.1 hc)
  · unfold trimEnd
    rw [List.nil_append, ← List.reverse_append, List.takeWhile_append_dropWhile,
      List.reverse_reverse]

/-- **Only blanks are trimmed.** -/
theorem padded_trimChars (s : List Char) : Padded (trimChars s) s :=
  (padded_trimStart s).trans (padded_trimEnd (trimStart s))

theorem trimEnd_append_blanks (s : List Char) {after : List Char}
    (h : ∀ c ∈ after, isBlank c = true) : trimEnd (s ++ after) = trimEnd s := by
  unfold trimEnd
  rw [List.reverse_append,
    List.dropWhile_append_of_pos fun c hc => h c (List.mem_reverse.1 hc)]

/-- **Blanks around a text do not matter** to trimming. -/
theorem Padded.trimChars_eq {s t : List Char} (h : Padded t s) : trimChars s = trimChars t := by
  obtain ⟨before, after, hbefore, hafter, rfl⟩ := h
  have hstart : trimStart (before ++ t ++ after) =
      if (trimStart t).isEmpty then trimStart after else trimStart t ++ after := by
    unfold trimStart
    rw [List.append_assoc, List.dropWhile_append_of_pos hbefore, List.dropWhile_append]
  unfold trimChars
  rw [hstart]
  -- the blanks behind go at once if nothing else is there, and else at the end
  by_cases hnil : trimStart t = []
  · rw [if_pos (List.isEmpty_iff.2 hnil), hnil]
    exact congrArg trimEnd (List.dropWhile_eq_nil_iff.2 hafter)
  · rw [if_neg (mt List.isEmpty_iff.1 hnil)]
    exact trimEnd_append_blanks _ hafter

/-- A text stays in place up to a character that is no blank. -/
theorem trimStart_append_cons (s t : List Char) {c : Char} (hc : isBlank c = false) :
    trimStart (s ++ c :: t) = trimStart s ++ c :: t := by
  unfold trimStart
  rw [List.dropWhile_append]
  split
  · next hnil =>
    rw [List.isEmpty_iff.1 hnil]
    exact trimStart_cons_of_not_blank hc
  · rfl

theorem trimEnd_append_cons (s t : List Char) {c : Char} (hc : isBlank c = false) :
    trimEnd (s ++ c :: t) = s ++ c :: trimEnd t := by
  have h := trimStart_append_cons t.reverse s.reverse hc
  unfold trimStart at h
  unfold trimEnd
  rw [List.reverse_append, List.reverse_cons, List.append_assoc, List.singleton_append, h]
  simp

/-! ## Separators -/

/-- A text is cut at a separator that is the first one. -/
theorem cutAt_append {sep : Char} {s : List Char} (hs : sep ∉ s) (t : List Char) :
    cutAt sep (s ++ sep :: t) = some (s, t) := by
  induction s with
  | nil => simp [cutAt]
  | cons c s ih =>
    rw [List.mem_cons, not_or] at hs
    rw [List.cons_append, cutAt, if_neg (Ne.symm hs.1), ih hs.2]
    rfl

/-- **Trimming a text trims the parts** that it is cut into at a separator. -/
theorem cutAt_trimChars {sep : Char} (hsep : isBlank sep = false) (s : List Char) :
    cutAt sep (trimChars s) = (cutAt sep s).map fun parts => (trimStart parts.1, trimEnd parts.2) := by
  cases hcut : cutAt sep s with
  | none =>
    have hs := cutAt_eq_none_iff.1 hcut
    exact cutAt_eq_none_iff.2 fun hmem => hs ((padded_trimChars s).mem hmem)
  | some parts =>
    obtain ⟨x, y⟩ := parts
    obtain ⟨rfl, hx⟩ := cutAt_eq_some hcut
    have hx' : sep ∉ trimStart x := fun hmem => hx ((List.dropWhile_sublist _).mem hmem)
    unfold trimChars
    rw [trimStart_append_cons x y hsep, trimEnd_append_cons _ y hsep, cutAt_append hx']
    rfl

/-- **Joined texts are split back** at a separator that is in none of them. -/
theorem splitOn_joinWith {sep : Char} {parts : List String} (hne : parts ≠ [])
    (h : ∀ part ∈ parts, sep ∉ part.toList) :
    (joinWith (String.singleton sep) parts).toList.splitOn sep = parts.map String.toList := by
  have hchars : ∀ cs ∈ parts.map String.toList, sep ∉ cs := by
    intro cs hcs
    obtain ⟨part, hpart, rfl⟩ := List.mem_map.mp hcs
    exact h part hpart
  unfold joinWith
  rw [String.toList_intercalate, String.toList_singleton]
  exact List.splitOn_intercalate sep hchars (mt List.map_eq_nil_iff.mp hne)

/-- Between separators there is none. -/
theorem notMem_of_mem_splitOn {sep : Char} {s part : List Char} (h : part ∈ s.splitOn sep) :
    sep ∉ part := by
  induction s generalizing part with
  | nil =>
    rw [List.splitOn_nil, List.mem_singleton] at h
    rw [h]
    exact List.not_mem_nil
  | cons c s ih =>
    obtain ⟨first, rest, hcons⟩ := List.exists_cons_of_ne_nil (List.splitOn_ne_nil sep s)
    rw [List.splitOn_cons_eq_if_modifyHead, hcons] at h
    rw [hcons, List.forall_mem_cons] at ih
    by_cases hc : c = sep
    · rw [if_pos (beq_iff_eq.2 hc)] at h
      rcases List.mem_cons.1 h with rfl | h
      · exact List.not_mem_nil
      · rcases List.mem_cons.1 h with rfl | h
        · exact ih.1
        · exact ih.2 _ h
    · rw [if_neg (by simpa using hc), List.modifyHead_cons] at h
      rcases List.mem_cons.1 h with rfl | h
      · exact List.not_mem_cons_of_ne_of_not_mem (Ne.symm hc) ih.1
      · exact ih.2 _ h

/-- **What is split at a separator can be joined again.** -/
theorem joinWith_splitOn (sep : Char) (s : String) :
    joinWith (String.singleton sep) ((s.toList.splitOn sep).map String.ofList) = s := by
  refine String.toList_inj.1 ?_
  have hid : String.toList ∘ String.ofList = id := funext fun cs => String.toList_ofList
  unfold joinWith
  rw [String.toList_intercalate, String.toList_singleton, List.map_map, hid, List.map_id]
  exact List.intercalate_splitOn sep

/-- Joined texts are the first one and what follows it, which does not depend on it. -/
theorem joinWith_cons (sep part : String) (parts : List String) :
    joinWith sep (part :: parts) =
      part ++ if parts = [] then "" else sep ++ joinWith sep parts := by
  unfold joinWith
  cases parts with
  | nil => simp
  | cons next rest => simp [String.append_assoc]

/-- Joined texts start with the first one. -/
theorem prefix_joinWith_cons (sep part : String) (parts : List String) :
    part.toList <+: (joinWith sep (part :: parts)).toList := by
  rw [joinWith_cons, String.toList_append]
  exact List.prefix_append _ _

/-- The first one of joined texts can be told if the others are known. -/
theorem joinWith_cons_inj {sep part part' : String} {parts : List String}
    (h : joinWith sep (part :: parts) = joinWith sep (part' :: parts)) : part = part' := by
  rwa [joinWith_cons, joinWith_cons, String.append_left_inj] at h

/-- Joined texts are told from those with another one in front by their length. -/
theorem joinWith_ne_joinWith_cons {sep part : String} {parts : List String} (h : part ≠ "") :
    joinWith sep parts ≠ joinWith sep (part :: parts) := by
  intro heq
  have hpart : part.length ≠ 0 := by simpa using h
  have hlength := congrArg String.length heq
  rw [joinWith_cons, String.length_append] at hlength
  split at hlength
  · next hnil =>
    have hzero : (joinWith sep parts).length = 0 := by simp [hnil, joinWith]
    omega
  · rw [String.length_append] at hlength
    omega

/-- The characters of joined texts are those of the texts and of what is between them. -/
theorem mem_joinWith {sep : String} {parts : List String} {c : Char}
    (h : c ∈ (joinWith sep parts).toList) :
    c ∈ sep.toList ∨ ∃ part ∈ parts, c ∈ part.toList := by
  unfold joinWith at h
  rw [String.toList_intercalate] at h
  induction parts with
  | nil => exact absurd h List.not_mem_nil
  | cons part rest ih =>
    cases rest with
    | nil => exact .inr ⟨part, List.mem_cons_self, by simpa [List.intercalate] using h⟩
    | cons next rest =>
      rw [List.map_cons, List.map_cons, List.intercalate_cons_cons, List.append_assoc,
        List.mem_append, List.mem_append] at h
      rcases h with h | h | h
      · exact .inr ⟨part, List.mem_cons_self, h⟩
      · exact .inl h
      · rcases ih h with hsep | ⟨q, hq, hc⟩
        · exact .inl hsep
        · exact .inr ⟨q, List.mem_cons_of_mem _ hq, hc⟩

end CloudNet.Text
