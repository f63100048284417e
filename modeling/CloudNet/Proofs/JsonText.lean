import CloudNet.Json.Reader
import CloudNet.Proofs.JsonTokens

/-!
# Reading a written value

The tokens of a value are put together to the value again, whatever is open around it. Only a value
that cannot be written is not read back, and it is written as null.

* `Plain`: the values that are written as they are.
* `Plain.readValue_tokens`: their tokens are put together again.
* `Plain.ofText?_pretty`: so their texts are read back.
-/

namespace CloudNet.Json

/-- The value and all those in it can be written. -/
inductive Plain : Json → Prop where
  | null : Plain null
  | bool (b : Bool) : Plain (bool b)
  | integer (z : Int) : Plain (integer z)
  | string (s : String) : Plain (string s)
  | array {items : List Json} (h : ∀ j ∈ items, Plain j) : Plain (array items)
  | object {members : List (String × Json)} (h : ∀ m ∈ members, Plain m.2) : Plain (object members)

/-- The tokens of the value are put together to it, whatever is open around it and follows it. -/
def ReadsBack (j : Json) : Prop :=
  ∀ stack ts, readValue stack (j.tokens ++ ts) = readAfter stack j ts

/-- No value begins with the end of an array. -/
theorem head?_tokens_append (j : Json) (ts : List Token) :
    (j.tokens ++ ts).head? ≠ some .rightBracket := by
  match j with
  | null | other | bool _ | integer _ | string _ => simp [tokens]
  | array [] | array (_ :: _) | object [] | object (_ :: _) => simp [tokens]

/-- The further items of an array are put together with those before them. -/
theorem readAfter_itemTokens {items : List Json} (h : ∀ j ∈ items, ReadsBack j)
    (before : List Json) (outer : List Frame) (j : Json) (ts : List Token) :
    readAfter (.items before :: outer) j (itemTokens items ++ .rightBracket :: ts) =
      readAfter outer (.array (before.reverse ++ j :: items)) ts := by
  induction items generalizing before j with
  | nil =>
    simp only [itemTokens, List.nil_append, readAfter, List.reverse_cons]
  | cons next items ih =>
    simp only [itemTokens, List.cons_append, List.append_assoc, readAfter]
    rw [h next List.mem_cons_self, ih fun j hj => h j (List.mem_cons_of_mem _ hj)]
    simp only [List.reverse_cons, List.append_assoc, List.singleton_append]

/-- Members whose names are texts make up an object. -/
theorem ofMembers_map_some (members : List (String × Json)) :
    ofMembers (members.map fun m => (some m.1, m.2)) = .object members := by
  have hall : (members.map fun m => (some m.1, m.2)).mapM
      (fun m => m.1.map fun s => (s, m.2)) = some members := by
    induction members with
    | nil => rfl
    | cons m members ih => rw [List.map_cons, List.mapM_cons, ih]; rfl
  unfold ofMembers
  split
  · next found hfound => rw [Option.some.inj (hfound.symm.trans hall)]
  · next hnone => exact absurd (hnone.symm.trans hall) (by simp)

/-- The further members of an object are put together with those before them. -/
theorem readAfter_memberTokens {members : List (String × Json)}
    (h : ∀ m ∈ members, ReadsBack m.2) (before : List (String × Json)) (outer : List Frame)
    (name : String) (j : Json) (ts : List Token) :
    readAfter (.members (before.map fun m => (some m.1, m.2)) (some name) :: outer) j
        (memberTokens members ++ .rightBrace :: ts) =
      readAfter outer (.object (before.reverse ++ (name, j) :: members)) ts := by
  induction members generalizing before name j with
  | nil =>
    have hmembers : ofMembers (((some name, j) :: before.map fun m => (some m.1, m.2)).reverse) =
        .object (before.reverse ++ [(name, j)]) := by
      rw [← ofMembers_map_some, List.map_append, List.map_reverse, List.reverse_cons]
      rfl
    simp only [memberTokens, List.nil_append, readAfter, hmembers]
  | cons next members ih =>
    obtain ⟨nextName, nextJson⟩ := next
    simp only [memberTokens, List.cons_append, List.append_assoc, readAfter]
    rw [h _ List.mem_cons_self]
    have hrest := ih (fun m hm => h m (List.mem_cons_of_mem _ hm)) ((name, j) :: before) nextName
      nextJson
    rw [List.reverse_cons, List.append_assoc, List.singleton_append] at hrest
    exact hrest

theorem Plain.readsBack {j : Json} (h : j.Plain) : ReadsBack j := by
  induction h with
  | null => exact fun _ _ => rfl
  | bool b => exact fun _ _ => rfl
  | integer z => exact fun _ _ => rfl
  | string s => exact fun _ _ => rfl
  | @array items h ih =>
    intro stack ts
    cases items with
    | nil => simp only [tokens, List.cons_append, List.nil_append, readValue]
    | cons first items =>
      have hopen := head?_tokens_append first (itemTokens items ++ .rightBracket :: ts)
      simp only [tokens, List.cons_append, List.append_assoc, List.nil_append]
      rw [readValue, ih first List.mem_cons_self,
        readAfter_itemTokens fun j hj => ih j (List.mem_cons_of_mem _ hj)]
      · rfl
      · intro rest heq
        rw [heq] at hopen
        exact hopen rfl
  | @object members h ih =>
    intro stack ts
    cases members with
    | nil => simp only [tokens, List.cons_append, List.nil_append, readValue]
    | cons first members =>
      obtain ⟨name, j⟩ := first
      simp only [tokens, List.cons_append, List.append_assoc, List.nil_append]
      rw [readValue, ih _ List.mem_cons_self]
      exact readAfter_memberTokens (fun m hm => ih m (List.mem_cons_of_mem _ hm)) [] stack name j ts

/-- **The text of a value is read back.** -/
theorem Plain.ofText?_pretty {j : Json} (h : j.Plain) : ofText? (pretty j) = some j := by
  unfold ofText?
  rw [tokens?_pretty]
  have hread := h.readsBack [] []
  rw [List.append_nil] at hread
  exact hread

end CloudNet.Json
