import CloudNet.Json.Form
import CloudNet.Proofs.JsonText
import Mathlib.Algebra.Group.Nat.Defs
import Mathlib.Data.List.Nodup

/-!
# Forms that keep values

A form keeps a value if what is written of it can be written as text, and is read back. The form of
a record keeps the record if the form of each field keeps what is in the field, and no two fields
have one name.

* `Form.keeps_string` to `Form.keeps_optional`: the forms that others are made of.
* `Fields.keeps_start`, `Fields.Keeps.also`: fields one after the other.
* `Fields.Keeps.toForm`: the form of a record.
-/

namespace CloudNet.Json

/-- What is written of the value can be written as text, and is read back. -/
structure Form.Keeps {α : Type} (form : Form α) (a : α) : Prop where
  plain : (form.toJson a).Plain
  reads : form.ofJson? (form.toJson a) = some a

namespace Form

variable {α : Type} {form : Form α}

theorem keeps_string (s : String) : string.Keeps s := ⟨.string s, rfl⟩

theorem keeps_bool (b : Bool) : bool.Keeps b := ⟨.bool b, rfl⟩

theorem keeps_integerBetween {lo hi : Int} {toInt : α → Int} {ofInt : Int → α} {a : α}
    (h : lo ≤ toInt a ∧ toInt a ≤ hi) (ha : ofInt (toInt a) = a) :
    (integerBetween lo hi toInt ofInt).Keeps a :=
  ⟨.integer _, ofJson?_toJson_integerBetween h ha⟩

/-- Positions are kept if they have 64 bits. -/
theorem keeps_position {n : Nat} (h : n < 2 ^ 64) : position.Keeps n := by
  refine keeps_integerBetween ?_ (Int.toNat_natCast n)
  simp only [Int.ofNat_eq_natCast]
  omega

theorem keeps_uint8 (n : UInt8) : uint8.Keeps n := by
  have hlt := n.toNat_lt
  refine keeps_integerBetween (by omega) ?_
  rw [Int.toNat_natCast, UInt8.ofNat_toNat]

theorem keeps_ipv4 (a : Ipv4) : ipv4.Keeps a := by
  have hlt := a.toNat_lt
  refine keeps_integerBetween (by omega) ?_
  rw [Int.toNat_natCast, UInt32.ofNat_toNat]

theorem keeps_mac (m : Mac) : mac.Keeps m := by
  have hlt := m.value.toNat_lt
  refine keeps_integerBetween (by omega) ?_
  rw [Int.toNat_natCast, UInt64.ofNat_toNat]

theorem keeps_int32 (n : Int32) : int32.Keeps n := by
  have hlo := n.le_toInt
  have hhi := n.toInt_lt
  exact keeps_integerBetween (by omega) (Int32.ofInt_toInt n)

theorem keeps_list {as : List α} (h : ∀ a ∈ as, form.Keeps a) : (list form).Keeps as where
  plain := .array fun j hj => by
    obtain ⟨a, ha, rfl⟩ := List.mem_map.1 hj
    exact (h a ha).plain
  reads := by
    have hreads : (as.map form.toJson).mapM form.ofJson? = some as := by
      induction as with
      | nil => rfl
      | cons a as ih =>
        rw [List.map_cons, List.mapM_cons, (h a List.mem_cons_self).reads,
          ih fun b hb => h b (List.mem_cons_of_mem _ hb)]
        rfl
    exact hreads

theorem keeps_strings (ss : List String) : (list string).Keeps ss :=
  keeps_list fun s _ => keeps_string s

theorem keeps_ipv4s (as : List Ipv4) : (list ipv4).Keeps as :=
  keeps_list fun a _ => keeps_ipv4 a

theorem keeps_positions {ns : List Nat} (h : ∀ n ∈ ns, n < 2 ^ 64) : (list position).Keeps ns :=
  keeps_list fun n hn => keeps_position (h n hn)

/-- A value that may be absent is kept if null does not stand for a value. -/
theorem keeps_optional {a : Option α} (h : ∀ x ∈ a, form.Keeps x ∧ form.toJson x ≠ .null) :
    form.optional.Keeps a := by
  cases a with
  | none => exact ⟨.null, rfl⟩
  | some x =>
    obtain ⟨hx, hnull⟩ := h x rfl
    refine ⟨hx.plain, ?_⟩
    have hread : ∀ j : Json, j ≠ .null → form.optional.ofJson? j = (form.ofJson? j).map some :=
      fun j hj => by
        cases j with
        | null => exact absurd rfl hj
        | _ => rfl
    have hwrite : form.optional.toJson (some x) = form.toJson x := rfl
    rw [hwrite, hread _ hnull, hx.reads]
    rfl

theorem keeps_position? {n : Option Nat} (h : ∀ k ∈ n.toList, k < 2 ^ 64) :
    position.optional.Keeps n :=
  keeps_optional fun k hk =>
    ⟨keeps_position (h k (Option.mem_toList.2 hk)), fun hnull => Json.noConfusion hnull⟩

end Form

/-- What is written of the fields can be written as text, under these names, and is read back from
members in which each of the names occurs once. -/
structure Fields.Keeps {σ α : Type} (fields : Fields σ α) (names : List String) (s : σ) (a : α) :
    Prop where
  names_eq : (fields.write s).map Prod.fst = names
  plain : ∀ m ∈ fields.write s, m.2.Plain
  reads : ∀ all : List (String × Json),
    (∀ m ∈ fields.write s, (all.filter fun n => n.1 = m.1) = [m]) →
      fields.read (.members all) = some (a, .members all)

/-- A member whose name is that of no other is the only one of its name. -/
theorem filter_name_eq {members : List (String × Json)} (h : (members.map Prod.fst).Nodup)
    {m : String × Json} (hm : m ∈ members) : (members.filter fun n => n.1 = m.1) = [m] := by
  induction members with
  | nil => exact absurd hm List.not_mem_nil
  | cons first members ih =>
    rw [List.map_cons, List.nodup_cons] at h
    obtain ⟨hfirst, hrest⟩ := h
    rcases List.mem_cons.1 hm with rfl | hm
    · have hnone : (members.filter fun n => n.1 = m.1) = [] := by
        refine List.filter_eq_nil_iff.2 fun n hn => ?_
        have hne : n.1 ≠ m.1 := fun heq => hfirst (heq ▸ List.mem_map_of_mem hn)
        simpa using hne
      rw [List.filter_cons_of_pos (by simp), hnone]
    · have hne : first.1 ≠ m.1 := fun heq => hfirst (heq ▸ List.mem_map_of_mem hm)
      rw [List.filter_cons_of_neg (by simpa using hne), ih hrest hm]

namespace Fields

variable {σ α β : Type} {s : σ} {names names' : List String}

theorem keeps_fieldOr (missing : Missing α) (name : String) {form : Form α} (get : σ → α)
    (h : form.Keeps (get s)) : (fieldOr missing name form get).Keeps [name] s (get s) where
  names_eq := rfl
  plain m hm := by
    rw [List.mem_singleton.1 hm]
    exact h.plain
  reads all hall := by
    have honce := hall _ (List.mem_singleton_self _)
    simp only [fieldOr, readField, honce, h.reads, Option.map_some]

theorem Keeps.map (f : α → β) {x : Fields σ α} {a : α} (h : x.Keeps names s a) :
    (f <$> x).Keeps names s (f a) where
  names_eq := h.names_eq
  plain := h.plain
  reads all hall := by
    have hread : (f <$> x).read (.members all) =
        (x.read (.members all)).map fun r => (f r.1, r.2) := rfl
    rw [hread, h.reads all hall]
    rfl

theorem Keeps.seq {f : Fields σ (α → β)} {g : α → β} (hf : f.Keeps names s g) {x : Fields σ α}
    {a : α} (hx : x.Keeps names' s a) : (f <*> x).Keeps (names ++ names') s (g a) where
  names_eq := by
    have hwrite : (f <*> x).write s = f.write s ++ x.write s := rfl
    rw [hwrite, List.map_append, hf.names_eq, hx.names_eq]
  plain m hm := (List.mem_append.1 hm).elim (hf.plain m) (hx.plain m)
  reads all hall := by
    have hread : (f <*> x).read (.members all) = (f.read (.members all)).bind fun r =>
        (x.read r.2).bind fun r' => some (r.1 r'.1, r'.2) := rfl
    rw [hread, hf.reads all fun m hm => hall m (List.mem_append_left _ hm), Option.bind_some]
    dsimp only
    rw [hx.reads all fun m hm => hall m (List.mem_append_right _ hm)]
    rfl

/-- A record starts with a field. -/
theorem keeps_start (mk : α → β) {missing : Missing α} {name : String} {form : Form α}
    (get : σ → α) (h : form.Keeps (get s)) :
    (mk <$> fieldOr missing name form get).Keeps [name] s (mk (get s)) :=
  (keeps_fieldOr missing name get h).map mk

/-- A record goes on with a field. -/
theorem Keeps.also {f : Fields σ (α → β)} {g : α → β} (hf : f.Keeps names s g)
    {missing : Missing α} {name : String} {form : Form α} (get : σ → α)
    (h : form.Keeps (get s)) :
    (f <*> fieldOr missing name form get).Keeps (names ++ [name]) s (g (get s)) :=
  hf.seq (keeps_fieldOr missing name get h)

/-- **The form of a record keeps it** if its fields do and have names of their own. -/
theorem Keeps.toForm {fields : Fields σ σ} (h : fields.Keeps names s s) (hnames : names.Nodup) :
    fields.toForm.Keeps s where
  plain := .object h.plain
  reads := by
    have honce : ∀ m ∈ fields.write s, ((fields.write s).filter fun n => n.1 = m.1) = [m] :=
      fun m hm => filter_name_eq (h.names_eq ▸ hnames) hm
    have hread : fields.toForm.ofJson? (fields.toForm.toJson s) =
        (fields.read (.members (fields.write s))).map Prod.fst := rfl
    rw [hread, h.reads _ honce]
    rfl

end Fields

end CloudNet.Json
