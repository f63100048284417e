import CloudNet.Address.Ipv4
import CloudNet.Address.Mac
import CloudNet.Json.Value

/-!
# Forms

A `Form` says how values of a type stand in JSON: how one is written and what is read as one. The
form of a record is made of `Fields`, each given once with its name, its own form and its place in
the record. A record is written as an object. It is read from an object, in which each field occurs
once and other members do not matter, or from an array of the fields in order.
-/

namespace CloudNet.Json

/-- How values of a type are written and read. -/
structure Form (α : Type) where
  toJson : α → Json
  ofJson? : Json → Option α

namespace Form

variable {α : Type}

/-- Strings. -/
def string : Form String where
  toJson s := .string s
  ofJson?
    | .string s => some s
    | _ => none

/-- Truth values. -/
def bool : Form Bool where
  toJson b := .bool b
  ofJson?
    | .bool b => some b
    | _ => none

/-- Integers from `lo` up to `hi`, as values of another type. -/
def integerBetween (lo hi : Int) (toInt : α → Int) (ofInt : Int → α) : Form α where
  toJson a := .integer (toInt a)
  ofJson?
    | .integer z => if lo ≤ z ∧ z ≤ hi then some (ofInt z) else none
    | _ => none

/-- Positions in lists, which have 64 bits. -/
def position : Form Nat := integerBetween 0 0xFFFFFFFFFFFFFFFF Int.ofNat Int.toNat

/-- Numbers of eight bits. -/
def uint8 : Form UInt8 :=
  integerBetween 0 0xFF (fun n => n.toNat) fun z => UInt8.ofNat z.toNat

/-- Addresses, as numbers. -/
def ipv4 : Form Ipv4 :=
  integerBetween 0 0xFFFFFFFF (fun n => n.toNat) fun z => UInt32.ofNat z.toNat

/-- Hardware addresses, as numbers. -/
def mac : Form Mac :=
  integerBetween 0 0xFFFFFFFFFFFFFFFF (fun m => m.value.toNat) fun z => ⟨UInt64.ofNat z.toNat⟩

/-- Signed numbers of 32 bits. -/
def int32 : Form Int32 := integerBetween (-0x80000000) 0x7FFFFFFF Int32.toInt Int32.ofInt

/-- Lists. -/
def list (form : Form α) : Form (List α) where
  toJson xs := .array (xs.map form.toJson)
  ofJson?
    | .array items => items.mapM form.ofJson?
    | _ => none

/-- Values that may be absent, as null. -/
def optional (form : Form α) : Form (Option α) where
  toJson a := Json.orNull (a.map form.toJson)
  ofJson?
    | .null => some none
    | j => (form.ofJson? j).map some

end Form

/-- What the fields of a record are read from: the members of an object, or the items of an array
that have not been read yet. -/
inductive Source where
  | members (all : List (String × Json))
  | items (left : List Json)

/-- How a field that is missing is read. -/
inductive Missing (α : Type) where
  | refused
  /-- The value stands in for a member that is missing, but not for an item. -/
  | member (value : α)
  /-- The value stands in for whatever is missing. -/
  | anywhere (value : α)

namespace Missing

variable {α : Type}

/-- What stands in for a missing member. -/
def forMember : Missing α → Option α
  | refused => none
  | member a | anywhere a => some a

/-- What stands in for a missing item. -/
def forItem : Missing α → Option α
  | anywhere a => some a
  | _ => none

end Missing

/-- How fields of records of type `σ` are written, and an `α` is read from them. -/
structure Fields (σ α : Type) where
  write : σ → List (String × Json)
  read : Source → Option (α × Source)

namespace Fields

variable {σ α β : Type}

/-- A field, read from what is left of the source. -/
def readField (name : String) (form : Form α) (missing : Missing α) :
    Source → Option (α × Source)
  | .members all =>
    match all.filter fun m => m.1 = name with
    | [] => missing.forMember.map fun a => (a, .members all)
    | [m] => (form.ofJson? m.2).map fun a => (a, .members all)
    | _ => none
  | .items [] => missing.forItem.map fun a => (a, .items [])
  | .items (j :: left) => (form.ofJson? j).map fun a => (a, .items left)

/-- A field with a rule for when it is missing. -/
def fieldOr (missing : Missing α) (name : String) (form : Form α) (get : σ → α) : Fields σ α where
  write s := [(name, form.toJson (get s))]
  read := readField name form missing

/-- A field that has to be there. -/
def field (name : String) (form : Form α) (get : σ → α) : Fields σ α :=
  fieldOr .refused name form get

/-- A field that may be null, and need not be there as a member. -/
def optionalField (name : String) (form : Form α) (get : σ → Option α) : Fields σ (Option α) :=
  fieldOr (.member none) name form.optional get

instance : Functor (Fields σ) where
  map f x :=
    { write := x.write
      read := fun source => (x.read source).map fun (a, rest) => (f a, rest) }

instance : Seq (Fields σ) where
  seq f x :=
    { write := fun s => f.write s ++ (x ()).write s
      read := fun source => do
        let (g, rest) ← f.read source
        let (a, rest) ← (x ()).read rest
        return (g a, rest) }

/-- The form of a record with these fields. -/
def toForm (fields : Fields σ σ) : Form σ where
  toJson s := .object (fields.write s)
  ofJson?
    | .object members => (fields.read (.members members)).map Prod.fst
    | .array items =>
      match fields.read (.items items) with
      | some (s, .items []) => some s
      | _ => none
    | _ => none

end Fields

/-! ## Laws -/

namespace Form

/-- What is written is read back, where reading accepts its number. -/
theorem ofJson?_toJson_integerBetween {α : Type} {lo hi : Int} {toInt : α → Int} {ofInt : Int → α}
    {a : α} (h : lo ≤ toInt a ∧ toInt a ≤ hi) (ha : ofInt (toInt a) = a) :
    (integerBetween lo hi toInt ofInt).ofJson? ((integerBetween lo hi toInt ofInt).toJson a) =
      some a := by
  simp [integerBetween, h, ha]

end Form

end CloudNet.Json
