/-!
# JSON values

Values as far as snapshots need them: numbers are integers. Other values that JSON allows can be
passed over but not read; they are all `other`: numbers with a fraction or an exponent, and strings
or objects with a string that is no text because of an unpaired surrogate.
-/

namespace CloudNet

/-- A JSON value. The members of an object keep their order, and names may occur twice. -/
inductive Json where
  | null
  | bool (value : Bool)
  | integer (value : Int)
  | string (value : String)
  | array (items : List Json)
  | object (members : List (String × Json))
  | other
  deriving Inhabited

namespace Json

/-- A natural number. -/
def natural (n : Nat) : Json := integer n

/-- The value, or null if there is none. -/
def orNull : Option Json → Json
  | some j => j
  | none => null

/-- An object with members whose names may be no text. -/
def ofMembers (members : List (Option String × Json)) : Json :=
  match members.mapM fun (name, value) => name.map fun s => (s, value) with
  | some ms => object ms
  | none => other

end Json

end CloudNet
