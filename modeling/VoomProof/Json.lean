/-!
# JSON values

A JSON value as a parsed document has it, and the ways to look into one. An object is the
list of its fields; a look-up takes the first field with the key. A number is an integer
or, as its bits, a float.
-/

inductive Json where
  | null
  | bool (value : Bool)
  | integer (value : Int)
  | float (bits : UInt64)
  | string (value : String)
  | array (items : List Json)
  | object (fields : List (String × Json))
  deriving Inhabited

namespace Json

def asStr : Json → Option String
  | string value => some value
  | _ => none

def asBool : Json → Option Bool
  | bool value => some value
  | _ => none

def asArray : Json → Option (List Json)
  | array items => some items
  | _ => none

def asObject : Json → Option (List (String × Json))
  | object fields => some fields
  | _ => none

/-- An integer that fits in `bits` bits without a sign. -/
def asUnsigned (bits : Nat) : Json → Option Nat
  | integer value =>
      if 0 ≤ value ∧ value.toNat < 1 <<< bits then some value.toNat else none
  | _ => none

def get (json : Json) (key : String) : Option Json :=
  json.asObject.bind (List.lookup key)

end Json
