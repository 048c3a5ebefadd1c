import Sidecar.Number.Binary64

/-! # JSON values -/

namespace Sidecar

namespace Json

/-- Numbers are whole, or doubles if they are written with a fraction or an exponent or exceed the
range of 64 bits. -/
inductive Number where
  | whole (value : Int)
  | double (value : Binary64)
deriving DecidableEq, Repr

/-- A whole number is never equal to a double. -/
def Number.same : Number → Number → Bool
  | .whole m, .whole n => m == n
  | .double x, .double y => x.same y
  | _, _ => false

end Json

inductive Json where
  | null
  | bool (value : Bool)
  | number (value : Json.Number)
  | string (value : String)
  | array (items : List Json)
  | object (members : List (String × Json))
deriving Inhabited

namespace Json

mutual

/-- Equality of values; numbers compare as numbers. -/
def same : Json → Json → Bool
  | .null, .null => true
  | .bool a, .bool b => a == b
  | .number a, .number b => a.same b
  | .string a, .string b => a == b
  | .array xs, .array ys => sameItems xs ys
  | .object xs, .object ys => sameMembers xs ys
  | _, _ => false

def sameItems : List Json → List Json → Bool
  | [], [] => true
  | x :: xs, y :: ys => same x y && sameItems xs ys
  | _, _ => false

def sameMembers : List (String × Json) → List (String × Json) → Bool
  | [], [] => true
  | (k, x) :: xs, (l, y) :: ys => k == l && same x y && sameMembers xs ys
  | _, _ => false

end

def whole (n : Int) : Json := .number (.whole n)

def ofStrings (pairs : List (String × String)) : Json :=
  .object (pairs.map fun (k, v) => (k, .string v))

/-- Puts a member at its place in ascending order of names; a repeated name keeps the last value. -/
def insertMember (name : String) (value : α) : List (String × α) → List (String × α)
  | [] => [(name, value)]
  | (k, v) :: rest =>
    if name < k then (name, value) :: (k, v) :: rest
    else if name = k then (name, value) :: rest
    else (k, v) :: insertMember name value rest

/-- Members in ascending order of names, the last of a repeated name winning. -/
def sortMembers (members : List (String × α)) : List (String × α) :=
  members.foldl (fun sorted (k, v) => insertMember k v sorted) []

end Json

end Sidecar
